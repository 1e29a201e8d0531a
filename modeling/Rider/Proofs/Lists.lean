import Mathlib.Data.List.Forall2
import Mathlib.Data.List.Induction
import Mathlib.Data.List.Nodup

set_option autoImplicit false

namespace Rider

variable {α β : Type}

theorem filterMap_singleton (f : α → Option β) (a : α) : [a].filterMap f = (f a).toList := by
  cases h : f a <;> simp [h]

theorem filterMap_concat_of_none {f : α → Option β} {xs : List α} {a : α} (h : f a = none) :
    (xs ++ [a]).filterMap f = xs.filterMap f := by
  rw [List.filterMap_append, List.filterMap_cons_none h, List.filterMap_nil, List.append_nil]

theorem flatMap_concat_of_nil {f : α → List β} {xs : List α} {a : α} (h : f a = []) :
    (xs ++ [a]).flatMap f = xs.flatMap f := by
  rw [List.flatMap_append, List.flatMap_singleton, h, List.append_nil]

theorem getElem?_past (xs ys : List α) (x : α) : (xs ++ x :: ys)[xs.length]? = some x := by
  rw [List.getElem?_append_right (Nat.le_refl _), Nat.sub_self, List.getElem?_cons_zero]

theorem drop_past (xs ys : List α) (x : α) : (xs ++ x :: ys).drop (xs.length + 1) = ys := by
  rw [← List.drop_drop, List.drop_left, List.drop_one, List.tail_cons]

theorem drop_behind (xs : List α) (x y : α) (ys : List α) {k : Nat} (h : xs.length < k) :
    (xs ++ x :: ys).drop k = (xs ++ y :: ys).drop k := by
  obtain ⟨j, rfl⟩ := Nat.exists_eq_add_of_lt h
  rw [Nat.add_assoc, List.drop_length_add_append, List.drop_length_add_append]
  rfl

theorem exists_last_four {xs : List α} (h : 4 ≤ xs.length) : ∃ front a b c d, xs = front ++ [a, b, c, d] := by
  obtain ⟨a, b, c, d, hlast⟩ : ∃ a b c d, xs.drop (xs.length - 4) = [a, b, c, d] := by
    have hlen : (xs.drop (xs.length - 4)).length = 4 := by
      rw [List.length_drop]
      omega
    generalize xs.drop (xs.length - 4) = last at hlen
    obtain _ | ⟨a, _ | ⟨b, _ | ⟨c, _ | ⟨d, _ | ⟨e, more⟩⟩⟩⟩⟩ := last
    · simp at hlen
    · simp at hlen
    · simp at hlen
    · simp at hlen
    · exact ⟨a, b, c, d, rfl⟩
    · simp at hlen
  exact ⟨xs.take (xs.length - 4), a, b, c, d, by rw [← hlast, List.take_append_drop]⟩

theorem add_length_cons (n : Nat) (x : α) (xs : List α) :
    n + (x :: xs).length = n + 1 + xs.length := by
  rw [List.length_cons, Nat.add_assoc, Nat.add_comm 1]

theorem range'_split {first middle last : Nat} (hfirst : first ≤ middle) (hlast : middle ≤ last) :
    List.range' first (last + 1 - first) =
      List.range' first (middle - first) ++ middle :: List.range' (middle + 1) (last - middle) := by
  have hcount : last + 1 - first = (middle - first) + (last - middle + 1) := by omega
  have hmiddle : first + (middle - first) = middle := by omega
  rw [hcount, ← List.range'_append_1, hmiddle, List.range'_succ]

/-- Of a list in which something occurs twice, the first member that occurred before. -/
theorem exists_first_repeated {f : α → β} {xs : List α} (h : ¬ (xs.map f).Nodup) :
    ∃ front x y back, xs = front ++ y :: back ∧ (front.map f).Nodup ∧ x ∈ front ∧ f x = f y := by
  induction xs using List.reverseRecOn with
  | nil => exact absurd List.nodup_nil h
  | append_singleton xs y ih =>
    by_cases hxs : (xs.map f).Nodup
    · have hmem : f y ∈ xs.map f := by
        by_contra hnew
        rw [List.map_append, List.map_singleton, ← List.concat_eq_append] at h
        exact h (hxs.concat hnew)
      obtain ⟨x, hx, hfx⟩ := List.mem_map.1 hmem
      exact ⟨xs, x, y, [], rfl, hxs, hx, hfx⟩
    · obtain ⟨front, x, z, back, rfl, hfront, hx, hfx⟩ := ih hxs
      exact ⟨front, x, z, back ++ [y], by rw [List.append_assoc, List.cons_append], hfront, hx, hfx⟩

section Cut

-- Where a list is cut, if what stands there cannot stand before it.

/-- The first place of a member behind others of one kind, told by the head of the list. -/
theorem exists_cut_cons {p : α → Prop} {q : Prop} {x y : α} {xs : List α} :
    (∃ before after, x :: xs = before ++ y :: after ∧ (∀ b ∈ before, p b) ∧ q) ↔
      x = y ∧ q ∨ p x ∧ ∃ before after, xs = before ++ y :: after ∧ (∀ b ∈ before, p b) ∧ q := by
  constructor
  · rintro ⟨_ | ⟨b, before⟩, after, hcut, hbefore, hq⟩
    · exact .inl ⟨(List.cons.inj hcut).1, hq⟩
    · obtain ⟨rfl, hxs⟩ := List.cons.inj hcut
      obtain ⟨hx, hbefore⟩ := List.forall_mem_cons.1 hbefore
      exact .inr ⟨hx, before, after, hxs, hbefore, hq⟩
  · rintro (⟨rfl, hq⟩ | ⟨hx, before, after, rfl, hbefore, hq⟩)
    · exact ⟨[], xs, rfl, List.forall_mem_nil _, hq⟩
    · exact ⟨x :: before, after, rfl, List.forall_mem_cons.2 ⟨hx, hbefore⟩, hq⟩

theorem append_cons_inj {a : α} {xs ys us vs : List α} (hxs : a ∉ xs) (hys : a ∉ ys)
    (h : xs ++ a :: us = ys ++ a :: vs) : xs = ys ∧ us = vs := by
  induction xs generalizing ys with
  | nil =>
    cases ys with
    | nil => exact ⟨rfl, (List.cons.inj h).2⟩
    | cons y ys => exact absurd ((List.cons.inj h).1 ▸ List.mem_cons_self) hys
  | cons x xs ih =>
    cases ys with
    | nil => exact absurd ((List.cons.inj h).1 ▸ List.mem_cons_self) hxs
    | cons y ys =>
      obtain ⟨hxy, hrest⟩ := List.cons.inj h
      obtain ⟨hxs, hus⟩ := ih (mt (List.mem_cons_of_mem x) hxs) (mt (List.mem_cons_of_mem y) hys) hrest
      exact ⟨congrArg₂ List.cons hxy hxs, hus⟩

/-- A run of one kind ends where something else follows. -/
theorem append_inj_of_run {p : α → Prop} {xs ys us vs : List α} (hxs : ∀ x ∈ xs, p x)
    (hys : ∀ y ∈ ys, p y) (hus : ∀ u ∈ us.head?, ¬ p u) (hvs : ∀ v ∈ vs.head?, ¬ p v)
    (h : xs ++ us = ys ++ vs) : xs = ys ∧ us = vs := by
  rcases List.append_eq_append_iff.1 h with ⟨more, rfl, rfl⟩ | ⟨more, rfl, rfl⟩
  · cases more with
    | nil => exact ⟨(List.append_nil _).symm, rfl⟩
    | cons m more => exact absurd (hys m (by simp)) (hus m rfl)
  · cases more with
    | nil => exact ⟨List.append_nil _, rfl⟩
    | cons m more => exact absurd (hxs m (by simp)) (hvs m rfl)

end Cut

section Related

-- Lists of which the members are related one by one.

variable {R : α → β → Prop} {xs zs : List α} {ys : List β}

theorem exists_of_forall₂ (h : List.Forall₂ R xs ys) : ∀ x ∈ xs, ∃ y ∈ ys, R x y := by
  induction h with
  | nil => exact List.forall_mem_nil _
  | @cons x y xs ys hxy _ ih =>
    refine List.forall_mem_cons.2 ⟨⟨y, List.mem_cons_self, hxy⟩, ?_⟩
    intro z hz
    obtain ⟨w, hw, hzw⟩ := ih z hz
    exact ⟨w, List.mem_cons_of_mem y hw, hzw⟩

theorem map_eq_of_forall₂ {γ : Type} {f : α → γ} {g : β → γ} (hfg : ∀ x y, R x y → f x = g y)
    (h : List.Forall₂ R xs ys) : xs.map f = ys.map g := by
  induction h with
  | nil => rfl
  | cons hxy _ ih => rw [List.map_cons, List.map_cons, hfg _ _ hxy, ih]

theorem forall₂_append (h : List.Forall₂ R (xs ++ zs) ys) :
    ∃ us vs, ys = us ++ vs ∧ List.Forall₂ R xs us ∧ List.Forall₂ R zs vs :=
  ⟨ys.take xs.length, ys.drop xs.length, (List.take_append_drop _ _).symm,
    (List.forall₂_take_append ys xs zs h.flip).flip, (List.forall₂_drop_append ys xs zs h.flip).flip⟩

theorem forall₂_filterMap (f : α → Option β) (as : List α) :
    List.Forall₂ (fun b a => f a = some b) (as.filterMap f) (as.filter fun a => (f a).isSome) := by
  induction as with
  | nil => exact .nil
  | cons a as ih =>
    cases h : f a with
    | none => simpa [h] using ih
    | some b => simpa [h] using ih

theorem sublistForall₂_of_sublist (h : List.Forall₂ R xs ys) (hzs : zs.Sublist xs) :
    List.SublistForall₂ R zs ys := by
  induction hzs generalizing ys with
  | slnil => exact .nil
  | cons _ _ ih =>
    cases h with
    | cons _ h => exact .cons_right (ih h)
  | cons_cons _ _ ih =>
    cases h with
    | cons hr h => exact .cons hr (ih h)

theorem rel_getElem? {R : α → α → Prop} {xs ys : List α} (h : List.Forall₂ R xs ys) (i : Nat) :
    Option.Rel R xs[i]? ys[i]? := by
  induction h generalizing i with
  | nil => exact .none
  | cons hx _ ih =>
    cases i with
    | zero => exact .some hx
    | succ i => exact ih i

theorem isEmpty_of_forall₂ (h : List.Forall₂ R xs ys) : xs.isEmpty = ys.isEmpty := by
  cases h <;> rfl

end Related

section Results

variable {ε : Type} {r : Except ε α} {f : α → β}

theorem map_eq_ok {b : β} : r.map f = .ok b ↔ ∃ a, r = .ok a ∧ f a = b := by
  cases r with
  | error e => simp [Except.map]
  | ok a => simp [Except.map]

theorem map_eq_error {e : ε} : r.map f = .error e ↔ r = .error e := by
  cases r with
  | error e' => simp [Except.map]
  | ok a => simp [Except.map]

end Results

end Rider
