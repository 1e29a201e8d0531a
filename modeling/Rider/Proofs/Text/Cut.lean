import Rider.Text.Lines

set_option autoImplicit false

namespace Rider.Text

theorem occurs_iff {part s : List Char} : occurs part s = true ↔ part <:+: s := by
  unfold occurs
  induction s with
  | nil =>
    rw [after?, List.infix_nil, ← List.isEmpty_iff]
    cases part.isEmpty <;> simp
  | cons c rest ih =>
    rw [List.infix_cons_iff, ← ih, after?, ← List.isPrefixOf_iff_prefix]
    cases part.isPrefixOf (c :: rest) <;> simp

theorem after?_eq_none_iff {part s : List Char} : after? part s = none ↔ ¬part <:+: s := by
  rw [← occurs_iff, occurs, Option.not_isSome_iff_eq_none]

/-- A marker behind the text `before` has no earlier occurrence. -/
def FirstBehind (marker before : List Char) : Prop :=
  ∀ i < before.length, ¬marker <+: (before ++ marker).drop i

instance (marker before : List Char) : Decidable (FirstBehind marker before) :=
  inferInstanceAs (Decidable (∀ i < before.length, ¬marker <+: (before ++ marker).drop i))

theorem firstBehind_nil (marker : List Char) : FirstBehind marker [] :=
  fun _ hi => absurd hi (Nat.not_lt_zero _)

theorem firstBehind_cons {marker before : List Char} {c : Char} :
    FirstBehind marker (c :: before) ↔
      ¬marker <+: c :: (before ++ marker) ∧ FirstBehind marker before := by
  constructor
  · intro h
    refine ⟨h 0 (Nat.succ_pos _), fun i hi => ?_⟩
    exact h (i + 1) (Nat.succ_lt_succ hi)
  · rintro ⟨hfirst, hlater⟩ i hi
    cases i with
    | zero => exact hfirst
    | succ i => exact hlater i (Nat.lt_of_succ_lt_succ hi)

/-- What stands after the marker stands after its first occurrence. -/
theorem after?_eq_some_iff {marker s rest : List Char} :
    after? marker s = some rest ↔
      ∃ before, s = before ++ marker ++ rest ∧ FirstBehind marker before := by
  induction s with
  | nil =>
    rw [after?]
    constructor
    · intro h
      split at h
      · rename_i hnil
        obtain rfl := Option.some.inj h
        exact ⟨[], by simpa using hnil, firstBehind_nil marker⟩
      · contradiction
    · rintro ⟨before, hs, -⟩
      obtain ⟨hbefore, rfl⟩ := List.append_eq_nil_iff.1 hs.symm
      obtain ⟨-, rfl⟩ := List.append_eq_nil_iff.1 hbefore
      rfl
  | cons c s ih =>
    rw [after?]
    split
    · rename_i hmarker
      have hprefix := List.isPrefixOf_iff_prefix.1 hmarker
      constructor
      · intro h
        obtain rfl := Option.some.inj h
        exact ⟨[], (List.prefix_iff_eq_append.1 hprefix).symm, firstBehind_nil marker⟩
      · rintro ⟨_ | ⟨b, before⟩, hs, hfirst⟩
        · rw [List.nil_append] at hs
          rw [hs, List.drop_left]
        · obtain ⟨rfl, rfl⟩ := List.cons.inj hs
          refine absurd ?_ (firstBehind_cons.1 hfirst).1
          refine List.prefix_of_prefix_length_le hprefix ⟨rest, rfl⟩ ?_
          simp only [List.length_cons, List.length_append]
          omega
    · rename_i hmarker
      have hprefix := mt List.isPrefixOf_iff_prefix.2 hmarker
      rw [ih]
      constructor
      · rintro ⟨before, rfl, hfirst⟩
        refine ⟨c :: before, rfl, firstBehind_cons.2 ⟨?_, hfirst⟩⟩
        intro h
        exact hprefix (h.trans ⟨rest, rfl⟩)
      · rintro ⟨_ | ⟨b, before⟩, hs, hfirst⟩
        · exact absurd ⟨rest, hs.symm⟩ hprefix
        · obtain ⟨rfl, rfl⟩ := List.cons.inj hs
          exact ⟨before, rfl, (firstBehind_cons.1 hfirst).2⟩

theorem cutAt?_eq_some_iff {sep : Char} {s before after : List Char} :
    cutAt? sep s = some (before, after) ↔ s = before ++ sep :: after ∧ sep ∉ before := by
  induction s generalizing before with
  | nil => simp [cutAt?]
  | cons c s ih =>
    rw [cutAt?]
    by_cases hc : c = sep
    · rw [if_pos hc]
      constructor
      · intro h
        obtain ⟨rfl, rfl⟩ := Prod.mk.inj (Option.some.inj h)
        exact ⟨by rw [hc, List.nil_append], List.not_mem_nil⟩
      · rintro ⟨hs, hsep⟩
        cases before with
        | nil => rw [(List.cons.inj hs).2]
        | cons b before =>
          rw [← hc, (List.cons.inj hs).1] at hsep
          exact absurd List.mem_cons_self hsep
    · rw [if_neg hc, Option.map_eq_some_iff]
      constructor
      · rintro ⟨⟨x, y⟩, hcut, hxy⟩
        obtain ⟨rfl, rfl⟩ := Prod.mk.inj hxy
        obtain ⟨rfl, hsep⟩ := ih.1 hcut
        exact ⟨rfl, List.not_mem_cons_of_ne_of_not_mem (Ne.symm hc) hsep⟩
      · rintro ⟨hs, hsep⟩
        cases before with
        | nil => exact absurd (List.cons.inj hs).1 hc
        | cons b before =>
          obtain ⟨rfl, hrest⟩ := List.cons.inj hs
          exact ⟨(before, after), ih.2 ⟨hrest, fun h => hsep (List.mem_cons_of_mem _ h)⟩, rfl⟩

end Rider.Text
