import Mathlib.Data.Fintype.Basic
import Mathlib.Tactic.FinCases
import Rider.Json.Print
import Rider.Proofs.Json.Number
import Rider.Report

set_option autoImplicit false

/-!
A layout of data that is laid out over several lines tells all data apart. Each value is told from what is
written behind it, so two texts that begin with values and agree have the same values and the same rest.
-/

namespace Rider.Json

section Literal

def readEscape : List Char → Option (Char × List Char)
  | 'u' :: '0' :: '0' :: a :: b :: rest =>
    (Text.digitsValue? 16 0 [a, b]).map fun n => (Char.ofNat n, rest)
  | 'b' :: rest => some ('\x08', rest)
  | 'f' :: rest => some ('\x0c', rest)
  | 'n' :: rest => some ('\n', rest)
  | 'r' :: rest => some ('\r', rest)
  | 't' :: rest => some ('\t', rest)
  | c :: rest => some (c, rest)
  | [] => none

def readChar : List Char → Option (Char × List Char)
  | '"' :: _ => none
  | '\\' :: rest => readEscape rest
  | c :: rest => some (c, rest)
  | [] => none

theorem readChar_control (n : Fin 32) (rest : List Char) :
    readChar (escapedChar (Char.ofNat n) ++ rest) = some (Char.ofNat n, rest) := by
  fin_cases n <;> rfl

theorem escapedChar_of_visible {c : Char} (h : 32 ≤ c.toNat) (hquote : c ≠ '"') (hslash : c ≠ '\\') :
    escapedChar c = [c] := by
  unfold escapedChar
  split
  · exact absurd rfl hquote
  · exact absurd rfl hslash
  · exact absurd h (by decide)
  · exact absurd h (by decide)
  · exact absurd h (by decide)
  · exact absurd h (by decide)
  · exact absurd h (by decide)
  · rw [if_neg (by omega), if_neg (by omega)]

theorem readChar_escapedChar (c : Char) (rest : List Char) :
    readChar (escapedChar c ++ rest) = some (c, rest) := by
  by_cases hc : c.toNat < 32
  · have hcontrol := readChar_control ⟨c.toNat, hc⟩ rest
    rwa [Char.ofNat_toNat] at hcontrol
  · by_cases hquote : c = '"'
    · rw [hquote]
      rfl
    · by_cases hslash : c = '\\'
      · rw [hslash]
        rfl
      · rw [escapedChar_of_visible (by omega) hquote hslash, List.singleton_append, readChar]
        · exact hquote
        · exact hslash

theorem escaped_append_inj {s t x y : List Char}
    (h : s.flatMap escapedChar ++ '"' :: x = t.flatMap escapedChar ++ '"' :: y) : s = t ∧ x = y := by
  induction s generalizing t with
  | nil =>
    cases t with
    | nil => exact ⟨rfl, (List.cons.inj h).2⟩
    | cons c t =>
      have hread := congrArg readChar h
      rw [List.flatMap_cons, List.append_assoc, readChar_escapedChar] at hread
      exact absurd hread nofun
  | cons c s ih =>
    have hread := congrArg readChar h
    rw [List.flatMap_cons, List.append_assoc, readChar_escapedChar] at hread
    cases t with
    | nil => exact absurd hread nofun
    | cons d t =>
      rw [List.flatMap_cons, List.append_assoc, readChar_escapedChar] at hread
      obtain ⟨rfl, hrest⟩ := Prod.mk.inj (Option.some.inj hread)
      obtain ⟨rfl, hxy⟩ := ih hrest
      exact ⟨rfl, hxy⟩

theorem literal_append_inj {s t : String} {x y : List Char}
    (h : (literal s).toList ++ x = (literal t).toList ++ y) : s = t ∧ x = y := by
  unfold literal at h
  simp only [String.toList_ofList, List.cons_append, List.append_assoc, List.nil_append,
    List.cons.injEq, true_and] at h
  obtain ⟨hst, hxy⟩ := escaped_append_inj h
  exact ⟨String.toList_inj.1 hst, hxy⟩

end Literal

section Value

def Follows (x : List Char) : Prop := ∀ c ∈ x.head?, ¬ IsNumberChar c

theorem follows_cons {c : Char} {x : List Char} (h : ¬ IsNumberChar c) : Follows (c :: x) := by
  rintro d hd
  obtain rfl := Option.some.inj hd
  exact h

def kind : Json → Nat
  | .null => 0
  | .bool _ => 1
  | .number _ => 2
  | .text _ => 3
  | .list _ => 4
  | .object _ => 5

def leadKind (c : Char) : Nat :=
  if c = 'n' then 0
  else if c = 't' ∨ c = 'f' then 1
  else if c = '"' then 3
  else if c = '[' then 4
  else if c = '\x7b' then 5
  else 2

theorem not_numberChar {c : Char} (hdigit : c.isDigit = false) (hsign : c ∉ ['-', '+', '.', 'e']) :
    ¬ IsNumberChar c := by
  rintro (h | h)
  · rw [hdigit] at h
    exact absurd h (by decide)
  · exact hsign h

theorem leadKind_number {c : Char} (h : IsNumberChar c) : leadKind c = 2 := by
  have hne {d : Char} (hdigit : d.isDigit = false) (hsign : d ∉ ['-', '+', '.', 'e']) : c ≠ d :=
    fun hcd => not_numberChar hdigit hsign (hcd ▸ h)
  rw [leadKind, if_neg (hne (by decide) (by decide)),
    if_neg (not_or.2 ⟨hne (by decide) (by decide), hne (by decide) (by decide)⟩),
    if_neg (hne (by decide) (by decide)), if_neg (hne (by decide) (by decide)),
    if_neg (hne (by decide) (by decide))]

variable (depth : Nat)

/-- What is laid out between brackets, with the closing one and what comes behind it. -/
def enclosed {α : Type} (members : List α) (inner : List Char) (close : Char) (x : List Char) : List Char :=
  if members = [] then close :: x else '\n' :: (inner ++ '\n' :: ((indent depth).toList ++ close :: x))

theorem pretty_list (items : List Json) (x : List Char) :
    (pretty depth (.list items)).toList ++ x =
      '[' :: enclosed depth items (prettyItems (depth + 1) items).toList ']' x := by
  cases items <;> simp [pretty, enclosed]

theorem pretty_object (members : List (String × Json)) (x : List Char) :
    (pretty depth (.object members)).toList ++ x =
      '\x7b' :: enclosed depth members (prettyMembers (depth + 1) members).toList '\x7d' x := by
  cases members <;> simp [pretty, enclosed]

theorem enclosed_inj {α : Type} {vs ws : List α} {m n x y : List Char} {close : Char} (hclose : close ≠ '\n')
    (h : enclosed depth vs m close x = enclosed depth ws n close y) :
    vs = [] ∧ ws = [] ∧ x = y ∨ vs ≠ [] ∧ ws ≠ [] ∧
      m ++ '\n' :: ((indent depth).toList ++ close :: x) =
        n ++ '\n' :: ((indent depth).toList ++ close :: y) := by
  unfold enclosed at h
  split_ifs at h with hvs hws hws
  · exact .inl ⟨hvs, hws, (List.cons.inj h).2⟩
  · exact absurd (List.cons.inj h).1 hclose
  · exact absurd (List.cons.inj h).1.symm hclose
  · exact .inr ⟨hvs, hws, (List.cons.inj h).2⟩

theorem exists_lead (v : Json) :
    ∃ c rest, (pretty depth v).toList = c :: rest ∧ leadKind c = kind v := by
  cases v with
  | null => exact ⟨'n', _, by rw [pretty]; rfl, rfl⟩
  | bool b =>
    cases b
    · exact ⟨'f', _, by rw [pretty]; rfl, rfl⟩
    · exact ⟨'t', _, by rw [pretty]; rfl, rfl⟩
  | number n =>
    obtain ⟨c, rest, hn⟩ := List.exists_cons_of_ne_nil n.text_ne_nil
    have hc : IsNumberChar c := n.text_chars c (by rw [hn]; exact List.mem_cons_self)
    have htext : (pretty depth (.number n)).toList = c :: rest := by rw [pretty, String.toList_ofList, hn]
    exact ⟨c, rest, htext, leadKind_number hc⟩
  | text s => exact ⟨'"', _, by rw [pretty, literal, String.toList_ofList]; rfl, rfl⟩
  | list items => exact ⟨'[', _, (List.append_nil _).symm.trans (pretty_list depth items []), rfl⟩
  | object members =>
    exact ⟨'\x7b', _, (List.append_nil _).symm.trans (pretty_object depth members []), rfl⟩

/-- What is laid out behind an item or a member: `more` if it is not the last one, and then a line feed. -/
def behind {α : Type} (rest : List α) (more x : List Char) : List Char :=
  if rest = [] then '\n' :: x else ',' :: '\n' :: (more ++ '\n' :: x)

theorem follows_behind {α : Type} (rest : List α) (more x : List Char) : Follows (behind rest more x) := by
  unfold behind
  split
  · exact follows_cons (not_numberChar (by decide) (by decide))
  · exact follows_cons (not_numberChar (by decide) (by decide))

theorem behind_inj {α : Type} {vs ws : List α} {m n x y : List Char}
    (h : behind vs m x = behind ws n y) :
    vs = [] ∧ ws = [] ∧ x = y ∨ vs ≠ [] ∧ ws ≠ [] ∧ m ++ '\n' :: x = n ++ '\n' :: y := by
  unfold behind at h
  split_ifs at h with hvs hws hws
  · exact .inl ⟨hvs, hws, (List.cons.inj h).2⟩
  · exact absurd (List.cons.inj h).1 (by decide)
  · exact absurd (List.cons.inj h).1 (by decide)
  · exact .inr ⟨hvs, hws, (List.cons.inj (List.cons.inj h).2).2⟩

/-- Values or members that are laid out one below the other, if each is told from what is behind it. -/
theorem laid_append_inj {α : Type} (laid : α → List Char → List Char) (more : List α → List Char)
    (hmore : ∀ v vs x, more (v :: vs) ++ '\n' :: x =
      (indent depth).toList ++ laid v (behind vs (more vs) x))
    {vs ws : List α} (htold : ∀ v ∈ vs, ∀ w x y, Follows x → Follows y → laid v x = laid w y → v = w ∧ x = y)
    {x y : List Char} (hvs : vs ≠ []) (hws : ws ≠ [])
    (h : more vs ++ '\n' :: x = more ws ++ '\n' :: y) : vs = ws ∧ x = y := by
  induction vs generalizing ws with
  | nil => exact absurd rfl hvs
  | cons v vs ih =>
    obtain ⟨w, ws, rfl⟩ := List.exists_cons_of_ne_nil hws
    obtain ⟨hv, htold⟩ := List.forall_mem_cons.1 htold
    rw [hmore, hmore] at h
    obtain ⟨rfl, hrest⟩ := hv w _ _ (follows_behind vs _ x) (follows_behind ws _ y)
      (List.append_cancel_left h)
    rcases behind_inj hrest with ⟨rfl, rfl, hxy⟩ | ⟨hvs, hws, hlater⟩
    · exact ⟨rfl, hxy⟩
    · obtain ⟨rfl, hxy⟩ := ih htold hvs hws hlater
      exact ⟨rfl, hxy⟩

def laidMember (m : String × Json) (x : List Char) : List Char :=
  (literal m.1).toList ++ ':' :: ' ' :: ((pretty depth m.2).toList ++ x)

theorem prettyItems_cons (v : Json) (rest : List Json) (x : List Char) :
    (prettyItems depth (v :: rest)).toList ++ '\n' :: x =
      (indent depth).toList ++
        ((pretty depth v).toList ++ behind rest (prettyItems depth rest).toList x) := by
  cases rest <;> simp [prettyItems, behind]

theorem prettyMembers_cons (m : String × Json) (rest : List (String × Json)) (x : List Char) :
    (prettyMembers depth (m :: rest)).toList ++ '\n' :: x =
      (indent depth).toList ++ laidMember depth m (behind rest (prettyMembers depth rest).toList x) := by
  obtain ⟨k, v⟩ := m
  cases rest <;> simp [prettyMembers, behind, laidMember]

theorem kind_eq_of_append {v w : Json} {x y : List Char}
    (h : (pretty depth v).toList ++ x = (pretty depth w).toList ++ y) : kind v = kind w := by
  obtain ⟨c, rest, hv, hc⟩ := exists_lead depth v
  obtain ⟨d, rest', hw, hd⟩ := exists_lead depth w
  rw [hv, hw] at h
  rw [← hc, ← hd, (List.cons.inj h).1]

/-- A value is told from every other, and from what is laid out behind it. -/
def Told (v : Json) : Prop :=
  ∀ (w : Json) (depth : Nat) (x y : List Char), Follows x → Follows y →
    (pretty depth v).toList ++ x = (pretty depth w).toList ++ y → v = w ∧ x = y

theorem told_null : Told .null := by
  intro w depth x y _ _ h
  have hkind := kind_eq_of_append depth h
  cases w with
  | null => exact ⟨rfl, List.append_cancel_left h⟩
  | _ => simp [kind] at hkind

theorem told_bool (b : Bool) : Told (.bool b) := by
  intro w depth x y _ _ h
  have hkind := kind_eq_of_append depth h
  cases w with
  | bool c =>
    have hlead : (if b then "true" else "false").toList ++ x = (if c then "true" else "false").toList ++ y := by
      simpa only [pretty] using h
    cases b <;> cases c
    · exact ⟨rfl, List.append_cancel_left hlead⟩
    · exact absurd (Option.some.inj (congrArg List.head? hlead)) (by decide)
    · exact absurd (Option.some.inj (congrArg List.head? hlead)) (by decide)
    · exact ⟨rfl, List.append_cancel_left hlead⟩
  | _ => simp [kind] at hkind

theorem told_number (n : Number) : Told (.number n) := by
  intro w depth x y hx hy h
  have hkind := kind_eq_of_append depth h
  cases w with
  | number m =>
    simp only [pretty, String.toList_ofList] at h
    obtain ⟨htext, hxy⟩ := append_inj_of_run n.text_chars m.text_chars hx hy h
    exact ⟨congrArg number (Number.text_injective htext), hxy⟩
  | _ => simp [kind] at hkind

theorem told_text (s : String) : Told (.text s) := by
  intro w depth x y _ _ h
  have hkind := kind_eq_of_append depth h
  cases w with
  | text t =>
    simp only [pretty] at h
    obtain ⟨hst, hxy⟩ := literal_append_inj h
    exact ⟨congrArg text hst, hxy⟩
  | _ => simp [kind] at hkind

theorem laidMember_inj {m n : String × Json} (hm : Told m.2) {x y : List Char} (hx : Follows x)
    (hy : Follows y) (h : laidMember depth m x = laidMember depth n y) : m = n ∧ x = y := by
  obtain ⟨hname, hvalue⟩ := literal_append_inj h
  obtain ⟨hv, hxy⟩ := hm n.2 depth x y hx hy (List.cons.inj (List.cons.inj hvalue).2).2
  exact ⟨Prod.ext hname hv, hxy⟩

theorem told_list {items : List Json} (htold : ∀ v ∈ items, Told v) : Told (.list items) := by
  intro w depth x y _ _ h
  have hkind := kind_eq_of_append depth h
  cases w with
  | list others =>
    rw [pretty_list, pretty_list] at h
    rcases enclosed_inj depth (by decide) (List.cons.inj h).2 with ⟨rfl, rfl, hxy⟩ | ⟨hitems, hothers, hmore⟩
    · exact ⟨rfl, hxy⟩
    · obtain ⟨heq, hxy⟩ := laid_append_inj (depth + 1) (fun v x => (pretty (depth + 1) v).toList ++ x)
        (fun vs => (prettyItems (depth + 1) vs).toList) (prettyItems_cons (depth + 1))
        (fun v hv w => htold v hv w (depth + 1)) hitems hothers hmore
      exact ⟨congrArg list heq, (List.cons.inj (List.append_cancel_left hxy)).2⟩
  | _ => simp [kind] at hkind

theorem told_object {members : List (String × Json)} (htold : ∀ m ∈ members, Told m.2) :
    Told (.object members) := by
  intro w depth x y _ _ h
  have hkind := kind_eq_of_append depth h
  cases w with
  | object others =>
    rw [pretty_object, pretty_object] at h
    rcases enclosed_inj depth (by decide) (List.cons.inj h).2 with
      ⟨rfl, rfl, hxy⟩ | ⟨hmembers, hothers, hmore⟩
    · exact ⟨rfl, hxy⟩
    · obtain ⟨heq, hxy⟩ := laid_append_inj (depth + 1) (laidMember (depth + 1))
        (fun ms => (prettyMembers (depth + 1) ms).toList) (prettyMembers_cons (depth + 1))
        (fun m hm _ _ _ => laidMember_inj (depth + 1) (htold m hm)) hmembers hothers hmore
      exact ⟨congrArg object heq, (List.cons.inj (List.append_cancel_left hxy)).2⟩
  | _ => simp [kind] at hkind

theorem told (v : Json) : Told v := by
  match v with
  | .null => exact told_null
  | .bool b => exact told_bool b
  | .number n => exact told_number n
  | .text s => exact told_text s
  | .list items => exact told_list fun v hv => told v
  | .object members => exact told_object fun m hm => told m.2
termination_by sizeOf v
decreasing_by
  · have := List.sizeOf_lt_of_mem hv
    simp only [list.sizeOf_spec]
    omega
  · have := List.sizeOf_lt_of_mem hm
    obtain ⟨k, v⟩ := m
    simp only [object.sizeOf_spec, Prod.mk.sizeOf_spec] at *
    omega

end Value

theorem pretty_injective (depth : Nat) {v w : Json} (h : pretty depth v = pretty depth w) : v = w :=
  (told v w depth [] [] nofun nofun (by rw [h])).1

end Rider.Json

namespace Rider

/-- A layout that never fails and that writes no two data alike. -/
structure Layout.Faithful (layout : Layout) : Prop where
  total : ∀ data, ∃ text, layout data = .ok text
  injective : ∀ data other, layout data = layout other → data = other

theorem Json.layout_faithful : Layout.Faithful Json.layout where
  total data := ⟨(object data).pretty 0, rfl⟩
  injective _ _ h := object.inj (pretty_injective 0 (Except.ok.inj h))

end Rider
