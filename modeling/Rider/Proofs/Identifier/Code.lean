import Mathlib.Data.List.Forall2
import Rider.Proofs.Identifier.Spelling

set_option autoImplicit false

namespace Rider.Identifier

def digitRows : List (List Char) := ["0123456789abcdef".toList, "0123456789ABCDEF".toList]

def HexDigit (x : Char) (d : Nat) : Prop := ∃ row ∈ digitRows, row[d]? = some x

def HexNumber (digits : List Char) (n : Nat) : Prop :=
  ∃ ds, List.Forall₂ HexDigit digits ds ∧ n = ds.foldl (fun m d => m * 16 + d) 0

def HexCode (c : Char) (form : List Char) : Prop := form.length = 4 ∧ HexNumber form c.toNat

/-- A plus sign and three digits that write the code point of the character. -/
def SignedCode (c : Char) (form : List Char) : Prop :=
  ∃ digits, form = '+' :: digits ∧ digits.length = 3 ∧ HexNumber digits c.toNat

def ReadCode (c : Char) (form : List Char) : Prop := HexCode c form ∨ SignedCode c form

theorem bounds_of_digitValue? {x : Char} {d : Nat} (h : Text.digitValue? 16 x = some d) :
    x.toNat < 103 ∧ d < 16 := by
  obtain ⟨hv, hd⟩ := Option.filter_eq_some_iff.1 h
  refine ⟨?_, of_decide_eq_true hd⟩
  split_ifs at hv with h09 haf hAF
  · have hle : x.toNat ≤ 57 := h09.2
    omega
  · have hle : x.toNat ≤ 102 := haf.2
    omega
  · have hle : x.toNat ≤ 70 := hAF.2
    omega

theorem digitRows_of_digitValue? : ∀ n < 103, ∀ d < 16,
    Text.digitValue? 16 (Char.ofNat n) = some d → ∃ row ∈ digitRows, row[d]? = some (Char.ofNat n) := by
  decide

theorem digitValue?_of_digitRows : ∀ row ∈ digitRows, row.length = 16 ∧
    ∀ d < 16, (row[d]?).bind (Text.digitValue? 16) = some d := by
  decide

theorem digitValue?_eq_some_iff {x : Char} {d : Nat} :
    Text.digitValue? 16 x = some d ↔ HexDigit x d := by
  constructor
  · intro h
    obtain ⟨hx, hd⟩ := bounds_of_digitValue? h
    rw [← Char.ofNat_toNat x] at h ⊢
    exact digitRows_of_digitValue? x.toNat hx d hd h
  · rintro ⟨row, hrow, hx⟩
    obtain ⟨hlength, hvalue⟩ := digitValue?_of_digitRows row hrow
    have hd : d < 16 := hlength ▸ (List.getElem?_eq_some_iff.1 hx).1
    have hdigit := hvalue d hd
    rwa [hx, Option.bind_some] at hdigit

theorem digitsValue?_eq_some_iff {digits : List Char} {acc n : Nat} :
    Text.digitsValue? 16 acc digits = some n ↔
      ∃ ds, List.Forall₂ HexDigit digits ds ∧ n = ds.foldl (fun m d => m * 16 + d) acc := by
  induction digits generalizing acc with
  | nil =>
    rw [Text.digitsValue?, Option.some.injEq]
    constructor
    · rintro rfl
      exact ⟨[], .nil, rfl⟩
    · rintro ⟨ds, hds, rfl⟩
      cases hds
      rfl
  | cons x digits ih =>
    rw [Text.digitsValue?]
    constructor
    · intro h
      split at h
      · rename_i d hd
        obtain ⟨ds, hds, hn⟩ := ih.1 h
        exact ⟨d :: ds, .cons (digitValue?_eq_some_iff.1 hd) hds, hn⟩
      · contradiction
    · rintro ⟨_, _ | ⟨hx, hds⟩, hn⟩
      rw [digitValue?_eq_some_iff.2 hx]
      exact ih.2 ⟨_, hds, hn⟩

theorem not_hexDigit_plus (d : Nat) : ¬ HexDigit '+' d := by
  intro h
  have hvalue := digitValue?_eq_some_iff.2 h
  contradiction

theorem charOf?_eq_some_iff {n : Nat} {c : Char} : Text.charOf? n = some c ↔ n = c.toNat := by
  rw [Text.charOf?]
  constructor
  · intro h
    split_ifs at h with hvalid
    rw [← Option.some.inj h, Char.ofNat, dif_pos hvalid]
    rfl
  · rintro rfl
    have hvalid : c.toNat.isValidChar := c.valid
    rw [if_pos hvalid, Char.ofNat_toNat]

theorem number?_eq_some_iff {form : List Char} {c : Char} (h : form.length = 4) :
    Text.number? 16 form = some c.toNat ↔ ReadCode c form := by
  obtain ⟨x, digits, rfl⟩ := List.exists_cons_of_length_eq_add_one h
  have hlength : digits.length = 3 := Nat.succ.inj h
  obtain ⟨y, later, rfl⟩ := List.exists_cons_of_length_eq_add_one hlength
  by_cases hx : x = '+'
  · subst hx
    rw [Text.number?, digitsValue?_eq_some_iff]
    constructor
    · intro hnumber
      exact .inr ⟨_, rfl, hlength, hnumber⟩
    · rintro (⟨_, ds, hds, _⟩ | ⟨_, heq, _, hnumber⟩)
      · obtain _ | ⟨hplus, _⟩ := hds
        exact absurd hplus (not_hexDigit_plus _)
      · rwa [← (List.cons.inj heq).2] at hnumber
  · rw [Text.number?, digitsValue?_eq_some_iff]
    · constructor
      · intro hnumber
        exact .inl ⟨h, hnumber⟩
      · rintro (⟨_, hnumber⟩ | ⟨_, heq, _⟩)
        · exact hnumber
        · exact absurd (List.cons.inj heq).1 hx
    · exact fun _ _ hplus => absurd hplus hx

theorem scalar?_eq_some_iff {form : List Char} {c : Char} (h : form.length = 4) :
    scalar? form = some c ↔ ReadCode c form := by
  rw [scalar?, Option.bind_eq_some_iff, ← number?_eq_some_iff h]
  constructor
  · rintro ⟨n, hn, hc⟩
    rw [hn, charOf?_eq_some_iff.1 hc]
  · intro hn
    exact ⟨_, hn, charOf?_eq_some_iff.2 rfl⟩

theorem ReadCode.length {c : Char} {form : List Char} (h : ReadCode c form) : form.length = 4 := by
  rcases h with ⟨hlength, _⟩ | ⟨digits, rfl, hlength, _⟩
  · exact hlength
  · rw [List.length_cons, hlength]

theorem backslash_not_mem {digits : List Char} {ds : List Nat}
    (h : List.Forall₂ HexDigit digits ds) : '\\' ∉ digits := by
  induction h with
  | nil => exact List.not_mem_nil
  | @cons x d _ _ hx _ ih =>
    have hne : '\\' ≠ x := by
      rintro rfl
      have hvalue := digitValue?_eq_some_iff.2 hx
      contradiction
    exact List.not_mem_cons_of_ne_of_not_mem hne ih

theorem ReadCode.backslash_not_mem {c : Char} {form : List Char} (h : ReadCode c form) :
    '\\' ∉ form := by
  rcases h with ⟨_, ds, hds, _⟩ | ⟨digits, rfl, _, ds, hds, _⟩
  · exact Identifier.backslash_not_mem hds
  · exact List.not_mem_cons_of_ne_of_not_mem (by decide) (Identifier.backslash_not_mem hds)

end Rider.Identifier
