import Rider.Identifier
import Rider.Token.Scan

set_option autoImplicit false

namespace Rider.Identifier

def escapes : List (Char × Char) :=
  [('\'', '\''), ('\\', '\\'), ('"', '"'), ('/', '/'), ('n', '\n'), ('t', '\t'), ('r', '\r'),
   ('b', '\x08'), ('f', '\x0c')]

theorem letterEscape?_eq_some_iff {e c : Char} : letterEscape? e = some c ↔ (e, c) ∈ escapes := by
  constructor
  · intro h
    unfold letterEscape? at h
    split at h
    case h_10 => contradiction
    all_goals
      obtain rfl := Option.some.inj h
      decide
  · intro h
    simp only [escapes, List.mem_cons, Prod.mk.injEq, List.not_mem_nil, or_false] at h
    rcases h with h | h | h | h | h | h | h | h | h <;> obtain ⟨rfl, rfl⟩ := h <;> rfl

inductive CharSpelling : Char → List Char → Prop
  | plain {c : Char} : c ≠ '\\' → c ≠ '\'' → CharSpelling c [c]
  | letter {e c : Char} : (e, c) ∈ escapes → CharSpelling c ['\\', e]
  | code {c x₃ x₂ x₁ x₀ : Char} {d₃ d₂ d₁ d₀ : Nat} : Text.digitValue? 16 x₃ = some d₃ →
      Text.digitValue? 16 x₂ = some d₂ → Text.digitValue? 16 x₁ = some d₁ →
      Text.digitValue? 16 x₀ = some d₀ → c.toNat = ((d₃ * 16 + d₂) * 16 + d₁) * 16 + d₀ →
      CharSpelling c ['\\', 'u', x₃, x₂, x₁, x₀]

/-- Every character of a text in any of its spellings. -/
inductive Spelling : List Char → List Char → Prop
  | nil : Spelling [] []
  | cons {c : Char} {s form body : List Char} : CharSpelling c form → Spelling s body →
      Spelling (c :: s) (form ++ body)

theorem takeQuoted?_cons {c : Char} (hq : c ≠ '\'') (hb : c ≠ '\\') (s : List Char) :
    takeQuoted? (c :: s) = (takeQuoted? s).map fun p => (c :: p.1, p.2) := by
  rw [takeQuoted?]
  · exact hq
  · exact fun _ _ h => absurd h hb

theorem takeQuoted?_escape (c : Char) (s : List Char) :
    takeQuoted? ('\\' :: c :: s) = (takeQuoted? s).map fun p => ('\\' :: c :: p.1, p.2) := by
  rw [takeQuoted?]

theorem ne_of_digit {x y : Char} {d : Nat} (h : Text.digitValue? 16 x = some d)
    (hy : Text.digitValue? 16 y = none) : x ≠ y := by
  rintro rfl
  rw [hy] at h
  contradiction

theorem takeQuoted?_digit {x : Char} {d : Nat} (h : Text.digitValue? 16 x = some d)
    (s : List Char) : takeQuoted? (x :: s) = (takeQuoted? s).map fun p => (x :: p.1, p.2) :=
  takeQuoted?_cons (ne_of_digit h (by decide)) (ne_of_digit h (by decide)) s

/-- No spelling of a character closes a quote, nor does one end in the middle of an escape. -/
theorem takeQuoted?_charSpelling {c : Char} {form : List Char} (h : CharSpelling c form)
    (s : List Char) :
    takeQuoted? (form ++ s) = (takeQuoted? s).map fun p => (form ++ p.1, p.2) := by
  cases h with
  | plain hb hq => exact takeQuoted?_cons hq hb s
  | letter => exact takeQuoted?_escape _ s
  | code h₃ h₂ h₁ h₀ =>
    simp only [List.cons_append, List.nil_append]
    rw [takeQuoted?_escape, takeQuoted?_digit h₃, takeQuoted?_digit h₂, takeQuoted?_digit h₁,
      takeQuoted?_digit h₀]
    simp only [Option.map_map, Function.comp_def]

theorem takeQuoted?_spelling {s body : List Char} (h : Spelling s body) (rest : List Char) :
    takeQuoted? (body ++ '\'' :: rest) = some (body ++ ['\''], rest) := by
  induction h with
  | nil => rfl
  | cons hc _ ih =>
    rw [List.append_assoc, takeQuoted?_charSpelling hc, ih, Option.map_some, List.append_assoc]

theorem decode_plain {c : Char} (h : c ≠ '\\') (s : List Char) : decode (c :: s) = c :: decode s := by
  rw [decode]
  · exact fun _ _ _ _ _ hc => absurd hc h
  · exact fun _ _ hc => absurd hc h

theorem decode_letter {e c : Char} (h : (e, c) ∈ escapes) (s : List Char) :
    decode ('\\' :: e :: s) = c :: decode s := by
  have hu : e ≠ 'u' := by
    rintro rfl
    revert h
    simp [escapes]
  rw [decode, letterEscape?_eq_some_iff.2 h]
  exact fun _ _ _ _ _ he => absurd he hu

theorem scalar?_code {c x₃ x₂ x₁ x₀ : Char} {d₃ d₂ d₁ d₀ : Nat}
    (h₃ : Text.digitValue? 16 x₃ = some d₃) (h₂ : Text.digitValue? 16 x₂ = some d₂)
    (h₁ : Text.digitValue? 16 x₁ = some d₁) (h₀ : Text.digitValue? 16 x₀ = some d₀)
    (h : c.toNat = ((d₃ * 16 + d₂) * 16 + d₁) * 16 + d₀) :
    scalar? [x₃, x₂, x₁, x₀] = some c := by
  have hplus : x₃ ≠ '+' := ne_of_digit h₃ (by decide)
  have hnumber : Text.number? 16 [x₃, x₂, x₁, x₀] = some c.toNat := by
    rw [Text.number?]
    · simp only [Text.digitsValue?, h₃, h₂, h₁, h₀, h, Nat.zero_mul, Nat.zero_add]
    · exact fun _ _ hc => absurd hc hplus
  have hvalid : c.toNat.isValidChar := c.valid
  rw [scalar?, hnumber, Option.bind_some, Text.charOf?, if_pos hvalid, Char.ofNat_toNat]

theorem decode_charSpelling {c : Char} {form : List Char} (h : CharSpelling c form)
    (s : List Char) : decode (form ++ s) = c :: decode s := by
  cases h with
  | plain hb hq => exact decode_plain hb s
  | letter he => exact decode_letter he s
  | code h₃ h₂ h₁ h₀ hc =>
    simp only [List.cons_append, List.nil_append]
    rw [decode, scalar?_code h₃ h₂ h₁ h₀ hc]

theorem decode_spelling {s body : List Char} (h : Spelling s body) : decode body = s := by
  induction h with
  | nil => rw [decode]
  | cons hc _ ih => rw [decode_charSpelling hc, ih]

theorem unquote_spelling {s body : List Char} (h : Spelling s body) :
    unquote (String.ofList ('\'' :: (body ++ ['\'']))) = String.ofList s := by
  have hstrip : stripQuotes ('\'' :: (body ++ ['\''])) = body := by
    rw [stripQuotes, List.getLast?_concat, if_pos rfl, List.dropLast_concat]
  rw [unquote, String.toList_ofList, hstrip, decode_spelling h]

end Rider.Identifier
