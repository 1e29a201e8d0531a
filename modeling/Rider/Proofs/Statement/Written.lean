import Rider.Proofs.Identifier.Spelling
import Rider.Proofs.Text.Trim
import Rider.Proofs.Token.Layout
import Rider.Shape.Valid

set_option autoImplicit false

namespace Rider

inductive Piece
  | word (w : String)
  | subject
  | ident (text : String)

namespace Piece

/-- The ways to write a piece: a word in any letter case, an identifier in any spelling. -/
inductive Written : Piece → List Char → Prop
  | word {w : String} {raw : List Char} : raw.map Char.toLower = w.toList → Written (.word w) raw
  | subject : Written .subject ['I']
  | ident {text : String} {body : List Char} : Identifier.Spelling text.toList body →
      Written (.ident text) ('\'' :: (body ++ ['\'']))

/-- The words of shapes and of the grammar are the ones that lower-casing leaves alone. -/
def Proper : Piece → Prop
  | .word w => IsWord w
  | .subject => True
  | .ident _ => True

/-- The token reads as the piece. -/
def SaidBy : Piece → Token → Prop
  | .word w, t => t.isWord w = true
  | .subject, t => t.raw = "I"
  | .ident text, t => t.isIdent = true ∧ unquote t.raw = text

end Piece

theorem isWord_of_all {w : String} (hne : w.toList ≠ []) (h : w.toList.all isWordChar = true) :
    IsWord w :=
  ⟨hne, List.all_eq_true.1 h⟩

theorem toNat_of_isWordChar {c : Char} (h : isWordChar c = true) :
    45 ≤ c.toNat ∧ c.toNat ≤ 122 := by
  simp only [isWordChar, Bool.or_eq_true, Bool.and_eq_true, decide_eq_true_eq, beq_iff_eq] at h
  rcases h with ((⟨ha, hz⟩ | ⟨h0, h9⟩) | rfl) | rfl
  · change 97 ≤ c.toNat at ha
    change c.toNat ≤ 122 at hz
    omega
  · change 48 ≤ c.toNat at h0
    change c.toNat ≤ 57 at h9
    omega
  · decide
  · decide

theorem toNat_of_isWordChar_toLower {c : Char} (h : isWordChar c.toLower = true) :
    45 ≤ c.toNat ∧ c.toNat ≤ 122 := by
  by_cases hc : c.val ≥ 'A'.val ∧ c.val ≤ 'Z'.val
  · obtain ⟨hA, hZ⟩ := hc
    change 65 ≤ c.toNat at hA
    change c.toNat ≤ 90 at hZ
    omega
  · have same : c.toLower = c := dif_neg hc
    rw [same] at h
    exact toNat_of_isWordChar h

theorem ne_quote {c : Char} (h : 45 ≤ c.toNat ∧ c.toNat ≤ 122) : c ≠ '\'' := by
  rintro rfl
  exact absurd h.1 (by decide)

section
variable {w : String} {raw : List Char}

theorem casing_bounds (hw : IsWord w) (h : raw.map Char.toLower = w.toList) :
    ∀ c ∈ raw, 45 ≤ c.toNat ∧ c.toNat ≤ 122 := by
  intro c hc
  have hmem : c.toLower ∈ w.toList := h ▸ List.mem_map_of_mem hc
  exact toNat_of_isWordChar_toLower (hw.2 _ hmem)

theorem casing_ne_nil (hw : IsWord w) (h : raw.map Char.toLower = w.toList) : raw ≠ [] := by
  rintro rfl
  exact hw.1 h.symm

theorem lexeme_of_casing (hw : IsWord w) (h : raw.map Char.toLower = w.toList) : Lexeme raw := by
  have bounds := casing_bounds hw h
  obtain ⟨c, s, rfl⟩ := List.exists_cons_of_ne_nil (casing_ne_nil hw h)
  exact .word (ne_quote (bounds c List.mem_cons_self)) fun d hd => Text.isBlank_eq_false (bounds d hd)

theorem isWord_of_casing (hw : IsWord w) (h : raw.map Char.toLower = w.toList) (line start : Nat) :
    (Token.ofRaw raw line start).isWord w = true := by
  have bounds := casing_bounds hw h
  have hname : Text.lowerCase raw = w.toList := by
    rw [Text.lowerCase, Text.lowerAfter_ascii [] raw fun c hc => by have := bounds c hc; omega, h]
  obtain ⟨c, s, rfl⟩ := List.exists_cons_of_ne_nil (casing_ne_nil hw h)
  have hq : c ≠ '\'' := ne_quote (bounds c List.mem_cons_self)
  have hident : (Token.ofRaw (c :: s) line start).isIdent = false := by
    simp only [Token.isIdent, Token.ofRaw, String.toList_ofList]
    split
    · rename_i heq
      exact absurd (List.cons.inj heq).1 hq
    · rfl
  rw [Token.isWord, hident, Bool.not_false, Bool.true_and, Token.ofRaw, hname, String.ofList_toList,
    beq_self_eq_true]

end

namespace Piece

theorem Written.lexeme {p : Piece} {raw : List Char} (h : p.Written raw) (hp : p.Proper) :
    Lexeme raw := by
  cases h with
  | word hraw => exact lexeme_of_casing hp hraw
  | subject =>
    refine .word (by decide) fun d hd => ?_
    rw [List.mem_singleton.1 hd]
    decide
  | ident hbody =>
    refine .quoted fun rest => ?_
    rw [List.append_assoc, List.singleton_append]
    exact Identifier.takeQuoted?_spelling hbody rest

theorem Written.saidBy {p : Piece} {raw : List Char} (h : p.Written raw) (hp : p.Proper)
    {line : Nat} {t : Token} (ht : t.Of line raw) : p.SaidBy t := by
  obtain ⟨start, rfl⟩ := ht
  cases h with
  | word hraw => exact isWord_of_casing hp hraw line start
  | subject => rfl
  | ident hbody =>
    refine ⟨?_, ?_⟩
    · simp only [Token.isIdent, Token.ofRaw, String.toList_ofList]
    · rw [Token.ofRaw, Identifier.unquote_spelling hbody, String.ofList_toList]

theorem lexemes_of_written {ps : List Piece} {raws : List (List Char)}
    (h : List.Forall₂ Written ps raws) (hproper : ∀ p ∈ ps, p.Proper) :
    ∀ raw ∈ raws, Lexeme raw := by
  induction h with
  | nil => exact fun raw hraw => absurd hraw List.not_mem_nil
  | cons hp _ ih =>
    obtain ⟨hfirst, hlater⟩ := List.forall_mem_cons.1 hproper
    exact List.forall_mem_cons.2 ⟨hp.lexeme hfirst, ih hlater⟩

theorem saidBy_of_written {ps : List Piece} {raws : List (List Char)} {line : Nat}
    {ts : List Token} (h : List.Forall₂ Written ps raws) (hproper : ∀ p ∈ ps, p.Proper)
    (htokens : List.Forall₂ (Token.Of line) raws ts) : List.Forall₂ SaidBy ps ts := by
  induction h generalizing ts with
  | nil =>
    cases htokens
    exact .nil
  | cons hp _ ih =>
    obtain ⟨hfirst, hlater⟩ := List.forall_mem_cons.1 hproper
    obtain _ | ⟨ht, htokens⟩ := htokens
    exact .cons (hp.saidBy hfirst ht) (ih hlater htokens)

end Piece

end Rider
