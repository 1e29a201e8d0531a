import Rider.Proofs.Identifier.Code
import Rider.Proofs.Token.Quote

set_option autoImplicit false

/-!
What a quoted identifier says, step by step from left to right: an escape stands for one character, and where no
escape begins a character stands for itself.
-/

namespace Rider.Identifier

/-- What stands for a character after a backslash, when these are the codes. -/
inductive Escape (Code : Char → List Char → Prop) : Char → List Char → Prop
  | letter {e c : Char} : (e, c) ∈ escapes → Escape Code c ['\\', e]
  | code {c : Char} {form : List Char} : Code c form → Escape Code c ('\\' :: 'u' :: form)

/-- A text and what it says. No step goes back to what an earlier one has said. -/
inductive Decoding (Code : Char → List Char → Prop) : List Char → List Char → Prop
  | nil : Decoding Code [] []
  | escape {c : Char} {form s t : List Char} : Escape Code c form → Decoding Code s t →
      Decoding Code (form ++ s) (c :: t)
  | verbatim {c : Char} {s t : List Char} : (∀ d form, Escape Code d form → ¬ form <+: c :: s) →
      Decoding Code s t → Decoding Code (c :: s) (c :: t)

def Bare (s body : List Char) : Prop :=
  s = '\'' :: (body ++ ['\'']) ∨ (s = body ∧ ∀ inner, s ≠ '\'' :: (inner ++ ['\'']))

theorem decode_escape {c : Char} {form : List Char} (h : Escape ReadCode c form) (s : List Char) :
    decode (form ++ s) = c :: decode s := by
  cases h with
  | letter he => exact decode_letter he s
  | @code c form hcode =>
    have hscalar := (scalar?_eq_some_iff hcode.length).2 hcode
    obtain ⟨x₃, x₂, x₁, x₀, rfl⟩ := List.length_eq_four.1 hcode.length
    simp only [List.cons_append, List.nil_append]
    rw [decode, hscalar]

theorem decode_verbatim {c : Char} {s : List Char}
    (h : ∀ d form, Escape ReadCode d form → ¬ form <+: c :: s) : decode (c :: s) = c :: decode s := by
  rw [decode.eq_def (c :: s)]
  split
  case h_1 heq => contradiction
  case h_2 x₃ x₂ x₁ x₀ rest heq =>
    obtain ⟨rfl, rfl⟩ := List.cons.inj heq
    have hscalar : scalar? [x₃, x₂, x₁, x₀] = none := by
      rw [Option.eq_none_iff_forall_ne_some]
      intro d hd
      exact h d _ (.code ((scalar?_eq_some_iff rfl).1 hd)) ⟨rest, rfl⟩
    have hu : 'u' ≠ '\\' := by decide
    rw [hscalar, decode_plain hu]
  case h_3 e rest _ heq =>
    obtain ⟨rfl, rfl⟩ := List.cons.inj heq
    have hletter : letterEscape? e = none := by
      rw [Option.eq_none_iff_forall_ne_some]
      intro d hd
      exact h d _ (.letter (letterEscape?_eq_some_iff.1 hd)) ⟨rest, rfl⟩
    -- An unknown escape is copied as two characters, and the second one is no backslash.
    have he : e ≠ '\\' := by
      rintro rfl
      contradiction
    rw [hletter, decode_plain he]
  case h_4 heq =>
    obtain ⟨rfl, rfl⟩ := List.cons.inj heq
    rfl

theorem Escape.begins {Code : Char → List Char → Prop} {c : Char} {form : List Char}
    (h : Escape Code c form) : ∃ rest, form = '\\' :: rest := by
  cases h with
  | letter => exact ⟨_, rfl⟩
  | code => exact ⟨_, rfl⟩

theorem exists_decoding (Code : Char → List Char → Prop) (s : List Char) : ∃ t, Decoding Code s t := by
  match s with
  | [] => exact ⟨[], .nil⟩
  | c :: s =>
    by_cases hescape : ∃ d form, Escape Code d form ∧ form <+: c :: s
    · obtain ⟨d, form, hform, rest, hrest⟩ := hescape
      obtain ⟨later, rfl⟩ := hform.begins
      have hshort : rest.length < (c :: s).length := by
        rw [← hrest, List.length_append, List.length_cons]
        omega
      obtain ⟨t, ht⟩ := exists_decoding Code rest
      rw [← hrest]
      exact ⟨d :: t, .escape hform ht⟩
    · obtain ⟨t, ht⟩ := exists_decoding Code s
      exact ⟨c :: t, .verbatim (fun d form hform hbegins => hescape ⟨d, form, hform, hbegins⟩) ht⟩
termination_by s.length
decreasing_by
  · exact hshort
  · exact Nat.lt_add_one s.length

theorem decoding_iff {s t : List Char} : Decoding ReadCode s t ↔ decode s = t := by
  have sound : ∀ {t : List Char}, Decoding ReadCode s t → decode s = t := by
    intro t h
    induction h with
    | nil => rw [decode]
    | escape hform _ ih => rw [decode_escape hform, ih]
    | verbatim hnone _ ih => rw [decode_verbatim hnone, ih]
  refine ⟨sound, ?_⟩
  intro h
  obtain ⟨u, hu⟩ := exists_decoding ReadCode s
  rwa [← h, sound hu]

theorem Escape.takesNext_append {c : Char} {form : List Char} (h : Escape ReadCode c form)
    (t : List Char) : takesNext (form ++ t) = takesNext t := by
  cases h with
  | letter => exact takesNext_pair _ t
  | code hcode =>
    rw [List.cons_append, List.cons_append, takesNext_pair, Rider.takesNext_append hcode.backslash_not_mem]

section
variable {Code Code' : Char → List Char → Prop} {s t : List Char}

/-- With either kind of codes there are the same escapes at every place where one may begin. -/
def SameEscapes (Code Code' : Char → List Char → Prop) (s : List Char) : Prop :=
  ∀ before after, s = before ++ after → takesNext before = false →
    ∀ c form, form <+: after → (Escape Code c form ↔ Escape Code' c form)

theorem SameEscapes.behind (form : List Char) (h : SameEscapes Code Code' (form ++ s))
    (hform : ∀ t, takesNext (form ++ t) = takesNext t) : SameEscapes Code Code' s := by
  intro before after hs hfree
  refine h (form ++ before) after ?_ ?_
  · rw [hs, List.append_assoc]
  · rw [hform, hfree]

theorem SameEscapes.tail {c : Char} (h : SameEscapes Code Code' (c :: s))
    (hnone : ∀ d form, Escape Code d form → ¬ form <+: c :: s) : SameEscapes Code Code' s := by
  by_cases hc : c = '\\'
  · subst hc
    -- Two backslashes are an escape, so a backslash that is copied is the only one there.
    have hlone : ∀ rest, s ≠ '\\' :: rest := by
      rintro rest rfl
      exact hnone '\\' _ (.letter (by decide)) ⟨rest, rfl⟩
    intro before after hs hfree d form hbegins
    cases before with
    | nil =>
      have hneither : ∀ rest, form ≠ '\\' :: rest := by
        rintro rest rfl
        obtain ⟨later, rfl⟩ := hbegins
        exact hlone _ hs
      constructor
      · intro hform
        obtain ⟨rest, hrest⟩ := hform.begins
        exact absurd hrest (hneither rest)
      · intro hform
        obtain ⟨rest, hrest⟩ := hform.begins
        exact absurd hrest (hneither rest)
    | cons e before =>
      have he : e ≠ '\\' := by
        rintro rfl
        exact hlone _ hs
      rw [takesNext_cons he] at hfree
      refine h ('\\' :: e :: before) after ?_ ?_ d form hbegins
      · rw [hs, List.cons_append, List.cons_append, List.cons_append]
      · rw [takesNext_pair, hfree]
  · exact SameEscapes.behind [c] h fun t => takesNext_cons hc t

theorem Decoding.transfer (h : Decoding Code s t)
    (hforms : ∀ c form, Escape Code c form → Escape ReadCode c form)
    (hsame : SameEscapes Code Code' s) : Decoding Code' s t := by
  induction h with
  | nil => exact .nil
  | @escape c form s t hform _ ih =>
    have hform' := (hsame [] _ rfl rfl c form ⟨s, rfl⟩).1 hform
    exact .escape hform' (ih (SameEscapes.behind form hsame (hforms c form hform).takesNext_append))
  | @verbatim c s t hnone _ ih =>
    refine .verbatim ?_ (ih (hsame.tail hnone))
    intro d form hform hbegins
    exact hnone d form ((hsame [] _ rfl rfl d form hbegins).2 hform) hbegins

end

/-- No code of the text is a signed one, except behind a backslash that another backslash takes. -/
def Unsigned (s : List Char) : Prop :=
  ∀ before c form after, s = before ++ '\\' :: 'u' :: (form ++ after) → SignedCode c form →
    takesNext before = true

theorem Escape.read {c : Char} {form : List Char} (h : Escape HexCode c form) :
    Escape ReadCode c form := by
  cases h with
  | letter he => exact .letter he
  | code hcode => exact .code (.inl hcode)

theorem Unsigned.escape {s before after form : List Char} {c : Char} (h : Unsigned s)
    (hs : s = before ++ after) (hfree : takesNext before = false) (hbegins : form <+: after)
    (hform : Escape ReadCode c form) : Escape HexCode c form := by
  cases hform with
  | letter he => exact .letter he
  | code hcode =>
    rcases hcode with hhex | hsigned
    · exact .code hhex
    · obtain ⟨rest, rfl⟩ := hbegins
      have htaken := h before c _ rest hs hsigned
      rw [hfree] at htaken
      contradiction

theorem decoding_of_unsigned {s t : List Char} (h : Unsigned s) :
    Decoding ReadCode s t ↔ Decoding HexCode s t := by
  constructor
  · intro ht
    refine ht.transfer (fun _ _ hform => hform) ?_
    intro before after hs hfree c form hbegins
    exact ⟨h.escape hs hfree hbegins, Escape.read⟩
  · intro ht
    refine ht.transfer (fun _ _ hform => hform.read) ?_
    intro before after hs hfree c form hbegins
    exact ⟨Escape.read, h.escape hs hfree hbegins⟩

theorem stripQuotes_bare (s : List Char) : Bare s (stripQuotes s) := by
  unfold stripQuotes
  split
  · rename_i rest
    split_ifs with hlast
    · refine .inl (congrArg _ ?_)
      exact (List.dropLast_append_getLast? _ hlast).symm
    · refine .inr ⟨rfl, ?_⟩
      rintro inner heq
      rw [(List.cons.inj heq).2, List.getLast?_concat] at hlast
      exact hlast rfl
  · rename_i hquote
    exact .inr ⟨rfl, fun inner heq => hquote _ heq⟩

/-- Decoding strips one quote at each end and goes through what is left from left to right. It reads the escapes of
one letter, codes of four digits in base sixteen and codes of a plus sign and three such digits, and copies every
other character. Without the last kind of codes it reads exactly the documented escapes. -/
theorem unquote_decoding (raw : String) :
    ∃ body, Bare raw.toList body ∧
      (∀ text, unquote raw = text ↔ Decoding ReadCode body text.toList) ∧
      (Unsigned body → ∀ text, unquote raw = text ↔ Decoding HexCode body text.toList) := by
  have hread : ∀ text, unquote raw = text ↔
      Decoding ReadCode (stripQuotes raw.toList) text.toList := by
    intro text
    rw [decoding_iff, unquote, ← String.toList_inj, String.toList_ofList]
  refine ⟨_, stripQuotes_bare raw.toList, hread, ?_⟩
  intro hunsigned text
  rw [hread, decoding_of_unsigned hunsigned]

section Signed

def signedText : List Char := ['\\', 'u', '+', '0', '4', '1']

theorem no_escape_signedText (d : Char) (form : List Char) (h : Escape HexCode d form) :
    ¬ form <+: signedText := by
  rintro ⟨rest, hrest⟩
  cases h with
  | letter he =>
    obtain rfl := (List.cons.inj (List.cons.inj hrest).2).1
    simp [escapes] at he
  | code hcode =>
    obtain ⟨hlength, ds, hds, _⟩ := hcode
    obtain _ | ⟨hx, _⟩ := hds
    · contradiction
    · obtain rfl := (List.cons.inj (List.cons.inj (List.cons.inj hrest).2).2).1
      exact not_hexDigit_plus _ hx

theorem Decoding.plain {Code : Char → List Char → Prop} {c : Char} {s t : List Char} (hc : c ≠ '\\')
    (h : Decoding Code s t) : Decoding Code (c :: s) (c :: t) := by
  refine .verbatim ?_ h
  rintro d form hform ⟨rest, hrest⟩
  obtain ⟨later, rfl⟩ := hform.begins
  exact hc (List.cons.inj hrest).1.symm

theorem Decoding.head {Code : Char → List Char → Prop} {c d : Char} {s t : List Char}
    (h : Decoding Code (c :: s) (d :: t)) : (∃ form, Escape Code d form ∧ form <+: c :: s) ∨ c = d := by
  generalize hs : c :: s = s' at h
  generalize ht : d :: t = t' at h
  cases h with
  | nil => contradiction
  | @escape _ form rest _ hform _ =>
    obtain ⟨rfl, rfl⟩ := List.cons.inj ht
    exact .inl ⟨form, hform, rest, rfl⟩
  | verbatim =>
    exact .inr ((List.cons.inj hs).1.trans (List.cons.inj ht).1.symm)

/-- A signed code is no four digits, and is read all the same. -/
theorem unquote_signed_code :
    unquote "'\\u+041'" = "A" ∧ Bare "'\\u+041'".toList signedText ∧
      Decoding HexCode signedText signedText ∧ ¬ Decoding HexCode signedText "A".toList := by
  have hstrip : stripQuotes "'\\u+041'".toList = signedText := by decide
  refine ⟨?_, .inl rfl, ?_, ?_⟩
  · have hcode : ReadCode 'A' ['+', '0', '4', '1'] := (scalar?_eq_some_iff rfl).1 (by decide)
    have hread : Decoding ReadCode signedText ['A'] := .escape (.code hcode) .nil
    rw [unquote, hstrip, decoding_iff.1 hread]
  · exact .verbatim no_escape_signedText <| .plain (by decide) <| .plain (by decide) <|
      .plain (by decide) <| .plain (by decide) <| .plain (by decide) .nil
  · intro h
    rcases h.head with ⟨form, hform, hbegins⟩ | heq
    · exact no_escape_signedText 'A' form hform hbegins
    · contradiction

end Signed

end Rider.Identifier
