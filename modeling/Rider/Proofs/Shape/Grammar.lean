import Rider.Proofs.Lists
import Rider.Proofs.Shape.Identity
import Rider.Proofs.Text.Cut

set_option autoImplicit false

namespace Rider

def IsPhrase (phrase : String) : Prop :=
  ∃ words : List String, words ≠ [] ∧ (∀ w ∈ words, IsWord w) ∧ phrase = String.intercalate " " words

abbrev EdgeSpace (s : List Char) : Prop := s.head? = some ' ' ∨ s.getLast? = some ' '

abbrev DoubleSpace (s : List Char) : Prop := [' ', ' '] <:+: s

/-- The first fault of a text that is no phrase. -/
inductive BadText (s : List Char) : WordFault → Prop
  | empty : s = [] → BadText s .empty
  | edgeSpace : EdgeSpace s → BadText s .edgeSpace
  | doubleSpace : ¬EdgeSpace s → DoubleSpace s → BadText s .doubleSpace
  | badChar {before after : List Char} {c : Char} : ¬EdgeSpace s → ¬DoubleSpace s →
      s = before ++ c :: after → (∀ d ∈ before, isWordChar d = true ∨ d = ' ') →
      isWordChar c = false → c ≠ ' ' → BadText s (.badChar c)

/-- The first fault of a text that is no word. -/
inductive BadName (p : String) : WordFault → Prop
  | badText {fault : WordFault} : BadText p.toList fault → BadName p fault
  | severalWords : IsPhrase p → ' ' ∈ p.toList → BadName p .severalWords

namespace Shape

/-- The one error of arguments that make no shape. -/
inductive Refused (params : List String) (phrase : String) : RegistryError → Prop
  | badPhrase {fault : WordFault} : ¬IsPhrase phrase → BadText phrase.toList fault →
      Refused params phrase (.invalidPhrase phrase fault)
  | badParam {before after : List String} {p : String} {fault : WordFault} : IsPhrase phrase →
      params = before ++ p :: after → (∀ q ∈ before, IsWord q) → ¬IsWord p → BadName p fault →
      Refused params phrase (.invalidParam p fault)
  | repeated {before after : List String} {p : String} : IsPhrase phrase → (∀ q ∈ params, IsWord q) →
      params = before ++ p :: after → before.Nodup → p ∈ before →
      Refused params phrase (.invalidParam p .repeated)

end Shape

theorem checkWords_eq_ok_iff_isPhrase {phrase : String} :
    checkWords phrase.toList = .ok () ↔ IsPhrase phrase := by
  rw [checkWords_eq_ok]
  constructor
  · intro h
    refine ⟨(Text.pieces ' ' phrase.toList).map String.ofList, ?_, ?_, ?_⟩
    · exact mt List.map_eq_nil_iff.1 (Text.pieces_ne_nil ' ' phrase.toList)
    · intro w hw
      obtain ⟨piece, hpiece, rfl⟩ := List.mem_map.1 hw
      exact h piece hpiece
    · exact (Text.intercalate_pieces phrase).symm
  · rintro ⟨words, hne, hwords, rfl⟩ piece hpiece
    rw [Text.pieces_intercalate hne hwords] at hpiece
    obtain ⟨w, hw, rfl⟩ := List.mem_map.1 hpiece
    rw [String.ofList_toList]
    exact hwords w hw

theorem find?_badChar {s : List Char} {c : Char} :
    s.find? (fun c => !isWordChar c && c != ' ') = some c ↔
      ∃ before after, s = before ++ c :: after ∧ (∀ d ∈ before, isWordChar d = true ∨ d = ' ') ∧
        isWordChar c = false ∧ c ≠ ' ' := by
  have hspelt (d : Char) : (!(!isWordChar d && d != ' ')) = true ↔ isWordChar d = true ∨ d = ' ' := by
    cases isWordChar d <;> simp
  have hbad : (!isWordChar c && c != ' ') = true ↔ isWordChar c = false ∧ c ≠ ' ' := by
    simp
  rw [List.find?_eq_some_iff_append, hbad]
  simp only [hspelt]
  constructor
  · rintro ⟨hc, before, after, hs, hbefore⟩
    exact ⟨before, after, hs, hbefore, hc⟩
  · rintro ⟨before, after, hs, hbefore, hc⟩
    exact ⟨hc, before, after, hs, hbefore⟩

theorem EdgeSpace.ne_nil {s : List Char} (h : EdgeSpace s) : s ≠ [] := by
  rintro rfl
  simp [EdgeSpace] at h

theorem DoubleSpace.ne_nil {s : List Char} (h : DoubleSpace s) : s ≠ [] := by
  rintro rfl
  simp at h

theorem checkWords_eq_error {s : List Char} {fault : WordFault} :
    checkWords s = .error fault ↔ BadText s fault := by
  constructor
  · intro h
    unfold checkWords at h
    split at h
    · rename_i hs
      obtain rfl := Except.error.inj h
      exact .empty hs
    · split at h
      · rename_i hedge
        obtain rfl := Except.error.inj h
        exact .edgeSpace hedge
      · rename_i hedge
        split at h
        · rename_i hdouble
          obtain rfl := Except.error.inj h
          exact .doubleSpace hedge (Text.occurs_iff.1 hdouble)
        · rename_i hdouble
          split at h
          · rename_i c hfind
            obtain rfl := Except.error.inj h
            obtain ⟨before, after, hs, hbefore, hc, hspace⟩ := find?_badChar.1 hfind
            exact .badChar hedge (mt Text.occurs_iff.2 hdouble) hs hbefore hc hspace
          · contradiction
  · intro h
    unfold checkWords
    cases h with
    | empty hs => rw [if_pos hs]
    | edgeSpace hedge => rw [if_neg hedge.ne_nil, if_pos hedge]
    | doubleSpace hedge hdouble =>
      rw [if_neg hdouble.ne_nil, if_neg hedge, if_pos (Text.occurs_iff.2 hdouble)]
    | badChar hedge hdouble hs hbefore hc hspace =>
      have hfind := find?_badChar.2 ⟨_, _, hs, hbefore, hc, hspace⟩
      have hnil : s ≠ [] := by
        rw [hs]
        exact List.append_ne_nil_of_right_ne_nil _ (List.cons_ne_nil _ _)
      rw [if_neg hnil, if_neg hedge, if_neg (mt Text.occurs_iff.1 hdouble), hfind]

theorem checkParam_eq_error {p : String} {fault : WordFault} :
    checkParam p = .error fault ↔ BadName p fault := by
  constructor
  · intro h
    unfold checkParam at h
    split at h
    · rename_i f hwords
      obtain rfl := Except.error.inj h
      exact .badText (checkWords_eq_error.1 hwords)
    · rename_i hwords
      split at h
      · rename_i hspace
        obtain rfl := Except.error.inj h
        exact .severalWords (checkWords_eq_ok_iff_isPhrase.1 hwords) hspace
      · contradiction
  · intro h
    unfold checkParam
    cases h with
    | badText htext => rw [checkWords_eq_error.2 htext]
    | severalWords hphrase hspace =>
      rw [checkWords_eq_ok_iff_isPhrase.2 hphrase]
      exact if_pos hspace

theorem BadName.not_isWord {p : String} {fault : WordFault} (h : BadName p fault) : ¬IsWord p := by
  intro hword
  have herror := checkParam_eq_error.2 h
  rw [checkParam_eq_ok.2 hword] at herror
  contradiction

theorem badParam?_eq_some {ps : List String} {p : String} {fault : WordFault} :
    badParam? ps = some (p, fault) ↔
      ∃ before after, ps = before ++ p :: after ∧ (∀ q ∈ before, IsWord q) ∧ BadName p fault := by
  induction ps with
  | nil => simp [badParam?]
  | cons q ps ih =>
    rw [exists_cut_cons, ← ih, badParam?]
    split
    · rename_i f hq
      have hbad := checkParam_eq_error.1 hq
      constructor
      · intro h
        obtain ⟨rfl, rfl⟩ := Prod.mk.inj (Option.some.inj h)
        exact .inl ⟨rfl, hbad⟩
      · rintro (⟨rfl, hp⟩ | ⟨hword, -⟩)
        · rw [Except.error.inj (hq.symm.trans (checkParam_eq_error.2 hp))]
        · exact absurd hword hbad.not_isWord
    · rename_i hq
      have hword := checkParam_eq_ok.1 hq
      constructor
      · intro h
        exact .inr ⟨hword, h⟩
      · rintro (⟨rfl, hp⟩ | ⟨-, h⟩)
        · exact absurd hword hp.not_isWord
        · exact h

theorem collectParams_eq_error {seen : WordSet} {ps : List String} {p : String} :
    collectParams seen ps = .error p ↔
      ∃ before after, ps = before ++ p :: after ∧ (seen.words ++ before).Nodup ∧
        p ∈ seen.words ++ before := by
  induction ps generalizing seen with
  | nil => simp [collectParams]
  | cons q ps ih =>
    rw [collectParams]
    split
    · rename_i hq
      constructor
      · intro h
        obtain rfl := Except.error.inj h
        exact ⟨[], ps, rfl, (List.append_nil _).symm ▸ seen.nodup_words, List.mem_append_left [] hq⟩
      · rintro ⟨_ | ⟨b, before⟩, after, hps, hnodup, hp⟩
        · rw [(List.cons.inj hps).1]
        · obtain ⟨rfl, -⟩ := List.cons.inj hps
          exact absurd rfl ((List.nodup_append.1 hnodup).2.2 q hq q List.mem_cons_self)
    · rename_i hq
      have hmoved (before : List String) :
          ((seen.insert q).words ++ before).Perm (seen.words ++ q :: before) :=
        ((WordSet.insert_words_perm hq).append_right before).trans List.perm_middle.symm
      rw [ih]
      constructor
      · rintro ⟨before, after, rfl, hnodup, hp⟩
        exact ⟨q :: before, after, rfl, (hmoved before).nodup_iff.1 hnodup, (hmoved before).mem_iff.1 hp⟩
      · rintro ⟨_ | ⟨b, before⟩, after, hps, hnodup, hp⟩
        · obtain ⟨rfl, rfl⟩ := List.cons.inj hps
          rw [List.append_nil] at hp
          exact absurd hp hq
        · obtain ⟨rfl, rfl⟩ := List.cons.inj hps
          exact ⟨before, after, rfl, (hmoved before).nodup_iff.2 hnodup, (hmoved before).mem_iff.2 hp⟩

namespace Shape

variable {clause : Clause} {params : List String} {phrase : String} {fault : WordFault} {p : String}

theorem make_of_badPhrase (h : checkWords phrase.toList = .error fault) :
    make clause params phrase = .error (.invalidPhrase phrase fault) := by
  unfold make
  split
  · rename_i f hf
    rw [Except.error.inj (h.symm.trans hf)]
  · rename_i hok
    exact absurd (h.symm.trans hok) nofun

theorem make_of_badParam (hphrase : checkWords phrase.toList = .ok ())
    (h : badParam? params = some (p, fault)) :
    make clause params phrase = .error (.invalidParam p fault) := by
  unfold make
  split
  · rename_i f hf
    exact absurd (hphrase.symm.trans hf) nofun
  · split
    · rename_i q f hq
      obtain ⟨rfl, rfl⟩ := Prod.mk.inj (Option.some.inj (h.symm.trans hq))
      rfl
    · rename_i hnone
      exact absurd (h.symm.trans hnone) nofun

theorem make_of_repeated (hphrase : checkWords phrase.toList = .ok ()) (hparams : badParam? params = none)
    (h : collectParams .empty params = .error p) :
    make clause params phrase = .error (.invalidParam p .repeated) := by
  unfold make
  split
  · rename_i f hf
    exact absurd (hphrase.symm.trans hf) nofun
  · split
    · rename_i q f hq
      exact absurd (hparams.symm.trans hq) nofun
    · split
      · rename_i q hq
        rw [Except.error.inj (h.symm.trans hq)]
      · rename_i set hset
        exact absurd (h.symm.trans hset) nofun

theorem exists_make_eq_ok :
    (∃ s, make clause params phrase = .ok s) ↔
      IsPhrase phrase ∧ (∀ p ∈ params, IsWord p) ∧ params.Nodup := by
  constructor
  · rintro ⟨s, hs⟩
    obtain ⟨-, hperm, rfl⟩ := make_eq_ok.1 hs
    refine ⟨⟨s.1.phrase, s.2.phrase_ne_nil, s.2.phrase_words, rfl⟩, ?_, ?_⟩
    · intro p hp
      exact s.2.params_words p (hperm.mem_iff.1 hp)
    · exact hperm.nodup_iff.2 s.1.params.nodup_words
  · rintro ⟨⟨words, hne, hwords, rfl⟩, hparams, hnodup⟩
    have hperm : params.Perm (WordSet.ofList params).words :=
      (List.perm_ext_iff_of_nodup hnodup (WordSet.nodup_words _)).2 fun _ => WordSet.mem_ofList.symm
    have hvalid : Valid ⟨clause, WordSet.ofList params, words⟩ :=
      ⟨hne, hwords, fun p hp => hparams p (WordSet.mem_ofList.1 hp)⟩
    exact ⟨⟨_, hvalid⟩, make_eq_ok.2 ⟨rfl, hperm, rfl⟩⟩

theorem make_eq_error {e : RegistryError} :
    make clause params phrase = .error e ↔ Refused params phrase e := by
  constructor
  · intro h
    cases hphrase : checkWords phrase.toList with
    | error fault =>
      obtain rfl := Except.error.inj ((make_of_badPhrase hphrase).symm.trans h)
      refine .badPhrase ?_ (checkWords_eq_error.1 hphrase)
      intro hgood
      rw [checkWords_eq_ok_iff_isPhrase.2 hgood] at hphrase
      contradiction
    | ok =>
      have hgood := checkWords_eq_ok_iff_isPhrase.1 hphrase
      cases hparams : badParam? params with
      | some bad =>
        obtain rfl := Except.error.inj ((make_of_badParam hphrase hparams).symm.trans h)
        obtain ⟨before, after, hcut, hbefore, hp⟩ := badParam?_eq_some.1 hparams
        exact .badParam hgood hcut hbefore hp.not_isWord hp
      | none =>
        cases hset : collectParams .empty params with
        | error p =>
          obtain rfl := Except.error.inj ((make_of_repeated hphrase hparams hset).symm.trans h)
          obtain ⟨before, after, hcut, hnodup, hp⟩ := collectParams_eq_error.1 hset
          exact .repeated hgood (badParam?_eq_none.1 hparams) hcut hnodup hp
        | ok set =>
          -- No check fails, so these are arguments of the grammar.
          have hperm := collectParams_eq_ok.1 hset
          obtain ⟨s, hs⟩ := exists_make_eq_ok.2
            ⟨hgood, badParam?_eq_none.1 hparams, hperm.nodup_iff.2 set.nodup_words⟩
          exact absurd (hs.symm.trans h) nofun
  · intro h
    cases h with
    | badPhrase _ hfault => exact make_of_badPhrase (checkWords_eq_error.2 hfault)
    | badParam hphrase hcut hbefore _ hp =>
      exact make_of_badParam (checkWords_eq_ok_iff_isPhrase.2 hphrase)
        (badParam?_eq_some.2 ⟨_, _, hcut, hbefore, hp⟩)
    | repeated hphrase hwords hcut hnodup hp =>
      exact make_of_repeated (checkWords_eq_ok_iff_isPhrase.2 hphrase) (badParam?_eq_none.2 hwords)
        (collectParams_eq_error.2 ⟨_, _, hcut, hnodup, hp⟩)

theorem eq_iff_of_made {clause' : Clause} {params' : List String} {phrase' : String}
    {s t : { s : Shape // s.Valid }} (hs : make clause params phrase = .ok s)
    (ht : make clause' params' phrase' = .ok t) :
    s.1 = t.1 ↔ clause = clause' ∧ params.Perm params' ∧ phrase = phrase' := by
  obtain ⟨rfl, hperm, rfl⟩ := make_eq_ok.1 hs
  obtain ⟨rfl, hperm', rfl⟩ := make_eq_ok.1 ht
  constructor
  · intro h
    rw [h] at hperm ⊢
    exact ⟨rfl, hperm.trans hperm'.symm, rfl⟩
  · rintro ⟨hclause, hparams, hphrase⟩
    have hagain : make s.1.clause params s.1.phraseText = .ok t :=
      make_eq_ok.2 ⟨hclause, hparams.trans hperm', hphrase⟩
    exact congrArg Subtype.val (Except.ok.inj (hs.symm.trans hagain))

/-- A shape is made exactly from a phrase and from parameters that are words, none of them twice. It has the
phrase as it was given and the parameters as a set. Other arguments have one error: for the phrase whatever the
parameters are, else for the first parameter that is no word, else for the first one that comes again. -/
theorem make_grammar (clause : Clause) (params : List String) (phrase : String) :
    ((∃ s, make clause params phrase = .ok s) ↔
      IsPhrase phrase ∧ (∀ p ∈ params, IsWord p) ∧ params.Nodup) ∧
    (∀ s, make clause params phrase = .ok s →
      s.1.clause = clause ∧ s.1.phraseText = phrase ∧
      (∀ w ∈ s.1.phrase, w ≠ "" ∧ ' ' ∉ w.toList) ∧ (∀ p, p ∈ s.1.params ↔ p ∈ params) ∧
      ∀ clause' params' phrase' t, make clause' params' phrase' = .ok t →
        (s.1 = t.1 ↔ clause = clause' ∧ params.Perm params' ∧ phrase = phrase')) ∧
    ∀ e, make clause params phrase = .error e ↔ Refused params phrase e := by
  refine ⟨exists_make_eq_ok, ?_, fun e => make_eq_error⟩
  intro s hs
  obtain ⟨hclause, hperm, hphrase⟩ := make_eq_ok.1 hs
  refine ⟨hclause.symm, hphrase.symm, ?_, fun p => hperm.mem_iff.symm, ?_⟩
  · intro w hw
    have hword := s.2.phrase_words w hw
    refine ⟨?_, hword.space_not_mem⟩
    rintro rfl
    exact hword.1 rfl
  · intro clause' params' phrase' t ht
    exact eq_iff_of_made hs ht

def stampShape : Shape := ⟨.connecting, ⟨["a_1", "to"], by decide⟩, ["send", "and-2"]⟩

theorem make_grammar_stamp :
    let s : { s : Shape // s.Valid } := ⟨stampShape, by decide⟩
    make .connecting ["to", "a_1"] "send and-2" = .ok s ∧
    make .connecting ["a_1", "to"] "send and-2" = .ok s ∧
    s.1.phraseText = "send and-2" ∧ (∀ w ∈ s.1.phrase, w ≠ "" ∧ ' ' ∉ w.toList) ∧
    (∀ p, p ∈ s.1.params ↔ p ∈ ["to", "a_1"]) ∧ ["to", "a_1"].Perm ["a_1", "to"] ∧
    Refused ["x", "two words", "x"] "send and-2" (.invalidParam "two words" .severalWords) := by
  intro s
  have hs : make .connecting ["to", "a_1"] "send and-2" = .ok s :=
    make_eq_ok.2 ⟨rfl, .swap _ _ _, by decide⟩
  have ht : make .connecting ["a_1", "to"] "send and-2" = .ok s :=
    make_eq_ok.2 ⟨rfl, .refl _, by decide⟩
  obtain ⟨-, hmade, -⟩ := make_grammar .connecting ["to", "a_1"] "send and-2"
  obtain ⟨-, hphrase, hwords, hparams, hequal⟩ := hmade s hs
  obtain ⟨-, hperm, -⟩ := (hequal _ _ _ s ht).1 rfl
  obtain ⟨-, -, hrefused⟩ := make_grammar .absent ["x", "two words", "x"] "send and-2"
  exact ⟨hs, ht, hphrase, hwords, hparams, hperm, (hrefused _).1 (by decide)⟩

end Shape

end Rider
