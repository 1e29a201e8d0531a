import Rider.Proofs.Statement.Resolution

set_option autoImplicit false

namespace Rider

theorem Text.eq_or_mem_piece (sep : Char) {c : Char} {s : List Char} (hc : c ∈ s) :
    c = sep ∨ ∃ w ∈ pieces sep s, c ∈ w := by
  induction s with
  | nil => contradiction
  | cons d s ih =>
    rw [pieces]
    split
    · rename_i hd
      rcases List.mem_cons.1 hc with rfl | hc
      · exact .inl hd
      · rcases ih hc with hsep | ⟨w, hw, hcw⟩
        · exact .inl hsep
        · exact .inr ⟨w, List.mem_cons_of_mem _ hw, hcw⟩
    · obtain ⟨l, ls, hpieces⟩ := List.exists_cons_of_ne_nil (pieces_ne_nil sep s)
      rw [hpieces] at ih ⊢
      rcases List.mem_cons.1 hc with rfl | hc
      · exact .inr ⟨c :: l, List.mem_cons_self, List.mem_cons_self⟩
      · rcases ih hc with hsep | ⟨w, hw, hcw⟩
        · exact .inl hsep
        · rcases List.mem_cons.1 hw with rfl | hw
          · exact .inr ⟨d :: w, List.mem_cons_self, List.mem_cons_of_mem d hcw⟩
          · exact .inr ⟨w, List.mem_cons_of_mem _ hw, hcw⟩

theorem Text.intercalate_pieces (s : String) :
    String.intercalate " " ((pieces ' ' s.toList).map String.ofList) = s := by
  rw [← String.toList_inj, String.toList_intercalate, List.map_map]
  simp only [Function.comp_def, String.toList_ofList, List.map_id']
  rw [pieces_eq_splitOn]
  exact List.intercalate_splitOn ' '

/-- A text is accepted exactly if what stands between its spaces are words. -/
theorem checkWords_eq_ok {s : List Char} :
    checkWords s = .ok () ↔ ∀ w ∈ Text.pieces ' ' s, IsWord (String.ofList w) := by
  refine ⟨fun h w hw => isWord_of_checkWords h hw, fun hwords => ?_⟩
  have hgap : ¬(s = [] ∨ s.head? = some ' ' ∨ s.getLast? = some ' ' ∨ Text.occurs [' ', ' '] s = true) :=
    mt Text.nil_mem_pieces_iff.2 fun hmem => (hwords [] hmem).1 rfl
  have hedge : ¬(s.head? = some ' ' ∨ s.getLast? = some ' ') := by tauto
  have hdouble : ¬Text.occurs [' ', ' '] s = true := by tauto
  have hchars : s.find? (fun c => !isWordChar c && c != ' ') = none := by
    refine List.find?_eq_none.2 fun c hc => ?_
    rcases Text.eq_or_mem_piece ' ' hc with rfl | ⟨w, hw, hcw⟩
    · decide
    · have hword : isWordChar c = true := (hwords w hw).2 c (by rwa [String.toList_ofList])
      simp [hword]
  simp only [checkWords, if_neg (not_or.1 hgap).1, if_neg hedge, if_neg hdouble, hchars]

theorem checkParam_eq_ok {p : String} : checkParam p = .ok () ↔ IsWord p := by
  refine ⟨isWord_of_checkParam, fun h => ?_⟩
  have hpieces : Text.pieces ' ' p.toList = [p.toList] := pieces_of_not_mem h.space_not_mem
  have hwords : checkWords p.toList = .ok () :=
    checkWords_eq_ok.2 (by simpa [hpieces] using h)
  rw [checkParam, hwords]
  exact if_neg h.space_not_mem

theorem badParam?_eq_none {ps : List String} : badParam? ps = none ↔ ∀ p ∈ ps, IsWord p := by
  refine ⟨isWord_of_badParam?_eq_none, fun h => ?_⟩
  induction ps with
  | nil => rfl
  | cons p ps ih =>
    obtain ⟨hp, hps⟩ := List.forall_mem_cons.1 h
    rw [badParam?, checkParam_eq_ok.2 hp]
    exact ih hps

theorem WordSet.insert_words_perm {w : String} {s : WordSet} (h : w ∉ s) :
    (s.insert w).words.Perm (w :: s.words) := by
  refine (List.perm_ext_iff_of_nodup (nodup_words _) (List.nodup_cons.2 ⟨h, s.nodup_words⟩)).2 ?_
  intro x
  exact mem_insert.trans List.mem_cons.symm

theorem collectParams_eq_ok {seen set : WordSet} {ps : List String} :
    collectParams seen ps = .ok set ↔ (seen.words ++ ps).Perm set.words := by
  induction ps generalizing seen with
  | nil =>
    rw [collectParams, List.append_nil, Except.ok.injEq]
    exact ⟨fun h => h ▸ List.Perm.refl _, WordSet.eq_of_perm⟩
  | cons p ps ih =>
    rw [collectParams]
    split
    · rename_i hp
      constructor
      · intro h
        contradiction
      · intro h
        have hnodup := h.nodup_iff.2 set.nodup_words
        exact absurd rfl ((List.nodup_append.1 hnodup).2.2 p hp p List.mem_cons_self)
    · rename_i hp
      have hmoved : ((seen.insert p).words ++ ps).Perm (seen.words ++ p :: ps) :=
        ((WordSet.insert_words_perm hp).append_right ps).trans List.perm_middle.symm
      rw [ih]
      exact ⟨hmoved.symm.trans, hmoved.trans⟩

/-- The arguments that make a shape. -/
theorem Shape.make_eq_ok {clause : Clause} {params : List String} {phrase : String}
    {s : { s : Shape // s.Valid }} :
    make clause params phrase = .ok s ↔
      clause = s.1.clause ∧ params.Perm s.1.params.words ∧ phrase = s.1.phraseText := by
  constructor
  · intro h
    unfold make at h
    repeat' split at h
    all_goals try contradiction
    rename_i hwords hparams set hset
    obtain rfl := Except.ok.inj h
    exact ⟨rfl, collectParams_eq_ok.1 hset, (Text.intercalate_pieces phrase).symm⟩
  · rintro ⟨rfl, hperm, rfl⟩
    have hphrase := Shape.pieces_phraseText s.2
    have hwords : checkWords s.1.phraseText.toList = .ok () :=
      checkWords_eq_ok.2 fun w hw => s.2.phrase_words _ (hphrase ▸ List.mem_map_of_mem hw)
    have hparams : badParam? params = none :=
      badParam?_eq_none.2 fun p hp => s.2.params_words p (hperm.mem_iff.1 hp)
    have hset : collectParams .empty params = .ok s.1.params := collectParams_eq_ok.2 hperm
    unfold make
    split
    · rename_i e he
      exact absurd (hwords.symm.trans he) nofun
    · split
      · rename_i p e hbad
        exact absurd (hparams.symm.trans hbad) nofun
      · split
        · rename_i p hagain
          exact absurd (hset.symm.trans hagain) nofun
        · rename_i set hmade
          obtain rfl := Except.ok.inj (hset.symm.trans hmade)
          exact congrArg Except.ok (Subtype.ext (by simp only [hphrase]))

end Rider
