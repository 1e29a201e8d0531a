import Mathlib.Data.List.Induction
import Rider.Proofs.Lists
import Rider.Proofs.Statement.Resolution
import Rider.Report

set_option autoImplicit false

namespace Rider

/-- `listed` has the members of `met`, each once, in the order in which they are met first. -/
structure ListsOnce {α : Type} [DecidableEq α] (met listed : List α) : Prop where
  mem : ∀ x, x ∈ listed ↔ x ∈ met
  inOrder : listed.Pairwise fun a b => met.idxOf a < met.idxOf b

/-- `listed` has the words of `met` in ascending order, each once. -/
structure ListsSorted (met listed : List String) : Prop where
  mem : ∀ w, w ∈ listed ↔ w ∈ met
  ascending : listed.Pairwise (· < ·)

namespace Mismatch

def wrongRaw? : Mismatch → Option String
  | .wrong t _ => some t.raw
  | _ => none

def wordsFor (raw : String) : Mismatch → List String
  | .wrong t expected => if t.raw = raw then expected else []
  | _ => []

def missingWords : Mismatch → List String
  | .missing expected _ _ => expected
  | _ => []

def extraRaw? : Mismatch → Option String
  | .extra t => some t.raw
  | _ => none

theorem wordsFor_eq_nil {m : Mismatch} {raw : String} (h : m.wrongRaw? ≠ some raw) :
    m.wordsFor raw = [] := by
  cases m with
  | wrong t expected => exact if_neg fun heq => h (congrArg some heq)
  | missing expected line column => rfl
  | extra t => rfl

end Mismatch

section
variable {α : Type} [DecidableEq α] {met listed : List α} {x : α}

theorem addNew_of_mem (h : x ∈ listed) : addNew listed x = listed := if_pos h

theorem mem_addNew {y : α} : y ∈ addNew listed x ↔ y ∈ listed ∨ y = x := by
  by_cases h : x ∈ listed
  · rw [addNew_of_mem h]
    exact ⟨.inl, fun hy => hy.elim id fun heq => heq ▸ h⟩
  · rw [addNew, if_neg h, List.mem_append, List.mem_singleton]

theorem ListsOnce.nodup (h : ListsOnce met listed) : listed.Nodup := by
  refine h.inOrder.imp ?_
  rintro a b hlt rfl
  exact Nat.lt_irrefl _ hlt

theorem ListsOnce.next (h : ListsOnce met listed) (x : α) :
    ListsOnce (met ++ [x]) (addNew listed x) := by
  have hold : ∀ a ∈ listed, (met ++ [x]).idxOf a = met.idxOf a := fun a ha =>
    List.idxOf_append_of_mem ((h.mem a).1 ha)
  have horder : listed.Pairwise fun a b => (met ++ [x]).idxOf a < (met ++ [x]).idxOf b := by
    refine h.inOrder.imp_of_mem ?_
    intro a b ha hb hlt
    rwa [hold a ha, hold b hb]
  constructor
  · intro y
    rw [mem_addNew, h.mem, List.mem_append, List.mem_singleton]
  · by_cases hx : x ∈ listed
    · rwa [addNew_of_mem hx]
    · rw [addNew, if_neg hx, List.pairwise_append]
      refine ⟨horder, List.pairwise_singleton _ _, ?_⟩
      intro a ha b hb
      obtain rfl := List.mem_singleton.1 hb
      have hnew : b ∉ met := mt (h.mem b).2 hx
      rw [hold a ha, List.idxOf_append_of_notMem hnew]
      exact Nat.lt_of_lt_of_le (List.idxOf_lt_length_of_mem ((h.mem a).1 ha)) (Nat.le_add_right _ _)

end

namespace WordSet

theorem foldl_insert_of_subset {ws : List String} {s : WordSet} (h : ∀ w ∈ ws, w ∈ s) :
    ws.foldl (fun s w => s.insert w) s = s := by
  refine ext_mem fun w => ?_
  rw [mem_foldl_insert]
  exact or_iff_left_of_imp (h w)

end WordSet

section
variable {raw : String} {expected : List String} {wrong : List (String × WordSet)}

theorem map_fst_addWrong :
    (addWrong raw expected wrong).map Prod.fst = addNew (wrong.map Prod.fst) raw := by
  induction wrong with
  | nil => rfl
  | cons p wrong ih =>
    obtain ⟨r, words⟩ := p
    by_cases hr : r = raw
    · subst hr
      simp [addWrong, addNew]
    · have hraw : raw ≠ r := Ne.symm hr
      rw [addWrong, if_neg hr, List.map_cons, ih, List.map_cons]
      by_cases hmem : raw ∈ wrong.map Prod.fst <;> simp [addNew, hraw, hmem]

/-- The words of one raw text grow by those expected, and those of the others stay. Only the first entry of a
raw text is changed, so there must be no second. -/
theorem mem_words_addWrong (words : String → List String) (hnodup : (wrong.map Prod.fst).Nodup)
    (hwrong : ∀ p ∈ wrong, ∀ w, w ∈ p.2 ↔ w ∈ words p.1)
    (hnew : raw ∉ wrong.map Prod.fst → words raw = []) :
    ∀ p ∈ addWrong raw expected wrong, ∀ w,
      w ∈ p.2 ↔ w ∈ words p.1 ∨ raw = p.1 ∧ w ∈ expected := by
  induction wrong with
  | nil =>
    intro p hp w
    obtain rfl := List.mem_singleton.1 hp
    simp [WordSet.mem_ofList, hnew List.not_mem_nil]
  | cons q wrong ih =>
    obtain ⟨r, known⟩ := q
    obtain ⟨hfirst, hrest⟩ := List.forall_mem_cons.1 hwrong
    obtain ⟨hr, hnodup⟩ := List.nodup_cons.1 hnodup
    intro p hp w
    by_cases heq : r = raw
    · subst heq
      rw [addWrong, if_pos rfl] at hp
      rcases List.mem_cons.1 hp with rfl | hp
      · rw [WordSet.mem_foldl_insert, hfirst]
        simp
      · have hname : p.1 ∈ wrong.map Prod.fst := List.mem_map_of_mem hp
        have hne : r ≠ p.1 := fun heq => hr (heq.symm ▸ hname)
        rw [hrest p hp]
        simp [hne]
    · rw [addWrong, if_neg heq] at hp
      rcases List.mem_cons.1 hp with rfl | hp
      · rw [hfirst]
        simp [Ne.symm heq]
      · refine ih hnodup hrest ?_ p hp w
        intro hfresh
        exact hnew (List.not_mem_cons_of_ne_of_not_mem (Ne.symm heq) hfresh)

theorem addWrong_of_known (hmem : raw ∈ wrong.map Prod.fst)
    (hknown : ∀ p ∈ wrong, p.1 = raw → ∀ w ∈ expected, w ∈ p.2) :
    addWrong raw expected wrong = wrong := by
  induction wrong with
  | nil => exact absurd hmem List.not_mem_nil
  | cons q wrong ih =>
    obtain ⟨r, known⟩ := q
    obtain ⟨hfirst, hrest⟩ := List.forall_mem_cons.1 hknown
    by_cases heq : r = raw
    · rw [addWrong, if_pos heq, WordSet.foldl_insert_of_subset (hfirst heq)]
    · have htail : raw ∈ wrong.map Prod.fst := List.mem_of_ne_of_mem (Ne.symm heq) hmem
      rw [addWrong, if_neg heq, ih htail hrest]

end

namespace Findings

/-- The findings `f` tell what the mismatches `ms` say. -/
structure Tells (ms : List Mismatch) (f : Findings) : Prop where
  spans : ListsOnce (ms.map Mismatch.span) f.spans
  raws : ListsOnce (ms.filterMap Mismatch.wrongRaw?) (f.wrong.map Prod.fst)
  words : ∀ p ∈ f.wrong, ∀ w, w ∈ p.2 ↔ w ∈ ms.flatMap (Mismatch.wordsFor p.1)
  missing : ∀ w, w ∈ f.missing ↔ w ∈ ms.flatMap Mismatch.missingWords
  extra : ListsOnce (ms.filterMap Mismatch.extraRaw?) f.extra

theorem tells_empty : Tells [] empty where
  spans := ⟨fun _ => Iff.rfl, List.Pairwise.nil⟩
  raws := ⟨fun _ => Iff.rfl, List.Pairwise.nil⟩
  words := List.forall_mem_nil _
  missing := fun _ => Iff.rfl
  extra := ⟨fun _ => Iff.rfl, List.Pairwise.nil⟩

variable {ms : List Mismatch} {f : Findings}

theorem Tells.wordsFor_eq_nil (h : Tells ms f) {raw : String} (hraw : raw ∉ f.wrong.map Prod.fst) :
    ms.flatMap (Mismatch.wordsFor raw) = [] := by
  refine List.flatMap_eq_nil_iff.2 fun m hm => Mismatch.wordsFor_eq_nil fun heq => hraw ?_
  exact (h.raws.mem raw).2 (List.mem_filterMap.2 ⟨m, hm, heq⟩)

theorem Tells.next (h : Tells ms f) (m : Mismatch) : Tells (ms ++ [m]) (f.add m) := by
  have hspans : ListsOnce ((ms ++ [m]).map Mismatch.span) (addNew f.spans m.span) := by
    rw [List.map_append]
    exact h.spans.next m.span
  cases m with
  | wrong t expected =>
    refine ⟨hspans, ?_, ?_, ?_, ?_⟩
    · change ListsOnce _ ((addWrong t.raw expected f.wrong).map Prod.fst)
      rw [List.filterMap_append, map_fst_addWrong]
      exact h.raws.next t.raw
    · intro p hp w
      rw [mem_words_addWrong (fun raw => ms.flatMap (Mismatch.wordsFor raw)) h.raws.nodup h.words
        h.wordsFor_eq_nil p hp w, List.flatMap_append, List.mem_append, List.flatMap_singleton,
        Mismatch.wordsFor]
      by_cases hraw : t.raw = p.1 <;> simp [hraw]
    · rw [flatMap_concat_of_nil rfl]
      exact h.missing
    · rw [filterMap_concat_of_none rfl]
      exact h.extra
  | missing expected line column =>
    refine ⟨hspans, ?_, ?_, ?_, ?_⟩
    · rw [filterMap_concat_of_none rfl]
      exact h.raws
    · intro p hp
      rw [flatMap_concat_of_nil rfl]
      exact h.words p hp
    · intro w
      change w ∈ expected.foldl (fun s w => s.insert w) f.missing ↔ _
      rw [WordSet.mem_foldl_insert, h.missing, List.flatMap_append, List.mem_append,
        List.flatMap_singleton, Mismatch.missingWords]
    · rw [filterMap_concat_of_none rfl]
      exact h.extra
  | extra t =>
    refine ⟨hspans, ?_, ?_, ?_, ?_⟩
    · rw [filterMap_concat_of_none rfl]
      exact h.raws
    · intro p hp
      rw [flatMap_concat_of_nil rfl]
      exact h.words p hp
    · rw [flatMap_concat_of_nil rfl]
      exact h.missing
    · rw [List.filterMap_append]
      exact h.extra.next t.raw

theorem tells_ofMismatches (ms : List Mismatch) : Tells ms (ofMismatches ms) := by
  induction ms using List.reverseRecOn with
  | nil => exact tells_empty
  | append_singleton ms m ih =>
    rw [ofMismatches, List.foldl_append]
    exact ih.next m

example : (ofMismatches [.wrong ⟨"x", "x", 1, 8, 9⟩ ["c"], .extra ⟨"y", "y", 1, 12, 13⟩,
    .wrong ⟨"x", "x", 1, 10, 11⟩ ["a", "c"], .extra ⟨"y", "y", 1, 14, 15⟩]).lines =
      ["wrong: 'x' may be 'a', 'c'", "extra: 'y'"] := by
  decide

theorem Tells.missing_eq_nil (h : Tells ms f) :
    f.missing.words = [] ↔ ¬ ∃ m ∈ ms, m.missingWords ≠ [] := by
  have hnil : f.missing.words = [] ↔ ms.flatMap Mismatch.missingWords = [] := by
    simp only [List.eq_nil_iff_forall_not_mem]
    exact forall_congr' fun w => not_congr (h.missing w)
  rw [hnil, List.flatMap_eq_nil_iff]
  push Not
  rfl

theorem Tells.extra_eq_nil (h : Tells ms f) : f.extra = [] ↔ ¬ ∃ m ∈ ms, m.extraRaw? ≠ none := by
  have hnil : f.extra = [] ↔ ms.filterMap Mismatch.extraRaw? = [] := by
    simp only [List.eq_nil_iff_forall_not_mem, h.extra.mem]
  rw [hnil, List.filterMap_eq_nil_iff]
  push Not
  rfl

theorem Tells.add_of_mem (h : Tells ms f) {m : Mismatch} (hm : m ∈ ms) : f.add m = f := by
  have hspans : addNew f.spans m.span = f.spans :=
    addNew_of_mem ((h.spans.mem _).2 (List.mem_map_of_mem hm))
  cases m with
  | wrong t expected =>
    have hraw : t.raw ∈ f.wrong.map Prod.fst :=
      (h.raws.mem _).2 (List.mem_filterMap.2 ⟨_, hm, rfl⟩)
    have hwrong : addWrong t.raw expected f.wrong = f.wrong := by
      refine addWrong_of_known hraw fun p hp heq w hw => ?_
      have hword : w ∈ (Mismatch.wrong t expected).wordsFor p.1 := by
        rwa [Mismatch.wordsFor, if_pos heq.symm]
      exact (h.words p hp w).2 (List.mem_flatMap.2 ⟨_, hm, hword⟩)
    change { f with spans := addNew f.spans _, wrong := addWrong t.raw expected f.wrong } = f
    rw [hspans, hwrong]
  | missing expected line column =>
    have hmissing : expected.foldl (fun s w => s.insert w) f.missing = f.missing :=
      WordSet.foldl_insert_of_subset fun w hw => (h.missing w).2 (List.mem_flatMap.2 ⟨_, hm, hw⟩)
    change { f with spans := addNew f.spans _, missing := expected.foldl _ f.missing } = f
    rw [hspans, hmissing]
  | extra t =>
    have hextra : addNew f.extra t.raw = f.extra :=
      addNew_of_mem ((h.extra.mem _).2 (List.mem_filterMap.2 ⟨_, hm, rfl⟩))
    change { f with spans := addNew f.spans _, extra := addNew f.extra t.raw } = f
    rw [hspans, hextra]

theorem Tells.foldl_add (h : Tells ms f) {again : List Mismatch} (hmem : ∀ m ∈ again, m ∈ ms) :
    again.foldl add f = f := by
  induction again with
  | nil => rfl
  | cons m again ih =>
    obtain ⟨hm, hmem⟩ := List.forall_mem_cons.1 hmem
    rw [List.foldl_cons, h.add_of_mem hm, ih hmem]

theorem ofMismatches_again {again : List Mismatch} (hmem : ∀ m ∈ again, m ∈ ms)
    (later : List Mismatch) :
    ofMismatches (ms ++ (again ++ later)) = ofMismatches (ms ++ later) := by
  have hagain : again.foldl add (ofMismatches ms) = ofMismatches ms :=
    (tells_ofMismatches ms).foldl_add hmem
  simp only [ofMismatches, List.foldl_append] at hagain ⊢
  rw [hagain]

end Findings

theorem spanOrder_iff {s t : TextSpan} :
    spanOrder s t = true ↔ s.1 < t.1 ∨ s.1 = t.1 ∧ s.2 ≤ t.2 := by
  simp [spanOrder]

theorem sorted_pairwise {spans : List TextSpan} (h : spans.Nodup) :
    (spans.mergeSort spanOrder).Pairwise fun s t => s.1 < t.1 ∨ s.1 = t.1 ∧ s.2 < t.2 := by
  have hsorted : (spans.mergeSort spanOrder).Pairwise fun s t => spanOrder s t = true := by
    refine List.pairwise_mergeSort ?_ ?_ spans
    · intro a b c
      simp only [spanOrder_iff]
      omega
    · intro a b
      rw [Bool.or_eq_true, spanOrder_iff, spanOrder_iff]
      omega
  have hnodup : (spans.mergeSort spanOrder).Nodup := (List.mergeSort_perm spans _).nodup_iff.2 h
  refine (hsorted.and hnodup).imp ?_
  intro s t hst
  have hle := spanOrder_iff.1 hst.1
  have hne : ¬ (s.1 = t.1 ∧ s.2 = t.2) := fun heq => hst.2 (Prod.ext heq.1 heq.2)
  omega

end Rider
