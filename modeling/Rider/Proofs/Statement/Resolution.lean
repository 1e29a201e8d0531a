import Mathlib.Data.List.Nodup
import Mathlib.Tactic.Tauto
import Rider.Proofs.Members
import Rider.Proofs.Reading.Unambiguous

set_option autoImplicit false

namespace Rider

theorem Text.pieces_eq_splitOn (sep : Char) (s : List Char) : pieces sep s = s.splitOn sep := by
  induction s with
  | nil => rfl
  | cons c s ih =>
    have hfirst : onFirstLine c (pieces sep s) = (pieces sep s).modifyHead (List.cons c) := by
      cases h : pieces sep s with
      | nil => exact absurd h (pieces_ne_nil sep s)
      | cons l ls => rfl
    rw [List.splitOn, List.splitOnP_cons_eq_if_modifyHead, ← List.splitOn, ← ih, ← hfirst, pieces]
    simp only [beq_iff_eq]

theorem IsWord.space_not_mem {w : String} (h : IsWord w) : ' ' ∉ w.toList := by
  intro hs
  exact absurd (h.2 ' ' hs) (by decide)

theorem Text.pieces_intercalate {words : List String} (hne : words ≠ []) (hwords : ∀ w ∈ words, IsWord w) :
    pieces ' ' (String.intercalate " " words).toList = words.map String.toList := by
  have hspaces : ∀ l ∈ words.map String.toList, ' ' ∉ l := by
    intro l hl
    obtain ⟨w, hw, rfl⟩ := List.mem_map.1 hl
    exact (hwords w hw).space_not_mem
  have htext : (String.intercalate " " words).toList = [' '].intercalate (words.map String.toList) :=
    String.toList_intercalate
  rw [htext, pieces_eq_splitOn, List.splitOn_intercalate ' ' hspaces (mt List.map_eq_nil_iff.1 hne)]

theorem Shape.pieces_phraseText {s : Shape} (hs : s.Valid) :
    (Text.pieces ' ' s.phraseText.toList).map String.ofList = s.phrase := by
  rw [phraseText, Text.pieces_intercalate hs.phrase_ne_nil hs.phrase_words, List.map_map]
  simp [Function.comp_def]

namespace WordSet

theorem mem_foldl_insert {ws : List String} {s : WordSet} {x : String} :
    x ∈ ws.foldl (fun s w => s.insert w) s ↔ x ∈ s ∨ x ∈ ws := by
  induction ws generalizing s with
  | nil => simp
  | cons w ws ih =>
    rw [List.foldl_cons, ih, mem_insert, List.mem_cons]
    tauto

theorem mem_ofList {ws : List String} {x : String} : x ∈ ofList ws ↔ x ∈ ws := by
  rw [ofList, mem_foldl_insert]
  exact or_iff_right (not_mem_empty x)

theorem ext_mem {s t : WordSet} (h : ∀ w, w ∈ s ↔ w ∈ t) : s = t :=
  eq_of_perm ((List.perm_ext_iff_of_nodup (nodup_words s) (nodup_words t)).2 h)

theorem ofList_perm {ws : List String} {s : WordSet} (h : ws.Perm s.words) : ofList ws = s :=
  ext_mem fun _ => mem_ofList.trans h.mem_iff

end WordSet

theorem bindAll_eq {bound : Members String} {bs : List (String × Token)}
    (hnodup : (bs.map Prod.fst).Nodup) (hfresh : ∀ b ∈ bs, bound.get? b.1 = none) :
    bindAll bound bs =
      .ok (Members.putAll (bs.map fun b => (b.1, unquote b.2.raw)) bound) := by
  induction bs generalizing bound with
  | nil => rfl
  | cons b bs ih =>
    obtain ⟨hb, hbs⟩ := List.nodup_cons.1 hnodup
    have later : ∀ c ∈ bs, (bound.put b.1 (unquote b.2.raw)).get? c.1 = none := by
      intro c hc
      have hne : c.1 ≠ b.1 := fun heq => hb (heq ▸ List.mem_map_of_mem hc)
      rw [Members.get?_put, if_neg hne]
      exact hfresh c (List.mem_cons_of_mem b hc)
    rw [bindAll, hfresh b List.mem_cons_self]
    exact ih hbs later

theorem Shape.bindings_perm {s : Shape} {line : TokenLine} (h : (s.reading line).mismatches = []) :
    ((s.reading line).bindings.map Prod.fst).Perm s.params.words := by
  obtain ⟨target, bindings, output, hspelt⟩ := Shape.reading_clean_iff.1 h
  rw [Shape.spelt_iff.1 hspelt]
  obtain ⟨-, -, -, -, -, -, hperm, -⟩ := hspelt
  exact hperm

namespace Reading

theorem bindAll_bindings {c : Reading} (h : (c.bindings.map Prod.fst).Perm c.shape.params.words) :
    ∃ bound, bindAll [] c.bindings = .ok bound ∧ bound.names.Perm c.shape.params.words := by
  have hnodup : (c.bindings.map Prod.fst).Nodup := h.nodup_iff.2 c.shape.params.nodup_words
  have hnames : (c.bindings.map fun b => (b.1, unquote b.2.raw)).map Prod.fst =
      c.bindings.map Prod.fst := by
    rw [List.map_map]
    rfl
  refine ⟨_, bindAll_eq hnodup fun _ _ => rfl, ?_⟩
  have hput := (Members.putAll_perm (m := []) (hnames ▸ hnodup) fun _ _ => List.not_mem_nil).map Prod.fst
  rw [List.append_nil, hnames] at hput
  exact hput.trans h

/-- A reading that binds the parameters of its shape is a statement of the same shape. -/
theorem resolve_of_bindings {c : Reading} (hs : c.shape.Valid) (hclean : c.mismatches = [])
    (h : (c.bindings.map Prod.fst).Perm c.shape.params.words) :
    ∃ statement, c.resolve = .ok statement ∧ statement.shape = c.shape := by
  obtain ⟨bound, hbound, hnames⟩ := bindAll_bindings h
  refine ⟨_, by rw [resolve, hclean, hbound]; rfl, ?_⟩
  rw [Statement.shape, WordSet.ofList_perm hnames, Shape.pieces_phraseText hs]

theorem resolve_of_mismatches {c : Reading} (h : c.mismatches ≠ []) :
    c.resolve = .error (.mismatched c.shape.phraseText c.score) := by
  rw [resolve, if_neg (mt List.isEmpty_iff.1 h)]

end Reading

section
variable {H : Type} {r : Registry H} {line : TokenLine}

theorem Registry.resolve_of_clean {c : Reading} (hc : c ∈ (judge r.shapes line).readings)
    (hclean : c.mismatches = []) :
    c.shape ∈ r.shapes ∧ ∃ statement, c.resolve = .ok statement ∧ statement.shape = c.shape := by
  obtain ⟨⟨s, hs, rfl⟩, -⟩ := mem_judge_readings.1 hc
  exact ⟨hs, Reading.resolve_of_bindings (Registry.valid_of_mem hs) hclean (Shape.bindings_perm hclean)⟩

end

end Rider
