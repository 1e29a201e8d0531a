import Rider.Proofs.Statement.RoundTrip
import Rider.Report

set_option autoImplicit false

namespace Rider

def Clause.shownWords : Clause → List String
  | .absent => []
  | .opening => ["open", "''", "and"]
  | .connecting => ["connect", "to", "''", "and"]

def sendWords (p : String) : List String := ["send", p, "''", "and"]

/-- The words of a statement of the shape, with empty identifiers and without an output. -/
def Shape.shownWords (s : Shape) : List String :=
  "Given" :: "I" :: (s.clause.shownWords ++ (s.params.words.flatMap sendWords ++ s.phrase))

theorem intercalate_append {ws vs : List String} (h : vs ≠ []) :
    " ".intercalate (ws ++ vs) = String.join (ws.map (· ++ " ")) ++ " ".intercalate vs := by
  induction ws with
  | nil => exact String.empty_append.symm
  | cons w ws ih =>
    have hne : ws ++ vs ≠ [] := List.append_ne_nil_of_right_ne_nil ws h
    rw [List.cons_append, String.intercalate_cons_of_ne_nil hne, ih, List.map_cons, String.join_cons,
      String.append_assoc, String.append_assoc, String.append_assoc]

theorem join_sendWords (ps : List String) :
    String.join ((ps.flatMap sendWords).map (· ++ " ")) =
      String.join (ps.map fun p => "send " ++ p ++ " '' and ") := by
  induction ps with
  | nil => rfl
  | cons p ps ih =>
    have hblock : String.join ((sendWords p).map (· ++ " ")) = "send " ++ p ++ " '' and " := by
      simp [sendWords, ← String.toList_inj]
    rw [List.flatMap_cons, List.map_append, String.join_append, ih, hblock, List.map_cons,
      String.join_cons]

theorem Shape.display_eq {s : Shape} (hs : s.phrase ≠ []) :
    "Given I " ++ s.display = " ".intercalate s.shownWords := by
  have hwords : s.shownWords =
      ("Given" :: "I" :: (s.clause.shownWords ++ s.params.words.flatMap sendWords)) ++ s.phrase := by
    simp [shownWords]
  rw [hwords, intercalate_append hs, ← List.cons_append, ← List.cons_append, List.map_append,
    String.join_append, join_sendWords, display, phraseText]
  cases s.clause <;> simp [Clause.shownWords, ← String.toList_inj]

section Written

theorem toLower_of_isWordChar {c : Char} (h : isWordChar c = true) : c.toLower = c := by
  have hcap : ¬(c.val ≥ 'A'.val ∧ c.val ≤ 'Z'.val) := by
    rintro ⟨hA, hZ⟩
    change 65 ≤ c.toNat at hA
    change c.toNat ≤ 90 at hZ
    simp only [isWordChar, Bool.or_eq_true, Bool.and_eq_true, decide_eq_true_eq, beq_iff_eq] at h
    rcases h with ((⟨ha, -⟩ | ⟨-, h9⟩) | rfl) | rfl
    · change 97 ≤ c.toNat at ha
      omega
    · change c.toNat ≤ 57 at h9
      omega
    · revert hZ
      decide
    · revert hA
      decide
  exact dif_neg hcap

theorem Piece.written_self {w : String} (h : IsWord w) : (Piece.word w).Written w.toList := by
  have same : w.toList.map Char.toLower = w.toList.map id :=
    List.map_congr_left fun c hc => toLower_of_isWordChar (h.2 c hc)
  exact .word (same.trans (List.map_id _))

theorem Piece.written_empty : (Piece.ident "").Written "''".toList := @Written.ident "" [] .nil

theorem Clause.written_shownWords (c : Clause) :
    List.Forall₂ Piece.Written (c.pieces "") (c.shownWords.map String.toList) := by
  cases c with
  | absent => exact .nil
  | opening =>
    exact .cons (.word (by decide)) (.cons Piece.written_empty (.cons (.word (by decide)) .nil))
  | connecting =>
    exact .cons (.word (by decide)) (.cons (.word (by decide))
      (.cons Piece.written_empty (.cons (.word (by decide)) .nil)))

theorem written_sendWords {ps : List String} (h : ∀ p ∈ ps, IsWord p) :
    List.Forall₂ Piece.Written (ps.flatMap (sendPieces fun _ => ""))
      ((ps.flatMap sendWords).map String.toList) := by
  induction ps with
  | nil => exact .nil
  | cons p ps ih =>
    obtain ⟨hp, hps⟩ := List.forall_mem_cons.1 h
    exact .cons (.word (by decide)) (.cons (Piece.written_self hp) (.cons Piece.written_empty
      (.cons (.word (by decide)) (ih hps))))

theorem written_words {ws : List String} (h : ∀ w ∈ ws, IsWord w) :
    List.Forall₂ Piece.Written (ws.map .word) (ws.map String.toList) := by
  rw [List.forall₂_map_left_iff, List.forall₂_map_right_iff]
  exact List.forall₂_same.2 fun w hw => Piece.written_self (h w hw)

/-- The pieces of the statement that a display spells. -/
def Shape.shownPieces (s : Shape) : List Piece :=
  linePieces .before s s.params.words "" (fun _ => "") none

theorem Shape.rendered_display {s : Shape} (hs : s.Valid) :
    Rendered s.shownPieces ("Given I " ++ s.display) := by
  have hsends := written_sendWords hs.params_words
  have hphrase := written_words hs.phrase_words
  have hrest := List.rel_append s.clause.written_shownWords (List.rel_append hsends hphrase)
  have hwritten : List.Forall₂ Piece.Written s.shownPieces (s.shownWords.map String.toList) := by
    simp only [shownPieces, linePieces, outputPieces, List.append_nil, shownWords, List.map_cons,
      List.map_append]
    exact .cons (.word (by decide)) (.cons .subject hrest)
  have gap : Blanks " ".toList := List.all_eq_true.1 (by decide)
  rw [Shape.display_eq hs.phrase_ne_nil]
  exact rendered_intercalate gap (by decide) (List.cons_ne_nil _ _) hwritten

end Written

theorem Shape.lineSpelt_display {s : Shape} (hs : s.Valid) (n : Nat) :
    ∃ line x bs, tokenize ("Given I " ++ s.display) n = .ok line ∧
      LineSpelt .before s line.tokens x bs none ∧
      x.map (fun t => unquote t.raw) = s.clause.target? "" ∧
      bs.map (fun b => (b.1, unquote b.2.raw)) = s.params.words.map fun p => (p, "") := by
  have hproper : ∀ p ∈ s.shownPieces, p.Proper := proper_linePieces hs (.refl _)
  obtain ⟨ts, htokenize, hsaid⟩ := tokenize_rendered (rendered_display hs) hproper n
  obtain ⟨x, bs, o, hspelt, hx, hbs, ho⟩ := lineSpelt_of_saidBy (.refl _) hsaid
  obtain rfl : o = none := Option.map_eq_none_iff.1 ho
  exact ⟨⟨ts, n⟩, x, bs, htokenize, hspelt, hx, hbs⟩

theorem Shape.display_injective {s t : Shape} (hs : s.Valid) (ht : t.Valid)
    (h : s.display = t.display) : s = t := by
  obtain ⟨line, x, bs, hline, hspelt, _⟩ := lineSpelt_display hs 0
  obtain ⟨_, y, cs, hline', hspelt', _⟩ := lineSpelt_display ht 0
  rw [← h, hline] at hline'
  obtain rfl := Except.ok.inj hline'
  generalize line.tokens = ts at hspelt hspelt'
  cases hspelt with
  | intro _ _ hts =>
    cases hspelt' with
    | intro _ _ hts' => exact spelt_unique hs.phrase_ne_nil ht.phrase_ne_nil hts hts'

def Shape.shownStatement (s : Shape) : Statement where
  clause := s.clause
  target := s.clause.target? ""
  bindings := s.params.words.map fun p => (p, "")
  phrase := s.phraseText
  output := none

theorem bindAll_empty {s : WordSet} {bs : List (String × Token)}
    (h : bs.map (fun b => (b.1, unquote b.2.raw)) = s.words.map fun p => (p, "")) :
    bindAll [] bs = .ok (s.words.map fun p => (p, "")) := by
  have hnames : bs.map Prod.fst = s.words := by
    have := congrArg (List.map Prod.fst) h
    simpa [List.map_map, Function.comp_def] using this
  have hnodup : (bs.map Prod.fst).Nodup := hnames ▸ s.nodup_words
  rw [bindAll_eq hnodup fun _ _ => rfl, h]
  exact congrArg Except.ok (Members.ofList_perm (s.ascending_members fun _ => "") (.refl _))

theorem Registry.resolve_display {H : Type} {r : Registry H} {s : Shape} (hs : s ∈ r.shapes)
    (n : Nat) : ∃ line c, tokenize ("Given I " ++ s.display) n = .ok line ∧
      (judge r.shapes line).isMatch = true ∧ (judge r.shapes line).readings = [c] ∧ c.shape = s ∧
      c.resolve = .ok s.shownStatement ∧ s.shownStatement.shape = s := by
  obtain ⟨line, x, bs, hline, hspelt, hx, hbs⟩ := Shape.lineSpelt_display (valid_of_mem hs) n
  obtain ⟨hmatch, _, hreadings⟩ := judge_of_lineSpelt hs hspelt
  have hresolve : (Reading.mk s bs x none []).resolve = .ok s.shownStatement := by
    simp only [Reading.resolve, List.isEmpty_nil, if_true, bindAll_empty hbs, hx]
    rfl
  obtain ⟨_, statement, hstatement, hshape⟩ :=
    resolve_of_clean (hreadings ▸ List.mem_singleton_self _) rfl
  obtain rfl := Except.ok.inj (hresolve.symm.trans hstatement)
  exact ⟨line, _, hline, hmatch, hreadings, rfl, hresolve, hshape⟩

section Quoted

def quotedList (ds : List (List Char)) : List Char :=
  [',', ' '].intercalate (ds.map fun d => '"' :: (d ++ ['"'])) ++ [']']

theorem quotedList_cons (d : List Char) (ds : List (List Char)) :
    quotedList (d :: ds) =
      '"' :: (d ++ '"' :: if ds = [] then [']'] else ',' :: ' ' :: quotedList ds) := by
  cases ds with
  | nil => simp [quotedList]
  | cons e ds => simp [quotedList, List.intercalate_cons_cons]

theorem quotedList_injective {ds es : List (List Char)} (hds : ∀ d ∈ ds, '"' ∉ d)
    (hes : ∀ e ∈ es, '"' ∉ e) (h : quotedList ds = quotedList es) : ds = es := by
  induction ds generalizing es with
  | nil =>
    cases es with
    | nil => rfl
    | cons e es =>
      rw [quotedList_cons] at h
      exact absurd (List.cons.inj h).1 (by decide)
  | cons d ds ih =>
    cases es with
    | nil =>
      rw [quotedList_cons] at h
      exact absurd (List.cons.inj h).1 (by decide)
    | cons e es =>
      obtain ⟨hd, hds⟩ := List.forall_mem_cons.1 hds
      obtain ⟨he, hes⟩ := List.forall_mem_cons.1 hes
      rw [quotedList_cons, quotedList_cons] at h
      obtain ⟨hde, hrest⟩ := append_cons_inj hd he (List.cons.inj h).2
      by_cases hnil : ds = []
      · by_cases hnil' : es = []
        · rw [hde, hnil, hnil']
        · rw [if_pos hnil, if_neg hnil'] at hrest
          exact absurd (List.cons.inj hrest).1 (by decide)
      · by_cases hnil' : es = []
        · rw [if_neg hnil, if_pos hnil'] at hrest
          exact absurd (List.cons.inj hrest).1 (by decide)
        · rw [if_neg hnil, if_neg hnil'] at hrest
          rw [hde, ih hds hes (List.cons.inj (List.cons.inj hrest).2).2]

theorem not_mem_intercalate {ws : List String} {c : Char} (hc : c ≠ ' ')
    (h : ∀ w ∈ ws, c ∉ w.toList) : c ∉ (" ".intercalate ws).toList := by
  induction ws with
  | nil => exact List.not_mem_nil
  | cons w ws ih =>
    obtain ⟨hw, hws⟩ := List.forall_mem_cons.1 h
    by_cases hnil : ws = []
    · rw [hnil, String.intercalate_singleton]
      exact hw
    · rw [String.intercalate_cons_of_ne_nil hnil]
      simp only [String.toList_append, List.mem_append, not_or]
      exact ⟨⟨hw, fun hspace => hc (List.mem_singleton.1 hspace)⟩, ih hws⟩

theorem IsWord.quote_not_mem {w : String} (h : IsWord w) : '"' ∉ w.toList :=
  fun hq => absurd (h.2 '"' hq) (by decide)

theorem Shape.quote_not_mem_display {s : Shape} (hs : s.Valid) : '"' ∉ s.display.toList := by
  have hclause : ∀ w ∈ s.clause.shownWords, '"' ∉ w.toList := by
    cases s.clause <;> decide
  have hsends : ∀ w ∈ s.params.words.flatMap sendWords, '"' ∉ w.toList := by
    rw [List.forall_mem_flatMap]
    intro p hp
    have hname : '"' ∉ p.toList := (hs.params_words p hp).quote_not_mem
    simp only [sendWords, List.forall_mem_cons]
    exact ⟨by decide, hname, by decide, by decide, List.forall_mem_nil _⟩
  have hwords : ∀ w ∈ s.shownWords, '"' ∉ w.toList := by
    simp only [shownWords, List.forall_mem_cons, List.forall_mem_append]
    exact ⟨by decide, by decide, hclause, hsends, fun w hw => (hs.phrase_words w hw).quote_not_mem⟩
  have hline := not_mem_intercalate (by decide) hwords
  rw [← display_eq hs.phrase_ne_nil, String.toList_append] at hline
  exact fun hq => hline (List.mem_append_right _ hq)

theorem Registry.display_toList {H : Type} (r : Registry H) :
    r.display.toList = '[' :: quotedList (r.shapes.map fun s => s.display.toList) := by
  simp [Registry.display, quotedList, Function.comp_def]

theorem Registry.shapes_of_display {H K : Type} {r : Registry H} {q : Registry K}
    (h : r.display = q.display) : r.shapes = q.shapes := by
  have hlists := congrArg String.toList h
  rw [display_toList, display_toList] at hlists
  have hr : ∀ d ∈ r.shapes.map fun s => s.display.toList, '"' ∉ d :=
    List.forall_mem_map.2 fun s hs => Shape.quote_not_mem_display (valid_of_mem hs)
  have hq : ∀ d ∈ q.shapes.map fun s => s.display.toList, '"' ∉ d :=
    List.forall_mem_map.2 fun s hs => Shape.quote_not_mem_display (valid_of_mem hs)
  have hdisplays := quotedList_injective hr hq (List.cons.inj hlists).2
  apply List.ext_getElem (by simpa using congrArg List.length hdisplays)
  intro i hi hi'
  have hsame := List.getElem_of_eq hdisplays (by rwa [List.length_map])
  rw [List.getElem_map, List.getElem_map, String.toList_inj] at hsame
  exact Shape.display_injective (valid_of_mem (List.getElem_mem hi)) (valid_of_mem (List.getElem_mem hi'))
    hsame

end Quoted

/-- What is shown for a shape is a statement of the shape: read in any registry that holds the shape, it
matches with one reading, of that shape, and the statement has empty identifiers and no output. So two
shapes are shown alike only if they are the same, and the messages about a shape and the listing of a
registry tell which shapes they are about. -/
theorem display_identifies_shape (s : Shape) (hs : s.Valid) :
    (∀ (H : Type) (r : Registry H) (n : Nat), s ∈ r.shapes → ∃ line c statement,
      tokenize ("Given I " ++ s.display) n = .ok line ∧ (judge r.shapes line).isMatch = true ∧
      (judge r.shapes line).readings = [c] ∧ c.shape = s ∧ c.resolve = .ok statement ∧
      statement.clause = s.clause ∧ statement.target = s.clause.target? "" ∧
      statement.bindings = (s.params.words.map fun p => (p, "")) ∧ statement.output = none ∧
      statement.shape.display = s.display) ∧
    (∀ t : Shape, t.Valid → (s.display = t.display ↔ s = t) ∧
      (∀ plugin existing, (RegistryError.duplicate s plugin existing).message =
        (RegistryError.duplicate t plugin existing).message ↔ s = t) ∧
      ∀ (layout : Layout) source line context,
        Report.failed layout source line ("statement resolves to unregistered shape: " ++ s.display) none
            context =
          Report.failed layout source line ("statement resolves to unregistered shape: " ++ t.display)
            none context ↔ s = t) ∧
    ∀ (H K : Type) (r : Registry H) (q : Registry K), r.display = q.display ↔ r.shapes = q.shapes := by
  refine ⟨?_, ?_, ?_⟩
  · intro H r n hmem
    obtain ⟨line, c, hline, hmatch, hreadings, hc, hresolve, hshape⟩ := r.resolve_display hmem n
    exact ⟨line, c, s.shownStatement, hline, hmatch, hreadings, hc, hresolve, rfl, rfl, rfl, rfl,
      congrArg Shape.display hshape⟩
  · intro t ht
    have shown : s.display = t.display ↔ s = t :=
      ⟨Shape.display_injective hs ht, congrArg Shape.display⟩
    refine ⟨shown, ?_, ?_⟩
    · intro plugin existing
      refine Iff.trans ?_ shown
      dsimp only [RegistryError.message]
      rw [String.append_left_inj, String.append_left_inj, String.append_left_inj,
        String.append_right_inj]
    · intro layout source line context
      refine Iff.trans ?_ shown
      dsimp only [Report.failed]
      rw [String.append_left_inj, String.append_left_inj, String.append_left_inj,
        String.append_right_inj, String.append_right_inj]
  · intro H K r q
    refine ⟨Registry.shapes_of_display, fun h => ?_⟩
    rw [Registry.display, Registry.display, h]

/-- Parameters and phrase are words of the grammar: the clause, two blocks and the phrase of this display
are told apart by the identifiers alone. -/
theorem display_identifies_crowdedShape :
    crowdedShape.Valid ∧
      crowdedShape.display = "connect to '' and send and '' and send send '' and open to" ∧
      crowdedShape ∈ crowdedRegistry.shapes ∧ ∃ line c statement,
        tokenize ("Given I " ++ crowdedShape.display) 3 = .ok line ∧
        (judge crowdedRegistry.shapes line).isMatch = true ∧
        (judge crowdedRegistry.shapes line).readings = [c] ∧ c.shape = crowdedShape ∧
        c.resolve = .ok statement ∧ statement.clause = .connecting ∧ statement.target = some "" ∧
        statement.bindings = [("and", ""), ("send", "")] ∧ statement.output = none ∧
        statement.shape.display = crowdedShape.display := by
  have member : crowdedShape ∈ crowdedRegistry.shapes := List.mem_singleton_self _
  obtain ⟨hread, _⟩ := display_identifies_shape crowdedShape crowdedShape_valid
  exact ⟨crowdedShape_valid, by decide, member, hread Unit crowdedRegistry 3 member⟩

end Rider
