import Rider.Proofs.Lists
import Rider.Proofs.Reading.Acceptance
import Rider.Proofs.Statement.Resolution
import Rider.Proofs.Statement.Written

set_option autoImplicit false

/-!
Statements written out as lines, with every freedom that writing has: letter case, spellings, gaps and
the order of the parameters. Reading such a line gives the statement back.
-/

namespace Rider

def Clause.pieces (target : String) : Clause → List Piece
  | .absent => []
  | .opening => [.word "open", .ident target, .word "and"]
  | .connecting => [.word "connect", .word "to", .ident target, .word "and"]

def Clause.target? (target : String) : Clause → Option String
  | .absent => none
  | .opening => some target
  | .connecting => some target

def sendPieces (value : String → String) (p : String) : List Piece :=
  [.word "send", .word p, .ident (value p), .word "and"]

def outputPieces : Option String → List Piece
  | none => []
  | some name => [.word "and", .word "output", .word "into", .ident name]

/-- The pieces of a statement line that sends the parameters in the given order. -/
def linePieces (phase : Phase) (s : Shape) (order : List String) (target : String)
    (value : String → String) (output : Option String) : List Piece :=
  .word phase.word :: .subject :: (s.clause.pieces target ++
    (order.flatMap (sendPieces value) ++ (s.phrase.map .word ++ outputPieces output)))

/-- The text has a written form of each piece, with gaps between them and blanks around them. -/
def Rendered (ps : List Piece) (src : String) : Prop :=
  ∃ raws, List.Forall₂ Piece.Written ps raws ∧ Laid raws src.toList

theorem rendered_intercalate {gap : String} (hgap : Blanks gap.toList) (hne : gap.toList ≠ [])
    {ps : List Piece} {words : List String} (hwords : words ≠ [])
    (h : List.Forall₂ Piece.Written ps (words.map String.toList)) :
    Rendered ps (gap.intercalate words) := by
  refine ⟨words.map String.toList, h, ?_⟩
  rw [String.toList_intercalate]
  exact laid_intercalate hgap hne (mt List.map_eq_nil_iff.1 hwords)

theorem tokenize_rendered {ps : List Piece} {src : String} (h : Rendered ps src)
    (hproper : ∀ p ∈ ps, p.Proper) (line : Nat) :
    ∃ ts, tokenize src line = .ok ⟨ts, line⟩ ∧ List.Forall₂ Piece.SaidBy ps ts := by
  obtain ⟨raws, hraws, hlaid⟩ := h
  obtain ⟨ts, hts, htokens⟩ :=
    tokenize_laid hlaid (Piece.lexemes_of_written hraws hproper) line
  exact ⟨ts, hts, Piece.saidBy_of_written hraws hproper htokens⟩

theorem clauseSpelt_of_saidBy {c : Clause} {target : String} {ts : List Token}
    (h : List.Forall₂ Piece.SaidBy (c.pieces target) ts) :
    ∃ x, ClauseSpelt c ts x ∧ x.map (fun t => unquote t.raw) = c.target? target := by
  cases c with
  | absent =>
    cases h
    exact ⟨none, .absent, rfl⟩
  | opening =>
    obtain _ | ⟨ho, _ | ⟨⟨hx, htext⟩, _ | ⟨ha, ⟨⟩⟩⟩⟩ := h
    exact ⟨_, .opening ho hx ha, congrArg some htext⟩
  | connecting =>
    obtain _ | ⟨hc, _ | ⟨ht, _ | ⟨⟨hx, htext⟩, _ | ⟨ha, ⟨⟩⟩⟩⟩⟩ := h
    exact ⟨_, .connecting hc ht hx ha, congrArg some htext⟩

theorem sendsSpelt_of_saidBy {value : String → String} {order : List String} {ts : List Token}
    (h : List.Forall₂ Piece.SaidBy (order.flatMap (sendPieces value)) ts) :
    ∃ bs, SendsSpelt bs ts ∧
      bs.map (fun b => (b.1, unquote b.2.raw)) = order.map fun p => (p, value p) := by
  induction order generalizing ts with
  | nil =>
    cases h
    exact ⟨[], .nil, rfl⟩
  | cons p order ih =>
    obtain _ | ⟨hs, _ | ⟨hn, _ | ⟨⟨hx, htext⟩, _ | ⟨ha, h⟩⟩⟩⟩ := h
    obtain ⟨bs, hbs, hvalues⟩ := ih h
    refine ⟨(p, _) :: bs, .cons hs hn hx ha hbs, ?_⟩
    rw [List.map_cons, List.map_cons, hvalues, htext]

theorem outputSpelt_of_saidBy {output : Option String} {ts : List Token}
    (h : List.Forall₂ Piece.SaidBy (outputPieces output) ts) :
    ∃ x, OutputSpelt ts x ∧ x.map (fun t => unquote t.raw) = output := by
  cases output with
  | none =>
    cases h
    exact ⟨none, .absent, rfl⟩
  | some name =>
    obtain _ | ⟨ha, _ | ⟨ho, _ | ⟨hi, _ | ⟨⟨hx, htext⟩, ⟨⟩⟩⟩⟩⟩ := h
    exact ⟨_, .present ha ho hi hx, congrArg some htext⟩

theorem lineSpelt_of_saidBy {phase : Phase} {s : Shape} {order : List String} {target : String}
    {value : String → String} {output : Option String} {ts : List Token}
    (horder : order.Perm s.params.words)
    (h : List.Forall₂ Piece.SaidBy (linePieces phase s order target value output) ts) :
    ∃ x bs o, LineSpelt phase s ts x bs o ∧
      x.map (fun t => unquote t.raw) = s.clause.target? target ∧
      bs.map (fun b => (b.1, unquote b.2.raw)) = order.map (fun p => (p, value p)) ∧
      o.map (fun t => unquote t.raw) = output := by
  obtain _ | ⟨hphase, _ | ⟨hsubject, h⟩⟩ := h
  obtain ⟨clause, _, rfl, hclause, h⟩ := forall₂_append h
  obtain ⟨sends, _, rfl, hsends, h⟩ := forall₂_append h
  obtain ⟨phrase, tail, rfl, hphrase, htail⟩ := forall₂_append h
  obtain ⟨x, hx, hxtext⟩ := clauseSpelt_of_saidBy hclause
  obtain ⟨bs, hbs, hvalues⟩ := sendsSpelt_of_saidBy hsends
  obtain ⟨o, ho, hotext⟩ := outputSpelt_of_saidBy htail
  have hnames : bs.map Prod.fst = order := by
    have := congrArg (List.map Prod.fst) hvalues
    simpa [List.map_map, Function.comp_def] using this
  have hwords : WordsSpelt s.phrase phrase := List.forall₂_map_left_iff.1 hphrase
  exact ⟨x, bs, o, .intro hphase hsubject ⟨clause, sends, phrase, tail, rfl, hx,
    hnames ▸ horder, hbs, hwords, ho⟩, hxtext, hvalues, hotext⟩

theorem WordSet.ascending_members (s : WordSet) (value : String → String) :
    Members.Ascending (s.words.map fun p => (p, value p)) :=
  List.pairwise_map.2 s.ascending

theorem isWord_and : IsWord "and" := isWord_of_all (by decide) (by decide)

theorem Clause.proper_pieces (c : Clause) (target : String) :
    ∀ p ∈ c.pieces target, p.Proper := by
  cases c with
  | absent => exact List.forall_mem_nil _
  | opening =>
    have hopen : IsWord "open" := isWord_of_all (by decide) (by decide)
    simp only [Clause.pieces, List.forall_mem_cons]
    exact ⟨hopen, trivial, isWord_and, List.forall_mem_nil _⟩
  | connecting =>
    have hconnect : IsWord "connect" := isWord_of_all (by decide) (by decide)
    have hto : IsWord "to" := isWord_of_all (by decide) (by decide)
    simp only [Clause.pieces, List.forall_mem_cons]
    exact ⟨hconnect, hto, trivial, isWord_and, List.forall_mem_nil _⟩

theorem proper_sendPieces {q : String} (hq : IsWord q) (value : String → String) :
    ∀ p ∈ sendPieces value q, p.Proper := by
  have hsend : IsWord "send" := isWord_of_all (by decide) (by decide)
  simp only [sendPieces, List.forall_mem_cons]
  exact ⟨hsend, hq, trivial, isWord_and, List.forall_mem_nil _⟩

theorem proper_outputPieces (output : Option String) : ∀ p ∈ outputPieces output, p.Proper := by
  cases output with
  | none => exact List.forall_mem_nil _
  | some name =>
    have houtput : IsWord "output" := isWord_of_all (by decide) (by decide)
    have hinto : IsWord "into" := isWord_of_all (by decide) (by decide)
    simp only [outputPieces, List.forall_mem_cons]
    exact ⟨isWord_and, houtput, hinto, trivial, List.forall_mem_nil _⟩

theorem Phase.isWord_word (phase : Phase) : IsWord phase.word := by
  cases phase <;> exact isWord_of_all (by decide) (by decide)

theorem proper_linePieces {phase : Phase} {s : Shape} {order : List String} {target : String}
    {value : String → String} {output : Option String} (hs : s.Valid)
    (horder : order.Perm s.params.words) :
    ∀ p ∈ linePieces phase s order target value output, p.Proper := by
  simp only [linePieces, List.forall_mem_cons, List.forall_mem_append, List.forall_mem_flatMap,
    List.forall_mem_map]
  refine ⟨phase.isWord_word, trivial, s.clause.proper_pieces target, ?_, hs.phrase_words,
    proper_outputPieces output⟩
  intro q hq
  exact proper_sendPieces (hs.params_words q (horder.mem_iff.1 hq)) value

/-- Reading undoes writing: however a statement of a registered shape is written out on a line, the line
is cut into tokens, it matches with one reading, and the reading is resolved to the statement. -/
theorem resolve_rendered {H : Type} (r : Registry H) {s : Shape} (hs : s ∈ r.shapes)
    (phase : Phase) {order : List String} (horder : order.Perm s.params.words) (target : String)
    (value : String → String) (output : Option String) {src : String}
    (hsrc : Rendered (linePieces phase s order target value output) src) (n : Nat) :
    ∃ line c, tokenize src n = .ok line ∧ (judge r.shapes line).isMatch = true ∧
      (judge r.shapes line).phase = some phase ∧ (judge r.shapes line).readings = [c] ∧
      c.shape = s ∧
      c.resolve = .ok {
        clause := s.clause
        target := s.clause.target? target
        bindings := s.params.words.map fun p => (p, value p)
        phrase := s.phraseText
        output := output } := by
  obtain ⟨ts, htokenize, hsaid⟩ :=
    tokenize_rendered hsrc (proper_linePieces (Registry.valid_of_mem hs) horder) n
  obtain ⟨x, bs, o, hspelt, hx, hbs, ho⟩ := lineSpelt_of_saidBy horder hsaid
  have hline : LineSpelt phase s (TokenLine.mk ts n).tokens x bs o := hspelt
  obtain ⟨hmatch, hphase, hreadings⟩ := Registry.judge_of_lineSpelt hs hline
  -- The bindings come in the order of the line; a statement keeps them by name.
  have hperm : (bs.map fun b => (b.1, unquote b.2.raw)).Perm
      (s.params.words.map fun p => (p, value p)) := hbs ▸ horder.map _
  have hnodup : (bs.map Prod.fst).Nodup := by
    have := (hperm.map Prod.fst).nodup_iff.2 (s.params.ascending_members value).nodup
    simpa [List.map_map, Function.comp_def] using this
  have hbind : bindAll [] bs = .ok (s.params.words.map fun p => (p, value p)) := by
    rw [bindAll_eq hnodup fun _ _ => rfl]
    exact congrArg Except.ok (Members.ofList_perm (s.params.ascending_members value) hperm)
  refine ⟨⟨ts, n⟩, _, htokenize, hmatch, hphase, hreadings, rfl, ?_⟩
  simp only [Reading.resolve, List.isEmpty_nil, if_true, hbind, hx, ho]
  rfl

section Crowded

def crowdedShape : Shape := ⟨.connecting, ⟨["and", "send"], by decide⟩, ["open", "to"]⟩

theorem crowdedShape_valid : crowdedShape.Valid := by
  refine ⟨by decide, ?_, ?_⟩
  · intro w hw
    rcases List.mem_pair.1 hw with rfl | rfl <;> exact isWord_of_all (by decide) (by decide)
  · intro p hp
    rcases List.mem_pair.1 hp with rfl | rfl <;> exact isWord_of_all (by decide) (by decide)

def crowdedRegistry : Registry Unit :=
  .ofEntries [⟨"crowded", crowdedShape, crowdedShape_valid, ()⟩] (by decide)

def crowdedPieces : List Piece :=
  linePieces .after crowdedShape ["send", "and"] "it's" (fun p => if p = "and" then "" else "A\n")
    (some "x y")

def crowdedWords : List String :=
  ["tHEN", "I", "connect", "TO", "'it\\'s'", "and", "send", "Send", "'\\u0041\\n'", "AND",
    "send", "and", "''", "and", "open", "to", "and", "output", "into", "'x y'"]

theorem crowdedWords_written :
    List.Forall₂ Piece.Written crowdedPieces (crowdedWords.map String.toList) := by
  have target : Identifier.Spelling "it's".toList ['i', 't', '\\', '\'', 's'] :=
    .cons (.plain (by decide) (by decide)) <| .cons (.plain (by decide) (by decide)) <|
      .cons (.letter (by decide)) <| .cons (.plain (by decide) (by decide)) .nil
  have sent : Identifier.Spelling "A\n".toList ['\\', 'u', '0', '0', '4', '1', '\\', 'n'] :=
    .cons (.code rfl rfl rfl rfl rfl) (.cons (.letter (by decide)) .nil)
  have empty : Identifier.Spelling "".toList [] := .nil
  have output : Identifier.Spelling "x y".toList ['x', ' ', 'y'] :=
    .cons (.plain (by decide) (by decide)) <| .cons (.plain (by decide) (by decide)) <|
      .cons (.plain (by decide) (by decide)) .nil
  exact .cons (.word (by decide)) <| .cons .subject <| .cons (.word (by decide)) <|
    .cons (.word (by decide)) <| .cons (.ident target) <| .cons (.word (by decide)) <|
    .cons (.word (by decide)) <| .cons (.word (by decide)) <| .cons (.ident sent) <|
    .cons (.word (by decide)) <| .cons (.word (by decide)) <| .cons (.word (by decide)) <|
    .cons (.ident empty) <| .cons (.word (by decide)) <| .cons (.word (by decide)) <|
    .cons (.word (by decide)) <| .cons (.word (by decide)) <| .cons (.word (by decide)) <|
    .cons (.word (by decide)) <| .cons (.ident output) .nil

theorem crowdedLine_rendered : Rendered crowdedPieces ("\t ".intercalate crowdedWords) := by
  have gap : Blanks "\t ".toList := List.all_eq_true.1 (by decide)
  exact rendered_intercalate gap (by decide) (by decide) crowdedWords_written

theorem resolve_rendered_crowded :
    crowdedShape ∈ crowdedRegistry.shapes ∧
      ["send", "and"].Perm crowdedShape.params.words ∧
      Rendered crowdedPieces ("\t ".intercalate crowdedWords) ∧
      ∃ line c, tokenize ("\t ".intercalate crowdedWords) 7 = .ok line ∧
        (judge crowdedRegistry.shapes line).isMatch = true ∧
        (judge crowdedRegistry.shapes line).phase = some .after ∧
        (judge crowdedRegistry.shapes line).readings = [c] ∧ c.shape = crowdedShape ∧
        c.resolve = .ok {
          clause := .connecting
          target := some "it's"
          bindings := [("and", ""), ("send", "A\n")]
          phrase := "open to"
          output := some "x y" } := by
  have member : crowdedShape ∈ crowdedRegistry.shapes := List.mem_singleton_self _
  have order : ["send", "and"].Perm crowdedShape.params.words := by decide
  exact ⟨member, order, crowdedLine_rendered,
    resolve_rendered crowdedRegistry member .after order "it's" _ (some "x y")
      crowdedLine_rendered 7⟩

end Crowded

end Rider
