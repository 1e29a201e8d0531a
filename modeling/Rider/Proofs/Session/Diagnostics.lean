import Rider.Proofs.Reading.Blame
import Rider.Proofs.Report.Rows
import Rider.Proofs.Session.Outcome
import Rider.Proofs.Source.Excerpt
import Rider.Proofs.Text.Cut
import Rider.Proofs.Token.Place

set_option autoImplicit false

namespace Rider

/-- A mismatch is about characters of the line, or about the place behind its last token. -/
def Mismatch.PointsInto (own : List Char) (line : TokenLine) : Mismatch → Prop
  | .wrong t _ => t.Stands own line.number
  | .missing _ number column => number = line.number ∧ (line.tokens = [] → column = 0) ∧
      ∀ t, line.tokens.getLast? = some t → column = t.stop + 1
  | .extra t => t.Stands own line.number

theorem Mismatch.On.pointsInto {own : List Char} {line : TokenLine} {m : Mismatch} (h : m.On line)
    (hline : ∀ t ∈ line.tokens, t.Stands own line.number) : m.PointsInto own line := by
  cases m with
  | wrong t expected => exact hline t h
  | extra t => exact hline t h
  | missing expected number column =>
    refine ⟨h.1, ?_, ?_⟩
    · intro hnil
      rw [h.2, TokenLine.nextColumn_of_nil hnil]
    · intro t ht
      rw [h.2, TokenLine.nextColumn, ht]

namespace Fault

/-- What the fault of an ignored line says about the line of the contract. -/
inductive PointsInto (own : List Char) (number : Nat) : Fault → Prop
  | unclosed {e : UnclosedQuote} {report : String} : e.token.Stands own number →
      e.token.stop = own.length → PointsInto own number (.unclosed number e report)
  | mismatched {line : TokenLine} {ms : List Mismatch} {report : String} :
      tokenize (String.ofList own) number = .ok line → line.number = number →
      (∀ m ∈ ms, m.PointsInto own line) → PointsInto own number (.mismatched number ms report)

def spans : Fault → List TextSpan
  | .unclosed _ e _ => [(e.token.start, e.token.stop)]
  | .mismatched _ ms _ => ms.map Mismatch.span
  | _ => []

def headline (f : Fault) (number : Nat) : String :=
  match f.kind with
  | .unclosed => "LexError at line " ++ toString number ++ ": unclosed quote"
  | _ => "ParseError at line " ++ toString number ++ ": invalid statement"

end Fault

theorem Report.rows_of_line? {source : Source} {number : Nat} {own : List Char}
    (h : source.line? number = some own) (spans : List TextSpan) (context : Nat) (headline : String)
    (notes : List String) :
    rows source number spans context headline notes =
      headline.toList :: (source.rowsAbove number context ++
        (Source.gutter (source.numberWidth number context) (Text.digits number) ++ own) ::
          (Source.underlineRows (source.numberWidth number context) spans ++
            source.rowsBelow number context) ++ notes.map String.toList) := by
  rw [rows, source.excerptRows_eq (Source.bounds_of_line? h).1, Source.numberedRow, h,
    Option.getD_some]

namespace Session

variable {σ : Type} {s : Session σ} {source : Source} {entry : Ignored} {f : Fault}
  {own : List Char}

theorem chosenText_of_occurs {text : String} (h : Text.trim text.toList <:+: own) :
    chosenText own text = String.ofList own :=
  if_pos (Text.occurs_iff.2 h)

theorem pointsInto_of_parse (h : s.parse source entry = .error f)
    (hkind : f.kind = .unclosed ∨ f.kind = .mismatched) (hown : source.line? entry.line = some own)
    (htext : Text.trim entry.text.toList <:+: own) : f.PointsInto own entry.line := by
  cases parsed_of_parse h with
  | unknownLine => simp [Fault.kind] at hkind
  -- The text occurs in the line, so the line itself is what was cut into tokens.
  | unclosed hline htokens =>
    obtain rfl := Option.some.inj (hown.symm.trans hline)
    rw [chosenText_of_occurs htext] at htokens
    obtain ⟨hstands, hstop⟩ := tokenize_unclosed_stands htokens
    rw [String.toList_ofList] at hstands hstop
    exact .unclosed hstands hstop
  | mismatched hline htokens =>
    obtain rfl := Option.some.inj (hown.symm.trans hline)
    rw [chosenText_of_occurs htext] at htokens
    obtain ⟨hnumber, hstands⟩ := tokenize_stands htokens
    rw [String.toList_ofList, ← hnumber] at hstands
    refine .mismatched htokens hnumber ?_
    intro m hm
    exact (judge_mismatches_on s.registry.shapes _ m hm).pointsInto hstands

theorem message_of_parse (h : s.parse source entry = .error f)
    (hkind : f.kind = .unclosed ∨ f.kind = .mismatched) :
    ∃ notes, f.message = Source.textOfRows (Report.rows source entry.line f.spans
      s.config.contextLines (f.headline entry.line) notes) := by
  cases parsed_of_parse h with
  | unknownLine => simp [Fault.kind] at hkind
  | @unclosed _ e _ htokens =>
    have hline := (tokenize_unclosed_stands htokens).1.line_eq
    have hreport := Report.unclosed_eq source e s.config.contextLines
    rw [hline] at hreport
    exact ⟨_, hreport⟩
  | @mismatched _ tokens _ htokens =>
    have hline := (judge_line s.registry.shapes tokens).trans (tokenize_stands htokens).1
    have hreport :=
      Report.mismatched_eq source (judge s.registry.shapes tokens) s.config.contextLines
    rw [hline] at hreport
    exact ⟨_, hreport⟩

/-- A run that fails with an open quote or with mismatches has them from the first ignored line that is no
statement. If the contract's own line was parsed, what the fault is about is where it says in that line.
The report shows the line and, if there is anything to mark, carets right below it, under each character
that the fault is about and under no other. -/
theorem run_points_into_line {contract : String} {scope : Scope} {state : σ}
    (h : (s.run contract scope state).1 = .error f)
    (hkind : f.kind = .unclosed ∨ f.kind = .mismatched) :
    let source := Source.ofText contract
    let context := s.config.contextLines
    ∃ done entry rest own,
      s.ignored (s.interpreter.diagnose contract scope state).1 = done ++ entry :: rest ∧
      (∀ d ∈ done, ∃ l, s.parse source d = .ok l) ∧ s.parse source entry = .error f ∧
      source.line? entry.line = some own ∧
      (Text.trim entry.text.toList <:+: own → f.PointsInto own entry.line) ∧
      let label := Source.gutter (source.numberWidth entry.line context) (Text.digits entry.line)
      let blank := Source.gutter (source.numberWidth entry.line context) []
      let marks := if f.spans = [] then [] else [blank ++ underline f.spans]
      blank.length = label.length ∧
      (∃ notes, f.message = Source.textOfRows ((f.headline entry.line).toList ::
        (source.rowsAbove entry.line context ++ (label ++ own) ::
          (marks ++ source.rowsBelow entry.line context) ++ notes))) ∧
      ∀ p, (blank ++ underline f.spans)[label.length + p]? = some '^' ↔
        ∃ span ∈ f.spans, span.1 ≤ p ∧ p < span.2 := by
  intro source context
  have hrefused : f.kind ∉ [.handler, .interpreter] := by
    rcases hkind with hkind | hkind <;> rw [hkind] <;> decide
  obtain ⟨done, entry, rest, hentries, hdone, hparse⟩ := refused_of_run h hrefused
  obtain ⟨own, hown⟩ : ∃ own, source.line? entry.line = some own := by
    cases parsed_of_parse hparse with
    | unknownLine => simp [Fault.kind] at hkind
    | unclosed hown => exact ⟨_, hown⟩
    | mismatched hown => exact ⟨_, hown⟩
  obtain ⟨notes, hmessage⟩ := message_of_parse hparse hkind
  rw [Report.rows_of_line? hown] at hmessage
  refine ⟨done, entry, rest, own, hentries, hdone, hparse, hown, ?_, ?_, ?_, ?_⟩
  · exact pointsInto_of_parse hparse hkind hown
  · exact (source.gutter_length_of_number entry.line context).symm
  · exact ⟨_, hmessage⟩
  · intro p
    exact source.underlineRow_caret entry.line context

def accentedLine : String := "\t Thén we tück 'é' x"

def accentedTokens : List Token :=
  [.ofRaw ['T', 'h', 'é', 'n'] 2 2, .ofRaw ['w', 'e'] 2 7, .ofRaw ['t', 'ü', 'c', 'k'] 2 10,
    .ofRaw ['\'', 'é', '\''] 2 15, .ofRaw ['x'] 2 19]

def accentedMismatches : List Mismatch :=
  [.wrong (.ofRaw ['T', 'h', 'é', 'n'] 2 2) ["given", "then"], .wrong (.ofRaw ['w', 'e'] 2 7) ["I"],
    .wrong (.ofRaw ['t', 'ü', 'c', 'k'] 2 10) ["tick"], .extra (.ofRaw ['\'', 'é', '\''] 2 15),
    .extra (.ofRaw ['x'] 2 19)]

theorem accented_judged :
    judge fuse.registry.shapes ⟨accentedTokens, 2⟩ =
      ⟨2, none, accentedMismatches.take 2,
        [⟨tickShape, [], none, none, accentedMismatches.drop 2⟩]⟩ := by
  decide +kernel

theorem run_points_into_accented_line :
    let s := fuseReporting [⟨"we tück", 2⟩]
    let contract := "Given I tick\n" ++ accentedLine
    ∃ f, (s.run contract fuseScope 7).1 = .error f ∧ f.kind = .mismatched ∧
      f.spans = [(2, 6), (7, 9), (10, 14), (15, 18), (19, 20)] ∧
      f.PointsInto accentedLine.toList 2 := by
  intro s contract
  have hown : (Source.ofText contract).line? 2 = some accentedLine.toList := by decide +kernel
  have htokens : tokenize (chosenText accentedLine.toList "we tück") 2 = .ok ⟨accentedTokens, 2⟩ := by
    decide +kernel
  have hmatch : (judge s.registry.shapes ⟨accentedTokens, 2⟩).isMatch = false :=
    congrArg Verdict.isMatch accented_judged
  have hmismatches : (judge s.registry.shapes ⟨accentedTokens, 2⟩).mismatches = accentedMismatches :=
    congrArg Verdict.mismatches accented_judged
  let f := Fault.mismatched 2 accentedMismatches
    (Report.mismatched (Source.ofText contract) (judge s.registry.shapes ⟨accentedTokens, 2⟩) 0)
  have hparse : s.parse (Source.ofText contract) ⟨"we tück", 2⟩ = .error f := by
    simp only [parse, hown, htokens, parseTokens, hmatch, hmismatches, Bool.false_eq_true, if_false]
    rfl
  have hall : s.parseAll (Source.ofText contract) (s.ignored fuseLog) = .error f :=
    parseAll_eq_error.2 ⟨[], _, [], rfl, List.forall_mem_nil _, hparse⟩
  have hrun : (s.run contract fuseScope 7).1 = .error f :=
    congrArg Prod.fst (Ran.refused rfl hall).run_eq
  obtain ⟨done, entry, rest, own, hentries, _, _, hline, hpoints, _⟩ :=
    run_points_into_line hrun (.inr rfl)
  have hentry : entry ∈ s.ignored fuseLog :=
    hentries ▸ List.mem_append_right done List.mem_cons_self
  obtain rfl : entry = ⟨"we tück", 2⟩ := List.mem_singleton.1 hentry
  obtain rfl := Option.some.inj (hown.symm.trans hline)
  have htext : Text.trim "we tück".toList <:+: accentedLine.toList := Text.occurs_iff.1 (by decide +kernel)
  exact ⟨f, hrun, rfl, rfl, hpoints htext⟩

end Session

end Rider
