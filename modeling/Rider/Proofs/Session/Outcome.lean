import Rider.Proofs.Json.Layout
import Rider.Proofs.Session.Run
import Rider.Proofs.Statement.Written

set_option autoImplicit false

namespace Rider

section Fuse

-- A session that burns down: each statement and each interpreter run takes one from the state, and the
-- first that finds nothing left fails.

def tickShape : Shape := ⟨.absent, .empty, ["tick"]⟩

theorem tickShape_valid : tickShape.Valid where
  phrase_ne_nil := by decide
  phrase_words := by
    intro w hw
    rw [List.mem_singleton.1 hw]
    exact isWord_of_all (by decide) (by decide)
  params_words := by
    intro p hp
    exact absurd hp (WordSet.not_mem_empty p)

def tickEntry : Entry (Handler Nat) where
  plugin := "fuse"
  definition := ⟨tickShape, tickShape_valid, fun _ fuel => match fuel with
    | 0 => (.error (.failed "stuck"), 0)
    | n + 1 => (.ok (.ofNat n), n)⟩

def fuseContract : String :=
  "Then I tick and output into 'b'\nGiven I tick and output into 'a'\n\nGiven I tick\nThen I tick"

def fuseLog : String := "W 1:\nW 2:\nW 4:\nW 5: tick"

def fuse : Session Nat where
  registry := .ofEntries [tickEntry] (by decide)
  interpreter := {
    execute := fun _ scope fuel => match fuel with
      | 0 => (.error "halted", 0)
      | n + 1 => (.ok ⟨scope.data.put "native" (.text "done"), "log"⟩, n)
    diagnose := fun _ _ fuel => (fuseLog, fuel) }
  scraper := none
  layout := Json.layout
  config := ⟨0, true, "W"⟩

def fuseScope : Scope := { Scope.empty with data := [("kept", .bool true)], conf := "debug=1" }

def ticked (line : Nat) (phase : Phase) (output : Option String) : Located :=
  ⟨line, phase, .absent, none, [], "tick", output⟩

def fuseStatements : List Located :=
  [ticked 1 .after (some "b"), ticked 2 .before (some "a"), ticked 4 .before none,
    ticked 5 .after none]

theorem ticked_shape (line : Nat) (phase : Phase) (output : Option String) :
    (ticked line phase output).statement.shape = tickShape := by
  have hphrase : (Text.pieces ' ' "tick".toList).map String.ofList = ["tick"] := by decide +kernel
  exact congrArg (Shape.mk .absent .empty) hphrase

theorem fuse_begun (fuel : Nat) :
    fuse.Begun fuseContract fuseScope fuel fuseLog fuel fuseStatements where
  diagnosed := rfl
  parsed := Session.parseAll_eq_ok.1 (by decide +kernel)

theorem fuse_burns (line : Nat) (phase : Phase) (output : Option String) (data : Data) (n : Nat) :
    fuse.Answers (ticked line phase output) data (n + 1) (.ok (.ofNat n)) n :=
  ⟨tickEntry, List.mem_singleton_self _, (ticked_shape line phase output).symm, rfl⟩

theorem fuse_sticks (line : Nat) (phase : Phase) (output : Option String) (data : Data) :
    fuse.Answers (ticked line phase output) data 0 (.error (.failed "stuck")) 0 :=
  ⟨tickEntry, List.mem_singleton_self _, (ticked_shape line phase output).symm, rfl⟩

def fuseData (n : Nat) : Data := [("a", .ofNat n), ("kept", .bool true)]

theorem fuse_performs (n : Nat) :
    fuse.Performs (Session.ofPhase .before fuseStatements) fuseScope.data (n + 2)
      [(ticked 2 .before (some "a")).call fuseScope.data (.ok (.ofNat (n + 1))),
        (ticked 4 .before none).call (fuseData (n + 1)) (.ok (.ofNat n))]
      (fuseData (n + 1)) n :=
  .next (fuse_burns 2 .before (some "a") _ _) (.next (fuse_burns 4 .before none _ _) (.done _ _))

def tockLine : TokenLine :=
  ⟨[.ofRaw ['G', 'i', 'v', 'e', 'n'] 4 0, .ofRaw ['I'] 4 6, .ofRaw ['t', 'o', 'c', 'k'] 4 8], 4⟩

def fuseReporting (entries : List Ignored) : Session Nat :=
  { fuse with scraper := some fun _ => entries }

def fuseSilent : Session Nat := { fuse with config := ⟨0, false, "W"⟩ }

theorem fuseSilent_begun (fuel : Nat) :
    fuseSilent.Begun fuseContract fuseScope fuel fuseLog fuel fuseStatements :=
  ⟨rfl, (fuse_begun fuel).parsed⟩

end Fuse

namespace Session

variable {σ : Type}

theorem ignored_eq (s : Session σ) (log : String) :
    s.ignored log = s.scraper.elim (Ignored.ofLog s.config.marker log) fun scrape => scrape log := by
  rw [ignored]
  cases s.scraper <;> rfl

/-- A fault that is neither a handler's nor the interpreter's is that of the first ignored line with one. -/
theorem refused_of_run {s : Session σ} {contract : String} {scope : Scope} {state : σ} {f : Fault}
    (h : (s.run contract scope state).1 = .error f) (hkind : f.kind ∉ [.handler, .interpreter]) :
    ∃ done entry rest,
      s.ignored (s.interpreter.diagnose contract scope state).1 = done ++ entry :: rest ∧
      (∀ d ∈ done, ∃ l, s.parse (Source.ofText contract) d = .ok l) ∧
      s.parse (Source.ofText contract) entry = .error f := by
  obtain ⟨events, hran⟩ := ran_of_run (Prod.ext h rfl)
  cases hran with
  | refused hdiagnose hparse =>
    rw [hdiagnose]
    exact parseAll_eq_error.1 hparse
  | failedBefore => exact absurd List.mem_cons_self hkind
  | halted => exact absurd (List.mem_cons_of_mem _ List.mem_cons_self) hkind
  | failedAfter => exact absurd List.mem_cons_self hkind

theorem kind_of_run {s : Session σ} {contract : String} {scope : Scope} {state : σ} {f : Fault}
    (h : (s.run contract scope state).1 = .error f) :
    f.kind ∈ [.handler, .interpreter] ∨
      ∃ entry ∈ s.ignored (s.interpreter.diagnose contract scope state).1,
        s.parse (Source.ofText contract) entry = .error f := by
  by_cases hkind : f.kind ∈ [.handler, .interpreter]
  · exact .inl hkind
  · obtain ⟨done, entry, rest, hentries, _, hentry⟩ := refused_of_run h hkind
    refine .inr ⟨entry, ?_, hentry⟩
    rw [hentries]
    exact List.mem_append_right done List.mem_cons_self

/-- Parsing is all or nothing: if some ignored line is no statement, the run ends with the fault of the
first such line before any handler is called. What becomes of a line depends on the first check that it fails:
its number, its quotes, its tokens. If all ignored lines are statements, a run has no fault of this sort. -/
theorem run_all_or_nothing (s : Session σ) (contract : String) (scope : Scope) (state : σ) :
    let source := Source.ofText contract
    let diagnosis := s.interpreter.diagnose contract scope state
    let entries := s.scraper.elim (Ignored.ofLog s.config.marker diagnosis.1) fun scrape => scrape diagnosis.1
    ((∃ entry ∈ entries, ∃ f, s.parse source entry = .error f) →
      ∃ done entry rest f, entries = done ++ entry :: rest ∧
        (∀ d ∈ done, ∃ l, s.parse source d = .ok l) ∧ s.parse source entry = .error f ∧
        s.Yields contract scope state (.error f) diagnosis.2
          [.diagnosed contract scope diagnosis.1]) ∧
    (∀ entry,
      ((∃ f, s.parse source entry = .error f ∧ f.kind = .unknownLine) ↔
        entry.line = 0 ∨ source.size < entry.line) ∧
      ((∃ f, s.parse source entry = .error f ∧ f.kind = .unclosed) ↔
        ∃ own e, source.line? entry.line = some own ∧
          tokenize (chosenText own entry.text) entry.line = .error e) ∧
      ((∃ f, s.parse source entry = .error f ∧ f.kind = .mismatched) ↔
        ∃ own tokens, source.line? entry.line = some own ∧
          tokenize (chosenText own entry.text) entry.line = .ok tokens ∧
          (judge s.registry.shapes tokens).isMatch = false) ∧
      ((∃ l, s.parse source entry = .ok l) ↔
        ∃ own tokens, source.line? entry.line = some own ∧
          tokenize (chosenText own entry.text) entry.line = .ok tokens ∧
          (judge s.registry.shapes tokens).isMatch = true) ∧
      ∀ f, s.parse source entry = .error f →
        f.kind ∈ [.unknownLine, .unclosed, .mismatched] ∧ f.line? = some entry.line ∧
          (f.kind ≠ .unknownLine → 1 ≤ entry.line ∧ entry.line ≤ source.size)) ∧
    ((∀ entry ∈ entries, ∃ l, s.parse source entry = .ok l) →
      ∀ f, (s.run contract scope state).1 = .error f →
        f.kind ∉ [.unknownLine, .unclosed, .mismatched]) := by
  intro source diagnosis entries
  have hentries : s.ignored diagnosis.1 = entries := s.ignored_eq _
  refine ⟨?_, ?_, ?_⟩
  · rintro ⟨entry, hentry, f, hf⟩
    -- The given entry need not be the first with a fault, which is the one that parsing finds.
    cases hparse : s.parseAll source entries with
    | error g =>
      obtain ⟨done, first, rest, hsplit, hdone, hfirst⟩ := parseAll_eq_error.1 hparse
      exact ⟨done, first, rest, g, hsplit, hdone, hfirst, (Ran.refused rfl (hentries ▸ hparse)).yields⟩
    | ok statements =>
      obtain ⟨l, -, hl⟩ := exists_of_forall₂ (parseAll_eq_ok.1 hparse) entry hentry
      rw [hf] at hl
      contradiction
  · intro entry
    obtain ⟨hunknown, hunclosed, hmismatched, hstatement⟩ := s.parse_iff source entry
    exact ⟨hunknown, hunclosed, hmismatched, hstatement, fun f hf => line?_of_parse hf⟩
  · intro hall f hf
    rcases kind_of_run hf with hkind | ⟨entry, hentry, herror⟩
    · revert hkind
      cases f <;> simp [Fault.kind]
    · obtain ⟨l, hl⟩ := hall entry (hentries ▸ hentry)
      rw [herror] at hl
      contradiction

theorem run_all_or_nothing_mismatch :
    let entries : List Ignored :=
      [⟨"", 2⟩, ⟨"Given I tock", 4⟩, ⟨"Given I tick 'x", 4⟩, ⟨"", 9⟩, ⟨"", 0⟩, ⟨"tick", 5⟩]
    let s := fuseReporting entries
    let source := Source.ofText fuseContract
    (∃ entry ∈ entries, ∃ f, s.parse source entry = .error f) ∧
      (∃ done entry rest f, entries = done ++ entry :: rest ∧
        (∀ d ∈ done, ∃ l, s.parse source d = .ok l) ∧ s.parse source entry = .error f ∧
        s.Yields fuseContract fuseScope 7 (.error f) 7 [.diagnosed fuseContract fuseScope fuseLog]) ∧
      (∃ f, s.parse source ⟨"Given I tock", 4⟩ = .error f ∧ f.kind = .mismatched ∧ f.line? = some 4) ∧
      (∃ f, s.parse source ⟨"Given I tick 'x", 4⟩ = .error f ∧ f.kind = .unclosed ∧ f.line? = some 4) ∧
      (∃ f, s.parse source ⟨"", 9⟩ = .error f ∧ f.kind = .unknownLine ∧ f.line? = some 9) ∧
      (∀ entry ∈ fuse.ignored fuseLog, ∃ l, fuse.parse source entry = .ok l) ∧
      ∀ f, (fuse.run fuseContract fuseScope 1).1 = .error f →
        f.kind ∉ [.unknownLine, .unclosed, .mismatched] := by
  intro entries s source
  obtain ⟨hrun, hlines, -⟩ := run_all_or_nothing s fuseContract fuseScope 7
  obtain ⟨-, -, hmismatched, -, htockFault⟩ := hlines ⟨"Given I tock", 4⟩
  obtain ⟨-, hunclosed, -, -, hopenFault⟩ := hlines ⟨"Given I tick 'x", 4⟩
  obtain ⟨hunknown, -, -, -, hbeyondFault⟩ := hlines ⟨"", 9⟩
  have hown : source.line? 4 = some "Given I tick".toList := by decide +kernel
  have htock : tokenize (chosenText "Given I tick".toList "Given I tock") 4 = .ok tockLine := by
    decide +kernel
  have hjudged : (judge s.registry.shapes tockLine).isMatch = false := by decide +kernel
  have hopen : tokenize (chosenText "Given I tick".toList "Given I tick 'x") 4 =
      .error ⟨.ofRaw ['\'', 'x'] 4 13⟩ := by
    decide +kernel
  have hbeyond : source.size < 9 := by decide +kernel
  obtain ⟨f, hf, hfkind⟩ := hmismatched.2 ⟨_, _, hown, htock, hjudged⟩
  obtain ⟨g, hg, hgkind⟩ := hunclosed.2 ⟨_, _, hown, hopen⟩
  obtain ⟨k, hk, hkkind⟩ := hunknown.2 (.inr hbeyond)
  have hfault : ∃ entry ∈ entries, ∃ f, s.parse source entry = .error f :=
    ⟨⟨"Given I tock", 4⟩, by decide, f, hf⟩
  have hall : ∀ entry ∈ fuse.ignored fuseLog, ∃ l, fuse.parse source entry = .ok l := by
    intro entry hentry
    obtain ⟨l, -, hl⟩ := exists_of_forall₂ (fuse_begun 1).parsed entry hentry
    exact ⟨l, hl⟩
  exact ⟨hfault, hrun hfault, ⟨f, hf, hfkind, (htockFault f hf).2.1⟩, ⟨g, hg, hgkind, (hopenFault g hg).2.1⟩,
    ⟨k, hk, hkkind, (hbeyondFault k hk).2.1⟩, hall,
    (run_all_or_nothing fuse fuseContract fuseScope 1).2.2 hall⟩

/-- A run that succeeds is the fold of its two phases: the statements before the interpreter on the data of
the scope, one run of the interpreter on what they leave, and the statements after it on its result. The
statements are those of the ignored lines, in the phase that the first word of the line names. -/
theorem run_two_phases {s : Session σ} {contract : String} {scope : Scope} {state final : σ}
    {out : Output} (h : s.run contract scope state = (.ok out, final)) :
    ∃ log statements before after data result,
      (s.interpreter.diagnose contract scope state).1 = log ∧
      List.Forall₂ (fun entry l => s.parse (Source.ofText contract) entry = .ok l ∧
          l.line = entry.line ∧ BeginsWith (Source.ofText contract) entry l.phase)
        (s.scraper.elim (Ignored.ofLog s.config.marker log) fun scrape => scrape log) statements ∧
      CarriedOut (statements.filter fun l => l.phase = .before) scope.data before data ∧
      CarriedOut (statements.filter fun l => l.phase = .after) result after out.result ∧
      s.observed.run contract scope (state, []) = (.ok out, final,
        .diagnosed contract scope log :: (before.map .called ++
          .interpreted contract { scope with data := data } (.ok ⟨result, out.log⟩) ::
            after.map .called)) := by
  obtain ⟨events, hran⟩ := ran_of_run h
  obtain ⟨-, hobserved⟩ := hran.yields
  cases hran with
  | @completed log _ _ _ _ statements calls later data _ inner hbegun hp _ hq =>
    refine ⟨log, statements, calls, later, data, inner.result, congrArg Prod.fst hbegun.diagnosed,
      ?_, hp.carriedOut, hq.carriedOut, hobserved⟩
    rw [← s.ignored_eq]
    exact hbegun.parsed.imp fun _ _ hparse => ⟨hparse, line_of_parse hparse, beginsWith_of_parse hparse⟩

theorem run_two_phases_fuse :
    let out : Output :=
      ⟨[("a", .ofNat 4), ("b", .ofNat 1), ("kept", .bool true), ("native", .text "done")], "log"⟩
    fuse.run fuseContract fuseScope 5 = (.ok out, 0) ∧
      ∃ log statements before after data result,
        (fuse.interpreter.diagnose fuseContract fuseScope 5).1 = log ∧
        List.Forall₂ (fun entry l => fuse.parse (Source.ofText fuseContract) entry = .ok l ∧
            l.line = entry.line ∧ BeginsWith (Source.ofText fuseContract) entry l.phase)
          (Ignored.ofLog "W" log) statements ∧
        CarriedOut (statements.filter fun l => l.phase = .before) fuseScope.data before data ∧
        CarriedOut (statements.filter fun l => l.phase = .after) result after out.result ∧
        fuse.observed.run fuseContract fuseScope (5, []) = (.ok out, 0,
          .diagnosed fuseContract fuseScope log :: (before.map .called ++
            .interpreted fuseContract { fuseScope with data := data } (.ok ⟨result, out.log⟩) ::
              after.map .called)) := by
  intro out
  -- Five is just enough: two statements, the interpreter, and two more statements.
  have hran := Ran.completed (fuse_begun 5) (fuse_performs 3) rfl
    (.next (fuse_burns 1 .after (some "b") _ 1) (.next (fuse_burns 5 .after none _ 0) (.done _ _)))
  have hrun : fuse.run fuseContract fuseScope 5 = (.ok out, 0) := hran.run_eq
  exact ⟨hrun, run_two_phases hrun⟩

/-- What the report of a failed statement tells of the data that its handler was given. If the configuration
wants that, it writes them out, so that no other data have the same report; otherwise it does not mention them. -/
structure Reports (s : Session σ) (source : Source) (l : Located) (e : HandlerError) (data : Data)
    (report : String) : Prop where
  shown : s.config.dumpHeap = true → ∃ text, s.layout data = .ok text ∧
    report = Report.withoutHeap source l.line e.message s.config.contextLines ++
      ("heap:\n" ++ text ++ "\n")
  determined : s.config.dumpHeap = true → ∀ other text, s.layout other = .ok text →
    report = Report.withoutHeap source l.line e.message s.config.contextLines ++
      ("heap:\n" ++ text ++ "\n") → other = data
  hidden : s.config.dumpHeap = false →
    report = Report.withoutHeap source l.line e.message s.config.contextLines

theorem Reports.eq_of_layout {s : Session σ} {source : Source} {l : Located} {e : HandlerError}
    {data : Data} {report text : String} (h : s.Reports source l e data report)
    (hdump : s.config.dumpHeap = true) (htext : s.layout data = .ok text) :
    report = Report.withoutHeap source l.line e.message s.config.contextLines ++
      ("heap:\n" ++ text ++ "\n") := by
  obtain ⟨shown, hshown, hreport⟩ := h.shown hdump
  rw [hshown] at htext
  rw [hreport, Except.ok.inj htext]

theorem exists_reports {s : Session σ} (hlayout : s.layout.Faithful) (source : Source) (l : Located)
    (e : HandlerError) (data : Data) :
    ∃ report, s.failure source l e data = .handler l.line e report ∧ s.Reports source l e data report := by
  obtain ⟨text, htext⟩ := hlayout.total data
  have hsection : Report.heapSection s.layout data = "heap:\n" ++ text ++ "\n" := by
    rw [Report.heapSection, Layout.textOf, htext]
  refine ⟨_, rfl, ?_, ?_, ?_⟩
  · intro hdump
    exact ⟨text, htext, by rw [if_pos hdump, hsection]⟩
  · intro hdump other shown hother hreport
    rw [if_pos hdump, hsection, String.append_right_inj, String.append_left_inj,
      String.append_right_inj] at hreport
    exact hlayout.injective other data (by rw [hother, htext, hreport])
  · intro hdump
    rw [hdump]
    exact String.append_empty

/-- A failure ends a run where it happens. If a statement before the interpreter fails, the statements up to
it have been called and the interpreter has not run; if the interpreter fails, no statement after it has
been called; and if a statement after it fails, no later one has. The fault of a statement shows, if
anything, the data that its handler saw: the first data of the phase with the outputs written since. -/
theorem run_stops_at_failure {s : Session σ} {contract : String} {scope : Scope} {state begun : σ}
    {log : String} {statements : List Located} (hlayout : s.layout.Faithful)
    (hdiagnose : s.interpreter.diagnose contract scope state = (log, begun))
    (hparse : List.Forall₂ (fun entry l => s.parse (Source.ofText contract) entry = .ok l)
      (s.scraper.elim (Ignored.ofLog s.config.marker log) fun scrape => scrape log) statements) :
    (∀ done l rest calls data mid e final,
      (statements.filter fun l => l.phase = .before) = done ++ l :: rest →
      s.Performs done scope.data begun calls data mid → s.Answers l data mid (.error e) final →
      ∃ report, s.Yields contract scope state (.error (.handler l.line e report)) final
          (.diagnosed contract scope log :: (calls ++ [l.call data (.error e)]).map .called) ∧
        s.Reports (Source.ofText contract) l e data report ∧
        CarriedOut done scope.data calls data ∧
        data = Members.putAll (calls.flatMap Call.written) scope.data) ∧
    (∀ calls data mid report final,
      s.Performs (statements.filter fun l => l.phase = .before) scope.data begun calls data mid →
      s.interpreter.execute contract { scope with data := data } mid = (.error report, final) →
      ∃ f, f = .interpreter report (Report.interpreter (Source.ofText contract) report) ∧
        f.line? = none ∧
        s.Yields contract scope state (.error f) final
          (.diagnosed contract scope log :: (calls.map .called ++
            [.interpreted contract { scope with data := data } (.error report)])) ∧
        CarriedOut (statements.filter fun l => l.phase = .before) scope.data calls data) ∧
    (∀ calls data mid out after done l rest later result last e final,
      s.Performs (statements.filter fun l => l.phase = .before) scope.data begun calls data mid →
      s.interpreter.execute contract { scope with data := data } mid = (.ok out, after) →
      (statements.filter fun l => l.phase = .after) = done ++ l :: rest →
      s.Performs done out.result after later result last →
      s.Answers l result last (.error e) final →
      ∃ report, s.Yields contract scope state (.error (.handler l.line e report)) final
          (.diagnosed contract scope log :: (calls.map .called ++
            .interpreted contract { scope with data := data } (.ok out) ::
              (later ++ [l.call result (.error e)]).map .called)) ∧
        s.Reports (Source.ofText contract) l e result report ∧
        CarriedOut (statements.filter fun l => l.phase = .before) scope.data calls data ∧
        CarriedOut done out.result later result ∧
        result = Members.putAll (later.flatMap Call.written) out.result) ∧
    List.Forall₂ (fun entry l =>
        l.line = entry.line ∧ BeginsWith (Source.ofText contract) entry l.phase)
      (s.scraper.elim (Ignored.ofLog s.config.marker log) fun scrape => scrape log) statements := by
  have h : s.Begun contract scope state log begun statements := ⟨hdiagnose, s.ignored_eq log ▸ hparse⟩
  refine ⟨?_, ?_, ?_, ?_⟩
  · intro done l rest calls data mid e final hsplit hp ha
    obtain ⟨report, hfault, hreports⟩ := exists_reports hlayout (Source.ofText contract) l e data
    exact ⟨report, hfault ▸ (Ran.failedBefore h hsplit hp ha).yields, hreports, hp.carriedOut,
      hp.carriedOut.finish_eq⟩
  · intro calls data mid report final hp hexecute
    exact ⟨_, rfl, rfl, (Ran.halted h hp hexecute).yields, hp.carriedOut⟩
  · intro calls data mid out after done l rest later result last e final hp hexecute hsplit hq ha
    obtain ⟨report, hfault, hreports⟩ := exists_reports hlayout (Source.ofText contract) l e result
    exact ⟨report, hfault ▸ (Ran.failedAfter h hp hexecute hsplit hq ha).yields, hreports,
      hp.carriedOut, hq.carriedOut, hq.carriedOut.finish_eq⟩
  · exact hparse.imp fun _ _ hl => ⟨line_of_parse hl, beginsWith_of_parse hl⟩

theorem run_stops_at_failure_fuse :
    let first (n : Nat) := (ticked 2 .before (some "a")).call fuseScope.data (.ok (.ofNat n))
    let second (n : Nat) (answer : Except HandlerError Json) :=
      (ticked 4 .before none).call (fuseData n) answer
    let third := (ticked 1 .after (some "b")).call ((fuseData 3).put "native" (.text "done"))
      (.ok (.ofNat 0))
    let heap : Data :=
      [("a", .ofNat 3), ("b", .ofNat 0), ("kept", .bool true), ("native", .text "done")]
    let stuck : HandlerError := .failed "stuck"
    fuse.Yields fuseContract fuseScope 1 (.error (.handler 4 stuck
        ("Error at line 4: stuck\n4 | Given I tick\n  | ^^^^^^^^^^^^\n" ++
          "heap:\n\x7b\n  \"a\": 0,\n  \"kept\": true\n\x7d\n"))) 0
        [.diagnosed fuseContract fuseScope fuseLog, .called (first 0),
          .called (second 0 (.error stuck))] ∧
      fuse.Yields fuseContract fuseScope 2
        (.error (.interpreter "halted" (Report.interpreter (Source.ofText fuseContract) "halted"))) 0
        [.diagnosed fuseContract fuseScope fuseLog, .called (first 1),
          .called (second 1 (.ok (.ofNat 0))),
          .interpreted fuseContract { fuseScope with data := fuseData 1 } (.error "halted")] ∧
      fuse.Yields fuseContract fuseScope 4 (.error (.handler 5 stuck
        ("Error at line 5: stuck\n5 | Then I tick\n  | ^^^^^^^^^^^\nheap:\n\x7b\n  \"a\": 3,\n" ++
          "  \"b\": 0,\n  \"kept\": true,\n  \"native\": \"done\"\n\x7d\n"))) 0
        [.diagnosed fuseContract fuseScope fuseLog, .called (first 3),
          .called (second 3 (.ok (.ofNat 2))),
          .interpreted fuseContract { fuseScope with data := fuseData 3 }
            (.ok ⟨(fuseData 3).put "native" (.text "done"), "log"⟩),
          .called third, .called ((ticked 5 .after none).call heap (.error stuck))] ∧
      fuseSilent.Yields fuseContract fuseScope 1 (.error (.handler 4 stuck
        "Error at line 4: stuck\n4 | Given I tick\n  | ^^^^^^^^^^^^\n")) 0
        [.diagnosed fuseContract fuseScope fuseLog, .called (first 0),
          .called (second 0 (.error stuck))] := by
  intro first second third heap stuck
  refine ⟨?_, ?_, ?_, ?_⟩
  · obtain ⟨report, hyields, hreports, -⟩ :=
      (run_stops_at_failure Json.layout_faithful (fuse_begun 1).diagnosed (fuse_begun 1).parsed).1
        [ticked 2 .before (some "a")] _ [] _ _ _ _ _ rfl
        (.next (fuse_burns 2 .before (some "a") _ 0) (.done _ _)) (fuse_sticks 4 .before none _)
    have htext : Json.layout (fuseData 0) = .ok "\x7b\n  \"a\": 0,\n  \"kept\": true\n\x7d" :=
      congrArg Except.ok (by decide +kernel)
    have hliteral : report = "Error at line 4: stuck\n4 | Given I tick\n  | ^^^^^^^^^^^^\n" ++
        "heap:\n\x7b\n  \"a\": 0,\n  \"kept\": true\n\x7d\n" :=
      (hreports.eq_of_layout rfl htext).trans (by decide +kernel)
    rw [hliteral] at hyields
    exact hyields
  · obtain ⟨f, rfl, -, hyields, -⟩ :=
      (run_stops_at_failure Json.layout_faithful (fuse_begun 2).diagnosed (fuse_begun 2).parsed).2.1 _ _ _
        _ _ (fuse_performs 0) rfl
    exact hyields
  · obtain ⟨report, hyields, hreports, -⟩ :=
      (run_stops_at_failure Json.layout_faithful (fuse_begun 4).diagnosed (fuse_begun 4).parsed).2.2.1 _ _ _
        _ _ [ticked 1 .after (some "b")] _ [] _ _ _ _ _ (fuse_performs 2) rfl rfl
        (.next (fuse_burns 1 .after (some "b") _ 0) (.done _ _)) (fuse_sticks 5 .after none _)
    have htext : Json.layout heap =
        .ok "\x7b\n  \"a\": 3,\n  \"b\": 0,\n  \"kept\": true,\n  \"native\": \"done\"\n\x7d" :=
      congrArg Except.ok (by decide +kernel)
    have hliteral : report =
        "Error at line 5: stuck\n5 | Then I tick\n  | ^^^^^^^^^^^\nheap:\n\x7b\n  \"a\": 3,\n" ++
          "  \"b\": 0,\n  \"kept\": true,\n  \"native\": \"done\"\n\x7d\n" :=
      (hreports.eq_of_layout rfl htext).trans (by decide +kernel)
    rw [hliteral] at hyields
    exact hyields
  · obtain ⟨report, hyields, hreports, -⟩ :=
      (run_stops_at_failure Json.layout_faithful (fuseSilent_begun 1).diagnosed
        (fuseSilent_begun 1).parsed).1 [ticked 2 .before (some "a")] _ [] _ _ _ _ _ rfl
        (.next (fuse_burns 2 .before (some "a") _ 0) (.done _ _)) (fuse_sticks 4 .before none _)
    have hliteral : report = "Error at line 4: stuck\n4 | Given I tick\n  | ^^^^^^^^^^^^\n" :=
      (hreports.hidden rfl).trans (by decide +kernel)
    rw [hliteral] at hyields
    exact hyields

end Session

end Rider
