import Rider.Proofs.Session.Outcome

set_option autoImplicit false

namespace Rider

/-- One call for each statement, in their order. -/
def CallsOf (statements : List Located) (calls : List Call) : Prop :=
  List.Forall₂ (fun l c => c = l.call c.context.data c.answer) statements calls

theorem callsOf_concat {statements : List Located} {calls : List Call} {l : Located} {data : Data}
    {answer : Except HandlerError Json} (h : CallsOf statements calls) :
    CallsOf (statements ++ [l]) (calls ++ [l.call data answer]) :=
  List.rel_append h (.cons rfl .nil)

/-- The effects of a run that calls the statements `before`, then perhaps runs the interpreter, and then
calls the statements `after`. -/
def InPhases (contract : String) (scope : Scope) (log : String) (before after : List Located)
    (events : List Event) : Prop :=
  ∃ calls between later,
    events = .diagnosed contract scope log :: (calls.map .called ++ (between ++ later.map .called)) ∧
    (∀ e ∈ between, ∃ data answer, e = .interpreted contract { scope with data := data } answer) ∧
    CallsOf before calls ∧ CallsOf after later

theorem inPhases_before {before : List Located} {calls : List Call} (h : CallsOf before calls)
    (contract : String) (scope : Scope) (log : String) :
    InPhases contract scope log before [] (.diagnosed contract scope log :: calls.map .called) := by
  refine ⟨calls, [], [], ?_, List.forall_mem_nil _, h, .nil⟩
  rw [List.map_nil, List.append_nil, List.append_nil]

theorem inPhases_between {before after : List Located} {calls later : List Call}
    (h : CallsOf before calls) (g : CallsOf after later) (contract : String) (scope : Scope)
    (log : String) (data : Data) (answer : Except String Output) :
    InPhases contract scope log before after (.diagnosed contract scope log :: (calls.map .called ++
      .interpreted contract { scope with data := data } answer :: later.map .called)) := by
  refine ⟨calls, [.interpreted contract { scope with data := data } answer], later, rfl, ?_, h, g⟩
  intro e he
  exact ⟨data, answer, List.mem_singleton.1 he⟩

namespace Session

variable {σ : Type} {s : Session σ} {contract log : String} {scope : Scope} {state begun final : σ}
  {phase : Phase} {statements done rest : List Located} {start finish : Data} {calls : List Call}
  {r : Except Fault Output} {events : List Event}

/-- Statements of the phase that stand on some of the ignored lines, in the order of the log. -/
structure Reported (s : Session σ) (source : Source) (log : String) (phase : Phase)
    (statements : List Located) : Prop where
  parsed : List.SublistForall₂ (fun l entry => s.parse source entry = .ok l) statements (s.ignored log)
  of_phase : ∀ l ∈ statements, l.phase = phase

theorem Reported.nil (source : Source) : s.Reported source log phase [] :=
  ⟨.nil, List.forall_mem_nil _⟩

theorem Reported.lines_sublist {source : Source} (h : s.Reported source log phase statements) :
    (statements.map Located.line).Sublist ((s.ignored log).map Ignored.line) := by
  have hparsed := h.parsed
  generalize s.ignored log = entries at hparsed
  clear h
  induction hparsed with
  | nil => exact List.nil_sublist _
  | cons hparse _ ih =>
    rw [List.map_cons, List.map_cons, line_of_parse hparse]
    exact ih.cons_cons _
  | cons_right _ ih => exact ih.cons _

theorem Reported.lines_pairwise {source : Source} (h : s.Reported source log phase statements)
    (hlog : (s.ignored log).Pairwise fun a b => a.line ≤ b.line) :
    statements.Pairwise fun a b => a.line ≤ b.line := by
  have hlines : ((s.ignored log).map Ignored.line).Pairwise (· ≤ ·) := List.pairwise_map.2 hlog
  exact List.pairwise_map.1 (hlines.sublist h.lines_sublist)

theorem Performs.callsOf (h : s.Performs statements start state calls finish final) :
    CallsOf statements calls := by
  induction h with
  | done => exact .nil
  | next _ _ ih => exact .cons rfl ih

theorem Begun.reported (h : s.Begun contract scope state log begun statements)
    (hsplit : ofPhase phase statements = done ++ rest) :
    s.Reported (Source.ofText contract) log phase done := by
  have hsub : done.Sublist (ofPhase phase statements) := hsplit ▸ List.sublist_append_left done rest
  refine ⟨sublistForall₂_of_sublist h.parsed.flip (hsub.trans List.filter_sublist), ?_⟩
  intro l hl
  simpa using List.of_mem_filter (hsub.subset hl)

theorem Begun.reported_all (h : s.Begun contract scope state log begun statements) :
    s.Reported (Source.ofText contract) log phase (ofPhase phase statements) :=
  h.reported (List.append_nil _).symm

theorem Begun.reported_concat {l : Located} (h : s.Begun contract scope state log begun statements)
    (hsplit : ofPhase phase statements = done ++ l :: rest) :
    s.Reported (Source.ofText contract) log phase (done ++ [l]) :=
  h.reported (hsplit.trans (List.append_cons _ _ _))

theorem Ran.inPhases (h : s.Ran contract scope state r final events)
    (hlog : (s.interpreter.diagnose contract scope state).1 = log) :
    ∃ before after, InPhases contract scope log before after events ∧
      s.Reported (Source.ofText contract) log .before before ∧
      s.Reported (Source.ofText contract) log .after after := by
  cases h with
  | refused hdiagnose _ =>
    obtain rfl := (congrArg Prod.fst hdiagnose).symm.trans hlog
    exact ⟨[], [], inPhases_before .nil contract scope _, .nil _, .nil _⟩
  | failedBefore hbegun hsplit hp _ =>
    obtain rfl := (congrArg Prod.fst hbegun.diagnosed).symm.trans hlog
    exact ⟨_, [], inPhases_before (callsOf_concat hp.callsOf) contract scope _,
      hbegun.reported_concat hsplit, .nil _⟩
  | halted hbegun hp _ =>
    obtain rfl := (congrArg Prod.fst hbegun.diagnosed).symm.trans hlog
    exact ⟨_, [], inPhases_between hp.callsOf .nil contract scope _ _ _, hbegun.reported_all, .nil _⟩
  | failedAfter hbegun hp _ hsplit hq _ =>
    obtain rfl := (congrArg Prod.fst hbegun.diagnosed).symm.trans hlog
    exact ⟨_, _, inPhases_between hp.callsOf (callsOf_concat hq.callsOf) contract scope _ _ _,
      hbegun.reported_all, hbegun.reported_concat hsplit⟩
  | completed hbegun hp _ hq =>
    obtain rfl := (congrArg Prod.fst hbegun.diagnosed).symm.trans hlog
    exact ⟨_, _, inPhases_between hp.callsOf hq.callsOf contract scope _ _ _, hbegun.reported_all,
      hbegun.reported_all⟩

/-- The statements of a phase are called in the order in which the log reports their lines. So they are
called in the order of the contract if the log reports the lines in that order. -/
theorem run_in_reported_order (s : Session σ) (contract : String) (scope : Scope) (state : σ) :
    let source := Source.ofText contract
    let log := (s.interpreter.diagnose contract scope state).1
    ∃ before after,
      InPhases contract scope log before after (s.observed.run contract scope (state, [])).2.2 ∧
      s.Reported source log .before before ∧ s.Reported source log .after after ∧
      ((s.ignored log).Pairwise (fun a b => a.line ≤ b.line) →
        before.Pairwise (fun a b => a.line ≤ b.line) ∧
          after.Pairwise fun a b => a.line ≤ b.line) := by
  intro source log
  obtain ⟨r, final, events, hran⟩ := s.exists_ran contract scope state
  have hlog : (s.interpreter.diagnose contract scope state).1 = log := rfl
  obtain ⟨before, after, hphases, hbefore, hafter⟩ := hran.inPhases hlog
  refine ⟨before, after, ?_, hbefore, hafter, ?_⟩
  · rw [hran.yields.2]
    exact hphases
  · intro hlog
    exact ⟨hbefore.lines_pairwise hlog, hafter.lines_pairwise hlog⟩

theorem run_in_reported_order_fuse :
    (fuse.ignored fuseLog).Pairwise (fun a b => a.line ≤ b.line) ∧
      ∃ before after,
        InPhases fuseContract fuseScope fuseLog before after
          (fuse.observed.run fuseContract fuseScope (5, [])).2.2 ∧
        before.Pairwise (fun a b => a.line ≤ b.line) ∧ after.Pairwise fun a b => a.line ≤ b.line := by
  have hignored : fuse.ignored fuseLog = [⟨"", 1⟩, ⟨"", 2⟩, ⟨"", 4⟩, ⟨"tick", 5⟩] := by decide +kernel
  have hlog : (fuse.ignored fuseLog).Pairwise fun a b => a.line ≤ b.line := by
    rw [hignored]
    decide
  obtain ⟨before, after, hphases, _, _, hpairwise⟩ :=
    run_in_reported_order fuse fuseContract fuseScope 5
  exact ⟨hlog, before, after, hphases, hpairwise hlog⟩

def fuseLogging (log : String) : Session Nat :=
  { fuse with interpreter := { fuse.interpreter with diagnose := fun _ _ fuel => (log, fuel) } }

/-- A log that reports the fourth line before the second makes the statement of the fourth line run first. -/
theorem run_against_line_order :
    let s := fuseLogging "W 4:\nW 2:"
    let source := Source.ofText fuseContract
    let late := ticked 4 .before none
    let early := ticked 2 .before (some "a")
    s.parse source ⟨"", 4⟩ = .ok late ∧ s.parse source ⟨"", 2⟩ = .ok early ∧
      s.Yields fuseContract fuseScope 3 (.ok ⟨(fuseData 1).put "native" (.text "done"), "log"⟩) 0
        [.diagnosed fuseContract fuseScope "W 4:\nW 2:",
          .called (late.call fuseScope.data (.ok (.ofNat 2))),
          .called (early.call fuseScope.data (.ok (.ofNat 1))),
          .interpreted fuseContract { fuseScope with data := fuseData 1 }
            (.ok ⟨(fuseData 1).put "native" (.text "done"), "log"⟩)] ∧
      ¬ [late, early].Pairwise (fun a b => a.line ≤ b.line) := by
  intro s source late early
  have hparsed : s.parseAll source (s.ignored "W 4:\nW 2:") = .ok [late, early] := by decide +kernel
  have hbegun : s.Begun fuseContract fuseScope 3 "W 4:\nW 2:" 3 [late, early] :=
    ⟨rfl, parseAll_eq_ok.1 hparsed⟩
  have hperforms : s.Performs (ofPhase .before [late, early]) fuseScope.data 3
      [late.call fuseScope.data (.ok (.ofNat 2)), early.call fuseScope.data (.ok (.ofNat 1))]
      (fuseData 1) 1 :=
    .next (fuse_burns 4 .before none _ 2) (.next (fuse_burns 2 .before (some "a") _ 1) (.done _ _))
  refine ⟨by decide +kernel, by decide +kernel, (Ran.completed hbegun hperforms rfl (.done _ _)).yields, ?_⟩
  decide

end Session

end Rider
