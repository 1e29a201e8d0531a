import Rider.Proofs.Session.Phase

set_option autoImplicit false

/-!
The five ways in which a run ends, each with its result and its effects: an ignored line is no statement,
a statement before the interpreter fails, the interpreter fails, a statement after it fails, or nothing
fails. Every run ends in one of these ways.
-/

namespace Rider.Session

variable {σ : Type}

/-- The interpreter has told the ignored lines, and all of them are statements. -/
structure Begun (s : Session σ) (contract : String) (scope : Scope) (state : σ) (log : String)
    (begun : σ) (statements : List Located) : Prop where
  diagnosed : s.interpreter.diagnose contract scope state = (log, begun)
  parsed : List.Forall₂ (fun entry l => s.parse (Source.ofText contract) entry = .ok l)
    (s.ignored log) statements

/-- A run with its result, the state at its end, and its effects in order. -/
inductive Ran (s : Session σ) (contract : String) (scope : Scope) (state : σ) :
    Except Fault Output → σ → List Event → Prop
  | refused {log : String} {begun : σ} {f : Fault} :
      s.interpreter.diagnose contract scope state = (log, begun) →
      s.parseAll (Source.ofText contract) (s.ignored log) = .error f →
      Ran s contract scope state (.error f) begun [.diagnosed contract scope log]
  | failedBefore {log : String} {begun mid final : σ} {statements done rest : List Located}
      {l : Located} {calls : List Call} {data : Data} {e : HandlerError} :
      s.Begun contract scope state log begun statements →
      ofPhase .before statements = done ++ l :: rest →
      s.Performs done scope.data begun calls data mid → s.Answers l data mid (.error e) final →
      Ran s contract scope state (.error (s.failure (Source.ofText contract) l e data)) final
        (.diagnosed contract scope log :: (calls ++ [l.call data (.error e)]).map .called)
  | halted {log report : String} {begun mid final : σ} {statements : List Located}
      {calls : List Call} {data : Data} :
      s.Begun contract scope state log begun statements →
      s.Performs (ofPhase .before statements) scope.data begun calls data mid →
      s.interpreter.execute contract { scope with data := data } mid = (.error report, final) →
      Ran s contract scope state
        (.error (.interpreter report (Report.interpreter (Source.ofText contract) report))) final
        (.diagnosed contract scope log :: (calls.map .called ++
          [.interpreted contract { scope with data := data } (.error report)]))
  | failedAfter {log : String} {begun mid after last final : σ}
      {statements done rest : List Located} {l : Located} {calls later : List Call}
      {data result : Data} {out : Output} {e : HandlerError} :
      s.Begun contract scope state log begun statements →
      s.Performs (ofPhase .before statements) scope.data begun calls data mid →
      s.interpreter.execute contract { scope with data := data } mid = (.ok out, after) →
      ofPhase .after statements = done ++ l :: rest →
      s.Performs done out.result after later result last → s.Answers l result last (.error e) final →
      Ran s contract scope state (.error (s.failure (Source.ofText contract) l e result)) final
        (.diagnosed contract scope log :: (calls.map .called ++
          .interpreted contract { scope with data := data } (.ok out) ::
            (later ++ [l.call result (.error e)]).map .called))
  | completed {log : String} {begun mid after final : σ} {statements : List Located}
      {calls later : List Call} {data result : Data} {out : Output} :
      s.Begun contract scope state log begun statements →
      s.Performs (ofPhase .before statements) scope.data begun calls data mid →
      s.interpreter.execute contract { scope with data := data } mid = (.ok out, after) →
      s.Performs (ofPhase .after statements) out.result after later result final →
      Ran s contract scope state (.ok ⟨result, out.log⟩) final
        (.diagnosed contract scope log :: (calls.map .called ++
          .interpreted contract { scope with data := data } (.ok out) :: later.map .called))

variable {s : Session σ} {contract : String} {scope : Scope} {state begun mid final : σ}
  {log : String} {statements done rest : List Located} {l : Located} {calls : List Call}
  {data start : Data} {e : HandlerError} {r : Except Fault Output} {events : List Event}

theorem Begun.parseAll_eq (h : s.Begun contract scope state log begun statements) :
    s.parseAll (Source.ofText contract) (s.ignored log) = .ok statements :=
  parseAll_eq_ok.2 h.parsed

theorem Begun.run_eq (h : s.Begun contract scope state log begun statements) :
    s.run contract scope state = s.runParsed contract statements scope begun := by
  simp only [run, h.diagnosed, h.parseAll_eq]

theorem runStatements_of_failure {source : Source} (h : statements = done ++ l :: rest)
    (hp : s.Performs done start begun calls data mid) (ha : s.Answers l data mid (.error e) final) :
    s.runStatements source statements start begun = (.error (s.failure source l e data), final) := by
  rw [h, hp.runStatements_append, runStatements_of_error ha]

theorem Ran.run_eq (h : s.Ran contract scope state r final events) :
    s.run contract scope state = (r, final) := by
  cases h with
  | refused hdiagnose hparse => simp only [run, hdiagnose, hparse]
  | failedBefore hbegun hsplit hp ha =>
    simp only [hbegun.run_eq, runParsed, runStatements_of_failure hsplit hp ha]
  | halted hbegun hp hexecute =>
    simp only [hbegun.run_eq, runParsed, hp.runStatements_eq, hexecute]
  | failedAfter hbegun hp hexecute hsplit hq ha =>
    simp only [hbegun.run_eq, runParsed, hp.runStatements_eq, hexecute,
      runStatements_of_failure hsplit hq ha]
  | completed hbegun hp hexecute hq =>
    simp only [hbegun.run_eq, runParsed, hp.runStatements_eq, hexecute, hq.runStatements_eq]

section Observed

theorem diagnose_observed (h : s.interpreter.diagnose contract scope state = (log, begun))
    (past : List Event) :
    s.observed.interpreter.diagnose contract scope (state, past) =
      (log, begun, past ++ [.diagnosed contract scope log]) := by
  change s.interpreter.observed.diagnose contract scope (state, past) = _
  simp only [Interpreter.observed, h]

theorem execute_observed {answer : Except String Output}
    (h : s.interpreter.execute contract scope state = (answer, final)) (past : List Event) :
    s.observed.interpreter.execute contract scope (state, past) =
      (answer, final, past ++ [.interpreted contract scope answer]) := by
  change s.interpreter.observed.execute contract scope (state, past) = _
  simp only [Interpreter.observed, h]

theorem Begun.observed (h : s.Begun contract scope state log begun statements) (past : List Event) :
    s.observed.Begun contract scope (state, past) log
      (begun, past ++ [.diagnosed contract scope log]) statements := by
  refine ⟨diagnose_observed h.diagnosed past, ?_⟩
  simp only [parse_observed]
  exact h.parsed

theorem failure_observed (source : Source) :
    s.observed.failure source l e data = s.failure source l e data := rfl

/-- Under observation a run ends as it does without, and the events are noted as they happen. -/
theorem Ran.observed (h : s.Ran contract scope state r final events) (past : List Event) :
    s.observed.Ran contract scope (state, past) r (final, past ++ events) events := by
  cases h with
  | refused hdiagnose hparse =>
    exact .refused (diagnose_observed hdiagnose past) ((parseAll_observed s _ _).trans hparse)
  | failedBefore hbegun hsplit hp ha =>
    have := Ran.failedBefore (hbegun.observed past) hsplit (hp.observed _) (ha.observed _)
    simpa [failure_observed] using this
  | halted hbegun hp hexecute =>
    have := Ran.halted (hbegun.observed past) (hp.observed _) (execute_observed hexecute _)
    simpa using this
  | failedAfter hbegun hp hexecute hsplit hq ha =>
    have := Ran.failedAfter (hbegun.observed past) (hp.observed _) (execute_observed hexecute _)
      hsplit (hq.observed _) (ha.observed _)
    simpa [failure_observed] using this
  | completed hbegun hp hexecute hq =>
    have := Ran.completed (hbegun.observed past) (hp.observed _) (execute_observed hexecute _)
      (hq.observed _)
    simpa using this

end Observed

/-- The run gives this result and this state, with just these effects. -/
def Yields (s : Session σ) (contract : String) (scope : Scope) (state : σ) (r : Except Fault Output)
    (final : σ) (events : List Event) : Prop :=
  s.run contract scope state = (r, final) ∧
    s.observed.run contract scope (state, []) = (r, final, events)

theorem Ran.yields (h : s.Ran contract scope state r final events) :
    s.Yields contract scope state r final events :=
  ⟨h.run_eq, (h.observed []).run_eq⟩

theorem Begun.exists_entry (h : s.Begun contract scope state log begun statements) :
    ∀ l ∈ statements, ∃ entry ∈ s.ignored log, s.parse (Source.ofText contract) entry = .ok l :=
  exists_of_forall₂ h.parsed.flip

theorem Begun.registered (h : s.Begun contract scope state log begun statements) (phase : Phase) :
    ∀ l ∈ ofPhase phase statements, l.statement.shape ∈ s.registry.shapes := by
  intro l hl
  obtain ⟨entry, -, hparse⟩ := h.exists_entry l (List.mem_of_mem_filter hl)
  exact registered_of_parse hparse

theorem exists_ran (s : Session σ) (contract : String) (scope : Scope) (state : σ) :
    ∃ r final events, s.Ran contract scope state r final events := by
  cases hdiagnose : s.interpreter.diagnose contract scope state with
  | mk log begun =>
  cases hparse : s.parseAll (Source.ofText contract) (s.ignored log) with
  | error f => exact ⟨_, _, _, .refused hdiagnose hparse⟩
  | ok statements =>
    have hbegun : s.Begun contract scope state log begun statements :=
      ⟨hdiagnose, parseAll_eq_ok.1 hparse⟩
    obtain ⟨calls, data, mid, hp⟩ | ⟨done, l, rest, calls, data, mid, e, final, hsplit, hp, ha⟩ :=
      performs_or_fails (hbegun.registered .before) scope.data begun
    · cases hexecute : s.interpreter.execute contract { scope with data := data } mid with
      | mk answer after =>
      cases answer with
      | error report => exact ⟨_, _, _, .halted hbegun hp hexecute⟩
      | ok out =>
        obtain ⟨later, result, final, hq⟩ | ⟨done, l, rest, later, result, last, e, final, hsplit, hq, ha⟩ :=
          performs_or_fails (hbegun.registered .after) out.result after
        · exact ⟨_, _, _, .completed hbegun hp hexecute hq⟩
        · exact ⟨_, _, _, .failedAfter hbegun hp hexecute hsplit hq ha⟩
    · exact ⟨_, _, _, .failedBefore hbegun hsplit hp ha⟩

theorem run_observed (s : Session σ) (contract : String) (scope : Scope) (state : σ)
    (past : List Event) :
    ∃ events, s.observed.run contract scope (state, past) =
      ((s.run contract scope state).1, (s.run contract scope state).2, past ++ events) := by
  obtain ⟨r, final, events, hran⟩ := s.exists_ran contract scope state
  refine ⟨events, ?_⟩
  rw [(hran.observed past).run_eq, hran.run_eq]

theorem ran_of_run (h : s.run contract scope state = (r, final)) :
    ∃ events, s.Ran contract scope state r final events := by
  obtain ⟨r', final', events, hran⟩ := exists_ran s contract scope state
  obtain ⟨rfl, rfl⟩ := Prod.mk.inj (hran.run_eq.symm.trans h)
  exact ⟨events, hran⟩

end Rider.Session
