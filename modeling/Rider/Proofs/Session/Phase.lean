import Rider.Proofs.Session.Trace

set_option autoImplicit false

namespace Rider

/-- What a call writes: the answer under the output of its statement, if it has one. -/
def Call.written (c : Call) : List (String × Json) :=
  match c.answer, c.context.statement.output with
  | .ok v, some name => [(name, v)]
  | _, _ => []

def Call.left (c : Call) : Data := Members.putAll c.written c.context.data

/-- The calls carry out the statements: each statement once and in order, by the handler registered for its
shape and with success. The first call sees the data `start`, every other call the data that the call
before it left, and `finish` is what the last one leaves. -/
structure CarriedOut (statements : List Located) (start : Data) (calls : List Call) (finish : Data) :
    Prop where
  dispatched : calls.map (fun c => (c.shape, c.context.statement)) =
    statements.map fun l => (l.statement.shape, l.statement)
  answered : ∀ c ∈ calls, ∃ v, c.answer = .ok v
  threaded : start :: calls.map Call.left = calls.map (fun c => c.context.data) ++ [finish]

theorem Members.putAll_append {α : Type} (xs ys : List (String × α)) (m : Members α) :
    putAll (xs ++ ys) m = putAll ys (putAll xs m) :=
  List.foldl_append

theorem finish_of_threaded {calls : List Call} {start finish : Data}
    (h : start :: calls.map Call.left = calls.map (fun c => c.context.data) ++ [finish]) :
    finish = Members.putAll (calls.flatMap Call.written) start := by
  induction calls generalizing start with
  | nil => exact (List.cons.inj h).1.symm
  | cons c calls ih =>
    -- The first call saw `start`, and the later calls are threaded from what it left.
    obtain ⟨hstart, hrest⟩ := List.cons.inj h
    rw [ih hrest, List.flatMap_cons, Members.putAll_append, hstart]
    rfl

theorem CarriedOut.finish_eq {statements : List Located} {start finish : Data} {calls : List Call}
    (h : CarriedOut statements start calls finish) :
    finish = Members.putAll (calls.flatMap Call.written) start :=
  finish_of_threaded h.threaded

theorem Located.left_call (l : Located) (data : Data) (v : Json) :
    (l.call data (.ok v)).left = l.statement.store v data := by
  rw [Call.left, Call.written, Statement.store]
  simp only [Located.call]
  cases l.statement.output <;> rfl

namespace Report

def withoutHeap (source : Source) (line : Nat) (message : String) (context : Nat) : String :=
  "Error at line " ++ toString line ++ ": " ++ message ++ "\n"
    ++ source.excerpt line (contentSpan ((source.line? line).getD [])) context

def heapSection (layout : Layout) (data : Data) : String := "heap:\n" ++ layout.textOf data ++ "\n"

theorem failed_eq (layout : Layout) (source : Source) (line : Nat) (message : String)
    (heap : Option Data) (context : Nat) :
    failed layout source line message heap context =
      withoutHeap source line message context ++ heap.elim "" (heapSection layout) := by
  cases heap <;> rfl

end Report

namespace Session

variable {σ : Type} {s : Session σ} {source : Source} {l : Located} {statements rest : List Located}
  {start data finish : Data} {state mid final : σ} {calls : List Call}

/-- The fault of a statement whose handler fails on the data. -/
def failure (s : Session σ) (source : Source) (l : Located) (e : HandlerError) (data : Data) : Fault :=
  .handler l.line e (Report.withoutHeap source l.line e.message s.config.contextLines ++
    if s.config.dumpHeap then Report.heapSection s.layout data else "")

/-- The handlers of the statements all succeed, one after the other, with these calls. -/
inductive Performs (s : Session σ) :
    List Located → Data → σ → List Call → Data → σ → Prop
  | done (data : Data) (state : σ) : Performs s [] data state [] data state
  | next {l : Located} {rest : List Located} {data finish : Data} {state mid final : σ}
      {v : Json} {calls : List Call} : s.Answers l data state (.ok v) mid →
      Performs s rest (l.statement.store v data) mid calls finish final →
      Performs s (l :: rest) data state (l.call data (.ok v) :: calls) finish final

theorem Performs.carriedOut (h : s.Performs statements start state calls finish final) :
    CarriedOut statements start calls finish := by
  induction h with
  | done data state => exact ⟨rfl, List.forall_mem_nil _, rfl⟩
  | @next _ _ _ _ _ _ _ v _ _ _ ih =>
    refine ⟨?_, List.forall_mem_cons.2 ⟨⟨v, rfl⟩, ih.answered⟩, ?_⟩
    · rw [List.map_cons, List.map_cons, ih.dispatched]
      rfl
    · rw [List.map_cons, List.map_cons, List.cons_append, Located.left_call, ih.threaded]
      rfl

theorem Performs.observed (h : s.Performs statements start state calls finish final)
    (events : List Event) :
    s.observed.Performs statements start (state, events) calls finish
      (final, events ++ calls.map .called) := by
  induction h generalizing events with
  | done data state =>
    rw [List.map_nil, List.append_nil]
    exact .done data _
  | @next l _ data _ _ _ _ v _ ha _ ih =>
    have hrest := ih (events ++ [.called (l.call data (.ok v))])
    rw [List.append_assoc, List.singleton_append] at hrest
    exact .next (ha.observed events) hrest

theorem runStatements_of_ok {v : Json} (h : s.Answers l data state (.ok v) mid) :
    s.runStatements source (l :: rest) data state =
      s.runStatements source rest (l.statement.store v data) mid := by
  obtain ⟨e, he, hshape, hanswer⟩ := h
  have hlookup := Registry.lookup_of_mem he
  rw [hshape] at hlookup
  simp only [runStatements, hlookup, hanswer]

theorem runStatements_of_error {e : HandlerError} (h : s.Answers l data state (.error e) mid) :
    s.runStatements source (l :: rest) data state = (.error (s.failure source l e data), mid) := by
  obtain ⟨d, hd, hshape, hanswer⟩ := h
  have hlookup := Registry.lookup_of_mem hd
  rw [hshape] at hlookup
  simp only [runStatements, hlookup, hanswer, Report.failed_eq, failure]
  cases s.config.dumpHeap <;> rfl

theorem Performs.runStatements_append (h : s.Performs statements start state calls finish final) :
    s.runStatements source (statements ++ rest) start state =
      s.runStatements source rest finish final := by
  induction h with
  | done data state => rfl
  | next ha _ ih => rw [List.cons_append, runStatements_of_ok ha, ih]

theorem Performs.runStatements_eq (h : s.Performs statements start state calls finish final) :
    s.runStatements source statements start state = (.ok finish, final) := by
  have happend : s.runStatements source (statements ++ []) start state =
      s.runStatements source [] finish final := h.runStatements_append
  rwa [List.append_nil] at happend

theorem performs_or_fails (h : ∀ l ∈ statements, l.statement.shape ∈ s.registry.shapes)
    (start : Data) (state : σ) :
    (∃ calls finish final, s.Performs statements start state calls finish final) ∨
      ∃ done l rest calls data mid e final, statements = done ++ l :: rest ∧
        s.Performs done start state calls data mid ∧ s.Answers l data mid (.error e) final := by
  induction statements generalizing start state with
  | nil => exact .inl ⟨[], start, state, .done start state⟩
  | cons l statements ih =>
    obtain ⟨hl, hrest⟩ := List.forall_mem_cons.1 h
    obtain ⟨answer, mid, ha⟩ := exists_answers hl start state
    cases answer with
    | error e => exact .inr ⟨[], l, statements, [], start, state, e, mid, rfl, .done start state, ha⟩
    | ok v =>
      obtain ⟨calls, finish, final, hp⟩ | ⟨done, k, rest, calls, data, last, e, final, rfl, hp, hk⟩ :=
        ih hrest (l.statement.store v start) mid
      · exact .inl ⟨_, finish, final, .next ha hp⟩
      · exact .inr ⟨l :: done, k, rest, _, data, last, e, final, rfl, .next ha hp, hk⟩

end Session

end Rider
