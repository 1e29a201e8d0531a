import Rider.Proofs.Session.Parse

set_option autoImplicit false

/-!
Sessions under observation. Each handler and the interpreter write down what they were asked and what they
answered, and answer as before, so a run of the observed session comes with the list of its effects.
-/

namespace Rider

structure Call where
  -- The shape under which the handler is registered.
  shape : Shape
  context : Context
  answer : Except HandlerError Json

/-- What a run does to the state that it shares with handlers and interpreter. -/
inductive Event
  | diagnosed (contract : String) (scope : Scope) (log : String)
  | called (call : Call)
  | interpreted (contract : String) (scope : Scope) (answer : Except String Output)

namespace Registry

variable {H K : Type}

def mapHandlers (f : Entry H → K) (r : Registry H) : Registry K where
  entries := r.entries.map fun e => ⟨e.plugin, e.shape, e.definition.valid, f e⟩
  index := r.index
  indexed s i := by rw [List.map_map]; exact r.indexed s i

theorem shapes_mapHandlers (f : Entry H → K) (r : Registry H) :
    (r.mapHandlers f).shapes = r.shapes := by
  rw [shapes, mapHandlers, List.map_map]
  rfl

end Registry

section
variable {σ : Type}

/-- The handler of an entry, with a note of each call after the events so far. -/
def Entry.observed (e : Entry (Handler σ)) : Handler (σ × List Event) := fun context world =>
  let (answer, state) := e.handler context world.1
  (answer, state, world.2 ++ [.called ⟨e.shape, context, answer⟩])

def Interpreter.observed (i : Interpreter σ) : Interpreter (σ × List Event) where
  execute := fun contract scope world =>
    let (answer, state) := i.execute contract scope world.1
    (answer, state, world.2 ++ [.interpreted contract scope answer])
  diagnose := fun contract scope world =>
    let (log, state) := i.diagnose contract scope world.1
    (log, state, world.2 ++ [.diagnosed contract scope log])

end

namespace Session

variable {σ : Type}

/-- The session whose state keeps the events next to the state proper. -/
def observed (s : Session σ) : Session (σ × List Event) where
  registry := s.registry.mapHandlers Entry.observed
  interpreter := s.interpreter.observed
  scraper := s.scraper
  layout := s.layout
  config := s.config

theorem parse_observed (s : Session σ) (source : Source) (entry : Ignored) :
    s.observed.parse source entry = s.parse source entry := by
  have hshapes : s.observed.registry.shapes = s.registry.shapes := Registry.shapes_mapHandlers _ _
  simp only [parse, parseTokens, hshapes]
  rfl

theorem parseAll_observed (s : Session σ) (source : Source) (entries : List Ignored) :
    s.observed.parseAll source entries = s.parseAll source entries := by
  induction entries with
  | nil => rfl
  | cons entry entries ih => simp only [parseAll, parse_observed, ih]

/-- The handler registered for the statement answers, when it is called on the data in the state. -/
def Answers (s : Session σ) (l : Located) (data : Data) (state : σ)
    (answer : Except HandlerError Json) (final : σ) : Prop :=
  ∃ e ∈ s.registry.entries, e.shape = l.statement.shape ∧
    e.handler ⟨l.statement, data⟩ state = (answer, final)

end Session

def Located.call (l : Located) (data : Data) (answer : Except HandlerError Json) : Call :=
  ⟨l.statement.shape, ⟨l.statement, data⟩, answer⟩

namespace Session

variable {σ : Type} {s : Session σ} {l : Located} {data : Data} {state final : σ}
  {answer : Except HandlerError Json}

theorem Answers.observed (h : s.Answers l data state answer final) (events : List Event) :
    s.observed.Answers l data (state, events) answer
      (final, events ++ [.called (l.call data answer)]) := by
  obtain ⟨e, he, hshape, hanswer⟩ := h
  refine ⟨_, List.mem_map_of_mem he, hshape, ?_⟩
  -- The handler at the place of `e` in the observed registry is the one that notes the call.
  change e.observed ⟨l.statement, data⟩ (state, events) = _
  simp only [Entry.observed, hanswer, hshape, Located.call]

theorem exists_answers (h : l.statement.shape ∈ s.registry.shapes) (data : Data) (state : σ) :
    ∃ answer final, s.Answers l data state answer final := by
  obtain ⟨e, he, hshape⟩ := List.mem_map.1 h
  exact ⟨_, _, e, he, hshape, rfl⟩

end Session

end Rider
