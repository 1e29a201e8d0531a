import Rider.Config
import Rider.Ignored
import Rider.Interpreter
import Rider.Reading.Judge
import Rider.Registry
import Rider.Report
import Rider.Session.Fault
import Rider.Token.Scan
set_option autoImplicit false

/-!
Running a contract with its custom statements. The interpreter says which lines it ignores, every such
line must be a statement, and then the statements run around the interpreter: those of the phase
before it on the data of the scope, those of the phase after it on its result. The first failure ends
the run.
-/

namespace Rider

structure Located where
  line : Nat
  phase : Phase
  statement : Statement
deriving DecidableEq

/-- Everything a run needs besides the contract and its scope. -/
structure Session (σ : Type) where
  registry : Registry (Handler σ)
  interpreter : Interpreter σ
  -- How ignored lines are found in a log, if not by the marker of the configuration.
  scraper : Option (String → List Ignored)
  layout : Layout
  config : Config

def Statement.store (s : Statement) (v : Json) (data : Data) : Data :=
  match s.output with
  | some name => data.put name v
  | none => data

/-- The text that is parsed for an ignored line: the line of the contract if the reported text occurs in
it, so that offsets fit the contract, and otherwise the reported text. -/
def chosenText (own : List Char) (reported : String) : String :=
  if Text.occurs (Text.trim reported.toList) own then String.ofList own else reported

namespace Session

variable {σ : Type}

def ignored (s : Session σ) (log : String) : List Ignored :=
  s.scraper.getD (Ignored.ofLog s.config.marker) log

def parseTokens (s : Session σ) (source : Source) (line : Nat) (tokens : TokenLine) :
    Except Fault Located :=
  let v := judge s.registry.shapes tokens
  let context := s.config.contextLines
  let mismatched := Fault.mismatched line v.mismatches (Report.mismatched source v context)
  if v.isMatch then
    match v.phase, v.readings with
    | some phase, r :: _ => match r.resolve with
      | .ok statement => .ok ⟨line, phase, statement⟩
      | .error e =>
        .error (.unresolved line e (Report.failed s.layout source line e.message none context))
    | _, _ => .error mismatched
  else .error mismatched

/-- The statement of an ignored line, or the fault that it is. -/
def parse (s : Session σ) (source : Source) (entry : Ignored) : Except Fault Located :=
  match source.line? entry.line with
  | none => .error (.unknownLine entry.line source.size entry.text)
  | some own => match tokenize (chosenText own entry.text) entry.line with
    | .error e => .error (.unclosed entry.line e (Report.unclosed source e s.config.contextLines))
    | .ok tokens => s.parseTokens source entry.line tokens

def parseAll (s : Session σ) (source : Source) : List Ignored → Except Fault (List Located)
  | [] => .ok []
  | entry :: rest => match s.parse source entry with
    | .error f => .error f
    | .ok first => (s.parseAll source rest).map (first :: ·)

/-- Runs statements in order, each on the data that the one before it left. -/
def runStatements (s : Session σ) (source : Source) :
    List Located → Data → σ → Except Fault Data × σ
  | [], data, state => (.ok data, state)
  | ⟨line, _, statement⟩ :: rest, data, state =>
    let context := s.config.contextLines
    match s.registry.lookup statement.shape with
    | none =>
      let message := "statement resolves to unregistered shape: " ++ statement.shape.display
      let report := Report.failed s.layout source line message none context
      (.error (.unregistered line statement.shape report), state)
    | some handler => match handler ⟨statement, data⟩ state with
      | (.ok v, state) => s.runStatements source rest (statement.store v data) state
      | (.error e, state) =>
        let heap := if s.config.dumpHeap then some data else none
        let report := Report.failed s.layout source line e.message heap context
        (.error (.handler line e report), state)

def ofPhase (phase : Phase) (statements : List Located) : List Located :=
  statements.filter fun l => l.phase = phase

/-- Runs the statements around the interpreter. -/
def runParsed (s : Session σ) (contract : String) (statements : List Located) (scope : Scope)
    (state : σ) : Except Fault Output × σ :=
  let source := Source.ofText contract
  match s.runStatements source (ofPhase .before statements) scope.data state with
  | (.error f, state) => (.error f, state)
  | (.ok data, state) => match s.interpreter.execute contract { scope with data := data } state with
    | (.error log, state) => (.error (.interpreter log (Report.interpreter source log)), state)
    | (.ok out, state) =>
      match s.runStatements source (ofPhase .after statements) out.result state with
      | (.error f, state) => (.error f, state)
      | (.ok result, state) => (.ok ⟨result, out.log⟩, state)

/-- Runs a contract: no statement runs unless every ignored line is one. -/
def run (s : Session σ) (contract : String) (scope : Scope) (state : σ) : Except Fault Output × σ :=
  let (log, state) := s.interpreter.diagnose contract scope state
  match s.parseAll (Source.ofText contract) (s.ignored log) with
  | .error f => (.error f, state)
  | .ok statements => s.runParsed contract statements scope state

end Session

end Rider
