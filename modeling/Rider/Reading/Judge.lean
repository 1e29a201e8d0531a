import Rider.Reading.Walk
set_option autoImplicit false

namespace Rider

def openingPhase (line : TokenLine) : Except Mismatch Phase :=
  let words := [Phase.before.word, Phase.after.word]
  match line.tokens[0]? with
  | some t =>
    if t.isWord Phase.before.word then .ok .before
    else if t.isWord Phase.after.word then .ok .after
    else .error (.wrong t words)
  | none => .error (.missing words line.number 0)

/-- The mismatch at the second token, which is `I` in this letter case only. -/
def openingSubject (line : TokenLine) : List Mismatch :=
  match line.tokens[1]? with
  | some t => if t.raw == "I" then [] else [.wrong t ["I"]]
  | none => [.missing ["I"] line.number line.nextColumn]

/-- The readings of least score so far; without a score nothing has been read. -/
structure Leaders where
  score : Option Nat
  readings : List Reading

namespace Leaders

def empty : Leaders := ⟨none, []⟩

/-- A reading of lower score displaces the leaders, one of equal score joins them. -/
def join (l : Leaders) (r : Reading) : Leaders :=
  match l.score with
  | none => ⟨some r.score, [r]⟩
  | some best =>
    if r.score < best then ⟨some r.score, [r]⟩
    else if r.score = best then ⟨some best, l.readings ++ [r]⟩
    else l

def consider (line : TokenLine) (l : Leaders) (s : Shape) : Leaders :=
  match s.read? l.score line with
  | some r => l.join r
  | none => l

end Leaders

/-- The verdict on a line among the given shapes. -/
def judge (shapes : List Shape) (line : TokenLine) : Verdict :=
  let readings := (shapes.foldl (Leaders.consider line) .empty).readings
  match openingPhase line with
  | .ok phase => ⟨line.number, some phase, openingSubject line, readings⟩
  | .error m => ⟨line.number, none, m :: openingSubject line, readings⟩

end Rider
