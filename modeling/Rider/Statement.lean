import Rider.Identifier
import Rider.Members
import Rider.Reading
import Rider.Text.Lines
set_option autoImplicit false

namespace Rider

structure Statement where
  clause : Clause
  -- The data key that the clause names.
  target : Option String
  -- The data key sent for each parameter.
  bindings : Members String
  phrase : String
  -- The data key under which the result is stored.
  output : Option String
deriving DecidableEq

/-- The shape that the statement has by its clause, its bound names and the words of its phrase. -/
def Statement.shape (s : Statement) : Shape where
  clause := s.clause
  params := WordSet.ofList s.bindings.names
  phrase := (Text.pieces ' ' s.phrase.toList).map String.ofList

/-- Why a reading is no statement. -/
inductive ResolveError
  | boundTwice (param : String)
  | mismatched (phrase : String) (count : Nat)
deriving DecidableEq, Repr

def ResolveError.message : ResolveError → String
  | .boundTwice p => "parameter '" ++ p ++ "' bound twice"
  | .mismatched phrase n =>
    "candidate for '" ++ phrase ++ "' has " ++ toString n ++ " unresolved parse error(s)"

/-- Adds unquoted bindings in order; the first name that is bound already is an error. -/
def bindAll (bound : Members String) : List (String × Token) → Except ResolveError (Members String)
  | [] => .ok bound
  | (name, t) :: rest => match bound.get? name with
    | some _ => .error (.boundTwice name)
    | none => bindAll (bound.put name (unquote t.raw)) rest

def Reading.resolve (r : Reading) : Except ResolveError Statement :=
  if r.mismatches.isEmpty then
    (bindAll [] r.bindings).map fun bindings =>
      { clause := r.shape.clause
        target := r.target.map fun t => unquote t.raw
        bindings := bindings
        phrase := r.shape.phraseText
        output := r.output.map fun t => unquote t.raw }
  else .error (.mismatched r.shape.phraseText r.score)

end Rider
