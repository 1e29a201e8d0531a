import Rider.WordSet
set_option autoImplicit false

namespace Rider

/-- The clause that may begin a statement and names a resource. -/
inductive Clause
  | absent
  -- Reads: open, identifier, and.
  | opening
  -- Reads: connect to, identifier, and.
  | connecting
deriving DecidableEq, Repr

namespace Clause

def rank : Clause → Nat
  | .absent => 0
  | .opening => 1
  | .connecting => 2

def leadWords : Clause → List String
  | .absent => []
  | .opening => ["open"]
  | .connecting => ["connect", "to"]

def keyword? (c : Clause) : Option String := c.leadWords.head?

end Clause

structure Shape where
  clause : Clause
  params : WordSet
  phrase : List String
deriving DecidableEq

namespace Shape

def phraseText (s : Shape) : String := String.intercalate " " s.phrase

/-- The shape as a statement line would spell it, with empty identifiers. -/
def display (s : Shape) : String :=
  let lead := match s.clause with
    | .absent => ""
    | .opening => "open '' and "
    | .connecting => "connect to '' and "
  lead ++ String.join (s.params.words.map fun p => "send " ++ p ++ " '' and ") ++ s.phraseText

/-- Shapes are ordered by clause, then by parameters, then by phrase, lists word by word. -/
def order (s t : Shape) : Ordering :=
  (compare s.clause.rank t.clause.rank).then <|
    (List.compareLex compare s.params.words t.params.words).then <|
      List.compareLex compare s.phrase t.phrase

end Shape

end Rider
