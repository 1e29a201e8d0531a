import Rider.Mismatch
import Rider.Shape
set_option autoImplicit false

namespace Rider

/-- A statement runs before or after the interpreter. -/
inductive Phase
  | before
  | after
deriving DecidableEq, Repr

def Phase.word : Phase → String
  | .before => "given"
  | .after => "then"

/-- The captured identifiers keep their quotes. -/
structure Reading where
  shape : Shape
  -- Parameters and the identifiers sent for them, in the order of the line.
  bindings : List (String × Token)
  target : Option Token
  output : Option Token
  mismatches : List Mismatch
deriving DecidableEq

def Reading.score (r : Reading) : Nat := r.mismatches.length

structure Verdict where
  line : Nat
  phase : Option Phase
  -- Mismatches in the first two words of the line.
  opening : List Mismatch
  -- The readings of least score, in the order of registration.
  readings : List Reading
deriving DecidableEq

namespace Verdict

def isMatch (v : Verdict) : Bool :=
  v.phase.isSome && v.opening.isEmpty && v.readings.any fun r => r.mismatches.isEmpty

def mismatches (v : Verdict) : List Mismatch := v.opening ++ v.readings.flatMap (·.mismatches)

end Verdict

end Rider
