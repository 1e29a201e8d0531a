import Rider.Token
set_option autoImplicit false

namespace Rider

inductive Mismatch
  -- A token stands where one of `expected` should.
  | wrong (token : Token) (expected : List String)
  -- The line ends where one of `expected` should stand.
  | missing (expected : List String) (line column : Nat)
  -- A token is left over.
  | extra (token : Token)
deriving DecidableEq, Repr

namespace Mismatch

/-- The characters of the line that the mismatch is about. -/
def span : Mismatch → Nat × Nat
  | .wrong t _ => (t.start, t.stop)
  | .missing _ _ column => (column, column + 1)
  | .extra t => (t.start, t.stop)

def line : Mismatch → Nat
  | .wrong t _ => t.line
  | .missing _ line _ => line
  | .extra t => t.line

def inQuotes (w : String) : String := "'" ++ w ++ "'"

def alternatives (words : List String) : String := String.intercalate " or " (words.map inQuotes)

def message : Mismatch → String
  | .wrong t expected => inQuotes t.raw ++ " may be " ++ alternatives expected
  | .missing expected _ _ => "missing " ++ alternatives expected
  | .extra t => "extra " ++ inQuotes t.raw

end Mismatch

end Rider
