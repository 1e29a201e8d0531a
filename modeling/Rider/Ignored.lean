import Rider.Text.Blank
import Rider.Text.Lines
import Rider.Text.Numeral
set_option autoImplicit false

namespace Rider

structure Ignored where
  text : String
  -- The number of the line, counted from one.
  line : Nat
deriving DecidableEq, Repr

namespace Ignored

/-- What a log line reports, if it reads: anything, the marker, a number above zero, a colon, text. -/
def ofLogLine? (marker line : List Char) : Option Ignored :=
  match Text.after? marker line with
  | none => none
  | some rest => match Text.cutAt? ':' (Text.trimStart rest) with
    | none => none
    | some (number, text) => match Text.count? (Text.trim number) with
      | some (n + 1) => some ⟨String.ofList (Text.trim text), n + 1⟩
      | _ => none

/-- The ignored lines that a log reports, in the order of the log. -/
def ofLog (marker log : String) : List Ignored :=
  (Text.lines log.toList).filterMap (ofLogLine? marker.toList)

end Ignored

end Rider
