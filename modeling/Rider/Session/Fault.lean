import Rider.Handler
import Rider.Reading
set_option autoImplicit false

namespace Rider

inductive Fault
  | unclosed (line : Nat) (error : UnclosedQuote) (report : String)
  | mismatched (line : Nat) (mismatches : List Mismatch) (report : String)
  -- A reading without mismatches is no statement.
  | unresolved (line : Nat) (error : ResolveError) (report : String)
  -- The log names a line that the contract does not have.
  | unknownLine (line lines : Nat) (text : String)
  -- No handler is registered for a statement.
  | unregistered (line : Nat) (shape : Shape) (report : String)
  | handler (line : Nat) (error : HandlerError) (report : String)
  | interpreter (log report : String)
deriving DecidableEq

namespace Fault

def line? : Fault → Option Nat
  | .unclosed line .. => some line
  | .mismatched line .. => some line
  | .unresolved line .. => some line
  | .unknownLine line .. => some line
  | .unregistered line .. => some line
  | .handler line .. => some line
  | .interpreter .. => none

def message : Fault → String
  | .unclosed _ _ report => report
  | .mismatched _ _ report => report
  | .unresolved _ _ report => report
  | .unknownLine line lines text =>
    "ignored statement reported at line " ++ toString line ++ ", but the contract has "
      ++ toString lines ++ " line(s): " ++ text
  | .unregistered _ _ report => report
  | .handler _ _ report => report
  | .interpreter _ report => report

end Fault

end Rider
