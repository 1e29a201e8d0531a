import Rider.Members
import Rider.Json.Decimal
set_option autoImplicit false

namespace Rider

namespace Json

inductive Number
  | whole (value : Int)
  | double (value : Decimal)
deriving DecidableEq, Repr

def Number.text : Number → List Char
  | .whole n => (toString n).toList
  | .double d => d.text

end Json

inductive Json
  | null
  | bool (value : Bool)
  | number (value : Json.Number)
  | text (value : String)
  | list (items : List Json)
  | object (members : List (String × Json))
deriving Inhabited

abbrev Data := Members Json

namespace Json

def ofNat (n : Nat) : Json := .number (.whole n)

def ofText? : Json → Option String
  | .text s => some s
  | _ => none

/-- The texts of a value that is one text or a list of texts. -/
def texts? : Json → Option (List String)
  | .text s => some [s]
  | .list items => items.mapM ofText?
  | _ => none

end Json

end Rider
