import Rider.Json.Basic
import Rider.Text.Quoted
set_option autoImplicit false

namespace Rider.Json

/-- Why a value is not what was wanted; `wanted` names the kind in messages. -/
inductive Misfit
  | kind (found : Json) (wanted : String)
  | range (found : Int) (wanted : String)
  -- A list has more items than there are fields.
  | length (found : Nat)
  -- A kind of the handler's own, with its own reason.
  | other (reason : String)

def description : Json → String
  | .null => "null"
  | .bool b => "boolean `" ++ (if b then "true" else "false") ++ "`"
  | .number (.whole n) => "integer `" ++ toString n ++ "`"
  | .number (.double d) => "floating point `" ++ String.ofList d.text ++ "`"
  | .text s => "string " ++ String.ofList (Text.quoted s.toList)
  | .list _ => "sequence"
  | .object _ => "map"

def Misfit.message : Misfit → String
  | .kind found wanted => "invalid type: " ++ found.description ++ ", expected " ++ wanted
  | .range n wanted => "invalid value: integer `" ++ toString n ++ "`, expected " ++ wanted
  | .length n =>
    "invalid length " ++ toString n ++ ", expected fewer elements in array"
  | .other reason => reason

abbrev Decoder (α : Type) := Json → Except Misfit α

namespace Decoder

def value : Decoder Json := .ok

def text : Decoder String
  | .text s => .ok s
  | v => .error (.kind v "a string")

def bool : Decoder Bool
  | .bool b => .ok b
  | v => .error (.kind v "a boolean")

def object : Decoder Data
  | .object m => .ok m
  | v => .error (.kind v "a map")

def list {α : Type} (item : Decoder α) : Decoder (List α)
  | .list vs => vs.mapM item
  | v => .error (.kind v "a sequence")

/-- Takes null for nothing. -/
def optional {α : Type} (some : Decoder α) : Decoder (Option α)
  | .null => .ok none
  | v => (some v).map .some

def integer (low high : Int) (wanted : String) : Decoder Int
  | .number (.whole n) => if low ≤ n ∧ n ≤ high then .ok n else .error (.range n wanted)
  | v => .error (.kind v wanted)

def word : Decoder Int := integer 0 18446744073709551615 "u64"

def signed : Decoder Int := integer (-9223372036854775808) 9223372036854775807 "i64"

def byte : Decoder Int := integer 0 255 "u8"

end Decoder

end Rider.Json
