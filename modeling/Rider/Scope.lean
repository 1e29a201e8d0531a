import Rider.Json.Decode
import Rider.Json.Read
set_option autoImplicit false

namespace Rider

structure Scope where
  data : Data
  keys : Data
  extra : Data
  conf : String
deriving Inhabited

namespace Scope

def empty : Scope := ⟨[], [], [], ""⟩

def toJson (s : Scope) : Json :=
  .object [("conf", .text s.conf), ("data", .object s.data), ("extra", .object s.extra),
    ("keys", .object s.keys)]

inductive Field
  | data
  | keys
  | extra
  | conf
deriving DecidableEq, Repr

namespace Field

def all : List Field := [.data, .keys, .extra, .conf]

def name : Field → String
  | .data => "data"
  | .keys => "keys"
  | .extra => "extra"
  | .conf => "conf"

def ofName? (name : String) : Option Field := all.find? fun f => f.name == name

def decode (s : Scope) (v : Json) : Field → Except Json.Misfit Scope
  | .data => (Json.Decoder.optional .object v).map fun m => { s with data := m.getD [] }
  | .keys => (Json.Decoder.optional .object v).map fun m => { s with keys := m.getD [] }
  | .extra => (Json.Decoder.optional .object v).map fun m => { s with extra := m.getD [] }
  | .conf => (Json.Decoder.optional .text v).map fun t => { s with conf := t.getD "" }

end Field

def takeMembers (s : Scope) : List (String × Json) → Except Json.Misfit Scope
  | [] => .ok s
  | (name, v) :: rest => match Field.ofName? name with
    | some f => match f.decode s v with
      | .ok s => s.takeMembers rest
      | .error e => .error e
    | none => s.takeMembers rest

def takeItems (size : Nat) (s : Scope) : List Field → List Json → Except Json.Misfit Scope
  | _, [] => .ok s
  | [], _ :: _ => .error (.length size)
  | f :: fields, v :: rest => match f.decode s v with
    | .ok s => s.takeItems size fields rest
    | .error e => .error e

def ofJson : Json → Except Json.Misfit Scope
  | .object members => empty.takeMembers members
  | .list items => empty.takeItems items.length Field.all items
  | v => .error (.kind v "struct ParamScope")

def readField (room : Nat) (s : Scope) (f : Field) (v : Json.Form) : Option Scope :=
  match Json.Form.value? room v with
  | some v => (f.decode s v).toOption
  | none => none

/-- Takes the written members of an object. No field may be written twice, not even as null; what
stands under other names need not have a value. -/
def readMembers (room : Nat) (s : Scope) (seen : List Field) :
    List (List Json.Piece × Json.Form) → Option Scope
  | [] => some s
  | (name, v) :: rest => match Json.textOf? name with
    | none => none
    | some name => match Field.ofName? name with
      | none => s.readMembers room seen rest
      | some f =>
        if f ∈ seen then none
        else match s.readField room f v with
          | some s => s.readMembers room (f :: seen) rest
          | none => none

def readItems (room : Nat) (s : Scope) : List Field → List Json.Form → Option Scope
  | _, [] => some s
  | [], _ :: _ => none
  | f :: fields, v :: rest => match s.readField room f v with
    | some s => s.readItems room fields rest
    | none => none

def ofText? (text : String) : Option Scope :=
  match Json.Form.ofText? text.toList with
  | some (.object members) => empty.readMembers (Json.maxDepth - 1) [] members
  | some (.list items) => empty.readItems (Json.maxDepth - 1) Field.all items
  | _ => none

end Scope

end Rider
