import Rider.Json.Decode
import Rider.Statement
set_option autoImplicit false

namespace Rider

structure Context where
  statement : Statement
  data : Data

inductive ContextError
  | missingParam (name : String)
  | wrongType (name message : String)
  -- The statement lacks the clause with this keyword.
  | missingTarget (keyword : String)
  | invalidTarget (keyword target : String)
deriving DecidableEq, Repr

def ContextError.message : ContextError → String
  | .missingParam name => "parameter '" ++ name ++ "' is required but was not provided"
  | .wrongType name message => "parameter '" ++ name ++ "' has the wrong type: " ++ message
  | .missingTarget keyword => "statement requires an '" ++ keyword ++ "' clause"
  | .invalidTarget keyword target =>
    "'" ++ keyword ++ "' target '" ++ target ++ "' must be a string or a list of strings"

namespace Context

def get? (c : Context) (name : String) : Option Json :=
  (c.statement.bindings.get? name).bind c.data.get?

def fetch (c : Context) (name : String) : Except ContextError Json :=
  match c.get? name with
  | some v => .ok v
  | none => .error (.missingParam name)

def decodeParam {α : Type} (d : Json.Decoder α) (name : String) (v : Json) : Except ContextError α :=
  match d v with
  | .ok a => .ok a
  | .error e => .error (.wrongType name e.message)

/-- A parameter that may be absent. A value of null is present. -/
def getAs {α : Type} (c : Context) (d : Json.Decoder α) (name : String) :
    Except ContextError (Option α) :=
  match c.get? name with
  | some v => (decodeParam d name v).map some
  | none => .ok none

def fetchAs {α : Type} (c : Context) (d : Json.Decoder α) (name : String) : Except ContextError α :=
  match c.fetch name with
  | .ok v => decodeParam d name v
  | .error e => .error e

/-- The targets of a clause: the one text, or the list of texts, under the data key that it names. -/
def targets (c : Context) (clause : Clause) : Except ContextError (List String) :=
  let keyword := clause.keyword?.getD "open"
  match c.statement.target with
  | none => .error (.missingTarget keyword)
  | some target =>
    if c.statement.clause = clause then
      match (c.data.get? target).bind Json.texts? with
      | some texts => .ok texts
      | none => .error (.invalidTarget keyword target)
    else .error (.missingTarget keyword)

def openTargets (c : Context) : Except ContextError (List String) := c.targets .opening

def connectTargets (c : Context) : Except ContextError (List String) := c.targets .connecting

end Context

end Rider
