import Rider.Context
set_option autoImplicit false

namespace Rider

inductive HandlerError
  | context (error : ContextError)
  | failed (message : String)
deriving DecidableEq, Repr

def HandlerError.message : HandlerError → String
  | .context e => e.message
  | .failed m => m

/-- A handler answers with the value to store, and may change the state `σ` that all share. -/
abbrev Handler (σ : Type) := Context → σ → Except HandlerError Json × σ

end Rider
