import Rider.Scope
set_option autoImplicit false

/-!
The interpreter of a contract, seen from outside: a machine with states `σ` of its own that takes the
contract and a scope, and answers with a result and a log or with the log of a failure.
-/

namespace Rider

structure Output where
  result : Data
  log : String

structure Interpreter (σ : Type) where
  -- Runs the contract; a failure is its log.
  execute : String → Scope → σ → Except String Output × σ
  -- Finds out which lines the interpreter does not understand; the answer is a log.
  diagnose : String → Scope → σ → String × σ

def logOf : Except String Output → String
  | .ok out => out.log
  | .error log => log

/-- An interpreter that diagnoses a contract by running it. -/
def Interpreter.ofExecute {σ : Type} (execute : String → Scope → σ → Except String Output × σ) :
    Interpreter σ where
  execute := execute
  diagnose := fun contract scope s => let (out, s) := execute contract scope s; (logOf out, s)

end Rider
