import Scenario.Binding
import Scenario.Text.Quoted

/-! # Commands that cannot be carried out

A command of a script that was read may still be faulty. It is skipped with one
of these errors, and the run goes on.
-/

namespace Scenario

inductive DispatchError where
  /-- The arguments of a registered command do not fit. -/
  | unbound (error : BindError)
  /-- A tagged speaker has nothing to say. -/
  | missingText (speaker : String)
  deriving DecidableEq, Repr

def DispatchError.message : DispatchError → String
  | .unbound error => error.message
  | .missingText speaker =>
    "dialogue for speaker " ++ Text.quoted speaker ++ " has no text in arg1"

end Scenario
