import Scenario.Command
import Scenario.Dispatch.Error
import Scenario.Speaker

/-! # Dialogue

How spoken lines are told from other commands. A tagged speaker always has a
line; any other unregistered name has one if its second argument slot is filled
and its first is empty.
-/

namespace Scenario.Command

/-- The argument slot that holds a line's text. -/
def textSlot : Nat := 1

/-- The line of a tagged speaker, or the error that it has no text. None for other commands. -/
def taggedLine? (command : Command) : Option (Except DispatchError Line) :=
  if Speaker.isTag command.opcode then
    some <| match command.arg? textSlot with
      | some text => .ok ⟨.tagged command.opcode, text⟩
      | none => .error (.missingText command.opcode)
  else none

/-- The line of a command whose name is taken for its speaker. -/
def untaggedLine? (command : Command) : Option Line :=
  if (command.arg? 0).isSome then none
  else (command.arg? textSlot).map fun text => ⟨.untagged command.opcode, text⟩

end Scenario.Command
