import Scenario.Json
import Scenario.Log

/-! # Commands

One entry of a script: an opcode name in the first of two slots that is filled,
and ten argument slots, any of which may be empty.
-/

namespace Scenario

/-- Where a command's opcode name comes from. -/
inductive OpcodeSlot where
  /-- Looked at first. -/
  | primary
  | secondary
  deriving DecidableEq, Repr

namespace OpcodeSlot

def key : OpcodeSlot → String
  | .primary => "cmd0"
  | .secondary => "cmd1"

def name : OpcodeSlot → String
  | .primary => "primary"
  | .secondary => "secondary"

end OpcodeSlot

/-- Why a document is no script. Commands are numbered from zero. -/
inductive LoadError where
  | notJson
  | missingContainer
  | containerNotArray
  | commandNotObject (index : Nat)
  | missingOpcode (index : Nat)
  | opcodeNotString (index : Nat) (slot : OpcodeSlot)
  deriving DecidableEq, Repr

/-- The field of a script document that holds its commands. -/
def containerField : String := "scr"

def LoadError.message : LoadError → String
  | .notJson => "script is not valid JSON"
  | .missingContainer => s!"expected \"{containerField}\" field in script document"
  | .containerNotArray => s!"\"{containerField}\" must hold an array of commands"
  | .commandNotObject index => s!"command #{index} is not a JSON object"
  | .missingOpcode index => s!"command #{index} has neither a cmd0 nor a cmd1 opcode"
  | .opcodeNotString index slot => s!"command #{index} stores a non-string opcode in {slot.key}"

namespace Command

/-- How many argument slots a command has. -/
def slotCount : Nat := 10

/-- The field that fills an argument slot. -/
def argKey (position : Nat) : String :=
  s!"arg{position}"

end Command

/-- One command of a script. -/
structure Command where
  /-- The command's place in its script. -/
  index : Nat
  /-- The opcode name as the script has it. -/
  opcode : String
  slot : OpcodeSlot
  args : Fin Command.slotCount → Option Json
  /-- All fields, as the script has them. -/
  raw : Json.Fields

namespace Command

/-- The slot that holds the opcode, with its value. -/
def opcodeField? (fields : Json.Fields) : Option (OpcodeSlot × Json) :=
  [OpcodeSlot.primary, .secondary].findSome? fun slot =>
    (fields.get? slot.key).map fun value => (slot, value)

def ofFields (index : Nat) (fields : Json.Fields) : Except LoadError Command :=
  match opcodeField? fields with
  | none => .error (.missingOpcode index)
  | some (slot, .string opcode) =>
    .ok ⟨index, opcode, slot, fun position => fields.get? (argKey position), fields⟩
  | some (slot, _) => .error (.opcodeNotString index slot)

/-- Reads one entry of a script. -/
def ofJson (index : Nat) (entry : Json) : Except LoadError Command :=
  match entry with
  | .object fields => ofFields index fields
  | _ => .error (.commandNotObject index)

/-- A command that was read has the number it was read with. -/
theorem ofJson_index {index : Nat} {entry : Json} {command : Command}
    (loaded : ofJson index entry = .ok command) : command.index = index := by
  cases entry with
  | object fields =>
      simp only [ofJson, ofFields] at loaded
      split at loaded <;> cases loaded
      rfl
  | null | bool | number | string | array => cases loaded

/-- Said once of a command that fills both opcode slots. -/
def loadLog (command : Command) : List LogEntry :=
  if command.slot = .primary ∧ command.raw.contains OpcodeSlot.secondary.key then
    [.debug s!"command #{command.index} populates both opcode slots; using cmd0"]
  else []

/-- The argument in a slot. Slots from the tenth on do not exist and count as empty. -/
def arg? (command : Command) (position : Nat) : Option Json :=
  if h : position < slotCount then command.args ⟨position, h⟩ else none

/-- The arguments that are there, with their slots, in ascending order. -/
def positioned (command : Command) : List (Nat × Json) :=
  (List.finRange slotCount).filterMap fun slot => (command.args slot).map fun arg => (slot.val, arg)

theorem mem_positioned {command : Command} {position : Nat} {arg : Json} :
    (position, arg) ∈ command.positioned ↔ command.arg? position = some arg := by
  simp only [positioned, arg?, List.mem_filterMap, List.mem_finRange, true_and,
    Option.map_eq_some_iff, Prod.mk.injEq]
  constructor
  · rintro ⟨slot, _, h, rfl, rfl⟩
    simp [slot.isLt, h]
  · intro h
    split at h
    · next bound => exact ⟨⟨position, bound⟩, arg, h, rfl, rfl⟩
    · contradiction

/-- The arguments that are there, in the order of their slots. -/
def present (command : Command) : List Json :=
  command.positioned.map Prod.snd

end Command
end Scenario
