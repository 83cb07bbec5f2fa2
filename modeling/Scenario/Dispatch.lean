import Scenario.Dialogue
import Scenario.Discovery
import Scenario.Operation

/-! # Dispatch

Each command is routed by the first rule that applies: a tagged speaker, a
registered opcode, a line without a tag, the first sighting of an unknown name.
-/

namespace Scenario

/-- What a command turned out to be. -/
inductive Dispatch where
  | dialogue (line : Line)
  | operation (operation : Operation) (fallbacks : List Fallback)
  /-- The first sighting of an unknown opcode. -/
  | discovered (report : Report)
  /-- An unknown opcode that was reported before. -/
  | repeated

/-- How a command fared. -/
abbrev Outcome := Except DispatchError Dispatch

/-- The operation of a registered command, once its arguments are bound. -/
def Opcode.dispatch (opcode : Opcode) (args : List Json) : Outcome :=
  match opcode.bind args with
  | .ok binding => .ok (.operation (.ofBinding binding) binding.fallbacks)
  | .error error => .error (.unbound error)

namespace Command

/-- The outcome by the rules that look at nothing but the command; none if no such rule
    applies. -/
def settled? (command : Command) : Option Outcome :=
  match command.taggedLine? with
  | some line => some (line.map .dialogue)
  | none =>
    match Opcode.lookup? command.opcode with
    | some opcode => some (opcode.dispatch command.present)
    | none => command.untaggedLine?.map fun line => .ok (.dialogue line)

end Command

/-- Routes a command. Only one that no other rule settles reaches discovery. -/
def Discovery.classify (discovery : Discovery) (command : Command) : Outcome × Discovery :=
  match command.settled? with
  | some outcome => (outcome, discovery)
  | none =>
    match discovery.observe command with
    | (some report, discovery) => (.ok (.discovered report), discovery)
    | (none, discovery) => (.ok .repeated, discovery)

end Scenario
