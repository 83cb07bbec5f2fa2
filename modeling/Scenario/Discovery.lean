import Scenario.Command
import Scenario.Json.Printer
import Scenario.Text.Quoted

/-! # Discovery of unknown opcodes

Opcode names that the registry does not have are reported once each, with the
arguments of the command that showed the name first.
-/

namespace Scenario

/-- An argument as a reported command had it. -/
structure ObservedArg where
  position : Nat
  value : Json

/-- The first sighting of an unknown opcode name. -/
structure Report where
  opcode : String
  firstIndex : Nat
  observed : List ObservedArg

namespace Report

def ofCommand (command : Command) : Report :=
  ⟨command.opcode, command.index, command.positioned.map fun (slot, arg) => ⟨slot, arg⟩⟩

def arity (report : Report) : Nat :=
  report.observed.length

/-- A signature to start from: a parameter for each argument, and the values observed. -/
def stub (report : Report) : String :=
  let params := report.observed.map fun arg => s!", arg{arg.position}"
  let values := report.observed.map fun arg => arg.value.compact
  let hint := if report.observed.isEmpty then "" else " // observed: " ++ ", ".intercalate values
  report.opcode ++ "(raw, cmd" ++ String.join params ++ ")" ++ hint

def logEntry (report : Report) : LogEntry :=
  .debug <| "discovered unknown opcode " ++ Text.quoted report.opcode ++
    s!" at command #{report.firstIndex} with {report.arity} argument(s)"

def toJson (report : Report) : Json :=
  .object [("opcode", .string report.opcode), ("first_index", .ofNat report.firstIndex),
    ("observed", .array (report.observed.map fun arg =>
      .object [("position", .ofNat arg.position), ("value", arg.value)]))]

end Report

/-- The names seen so far and their reports, in the order of first sighting. -/
structure Discovery where
  seen : List String
  reports : List Report

namespace Discovery

/-- Nothing seen yet. -/
def empty : Discovery :=
  ⟨[], []⟩

/-- Reports a command's opcode name at its first sighting. -/
def observe (discovery : Discovery) (command : Command) : Option Report × Discovery :=
  if discovery.seen.contains command.opcode then (none, discovery)
  else
    let report := Report.ofCommand command
    (some report, ⟨command.opcode :: discovery.seen, discovery.reports ++ [report]⟩)

end Discovery
end Scenario
