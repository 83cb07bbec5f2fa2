import Scenario.Dispatch

/-! # Events

What became of each command of a run, and what there is to say about it.
-/

namespace Scenario

/-- One command and what became of it. -/
structure Event where
  command : Command
  outcome : Outcome

/-- A command that was skipped. -/
structure CommandFailure where
  index : Nat
  opcode : String
  error : DispatchError

/-- The failure with its command, for a reader. -/
def CommandFailure.text (failure : CommandFailure) : String :=
  s!"command #{failure.index} ({failure.opcode}): " ++ failure.error.message

def CommandFailure.toJson (failure : CommandFailure) : Json :=
  .object [("index", .ofNat failure.index), ("opcode", .string failure.opcode),
    ("error", .string failure.error.message)]

namespace Command

/-- The warning about a value that was kept. -/
def keptEntry (command : Command) (fallback : Fallback) : LogEntry :=
  .warn <| s!"command #{command.index}: {fallback.opcode.handler} parameter `{fallback.param}` " ++
    s!"expects {fallback.expected.name}, keeping raw value " ++ fallback.value.compact

/-- The warning about a command that is skipped. -/
def skippedEntry (command : Command) (error : DispatchError) : LogEntry :=
  .warn <| s!"command #{command.index} ({command.opcode}) skipped: " ++ error.message

end Command

namespace Event

def index (event : Event) : Nat :=
  event.command.index

def line? (event : Event) : Option Line :=
  match event.outcome with
  | .ok (.dialogue line) => some line
  | _ => none

def operation? (event : Event) : Option Operation :=
  match event.outcome with
  | .ok (.operation operation _) => some operation
  | _ => none

def report? (event : Event) : Option Report :=
  match event.outcome with
  | .ok (.discovered report) => some report
  | _ => none

def isRepeated (event : Event) : Bool :=
  match event.outcome with
  | .ok .repeated => true
  | _ => false

/-- The values that an operation kept as they were. -/
def fallbacks (event : Event) : List Fallback :=
  match event.outcome with
  | .ok (.operation _ fallbacks) => fallbacks
  | _ => []

def failure? (event : Event) : Option CommandFailure :=
  match event.outcome with
  | .error error => some ⟨event.index, event.command.opcode, error⟩
  | .ok _ => none

/-- What is logged about a command: a first sighting, values kept, or why it was skipped. -/
def log (event : Event) : List LogEntry :=
  match event.outcome with
  | .ok (.discovered report) => [report.logEntry]
  | .ok (.operation _ fallbacks) => fallbacks.map event.command.keptEntry
  | .ok _ => []
  | .error error => [event.command.skippedEntry error]

end Event

end Scenario
