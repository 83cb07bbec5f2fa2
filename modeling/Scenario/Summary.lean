import Scenario.Event

/-! # Summaries

The counts and reports of a run.
-/

namespace Scenario

/-- Counts and reports of a run. -/
structure Summary where
  /-- How many commands were taken. -/
  commands : Nat
  dialogue : Nat
  operations : Nat
  /-- Unknown opcodes beyond their first sighting. -/
  defaults : Nat
  discovered : List Report
  /-- Values kept as they were, each with its command's place. -/
  fallbacks : List (Nat × Fallback)
  failures : List CommandFailure

namespace Summary

/-- Nothing counted yet. -/
def empty : Summary :=
  ⟨0, 0, 0, 0, [], [], []⟩

/-- No command failed. Values kept as they were do not count. -/
def isClean (summary : Summary) : Bool :=
  summary.failures.isEmpty

/-- The counts, logged when a run ends. -/
def logEntry (summary : Summary) : LogEntry :=
  .debug <| s!"processed {summary.commands} command(s): {summary.dialogue} dialogue, " ++
    s!"{summary.operations} operation(s), {summary.defaults} default, " ++
    s!"{summary.discovered.length} discovered, {summary.failures.length} failed"

def fallbackJson : Nat × Fallback → Json
  | (index, fallback) =>
    .object [("index", .ofNat index), ("opcode", .string fallback.opcode.handler),
      ("param", .string fallback.param), ("expected", .string fallback.expected.name),
      ("value", fallback.value)]

def toJson (summary : Summary) : Json :=
  .object [("records", .ofNat summary.commands), ("dialogue", .ofNat summary.dialogue),
    ("operations", .ofNat summary.operations), ("defaults", .ofNat summary.defaults),
    ("discovered", .array (summary.discovered.map Report.toJson)),
    ("coercion_fallbacks", .array (summary.fallbacks.map fallbackJson)),
    ("failures", .array (summary.failures.map CommandFailure.toJson))]

end Summary

end Scenario
