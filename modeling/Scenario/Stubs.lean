import Scenario.Summary

/-! # Stubs and statistics

What a run found out about unknown opcodes, and how it went in one line.
-/

namespace Scenario

namespace Report

/-- A stub a line, in the order of first sighting. -/
def stubLines (reports : List Report) : String :=
  String.join (reports.map fun report => report.stub ++ "\n")

/-- The reports of a file as JSON. -/
def fileJson (file : String) (reports : List Report) : Json :=
  .object [("file", .string file), ("discovered", .array (reports.map toJson))]

end Report

/-- The counts of a run of a file. -/
def Summary.describe (summary : Summary) (file : String) : String :=
  s!"{file}: {summary.commands} commands ({summary.dialogue} dialogue, " ++
    s!"{summary.operations} bound, {summary.defaults} default), " ++
    s!"{summary.discovered.length} unknown opcode(s), " ++
    s!"{summary.fallbacks.length} coercion fallback(s), {summary.failures.length} failed"

end Scenario
