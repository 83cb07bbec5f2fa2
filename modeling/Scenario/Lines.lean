import Scenario.Handler
import Scenario.NameTable

/-! # Spoken lines

The lines of a script with their speakers, as text or as JSON.
-/

namespace Scenario

/-- One spoken line. -/
structure Row where
  /-- The command's place in its script. -/
  index : Nat
  /-- The heading shown. -/
  speaker : String
  /-- The opcode name of the command. -/
  rawSpeaker : String
  text : Json

namespace Row

/-- The line as read: a string as itself, any other value as JSON. -/
def spoken (row : Row) : String :=
  match row.text with
  | .string text => text
  | value => value.compact

def toJson (row : Row) : Json :=
  .object [("index", .ofNat row.index), ("speaker", .string row.speaker),
    ("raw_speaker", .string row.rawSpeaker), ("text", row.text)]

/-- Place, heading and line, each on its own line, and an empty line. -/
def block (row : Row) : String :=
  s!"{row.index}:\n{row.speaker}\n" ++ row.spoken ++ "\n\n"

end Row

/-- Keeps a row for each spoken line. -/
def NameTable.extractor (table : NameTable) : Handler (List Row) where
  dialogue := fun rows command line =>
    rows ++ [⟨command.index, table.render line.speaker, line.speaker.label, line.text⟩]

/-- The spoken lines of a run. -/
def Run.rows (run : Run) (table : NameTable) : List Row :=
  table.extractor.watch [] run.events

namespace Row

/-- The rows of a file as text, under the file's name. -/
def fileText (file : String) (rows : List Row) : String :=
  file ++ "\n" ++ String.join (rows.map block)

/-- The rows of a file as JSON. -/
def fileJson (file : String) (rows : List Row) : Json :=
  .object [("file", .string file), ("lines", .array (rows.map toJson))]

end Row
end Scenario
