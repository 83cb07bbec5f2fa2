import Scenario.Command
import Scenario.Json.Reader

/-! # Scripts

A document with all its commands read. Either every entry is a command, or the
first that is not is reported.
-/

namespace Scenario

structure Script where
  commands : List Command
  /-- Commands are numbered by their place. -/
  numbered : commands.map Command.index = List.range commands.length

/-- The outcome of reading a document, with what was logged on the way. -/
structure Loading where
  log : List LogEntry
  result : Except LoadError Script

namespace Script

/-- Reads entries in order, numbered from `index`, up to the first faulty one. -/
def readEntries : Nat → List Json → List LogEntry × Except LoadError (List Command)
  | _, [] => ([], .ok [])
  | index, entry :: rest =>
    match Command.ofJson index entry with
    | .error fault => ([], .error fault)
    | .ok command =>
      let (log, commands) := readEntries (index + 1) rest
      (command.loadLog ++ log, commands.map (command :: ·))

theorem readEntries_numbered {index : Nat} {entries : List Json} {commands : List Command}
    (read : (readEntries index entries).2 = .ok commands) :
    commands.map Command.index = List.range' index commands.length := by
  induction entries generalizing index commands with
  | nil => cases read; rfl
  | cons entry rest ih =>
      simp only [readEntries] at read
      split at read
      · contradiction
      · next command loaded =>
          cases remaining : (readEntries (index + 1) rest).2 with
          | error fault => simp [remaining, Except.map] at read
          | ok later =>
              simp only [remaining, Except.map, Except.ok.injEq] at read
              subst read
              simp only [List.map_cons, List.length_cons, List.range'_succ,
                Command.ofJson_index loaded, ih remaining]

/-- Reads the entries of a script. -/
def ofEntries (entries : List Json) : Loading :=
  match reading : readEntries 0 entries with
  | (log, .error fault) => ⟨log, .error fault⟩
  | (log, .ok commands) =>
    ⟨log, .ok ⟨commands, by
      rw [readEntries_numbered (congrArg Prod.snd reading), List.range_eq_range']⟩⟩

/-- Reads a document. Fields beside the container are ignored. -/
def ofDocument (document : Json) : Loading :=
  match document.fields?.bind (·.get? containerField) with
  | none => ⟨[], .error .missingContainer⟩
  | some (.array entries) => ofEntries entries
  | some _ => ⟨[], .error .containerNotArray⟩

/-- Reads a document from its text. -/
def ofText (text : String) : Loading :=
  match Json.ofText? text with
  | some document => ofDocument document
  | none => ⟨[], .error .notJson⟩

/-- Reads a document from the bytes of a file. -/
def ofBytes (bytes : ByteArray) : Loading :=
  match Json.ofBytes? bytes with
  | some document => ofDocument document
  | none => ⟨[], .error .notJson⟩

end Script
end Scenario
