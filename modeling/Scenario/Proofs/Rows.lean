import Scenario.Lines
import Scenario.Proofs.Accounting
import Scenario.Proofs.Loading
import Scenario.Proofs.Precedence

/-! # Spoken lines

The rows that are kept of a run are those of its commands, one by one: each
command speaks a line or does not, whatever comes before it. So the rows of a
script that goes on with another are those of both.
-/

namespace Scenario

namespace Row

/-- The row in a script that starts with `offset` more commands. -/
def shifted (offset : Nat) (row : Row) : Row :=
  { row with index := offset + row.index }

end Row

namespace Command

/-- The row of a command, if it speaks a line. -/
def row? (table : NameTable) (command : Command) : Option Row :=
  command.line?.map fun line =>
    ⟨command.index, table.render line.speaker, command.opcode, line.text⟩

/-- The command in a script that starts with `offset` more commands. -/
def shifted (offset : Nat) (command : Command) : Command :=
  { command with index := offset + command.index }

theorem row?_index {table : NameTable} {command : Command} {row : Row}
    (spoken : command.row? table = some row) : row.index = command.index := by
  obtain ⟨line, -, rfl⟩ := Option.map_eq_some_iff.mp spoken
  rfl

theorem row?_shifted (table : NameTable) (offset : Nat) (command : Command) :
    (command.shifted offset).row? table = (command.row? table).map (Row.shifted offset) := by
  have same : (command.shifted offset).line? = command.line? := rfl
  rw [row?, row?, same, Option.map_map]
  rfl

theorem knownEvent_line? (command : Command) : command.knownEvent.line? = command.line? := by
  apply Option.ext
  intro line
  rw [← settled?_dialogue_iff, knownEvent]
  cases settled : command.settled? with
  | none => simp [Event.line?]
  | some outcome =>
      rcases settled?_cases settled with ⟨own, rfl⟩ | ⟨operation, fallbacks, rfl⟩ | ⟨error, rfl⟩ <;>
        simp [Event.line?]

theorem ofJson_shifted {index : Nat} {entry : Json} {command : Command} (offset : Nat)
    (read : ofJson index entry = .ok command) :
    ofJson (offset + index) entry = .ok (command.shifted offset) := by
  obtain rfl := ofJson_index read
  exact ofJson_placed _ read

end Command

/-- The row of an event, if it is a line. -/
def Event.row? (table : NameTable) (event : Event) : Option Row :=
  event.line?.map fun line =>
    ⟨event.index, table.render line.speaker, line.speaker.label, line.text⟩

theorem Command.knownEvent_row? (table : NameTable) (command : Command) :
    command.knownEvent.row? table = command.row? table := by
  rw [Event.row?, row?, knownEvent_line?]
  cases spoken : command.line? with
  | none => rfl
  | some line =>
      rcases speaker_of_line? spoken with ⟨own, -⟩ | ⟨own, -⟩ <;>
        simp only [Option.map_some, own, Speaker.label, Event.index, knownEvent]

theorem NameTable.extractor_watch (table : NameTable) (rows : List Row) (events : List Event) :
    table.extractor.watch rows events = rows ++ events.filterMap (Event.row? table) := by
  induction events generalizing rows with
  | nil => simp [Handler.watch]
  | cons event rest ih =>
      rw [Handler.watch, List.foldl_cons, ← Handler.watch, ih, List.filterMap_cons]
      obtain ⟨command, outcome⟩ := event
      rcases outcome with error | (line | ⟨operation, fallbacks⟩ | report | -) <;>
        simp [Handler.step, Handler.answer, Event.callback, Event.row?, Event.line?, extractor,
          Event.index]

theorem Discovery.trace_rows (table : NameTable) (discovery : Discovery) (commands : List Command) :
    (discovery.trace commands).filterMap (Event.row? table) =
      commands.filterMap (Command.row? table) := by
  rw [trace_filterMap_of_blind fun _ _ => rfl]
  exact List.filterMap_congr fun command _ => command.knownEvent_row? table

namespace Script

/-- The rows that an extractor keeps of a run. -/
theorem extractor_state (script : Script) (table : NameTable) :
    (script.runFor table.extractor []).state = script.commands.filterMap (Command.row? table) := by
  rw [runFor_eq, NameTable.extractor_watch, List.nil_append, run_events, Discovery.trace_rows]

theorem row_mem_iff {script : Script} {command : Command} {row : Row} (table : NameTable)
    (member : command ∈ script.commands) (same : row.index = command.index) :
    row ∈ (script.runFor table.extractor []).state ↔ command.row? table = some row := by
  rw [extractor_state, List.mem_filterMap]
  constructor
  · rintro ⟨other, otherMember, spoken⟩
    have own : other = command :=
      script.eq_of_index_eq member otherMember ((Command.row?_index spoken).symm.trans same)
    rwa [own] at spoken
  · intro spoken
    exact ⟨command, member, spoken⟩

/-- The script that goes on with another. -/
def append (first later : Script) : Script where
  commands := first.commands ++ later.commands.map (Command.shifted first.commands.length)
  numbered := by
    rw [List.map_append, first.numbered, List.map_map, List.length_append, List.length_map,
      List.range_add, ← later.numbered, List.map_map]
    rfl

instance : Append Script := ⟨append⟩

theorem readEntries_shifted {index : Nat} {entries : List Json} {commands : List Command}
    (offset : Nat) (read : (readEntries index entries).2 = .ok commands) :
    (readEntries (offset + index) entries).2 = .ok (commands.map (Command.shifted offset)) := by
  induction entries generalizing index commands with
  | nil =>
      cases read
      rfl
  | cons entry rest ih =>
      simp only [readEntries] at read ⊢
      cases loaded : Command.ofJson index entry with
      | error fault => simp [loaded] at read
      | ok command =>
          cases remaining : (readEntries (index + 1) rest).2 with
          | error fault => simp [loaded, remaining, Except.map] at read
          | ok later =>
              simp only [loaded, remaining, Except.map, Except.ok.injEq] at read
              subst read
              rw [Command.ofJson_shifted offset loaded]
              simp only [Nat.add_assoc, ih remaining, Except.map, List.map_cons]

theorem ofDocument_eq_ok_iff {fields : Json.Fields} {entries : List Json} {script : Script}
    (container : fields.get? "scr" = some (.array entries)) :
    (ofDocument (.object fields)).result = .ok script ↔
      (readEntries 0 entries).2 = .ok script.commands := by
  rw [(ofDocument_of_container container).1, ← (ofEntries_eq entries).2]
  cases (ofEntries entries).result with
  | error fault => simp [Except.map]
  | ok other =>
      obtain ⟨commands, numbered⟩ := other
      obtain ⟨own, ownNumbered⟩ := script
      simp [Except.map]

/-- A document with the entries of one that loads, and then those of another, is the script of the
    one that goes on with that of the other. -/
theorem ofDocument_append {document other : Json} {fields : Json.Fields} {first later : Script}
    (loaded : (ofDocument document).result = .ok first)
    (otherLoaded : (ofDocument other).result = .ok later)
    (container : fields.get? "scr" = some (.array (entries document ++ entries other))) :
    (ofDocument (.object fields)).result = .ok (first ++ later) := by
  obtain ⟨own, all, rfl, ownContainer, readable⟩ := ofDocument_loads_iff.mp ⟨first, loaded⟩
  obtain ⟨others, rest, rfl, otherContainer, -⟩ := ofDocument_loads_iff.mp ⟨later, otherLoaded⟩
  have length : first.commands.length = (entries (.object own)).length :=
    (ofDocument_reads loaded).1
  rw [(ofDocument_of_container ownContainer).2] at length container
  rw [(ofDocument_of_container otherContainer).2] at container
  have read := (ofDocument_eq_ok_iff ownContainer).mp loaded
  have otherRead : (readEntries all.length rest).2 =
      .ok (later.commands.map (Command.shifted all.length)) :=
    readEntries_shifted all.length ((ofDocument_eq_ok_iff otherContainer).mp otherLoaded)
  -- the first entries make the same commands, whatever comes after them
  obtain ⟨commands, -, continues⟩ := readEntries_append 0 readable
  have same : first.commands = commands := by
    have alone := congrArg Prod.snd (continues [])
    rw [List.append_nil, read] at alone
    simpa [readEntries, Except.map] using alone
  apply (ofDocument_eq_ok_iff container).mpr
  calc (readEntries 0 (all ++ rest)).2
      = (readEntries all.length rest).2.map (commands ++ ·) := by rw [continues, Nat.zero_add]
    _ = .ok (commands ++ later.commands.map (Command.shifted all.length)) := by
      rw [otherRead]
      rfl
    _ = .ok (first ++ later).commands := by
      rw [← same, ← length]
      rfl

theorem append_rows (first later : Script) (table : NameTable) :
    ((first ++ later).runFor table.extractor []).state =
      (first.runFor table.extractor []).state ++
        (later.runFor table.extractor []).state.map (Row.shifted first.commands.length) := by
  have commands : (first ++ later).commands =
      first.commands ++ later.commands.map (Command.shifted first.commands.length) := rfl
  rw [extractor_state, extractor_state, extractor_state, commands, List.filterMap_append,
    List.filterMap_map, List.map_filterMap]
  congr 1
  exact List.filterMap_congr fun command _ => Command.row?_shifted table _ command

/-- Line extraction is complete, and goes command by command. There is a row for each command that
    speaks a line, and no other, in order. So their places ascend, there are as many as the run
    counts lines, a command has the same row in every script that it stands in, and a script that
    goes on with another has the rows of both, the later ones moved by the length of the first; that
    script is what the entries of both make when they are read as one document. -/
theorem rows_complete (script : Script) (table : NameTable) :
    let rows (script : Script) : List Row := (script.runFor table.extractor []).state
    rows script = script.commands.filterMap (Command.row? table) ∧
      ((rows script).map Row.index).Pairwise (· < ·) ∧
      (rows script).length = (script.runFor table.extractor []).summary.dialogue ∧
      (∀ other : Script, ∀ command ∈ script.commands, command ∈ other.commands →
        ∀ row : Row, row.index = command.index → (row ∈ rows script ↔ row ∈ rows other)) ∧
      ∀ later : Script,
        rows (script ++ later) =
            rows script ++ (rows later).map (Row.shifted script.commands.length) ∧
          ∀ (document other : Json) (fields : Json.Fields),
            (ofDocument document).result = .ok script → (ofDocument other).result = .ok later →
            fields.get? "scr" = some (.array (entries document ++ entries other)) →
            (ofDocument (.object fields)).result = .ok (script ++ later) := by
  intro rows
  have own : rows script = script.commands.filterMap (Command.row? table) :=
    script.extractor_state table
  refine ⟨own, ?_, ?_, ?_, fun later => ⟨script.append_rows later table, ?_⟩⟩
  · have numbered : (script.commands.map Command.index).Pairwise (· < ·) := by
      rw [script.numbered]
      exact List.pairwise_lt_range
    rw [own, List.pairwise_map, List.pairwise_filterMap]
    refine (List.pairwise_map.mp numbered).imp fun before row spoken other otherSpoken => ?_
    rwa [Command.row?_index spoken, Command.row?_index otherSpoken]
  · simp only [rows, runFor_eq, Run.summary, NameTable.extractor_watch, List.nil_append,
      List.length_filterMap_eq_countP, Event.row?, Option.isSome_map]
  · intro other command member otherMember row same
    exact (row_mem_iff table member same).trans (row_mem_iff table otherMember same).symm
  · intro document other fields loaded otherLoaded container
    exact ofDocument_append loaded otherLoaded container

end Script
end Scenario
