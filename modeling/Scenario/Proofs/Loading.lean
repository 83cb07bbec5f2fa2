import Mathlib.Data.List.FinRange
import Mathlib.Data.List.TakeWhile
import Scenario.Script

/-! # Loading

A document is a script or has a fault, and the first fault is the one that is
reported. What an entry has to be, and what can be wrong with it, is said here
apart from how entries are read.
-/

namespace Scenario

/-- The slot and the value of the first opcode key that is there. -/
inductive Json.Fields.FirstOpcode (fields : Json.Fields) : OpcodeSlot → Json → Prop where
  | primary {value : Json} : fields.get? "cmd0" = some value → fields.FirstOpcode .primary value
  | secondary {value : Json} : fields.get? "cmd0" = none → fields.get? "cmd1" = some value →
    fields.FirstOpcode .secondary value

namespace Command

/-- The entry is an object with a text under its first opcode key. -/
def Readable (entry : Json) : Prop :=
  ∃ (fields : Json.Fields) (slot : OpcodeSlot) (opcode : String),
    entry = .object fields ∧ fields.FirstOpcode slot (.string opcode)

/-- What is wrong with the entry at an index. -/
inductive Fault (index : Nat) : Json → LoadError → Prop where
  | notObject {entry : Json} : (∀ fields, entry ≠ .object fields) →
    Fault index entry (.commandNotObject index)
  | noOpcode {fields : Json.Fields} : fields.get? "cmd0" = none → fields.get? "cmd1" = none →
    Fault index (.object fields) (.missingOpcode index)
  /-- The first key counts, whatever is under the other. -/
  | notText {fields : Json.Fields} {slot : OpcodeSlot} {value : Json} :
    fields.FirstOpcode slot value → (∀ text, value ≠ .string text) →
    Fault index (.object fields) (.opcodeNotString index slot)

/-- All that a command has from the entry at an index. -/
structure Reads (index : Nat) (entry : Json) (command : Command) : Prop where
  number : command.index = index
  whole : entry = .object command.raw
  opcode : command.raw.FirstOpcode command.slot (.string command.opcode)
  args : ∀ position < 10, command.arg? position = command.raw.get? ("arg" ++ toString position)
  noFurther : ∀ position, 10 ≤ position → command.arg? position = none
  listed : ∀ position arg,
    (position, arg) ∈ command.positioned ↔ command.arg? position = some arg
  ascending : (command.positioned.map Prod.fst).Pairwise (· < ·)

theorem opcodeField?_eq (fields : Json.Fields) :
    opcodeField? fields =
      match fields.get? "cmd0", fields.get? "cmd1" with
      | some value, _ => some (.primary, value)
      | none, some value => some (.secondary, value)
      | none, none => none := by
  cases first : fields.get? "cmd0" <;> cases second : fields.get? "cmd1" <;>
    simp [opcodeField?, OpcodeSlot.key, first, second]

theorem opcodeField?_eq_some_iff {fields : Json.Fields} {slot : OpcodeSlot} {value : Json} :
    opcodeField? fields = some (slot, value) ↔ fields.FirstOpcode slot value := by
  rw [opcodeField?_eq]
  constructor
  · intro found
    split at found
    · next held => cases found; exact .primary held
    · next absent held => cases found; exact .secondary absent held
    · cases found
  · rintro (held | ⟨absent, held⟩)
    · rw [held]
    · rw [absent, held]

theorem opcodeField?_eq_none_iff {fields : Json.Fields} :
    opcodeField? fields = none ↔ fields.get? "cmd0" = none ∧ fields.get? "cmd1" = none := by
  rw [opcodeField?_eq]
  cases fields.get? "cmd0" <;> cases fields.get? "cmd1" <;> simp

theorem positioned_ascending (command : Command) :
    (command.positioned.map Prod.fst).Pairwise (· < ·) := by
  rw [positioned, List.pairwise_map, List.pairwise_filterMap]
  refine (List.pairwise_lt_finRange slotCount).imp fun {slot later} before => ?_
  intro first isFirst second isSecond
  obtain ⟨arg, -, rfl⟩ := Option.map_eq_some_iff.mp isFirst
  obtain ⟨other, -, rfl⟩ := Option.map_eq_some_iff.mp isSecond
  exact before

theorem ofJson_eq_ok_iff {index : Nat} {entry : Json} {command : Command} :
    ofJson index entry = .ok command ↔ Reads index entry command := by
  constructor
  · intro loaded
    cases entry with
    | object fields =>
        simp only [ofJson, ofFields] at loaded
        split at loaded <;> cases loaded
        next slot opcode found =>
          refine ⟨rfl, rfl, opcodeField?_eq_some_iff.mp found, ?_, ?_, fun _ _ => mem_positioned,
            positioned_ascending _⟩
          · intro position inside
            exact dif_pos inside
          · intro position outside
            exact dif_neg (Nat.not_lt.mpr outside)
    | null | bool | number | string | array => cases loaded
  · intro reads
    obtain ⟨place, opcode, slot, args, raw⟩ := command
    obtain ⟨rfl, rfl, first, held, -⟩ := reads
    have sameArgs : (fun position : Fin slotCount => raw.get? (argKey position)) = args := by
      funext position
      exact (held position position.isLt).symm.trans (dif_pos position.isLt)
    simp only [ofJson, ofFields, opcodeField?_eq_some_iff.mpr first, sameArgs]

/-- An entry is the same command at every place, but for its number. -/
theorem ofJson_placed {index : Nat} {entry : Json} {command : Command} (place : Nat)
    (read : ofJson index entry = .ok command) :
    ofJson place entry = .ok { command with index := place } := by
  have reads := ofJson_eq_ok_iff.mp read
  exact ofJson_eq_ok_iff.mpr { reads with number := rfl }

theorem ofJson_eq_error_iff {index : Nat} {entry : Json} {error : LoadError} :
    ofJson index entry = .error error ↔ Fault index entry error := by
  constructor
  · intro refused
    cases entry with
    | object fields =>
        simp only [ofJson, ofFields] at refused
        split at refused <;> cases refused
        · next absent =>
            obtain ⟨first, second⟩ := opcodeField?_eq_none_iff.mp absent
            exact .noOpcode first second
        · next slot value noText found =>
            exact .notText (opcodeField?_eq_some_iff.mp found) noText
    | null | bool | number | string | array =>
        cases refused
        exact .notObject fun fields same => by cases same
  · rintro (notObject | ⟨first, second⟩ | ⟨found, noText⟩)
    · cases entry with
      | object fields => exact absurd rfl (notObject fields)
      | null | bool | number | string | array => rfl
    · simp only [ofJson, ofFields, opcodeField?_eq_none_iff.mpr ⟨first, second⟩]
    · simp only [ofJson, ofFields, opcodeField?_eq_some_iff.mpr found]

theorem readable_iff (index : Nat) {entry : Json} :
    Readable entry ↔ ∃ command, ofJson index entry = .ok command := by
  constructor
  · rintro ⟨fields, slot, opcode, rfl, first⟩
    simp only [ofJson, ofFields, opcodeField?_eq_some_iff.mpr first, Except.ok.injEq, exists_eq']
  · rintro ⟨command, loaded⟩
    have reads := ofJson_eq_ok_iff.mp loaded
    exact ⟨command.raw, command.slot, command.opcode, reads.whole, reads.opcode⟩

theorem Fault.not_readable {index : Nat} {entry : Json} {error : LoadError}
    (fault : Fault index entry error) : ¬ Readable entry := by
  rw [readable_iff index, ofJson_eq_error_iff.mpr fault]
  rintro ⟨command, loaded⟩
  cases loaded

instance : DecidablePred Readable := fun entry =>
  match loaded : ofJson 0 entry with
  | .ok command => .isTrue ((readable_iff 0).mpr ⟨command, loaded⟩)
  | .error _ => .isFalse (ofJson_eq_error_iff.mp loaded).not_readable

/-- What is said of the entry at an index if it fills both opcode slots. -/
def slotsLog (index : Nat) (entry : Json) : List LogEntry :=
  match entry.fields? with
  | some fields =>
    if fields.contains "cmd0" ∧ fields.contains "cmd1" then
      [.debug s!"command #{index} populates both opcode slots; using cmd0"]
    else []
  | none => []

theorem Reads.loadLog {index : Nat} {entry : Json} {command : Command}
    (reads : Reads index entry command) : command.loadLog = slotsLog index entry := by
  obtain ⟨rfl, whole, first, -⟩ := reads
  subst whole
  simp only [slotsLog, Json.fields?, Command.loadLog, OpcodeSlot.key]
  congr 1
  generalize command.slot = slot at first
  cases first with
  | primary held => simp [Json.Fields.contains, held]
  | secondary absent held => simp [Json.Fields.contains, absent]

end Command

namespace Script

open Command (Readable Reads slotsLog)

/-- The entries of a document; none unless its container is an array. -/
def entries (document : Json) : List Json :=
  match document.fields?.bind (·.get? "scr") with
  | some (.array entries) => entries
  | _ => []

/-- What is wrong with a document. -/
inductive Fault : Json → LoadError → Prop where
  | notObject {document : Json} : (∀ fields, document ≠ .object fields) →
    Fault document .missingContainer
  | noContainer {fields : Json.Fields} : fields.get? "scr" = none →
    Fault (.object fields) .missingContainer
  | notArray {fields : Json.Fields} {container : Json} : fields.get? "scr" = some container →
    (∀ entries, container ≠ .array entries) → Fault (.object fields) .containerNotArray
  /-- The first entry that cannot be read counts, whatever comes later. -/
  | entry {fields : Json.Fields} {before later : List Json} {entry : Json} {error : LoadError} :
    fields.get? "scr" = some (.array (before ++ entry :: later)) →
    (∀ earlier ∈ before, Readable earlier) → Command.Fault before.length entry error →
    Fault (.object fields) error

/-- Each entry from an index on has its command. -/
def ReadsAll (index : Nat) (entries : List Json) (commands : List Command) : Prop :=
  commands.length = entries.length ∧
    ∀ (place : Nat) (entry : Json), entries[place]? = some entry →
      ∃ command, commands[place]? = some command ∧
        Command.ofJson (index + place) entry = .ok command

theorem ReadsAll.cons {index : Nat} {entry : Json} {command : Command} {entries : List Json}
    {commands : List Command} (loaded : Command.ofJson index entry = .ok command)
    (rest : ReadsAll (index + 1) entries commands) :
    ReadsAll index (entry :: entries) (command :: commands) := by
  refine ⟨by simp [rest.1], fun place other there => ?_⟩
  cases place with
  | zero =>
      cases there
      exact ⟨command, rfl, loaded⟩
  | succ place =>
      obtain ⟨found, at_, read⟩ := rest.2 place other there
      exact ⟨found, at_, by rwa [Nat.add_right_comm] at read⟩

/-- What is said of entries that are read, from an index on. -/
def entriesLog (index : Nat) (entries : List Json) : List LogEntry :=
  (entries.zipIdx index).flatMap fun (entry, place) => slotsLog place entry

theorem entriesLog_cons (index : Nat) (entry : Json) (rest : List Json) :
    entriesLog index (entry :: rest) = slotsLog index entry ++ entriesLog (index + 1) rest := by
  simp [entriesLog, List.zipIdx_cons]

/-- Entries that can be read are read, and said of, before those that come later. -/
theorem readEntries_append (index : Nat) {before : List Json}
    (readable : ∀ entry ∈ before, Readable entry) :
    ∃ commands, ReadsAll index before commands ∧
      ∀ later, readEntries index (before ++ later) =
        (entriesLog index before ++ (readEntries (index + before.length) later).1,
          (readEntries (index + before.length) later).2.map (commands ++ ·)) := by
  -- the commands and the log are those of `before` alone, so they are chosen ahead of `later`
  induction before generalizing index with
  | nil =>
      refine ⟨[], ⟨rfl, by simp⟩, fun later => Prod.ext rfl ?_⟩
      show _ = Except.map id _
      rw [Except.map_id]
      rfl
  | cons entry rest ih =>
      obtain ⟨command, loaded⟩ :=
        (Command.readable_iff index).mp (readable entry List.mem_cons_self)
      obtain ⟨commands, all, continues⟩ := ih (index + 1) fun other member =>
        readable other (List.mem_cons_of_mem _ member)
      refine ⟨command :: commands, all.cons loaded, fun later => ?_⟩
      have offset : index + 1 + rest.length = index + (entry :: rest).length := by
        rw [List.length_cons]; omega
      rw [List.cons_append, readEntries, loaded]
      simp only [continues later, offset, entriesLog_cons,
        (Command.ofJson_eq_ok_iff.mp loaded).loadLog, List.append_assoc]
      cases (readEntries (index + (entry :: rest).length) later).2 <;> rfl

theorem readEntries_of_fault {index : Nat} {before later : List Json} {entry : Json}
    {error : LoadError} (readable : ∀ earlier ∈ before, Readable earlier)
    (fault : Command.Fault (index + before.length) entry error) :
    readEntries index (before ++ entry :: later) = (entriesLog index before, .error error) := by
  obtain ⟨commands, -, continues⟩ := readEntries_append index readable
  rw [continues, readEntries, Command.ofJson_eq_error_iff.mpr fault]
  simp [Except.map]

theorem readEntries_of_readable (index : Nat) {entries : List Json}
    (readable : ∀ entry ∈ entries, Readable entry) :
    ∃ commands, ReadsAll index entries commands ∧
      readEntries index entries = (entriesLog index entries, .ok commands) := by
  obtain ⟨commands, all, continues⟩ := readEntries_append index readable
  refine ⟨commands, all, ?_⟩
  have whole := continues []
  rw [List.append_nil] at whole
  simpa [readEntries, Except.map] using whole

theorem readable_or_faulty (index : Nat) (entries : List Json) :
    (∀ entry ∈ entries, Readable entry) ∨
      ∃ before entry later error, entries = before ++ entry :: later ∧
        (∀ earlier ∈ before, Readable earlier) ∧
        Command.Fault (index + before.length) entry error := by
  induction entries generalizing index with
  | nil => exact .inl (by simp)
  | cons entry rest ih =>
      cases loaded : Command.ofJson index entry with
      | error error =>
          exact .inr ⟨[], entry, rest, error, rfl, by simp, Command.ofJson_eq_error_iff.mp loaded⟩
      | ok command =>
          have readable : Readable entry := (Command.readable_iff index).mpr ⟨command, loaded⟩
          rcases ih (index + 1) with all | ⟨before, faulty, later, error, rfl, earlier, fault⟩
          · exact .inl (List.forall_mem_cons.mpr ⟨readable, all⟩)
          · refine .inr ⟨entry :: before, faulty, later, error, rfl,
              List.forall_mem_cons.mpr ⟨readable, earlier⟩, ?_⟩
            rwa [List.length_cons, Nat.add_comm before.length, ← Nat.add_assoc]

theorem ofEntries_eq (entries : List Json) :
    (ofEntries entries).log = (readEntries 0 entries).1 ∧
      (ofEntries entries).result.map Script.commands = (readEntries 0 entries).2 := by
  unfold ofEntries
  split <;> next reading =>
    exact ⟨(congrArg Prod.fst reading).symm, (congrArg Prod.snd reading).symm⟩

theorem ofDocument_of_container {fields : Json.Fields} {entries : List Json}
    (container : fields.get? "scr" = some (.array entries)) :
    ofDocument (.object fields) = ofEntries entries ∧
      Script.entries (.object fields) = entries := by
  simp [ofDocument, Script.entries, Json.fields?, containerField, container]

theorem takeWhile_readable {before later : List Json} {entry : Json}
    (readable : ∀ earlier ∈ before, Readable earlier) (faulty : ¬ Readable entry) :
    (before ++ entry :: later).takeWhile (Readable ·) = before := by
  rw [List.takeWhile_append_of_pos (by simpa using readable),
    List.takeWhile_cons_of_neg (by simpa using faulty), List.append_nil]

theorem ofDocument_of_fault {document : Json} {error : LoadError} (fault : Fault document error) :
    (ofDocument document).result = .error error ∧
      (ofDocument document).log = entriesLog 0 ((entries document).takeWhile (Readable ·)) := by
  cases fault with
  | notObject notObject =>
      cases document with
      | object fields => exact absurd rfl (notObject fields)
      | null | bool | number | string | array => exact ⟨rfl, rfl⟩
  | noContainer absent =>
      simp [ofDocument, entries, Json.fields?, containerField, absent, entriesLog]
  | @notArray fields container held notArray =>
      cases container with
      | array entries => exact absurd rfl (notArray entries)
      | null | bool | number | string | object =>
          simp [ofDocument, entries, Json.fields?, containerField, held, entriesLog]
  | @entry fields before later entry _ container readable fault =>
      obtain ⟨loading, listed⟩ := ofDocument_of_container container
      obtain ⟨log, result⟩ := ofEntries_eq (before ++ entry :: later)
      have fault : Command.Fault (0 + before.length) entry error := by rwa [Nat.zero_add]
      rw [readEntries_of_fault readable fault] at log result
      rw [loading, listed, takeWhile_readable readable fault.not_readable]
      refine ⟨?_, log⟩
      cases outcome : (ofEntries (before ++ entry :: later)).result with
      | ok script => simp [outcome, Except.map] at result
      | error other => simpa [outcome, Except.map] using result

theorem ofDocument_of_readable {fields : Json.Fields} {all : List Json}
    (container : fields.get? "scr" = some (.array all)) (readable : ∀ entry ∈ all, Readable entry) :
    ∃ script, (ofDocument (.object fields)).result = .ok script ∧ ReadsAll 0 all script.commands ∧
      (ofDocument (.object fields)).log =
        entriesLog 0 ((entries (.object fields)).takeWhile (Readable ·)) := by
  obtain ⟨loading, listed⟩ := ofDocument_of_container container
  obtain ⟨log, result⟩ := ofEntries_eq all
  obtain ⟨commands, reads, read⟩ := readEntries_of_readable 0 readable
  rw [read] at log result
  have taken : all.takeWhile (Readable ·) = all := by
    rw [List.takeWhile_eq_self_iff]
    simpa using readable
  rw [loading, listed, taken]
  cases outcome : (ofEntries all).result with
  | error error => simp [outcome, Except.map] at result
  | ok script =>
      rw [outcome] at result
      cases result
      exact ⟨script, rfl, reads, log⟩

theorem fault_or_readable (document : Json) :
    (∃ error, Fault document error) ∨
      ∃ (fields : Json.Fields) (all : List Json), document = .object fields ∧
        fields.get? "scr" = some (.array all) ∧ ∀ entry ∈ all, Readable entry := by
  cases document with
  | null | bool | number | string | array =>
      exact .inl ⟨_, .notObject fun fields same => by cases same⟩
  | object fields =>
      cases held : Json.Fields.get? fields "scr" with
      | none => exact .inl ⟨_, .noContainer held⟩
      | some container =>
          cases container with
          | null | bool | number | string | object =>
              exact .inl ⟨_, .notArray held fun entries same => by cases same⟩
          | array all =>
              rcases readable_or_faulty 0 all with
                readable | ⟨before, entry, later, error, rfl, readable, fault⟩
              · exact .inr ⟨fields, all, rfl, held, readable⟩
              · exact .inl ⟨error, .entry held readable (by rwa [Nat.zero_add] at fault)⟩

theorem ofDocument_eq_error_iff {document : Json} {error : LoadError} :
    (ofDocument document).result = .error error ↔ Fault document error := by
  constructor
  · intro refused
    rcases fault_or_readable document with
      ⟨other, fault⟩ | ⟨fields, all, rfl, container, readable⟩
    · obtain rfl := Except.error.inj ((ofDocument_of_fault fault).1.symm.trans refused)
      exact fault
    · obtain ⟨script, loaded, -⟩ := ofDocument_of_readable container readable
      cases loaded.symm.trans refused
  · intro fault
    exact (ofDocument_of_fault fault).1

theorem ofDocument_loads_iff {document : Json} :
    (∃ script, (ofDocument document).result = .ok script) ↔
      ∃ (fields : Json.Fields) (all : List Json), document = .object fields ∧
        fields.get? "scr" = some (.array all) ∧ ∀ entry ∈ all, Readable entry := by
  constructor
  · rintro ⟨script, loaded⟩
    rcases fault_or_readable document with ⟨error, fault⟩ | loads
    · cases (ofDocument_of_fault fault).1.symm.trans loaded
    · exact loads
  · rintro ⟨fields, all, rfl, container, readable⟩
    obtain ⟨script, loaded, -⟩ := ofDocument_of_readable container readable
    exact ⟨script, loaded⟩

theorem ofDocument_reads {document : Json} {script : Script}
    (loaded : (ofDocument document).result = .ok script) :
    ReadsAll 0 (entries document) script.commands := by
  obtain ⟨fields, all, rfl, container, readable⟩ := ofDocument_loads_iff.mp ⟨script, loaded⟩
  obtain ⟨other, otherLoaded, reads, -⟩ := ofDocument_of_readable container readable
  obtain rfl := Except.ok.inj (otherLoaded.symm.trans loaded)
  rwa [(ofDocument_of_container container).2]

theorem ofDocument_log (document : Json) :
    (ofDocument document).log = entriesLog 0 ((entries document).takeWhile (Readable ·)) := by
  rcases fault_or_readable document with
    ⟨error, fault⟩ | ⟨fields, all, rfl, container, readable⟩
  · exact (ofDocument_of_fault fault).2
  · obtain ⟨script, -, -, log⟩ := ofDocument_of_readable container readable
    exact log

/-- Loading is all or nothing, and the first fault is reported. A document is refused for exactly
    what is wrong with it, and is a script exactly if its container is an array of readable
    entries. A script has a command for each entry, which is what the entry says at its place. What
    is said on the way is about the entries before the first that cannot be read: once for each
    that fills both opcode slots, in order. -/
theorem ofDocument_exact (document : Json) :
    let loading := ofDocument document
    (∀ error, loading.result = .error error ↔ Fault document error) ∧
      ((∃ script, loading.result = .ok script) ↔
        ∃ (fields : Json.Fields) (all : List Json), document = .object fields ∧
          fields.get? "scr" = some (.array all) ∧ ∀ entry ∈ all, Readable entry) ∧
      (∀ script, loading.result = .ok script →
        script.commands.length = (entries document).length ∧
          ∀ (index : Nat) (entry : Json), (entries document)[index]? = some entry →
            ∃ command, script.commands[index]? = some command ∧
              Command.ofJson index entry = .ok command ∧ Reads index entry command) ∧
      loading.log = ((entries document).takeWhile (Readable ·)).zipIdx.flatMap
        fun (entry, index) => slotsLog index entry := by
  intro loading
  refine ⟨fun _ => ofDocument_eq_error_iff, ofDocument_loads_iff, ?_, ofDocument_log document⟩
  intro script loaded
  obtain ⟨length, reads⟩ := ofDocument_reads loaded
  refine ⟨length, fun index entry there => ?_⟩
  obtain ⟨command, found, read⟩ := reads index entry there
  rw [Nat.zero_add] at read
  exact ⟨command, found, read, Command.ofJson_eq_ok_iff.mp read⟩

/-- The first key counts, though its value is no text and that of the other is. -/
example :
    (ofDocument (.object
      [("scr", .array [.object [("cmd0", .null), ("cmd1", .string "bgm")]])])).result =
      .error (.opcodeNotString 0 .primary) := rfl

end Script
end Scenario
