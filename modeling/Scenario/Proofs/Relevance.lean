import Mathlib.Tactic.IntervalCases
import Scenario.Assets
import Scenario.Lines
import Scenario.Proofs.Accounting
import Scenario.Proofs.Loading
import Scenario.Proofs.Totals

/-! # Fields that matter

Of an entry only its opcode and its ten arguments matter. Two documents whose
entries agree on these make the same run, whatever else they hold: a command
keeps its other fields, but nothing looks at them.
-/

namespace Scenario

/-- The objects make the same command: they agree on the first opcode key that is there and on the
    arguments. -/
structure Json.Fields.Agree (fields others : Json.Fields) : Prop where
  primary : fields.get? "cmd0" = others.get? "cmd0"
  secondary : fields.get? "cmd0" = none → fields.get? "cmd1" = others.get? "cmd1"
  args : ∀ position < 10,
    fields.get? ("arg" ++ toString position) = others.get? ("arg" ++ toString position)

/-- Neither entry is an object, or both are and agree. -/
inductive Json.Agree : Json → Json → Prop where
  | neither {entry other : Json} : entry.fields? = none → other.fields? = none → Agree entry other
  | both {fields others : Json.Fields} :
      fields.Agree others → Agree (.object fields) (.object others)

namespace Command

/-- The command without the object that it was read from. -/
def bare (command : Command) : Command :=
  { command with raw := [] }

end Command

theorem Discovery.classify_bare (discovery : Discovery) (command : Command) :
    discovery.classify command.bare = discovery.classify command := rfl

theorem Json.Fields.Agree.opcodeField? {fields others : Json.Fields} (agree : fields.Agree others) :
    Command.opcodeField? fields = Command.opcodeField? others := by
  rw [Command.opcodeField?_eq, Command.opcodeField?_eq, ← agree.primary]
  cases first : fields.get? "cmd0" with
  | some value => rfl
  | none => rw [← agree.secondary first]

namespace Command

theorem ofFields_bare (index : Nat) {fields others : Json.Fields} (agree : fields.Agree others) :
    (ofFields index fields).map bare = (ofFields index others).map bare := by
  have args : (fun position : Fin slotCount => fields.get? (argKey position)) =
      fun position : Fin slotCount => others.get? (argKey position) := by
    funext position
    exact agree.args position position.isLt
  unfold ofFields
  rw [← agree.opcodeField?, args]
  split <;> rfl

theorem ofJson_bare (index : Nat) {entry other : Json} (agree : entry.Agree other) :
    (ofJson index entry).map bare = (ofJson index other).map bare := by
  cases agree with
  | neither notObject otherNotObject =>
      have refused {entry : Json} (notObject : entry.fields? = none) :
          ofJson index entry = .error (.commandNotObject index) := by
        cases entry with
        | object fields => cases notObject
        | null | bool | number | string | array => rfl
      rw [refused notObject, refused otherNotObject]
  | both agree => exact ofFields_bare index agree

end Command

/-- The event of the command without the object that it was read from. -/
def Event.bare (event : Event) : Event :=
  ⟨event.command.bare, event.outcome⟩

/-- The call about the command without the object that it was read from. -/
def Callback.bare : Callback → Callback
  | .operation command bound => .operation command.bare bound
  | .dialogue command line => .dialogue command.bare line
  | .discovered command report => .discovered command.bare report
  | .failed command error => .failed command.bare error
  | .unhandled command => .unhandled command.bare

namespace Event

theorem callback_bare (event : Event) : event.bare.callback = event.callback.bare := by
  obtain ⟨command, outcome⟩ := event
  rcases outcome with error | (line | ⟨operation, fallbacks⟩ | report | -) <;> rfl

theorem log_bare (event : Event) : event.bare.log = event.log := rfl

theorem ofEvents_bare (events : List Event) :
    Summary.ofEvents (events.map bare) = .ofEvents events := by
  induction events with
  | nil => rfl
  | cons event rest ih =>
      have first : Summary.ofEvent event.bare = .ofEvent event := rfl
      rw [List.map_cons, Summary.ofEvents, Summary.ofEvents, first, ih]

end Event

theorem Discovery.trace_bare (discovery : Discovery) (commands : List Command) :
    discovery.trace (commands.map Command.bare) = (discovery.trace commands).map Event.bare := by
  induction commands generalizing discovery with
  | nil => rfl
  | cons command rest ih =>
      rw [List.map_cons, trace_cons, trace_cons, classify_bare, ih, List.map_cons]
      rfl

/-- The handler does not look at the object that a command was read from. -/
def Handler.Blind {σ : Type} (handler : Handler σ) : Prop :=
  ∀ state call, handler.answer state call.bare = handler.answer state call

theorem Handler.Blind.foldl {σ : Type} {handler : Handler σ} (blind : handler.Blind) (state : σ)
    (calls : List Callback) :
    (calls.map Callback.bare).foldl handler.answer state = calls.foldl handler.answer state := by
  induction calls generalizing state with
  | nil => rfl
  | cons call rest ih => rw [List.map_cons, List.foldl_cons, List.foldl_cons, blind, ih]

theorem NameTable.extractor_blind (table : NameTable) : table.extractor.Blind := by
  intro rows call
  cases call <;> rfl

theorem Catalog.collector_blind : collector.Blind := by
  intro catalog call
  cases call <;> rfl

namespace Script

section

variable {script other : Script}
  (same : script.commands.map Command.bare = other.commands.map Command.bare)

include same

theorem events_of_bare : script.run.events.map Event.bare = other.run.events.map Event.bare := by
  rw [run_events, run_events, ← Discovery.trace_bare, same, Discovery.trace_bare]

theorem told_of_bare :
    (script.runFor .recorder []).state.map Callback.bare =
      (other.runFor .recorder []).state.map Callback.bare := by
  have bare (script : Script) : (script.runFor .recorder []).state.map Callback.bare =
      (script.run.events.map Event.bare).map Event.callback := by
    rw [recorder_told, List.map_map, List.map_map]
    exact List.map_congr_left fun event _ => event.callback_bare.symm
  rw [bare, bare, events_of_bare same]

theorem summary_of_bare : script.run.summary = other.run.summary := by
  have bare (script : Script) :
      script.run.summary = .ofEvents (script.run.events.map Event.bare) := by
    rw [Event.ofEvents_bare, run_events]
    exact Run.start_feed_summary script.commands
  rw [bare, bare, events_of_bare same]

theorem log_of_bare : script.run.log = other.run.log := by
  have bare (script : Script) : script.run.events.flatMap Event.log =
      (script.run.events.map Event.bare).flatMap Event.log := by
    rw [List.flatMap_map]
    exact List.flatMap_congr fun event _ => event.log_bare.symm
  rw [Run.log, Run.log, bare, bare, events_of_bare same, summary_of_bare same]

theorem state_of_bare {σ : Type} {handler : Handler σ} (blind : handler.Blind) (start : σ) :
    (script.runFor handler start).state = (other.runFor handler start).state := by
  have bare (script : Script) : (script.runFor handler start).state =
      ((script.runFor .recorder []).state.map Callback.bare).foldl handler.answer start := by
    rw [runFor_state, recorder_told, blind.foldl]
  rw [bare, bare, told_of_bare same]

end

theorem readEntries_cons_bare (index : Nat) (entry : Json) (rest : List Json) :
    (readEntries index (entry :: rest)).2.map (List.map Command.bare) =
      ((Command.ofJson index entry).map Command.bare).bind fun command =>
        ((readEntries (index + 1) rest).2.map (List.map Command.bare)).map (command :: ·) := by
  rw [readEntries]
  cases Command.ofJson index entry with
  | error fault => rfl
  | ok command =>
      cases later : (readEntries (index + 1) rest).2 <;>
        simp only [later, Except.map, Except.bind, List.map_cons]

theorem readEntries_bare {entries others : List Json}
    (agree : List.Forall₂ Json.Agree entries others) (index : Nat) :
    (readEntries index entries).2.map (List.map Command.bare) =
      (readEntries index others).2.map (List.map Command.bare) := by
  induction agree generalizing index with
  | nil => rfl
  | cons first later ih =>
      rw [readEntries_cons_bare, readEntries_cons_bare, Command.ofJson_bare index first, ih]

/-- All that is ever said on loading is about entries that fill both opcode slots. -/
theorem ofDocument_log_slots {document : Json} {said : LogEntry}
    (logged : said ∈ (ofDocument document).log) :
    ∃ index : Nat, said = .debug s!"command #{index} populates both opcode slots; using cmd0" := by
  rw [ofDocument_log] at logged
  obtain ⟨⟨entry, index⟩, -, logged⟩ := List.mem_flatMap.mp logged
  refine ⟨index, ?_⟩
  simp only [Command.slotsLog] at logged
  split at logged
  · split at logged
    · exact List.mem_singleton.mp logged
    · cases logged
  · cases logged

/-- Documents whose entries agree are refused for the same reason, or both load. -/
theorem ofDocument_of_agree {fields others : Json.Fields} {entries otherEntries : List Json}
    (container : fields.get? "scr" = some (.array entries))
    (otherContainer : others.get? "scr" = some (.array otherEntries))
    (agree : List.Forall₂ Json.Agree entries otherEntries) :
    (∃ error, (ofDocument (.object fields)).result = .error error ∧
        (ofDocument (.object others)).result = .error error) ∨
      ∃ script other, (ofDocument (.object fields)).result = .ok script ∧
        (ofDocument (.object others)).result = .ok other ∧
        script.commands.map Command.bare = other.commands.map Command.bare := by
  have read {fields : Json.Fields} {entries : List Json}
      (container : fields.get? "scr" = some (.array entries)) :
      (ofDocument (.object fields)).result.map (·.commands.map Command.bare) =
        (readEntries 0 entries).2.map (List.map Command.bare) := by
    rw [(ofDocument_of_container container).1, ← (ofEntries_eq entries).2]
    cases (ofEntries entries).result <;> rfl
  have same := (read container).trans
    ((readEntries_bare agree 0).trans (read otherContainer).symm)
  cases loaded : (ofDocument (.object fields)).result with
  | error error =>
      cases otherLoaded : (ofDocument (.object others)).result with
      | error otherError =>
          rw [loaded, otherLoaded] at same
          cases same
          exact .inl ⟨error, rfl, rfl⟩
      | ok other =>
          rw [loaded, otherLoaded] at same
          cases same
  | ok script =>
      cases otherLoaded : (ofDocument (.object others)).result with
      | error otherError =>
          rw [loaded, otherLoaded] at same
          cases same
      | ok other =>
          rw [loaded, otherLoaded] at same
          exact .inr ⟨script, other, rfl, rfl, Except.ok.inj same⟩

/-- Only twelve fields of an entry matter. Documents whose entries agree on these are refused for
    the same reason, or both load, with the same commands but for the objects that they were read
    from. Then the runs tell handlers the same, and count and log the same, and every handler that
    does not look at those objects ends in the same state: the spoken lines are the same, and the
    assets. What is said on loading is about entries that fill both opcode slots, and else nothing
    is. -/
theorem run_of_agree {fields others : Json.Fields} {entries otherEntries : List Json}
    (container : fields.get? "scr" = some (.array entries))
    (otherContainer : others.get? "scr" = some (.array otherEntries))
    (agree : List.Forall₂ Json.Agree entries otherEntries) :
    let loading := ofDocument (.object fields)
    let otherLoading := ofDocument (.object others)
    (∀ said ∈ loading.log ++ otherLoading.log, ∃ index : Nat,
        said = .debug s!"command #{index} populates both opcode slots; using cmd0") ∧
      ((∃ error, loading.result = .error error ∧ otherLoading.result = .error error) ∨
        ∃ script other, loading.result = .ok script ∧ otherLoading.result = .ok other ∧
          script.commands.map Command.bare = other.commands.map Command.bare ∧
          (script.runFor .recorder []).state.map Callback.bare =
            (other.runFor .recorder []).state.map Callback.bare ∧
          (∀ {σ τ : Type} (handler : Handler σ) (start : σ) (second : Handler τ) (secondStart : τ),
            (script.runFor handler start).summary = (other.runFor second secondStart).summary ∧
              (script.runFor handler start).log = (other.runFor second secondStart).log) ∧
          (∀ {σ : Type} (handler : Handler σ) (start : σ), handler.Blind →
            (script.runFor handler start).state = (other.runFor handler start).state) ∧
          (∀ table : NameTable, (script.runFor table.extractor []).state =
            (other.runFor table.extractor []).state) ∧
          (script.runFor Catalog.collector .empty).state =
            (other.runFor Catalog.collector .empty).state) := by
  intro loading otherLoading
  constructor
  · intro said logged
    exact (List.mem_append.mp logged).elim ofDocument_log_slots ofDocument_log_slots
  · rcases ofDocument_of_agree container otherContainer agree with
      refused | ⟨script, other, loaded, otherLoaded, same⟩
    · exact .inl refused
    · refine .inr ⟨script, other, loaded, otherLoaded, same, told_of_bare same, ?_, ?_, ?_, ?_⟩
      · intro σ τ handler start second secondStart
        rw [runFor_eq, runFor_eq]
        exact ⟨summary_of_bare same, log_of_bare same⟩
      · intro σ handler start blind
        exact state_of_bare same blind start
      · intro table
        exact state_of_bare same table.extractor_blind []
      · exact state_of_bare same Catalog.collector_blind .empty

theorem run_of_agreeing_theme :
    let theme := [("arg0", .string "theme"), ("arg10", .null), ("cmd0", .string "bgm"),
      ("cmd1", .string "wait")]
    let otherTheme := [("arg0", .string "theme"), ("arg01", .null), ("cmd0", .string "bgm")]
    let speech := [("arg1", .string "hello"), ("cmd1", .string "hero：")]
    let otherSpeech := ("about", .null) :: speech
    let fields := [("scr", Json.array [.object theme, .object speech]), ("title", .null)]
    let others := [("scr", Json.array [.object otherTheme, .object otherSpeech])]
    List.Forall₂ Json.Agree [.object theme, .object speech]
        [.object otherTheme, .object otherSpeech] ∧
      (ofDocument (.object fields)).log =
        [.debug "command #0 populates both opcode slots; using cmd0"] ∧
      (ofDocument (.object others)).log = [] ∧
      ∃ script other, (ofDocument (.object fields)).result = .ok script ∧
        (ofDocument (.object others)).result = .ok other ∧
        (script.runFor Catalog.collector .empty).state =
          (other.runFor Catalog.collector .empty).state ∧
        (script.runFor NameTable.standard.extractor []).state =
          (other.runFor NameTable.standard.extractor []).state := by
  intro theme otherTheme speech otherSpeech fields others
  have agree : List.Forall₂ Json.Agree [.object theme, .object speech]
      [.object otherTheme, .object otherSpeech] := by
    refine .cons (.both ⟨rfl, fun absent => ?_, ?_⟩) (.cons (.both ⟨rfl, fun _ => rfl, ?_⟩) .nil)
    · cases absent
    · intro position below
      interval_cases position <;> rfl
    · intro position below
      interval_cases position <;> rfl
  refine ⟨agree, by decide +kernel, rfl, ?_⟩
  have container : Json.Fields.get? fields "scr" =
      some (.array [.object theme, .object speech]) := rfl
  have otherContainer : Json.Fields.get? others "scr" =
      some (.array [.object otherTheme, .object otherSpeech]) := rfl
  obtain ⟨script, loaded⟩ : ∃ script, (ofDocument (.object fields)).result = .ok script := ⟨_, rfl⟩
  rcases (run_of_agree container otherContainer agree).2 with
    ⟨error, refused, -⟩ | ⟨script, other, loaded, otherLoaded, -, -, -, -, rows, catalog⟩
  · cases loaded.symm.trans refused
  · exact ⟨script, other, loaded, otherLoaded, catalog, rows .standard⟩

end Script
end Scenario
