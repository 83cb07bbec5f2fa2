import Mathlib.Data.List.Perm.Basic
import Scenario.Proofs.Catalogs
import Scenario.Proofs.Loading
import Scenario.Proofs.Logging
import Scenario.Proofs.Sightings

/-! # The order of commands

In what order commands come decides which of them is the first sighting of a
name, and at what place a command is told of and reported. How many there are of
each kind, what is said and which assets are named, goes by the commands alone.
-/

namespace Scenario

namespace Command

/-- The command as if it stood at the beginning. -/
def unplaced (command : Command) : Command :=
  { command with index := 0 }

theorem settled?_unplaced (command : Command) : command.unplaced.settled? = command.settled? := rfl

theorem ofJson_unplaced {index : Nat} {entry : Json} {command : Command}
    (read : ofJson index entry = .ok command) : ofJson 0 entry = .ok command.unplaced :=
  ofJson_placed 0 read

theorem names_unplaced {command : Command} {kind : AssetKind} {name : String} :
    command.unplaced.Names kind name ↔ command.Names kind name := by
  simp only [Names, Discovery.classify_operation_iff, settled?_unplaced]

end Command

theorem Script.ReadsAll.unplaced {index : Nat} {entries : List Json} {commands : List Command}
    (reads : ReadsAll index entries commands) :
    (commands.map Command.unplaced).map some =
      entries.map fun entry => (Command.ofJson 0 entry).toOption := by
  apply List.ext_getElem?
  intro place
  rw [List.map_map, List.getElem?_map, List.getElem?_map]
  cases there : entries[place]? with
  | none =>
      have outside : commands[place]? = none := by
        rw [List.getElem?_eq_none_iff] at there ⊢
        rw [reads.1]
        exact there
      rw [outside]
      rfl
  | some entry =>
      obtain ⟨command, found, read⟩ := reads.2 place entry there
      rw [found, Option.map_some, Option.map_some, Command.ofJson_unplaced read]
      rfl

/-- What is seen of an event does not depend on where its command stands, nor on whether it is the
    first sighting of its name or repeats one. -/
structure Event.Orderless {α : Type} (view : Event → α) : Prop where
  blind : ∀ command report,
    view ⟨command, .ok (.discovered report)⟩ = view ⟨command, .ok .repeated⟩
  placeless : ∀ command outcome, view ⟨command.unplaced, outcome⟩ = view ⟨command, outcome⟩

section

variable {commands others : List Command}
  (perm : (commands.map Command.unplaced).Perm (others.map Command.unplaced))

include perm

namespace Discovery

theorem trace_map_perm {α : Type} {view : Event → α} (orderless : Event.Orderless view) :
    ((empty.trace commands).map view).Perm ((empty.trace others).map view) := by
  have alone (commands : List Command) : (empty.trace commands).map view =
      (commands.map Command.unplaced).map fun command => view command.knownEvent := by
    rw [trace_map_of_blind orderless.blind, List.map_map]
    exact List.map_congr_left fun command _ => (orderless.placeless command _).symm
  rw [alone, alone]
  exact perm.map _

theorem trace_lines_perm :
    ((empty.trace commands).filterMap Event.line?).Perm
      ((empty.trace others).filterMap Event.line?) := by
  have orderless : Event.Orderless Event.line? := ⟨fun _ _ => rfl, fun _ _ => rfl⟩
  have lines := (trace_map_perm perm orderless).filterMap id
  rwa [List.filterMap_map, List.filterMap_map] at lines

/-- The names that are reported are those of the commands that reach discovery, each once. -/
theorem names_perm :
    ((empty.after commands).reports.map Report.opcode).Perm
      ((empty.after others).reports.map Report.opcode) := by
  have reported (commands : List Command) (name : String) :
      name ∈ (empty.after commands).reports.map Report.opcode ↔
        ∃ command ∈ commands.map Command.unplaced,
          command.ReachesDiscovery ∧ command.opcode = name := by
    rw [← (consistent_after commands).agree, mem_seen_after]
    simp only [empty, List.not_mem_nil, false_or, List.mem_map, exists_exists_and_eq_and]
    rfl
  apply (List.perm_ext_iff_of_nodup (consistent_after commands).nodup
    (consistent_after others).nodup).mpr
  intro name
  simp only [reported, perm.mem_iff]

end Discovery

namespace Run

theorem events_countP_perm {view : Event → Bool} (orderless : Event.Orderless view) :
    (start.feed commands).events.countP view = (start.feed others).events.countP view := by
  have counted := (Discovery.trace_map_perm perm orderless).countP_eq id
  rwa [List.countP_map, List.countP_map, ← start_feed_events, ← start_feed_events] at counted

theorem summary_perm :
    let summary := (start.feed commands).summary
    let other := (start.feed others).summary
    (summary.commands = other.commands ∧ summary.dialogue = other.dialogue ∧
        summary.operations = other.operations ∧ summary.defaults = other.defaults) ∧
      summary.discovered.length = other.discovered.length ∧
      summary.fallbacks.length = other.fallbacks.length ∧
      summary.failures.length = other.failures.length := by
  intro summary other
  have taken : summary.commands = other.commands := by
    have length := perm.length_eq
    rw [List.length_map, List.length_map] at length
    simp only [summary, other, Run.summary, start_feed_events, Discovery.trace_length, length]
  have dialogue : summary.dialogue = other.dialogue :=
    events_countP_perm perm ⟨fun _ _ => rfl, fun _ _ => rfl⟩
  have operations : summary.operations = other.operations :=
    events_countP_perm perm ⟨fun _ _ => rfl, fun _ _ => rfl⟩
  have failures : summary.failures.length = other.failures.length := by
    simp only [summary, other, Run.summary, List.length_filterMap_eq_countP]
    refine events_countP_perm perm ⟨fun _ _ => rfl, fun command outcome => ?_⟩
    cases outcome <;> rfl
  have fallbacks : summary.fallbacks.length = other.fallbacks.length := by
    have orderless : Event.Orderless (·.fallbacks.length) := ⟨fun _ _ => rfl, fun _ _ => rfl⟩
    simp only [summary, other, Run.summary, start_feed_events, List.length_flatMap,
      List.length_map]
    exact (Discovery.trace_map_perm perm orderless).sum_nat
  have discovered : summary.discovered.length = other.discovered.length := by
    have names := (Discovery.names_perm perm).length_eq
    rwa [List.length_map, List.length_map, ← start_feed_discovery, ← start_feed_discovery] at names
  have accounted := summary_accounts commands
  have otherAccounted := summary_accounts others
  have defaults : summary.defaults = other.defaults := by
    simp only [summary, other, Run.summary] at *
    omega
  exact ⟨⟨taken, dialogue, operations, defaults⟩, discovered, fallbacks, failures⟩

end Run

theorem Catalog.collected_perm : collected commands = collected others := by
  have names (commands : List Command) (kind : AssetKind) (name : String) :
      (∃ command ∈ commands, command.Names kind name) ↔
        ∃ command ∈ commands.map Command.unplaced, command.Names kind name := by
    simp only [List.mem_map, exists_exists_and_eq_and, Command.names_unplaced]
  refine (collected_holds commands).congr (fun kind name => ?_) |>.eq (collected_holds others)
  rw [names commands, names others]
  simp only [perm.mem_iff]

end

/-- The line that a call is about. -/
def Callback.line? : Callback → Option Line
  | .dialogue _ line => some line
  | .operation _ _ | .discovered _ _ | .failed _ _ | .unhandled _ => none

theorem Event.line?_callback (event : Event) : event.callback.line? = event.line? := by
  obtain ⟨command, outcome⟩ := event
  rcases outcome with error | (line | ⟨operation, fallbacks⟩ | report | -) <;> rfl

namespace Script

theorem told_lines (script : Script) :
    (script.runFor .recorder []).state.filterMap Callback.line? =
      (Discovery.empty.trace script.commands).filterMap Event.line? := by
  rw [recorder_told, List.filterMap_map, run_events]
  exact List.filterMap_congr fun event _ => event.line?_callback

/-- A document with the entries of one that loads, in whatever order, loads too. -/
theorem ofDocument_perm {document : Json} {script : Script} {fields : Json.Fields}
    {shuffled : List Json} (loaded : (ofDocument document).result = .ok script)
    (container : fields.get? "scr" = some (.array shuffled))
    (perm : shuffled.Perm (entries document)) :
    ∃ other, (ofDocument (.object fields)).result = .ok other ∧
      (other.commands.map Command.unplaced).Perm (script.commands.map Command.unplaced) := by
  obtain ⟨own, all, rfl, ownContainer, readable⟩ := ofDocument_loads_iff.mp ⟨script, loaded⟩
  have reads := ofDocument_reads loaded
  rw [(ofDocument_of_container ownContainer).2] at perm reads
  obtain ⟨other, otherLoaded, otherReads, -⟩ := ofDocument_of_readable container
    fun entry member => readable entry (perm.mem_iff.mp member)
  refine ⟨other, otherLoaded, ?_⟩
  -- read as if they all stood at the beginning, the commands are a map of the entries
  apply (List.map_perm_map_iff (Option.some_injective Command)).mp
  rw [reads.unplaced, otherReads.unplaced]
  exact perm.map _

/-- Statistics do not depend on the order of entries. A document with the entries of one that loads,
    in any order, loads too. The two scripts have the same counts, as many reports, values kept and
    failures, report the same names, speak the same lines as often, and name the same assets. -/
theorem run_of_perm {document : Json} {script : Script} {fields : Json.Fields}
    {shuffled : List Json} (loaded : (ofDocument document).result = .ok script)
    (container : fields.get? "scr" = some (.array shuffled))
    (perm : shuffled.Perm (entries document)) :
    ∃ other, (ofDocument (.object fields)).result = .ok other ∧
      (∀ {σ τ : Type} (handler : Handler σ) (start : σ) (second : Handler τ) (secondStart : τ),
        let summary := (script.runFor handler start).summary
        let reordered := (other.runFor second secondStart).summary
        (reordered.commands = summary.commands ∧ reordered.dialogue = summary.dialogue ∧
            reordered.operations = summary.operations ∧
            reordered.defaults = summary.defaults) ∧
          (reordered.discovered.length = summary.discovered.length ∧
            reordered.fallbacks.length = summary.fallbacks.length ∧
            reordered.failures.length = summary.failures.length) ∧
          ∀ name, name ∈ reordered.discovered.map Report.opcode ↔
            name ∈ summary.discovered.map Report.opcode) ∧
      ((other.runFor .recorder []).state.filterMap Callback.line?).Perm
        ((script.runFor .recorder []).state.filterMap Callback.line?) ∧
      (other.runFor Catalog.collector .empty).state =
        (script.runFor Catalog.collector .empty).state := by
  obtain ⟨other, otherLoaded, same⟩ := ofDocument_perm loaded container perm
  refine ⟨other, otherLoaded, ?_, ?_, Catalog.collected_perm same⟩
  · intro σ τ handler start second secondStart
    rw [runFor_eq, runFor_eq]
    obtain ⟨counts, lengths⟩ := Run.summary_perm same
    refine ⟨counts, lengths, fun name => ?_⟩
    simp only [Run.summary, run_discovery]
    exact (Discovery.names_perm same).mem_iff
  · rw [told_lines, told_lines]
    exact Discovery.trace_lines_perm same

theorem run_of_reversed :
    let sighting := Json.object [("arg0", .null), ("cmd0", .string "glow")]
    let speech := Json.object [("arg1", .string "hello"), ("cmd0", .string "glow")]
    let repeated := Json.object [("cmd0", .string "glow")]
    let document := Json.object [("scr", .array [sighting, speech, repeated])]
    let fields : Json.Fields := [("scr", .array [repeated, speech, sighting])]
    ∃ script other, (ofDocument document).result = .ok script ∧
      (ofDocument (.object fields)).result = .ok other ∧
      [repeated, speech, sighting].Perm (entries document) ∧
      (other.runFor {} ()).summary.defaults = (script.runFor {} ()).summary.defaults ∧
      (other.runFor {} ()).summary.discovered.length =
        (script.runFor {} ()).summary.discovered.length := by
  intro sighting speech repeated document fields
  have container : fields.get? "scr" = some (.array [repeated, speech, sighting]) := rfl
  have perm : [repeated, speech, sighting].Perm (entries document) :=
    List.reverse_perm [sighting, speech, repeated]
  obtain ⟨script, loaded⟩ : ∃ script, (ofDocument document).result = .ok script := ⟨_, rfl⟩
  obtain ⟨other, otherLoaded, same, -⟩ := run_of_perm loaded container perm
  obtain ⟨⟨-, -, -, defaults⟩, ⟨discovered, -⟩, -⟩ := same {} () {} ()
  exact ⟨script, other, loaded, otherLoaded, perm, defaults, discovered⟩

end Script

end Scenario
