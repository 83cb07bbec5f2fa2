import Scenario.Proofs.Trace
import Scenario.Proofs.Verdicts

/-! # Strict checking

A strict batch does what a lenient one does, less the scripts with commands that
failed. What it says of such a script is how many commands failed, and why the
first of them did.
-/

namespace Scenario

namespace Event

theorem Routed.error_iff {event : Event} (routed : event.Routed) {state : Discovery}
    {error : DispatchError} :
    event.outcome = .error error ↔ (state.classify event.command).1 = .error error := by
  obtain ⟨own, became⟩ := routed
  rw [became, Discovery.classify_error_iff, Discovery.classify_error_iff]

theorem failure?_of_error {event : Event} {error : DispatchError}
    (failed : event.outcome = .error error) :
    event.failure? = some ⟨event.index, event.command.opcode, error⟩ := by
  simp only [failure?, failed]

theorem error_of_failure? {event : Event} {failure : CommandFailure}
    (failed : event.failure? = some failure) :
    event.outcome = .error failure.error ∧
      failure = ⟨event.index, event.command.opcode, failure.error⟩ := by
  cases outcome : event.outcome with
  | ok => simp [failure?, outcome] at failed
  | error error =>
      rw [failure?_of_error outcome] at failed
      cases failed
      exact ⟨rfl, rfl⟩

end Event

namespace Script

theorem index_eq_length {script : Script} {before later : List Command} {command : Command}
    (split : script.commands = before ++ command :: later) : command.index = before.length := by
  have place : (script.commands.map Command.index)[before.length]? = some command.index := by
    simp [split]
  rw [script.numbered, List.getElem?_range (by simp [split])] at place
  exact (Option.some.inj place).symm

/-- The first failure of a run is that of the first command that fails, at its place. -/
theorem run_first_failure {script : Script} {first : CommandFailure} {rest : List CommandFailure}
    (failures : script.run.summary.failures = first :: rest) :
    ∃ before command later, script.commands = before ++ command :: later ∧
      (∀ earlier ∈ before, ∀ error, (Discovery.empty.classify earlier).1 ≠ .error error) ∧
      (Discovery.empty.classify command).1 = .error first.error ∧
      first = ⟨before.length, command.opcode, first.error⟩ := by
  obtain ⟨before, event, later, split, passed, failed, -⟩ :=
    List.filterMap_eq_cons_iff.mp
      (show script.run.events.filterMap Event.failure? = first :: rest from failures)
  have commands : script.commands =
      before.map Event.command ++ event.command :: later.map Event.command := by
    rw [← Discovery.empty.trace_commands script.commands, ← run_events, split, List.map_append,
      List.map_cons]
  have routed := script.run_routed
  rw [split, List.forall_mem_append, List.forall_mem_cons] at routed
  obtain ⟨outcome, isFirst⟩ := Event.error_of_failure? failed
  refine ⟨_, _, _, commands, ?_, routed.2.1.error_iff.mp outcome, ?_⟩
  · intro command earlier error fails
    obtain ⟨event, member, rfl⟩ := List.mem_map.mp earlier
    have own := (routed.1 event member).error_iff.mpr fails
    cases (Event.failure?_of_error own).symm.trans (passed event member)
  · rw [← index_eq_length commands]
    exact isFirst

end Script

namespace Reader

variable {α : Type} {read : Reader} {answer : Path → Script → Except String (Summary × α)}
  {path : Path}

theorem unclean?_eq_some_iff {failure : ScriptFailure} :
    read.unclean? answer path = some failure ↔
      ∃ script summary output first rest, read.script? path = some script ∧
        answer path script = .ok (summary, output) ∧ summary.failures = first :: rest ∧
        failure = .unclean summary.failures.length first := by
  constructor
  · intro unclean
    cases visit : read.visited answer path with
    | error failure => simp [unclean?, visit] at unclean
    | ok found =>
        rw [unclean?_of_visited visit, Summary.unclean?_eq_some_iff] at unclean
        obtain ⟨first, rest, failures, rfl⟩ := unclean
        obtain ⟨script, loaded, answered⟩ := visited_eq_ok_iff.mp visit
        exact ⟨script, found.1, found.2, first, rest, loaded, answered, failures, rfl⟩
  · rintro ⟨script, summary, output, first, rest, loaded, answered, failures⟩
    rw [unclean?_of_visited (visited_eq_ok_iff.mpr ⟨script, loaded, answered⟩)]
    exact Summary.unclean?_eq_some_iff.mpr ⟨first, rest, failures⟩

/-- Without strict checking, every output is handed on. -/
theorem handed?_lenient :
    read.handed? answer false path =
      (read.output? answer path).map fun output => (path, output) := by
  cases visit : read.visited answer path with
  | error failure => simp [handed?, failure?, refusal?, output?, visit]
  | ok found =>
      rw [handed?_of_visited visit, output?_of_visited visit]
      rfl

/-- What strict checking hands on is what is handed on anyway, if no command failed. -/
theorem handed?_strict :
    read.handed? answer true path =
      (read.handed? answer false path).filter fun (path, _) =>
        (read.unclean? answer path).isNone := by
  cases visit : read.visited answer path with
  | error failure => simp [handed?, failure?, refusal?, visit]
  | ok found =>
      rw [handed?_of_visited visit, handed?_of_visited visit, ← unclean?_of_visited visit]
      cases unclean : read.unclean? answer path <;> simp [Option.filter_some, unclean]

end Reader

namespace Client

variable {σ α : Type} {client : Client σ α} {answer : Path → Script → Except String (Summary × α)}

/-- Batches that go on, with all calls kept. -/
theorem Answers.recording_goesOn (answers : client.Answers answer) (read : Reader) (strict : Bool)
    (state : σ) (paths : List Path) :
    let batch := client.recording.batch read ⟨false, strict⟩ (state, []) paths
    batch.attempted = paths.length ∧
      batch.failures = paths.filterMap (fun path =>
        (read.failure? answer strict path).map fun failure => (path, failure)) ∧
      batch.state.2.filterMap Call.visited? = paths.filterMap (fun path =>
        (read.script? path).map fun script => (path, script)) ∧
      batch.state.2.filterMap Call.emitted? = paths.filterMap (read.handed? answer strict) := by
  intro batch
  obtain ⟨attempted, failures, emitted⟩ :=
    answers.recording.batch client.recording_keeps_emitted read ⟨false, strict⟩ (state, []) paths
  refine ⟨attempted, failures, ?_, ?_⟩
  · obtain ⟨turns, covers, kept, -⟩ := client.recording_batch read ⟨false, strict⟩ state [] paths
    simp only [batch, kept, List.nil_append]
    rw [covers.visited, covers.paths_of_goesOn rfl]
  · exact emitted.trans (foldl_keep [] _)

/-- Strict checking takes out the scripts with commands that failed, and nothing else, where visits
    go by the path and its script and every output is taken. The same paths are visited. The
    failures are those of the lenient batch and, in their places, the paths whose visit finds
    commands that failed; what is handed on is what the lenient batch hands on, without these paths.
    What is added says how many commands failed and what became of the first, and values that were
    kept make no path fail. The first failure of a run is that of the first command that fails. -/
theorem strict_removes_unclean (answers : client.Answers answer) (read : Reader) (state : σ)
    (paths : List Path) :
    let lenient := client.recording.batch read ⟨false, false⟩ (state, []) paths
    let strict := client.recording.batch read ⟨false, true⟩ (state, []) paths
    let refused := read.refusal? answer
    let unclean := read.unclean? answer
    (lenient.attempted = paths.length ∧ strict.attempted = lenient.attempted) ∧
      (lenient.state.2.filterMap Call.visited? = paths.filterMap (fun path =>
          (read.script? path).map fun script => (path, script)) ∧
        strict.state.2.filterMap Call.visited? = lenient.state.2.filterMap Call.visited?) ∧
      (lenient.failures = paths.filterMap (fun path =>
          (refused path).map fun failure => (path, failure)) ∧
        strict.failures = paths.filterMap (fun path =>
          ((refused path).or (unclean path)).map fun failure => (path, failure))) ∧
      (lenient.state.2.filterMap Call.emitted? = paths.filterMap (fun path =>
          (read.output? answer path).map fun output => (path, output)) ∧
        strict.state.2.filterMap Call.emitted? =
          (lenient.state.2.filterMap Call.emitted?).filter fun (path, _) =>
            (unclean path).isNone) ∧
      (∀ path, refused path = none ↔
        ∃ script found, read.script? path = some script ∧ answer path script = .ok found) ∧
      (∀ path failure, unclean path = some failure ↔ ∃ script summary output first rest,
        read.script? path = some script ∧ answer path script = .ok (summary, output) ∧
        summary.failures = first :: rest ∧
        failure = .unclean summary.failures.length first ∧
        failure.chain = [s!"{summary.failures.length} command(s) failed to bind",
          s!"command #{first.index} ({first.opcode}): " ++ first.error.message]) ∧
      (∀ path script summary output, read.script? path = some script →
        answer path script = .ok (summary, output) → summary.failures = [] →
        path ∉ strict.failures.map Prod.fst) ∧
      ∀ {τ : Type} (script : Script) (handler : Handler τ) (start : τ) first rest,
        (script.runFor handler start).summary.failures = first :: rest →
        ∃ before command later, script.commands = before ++ command :: later ∧
          (∀ earlier ∈ before, ∀ error, (Discovery.empty.classify earlier).1 ≠ .error error) ∧
          (Discovery.empty.classify command).1 = .error first.error ∧
          first = ⟨before.length, command.opcode, first.error⟩ := by
  intro lenient strict refused unclean
  obtain ⟨attempted, failures, visited, emitted⟩ :=
    answers.recording_goesOn read false state paths
  obtain ⟨strictAttempted, strictFailures, strictVisited, strictEmitted⟩ :=
    answers.recording_goesOn read true state paths
  refine ⟨⟨attempted, ?_⟩, ⟨visited, ?_⟩, ⟨?_, strictFailures⟩, ⟨?_, ?_⟩, ?_, ?_, ?_, ?_⟩
  · exact strictAttempted.trans attempted.symm
  · exact strictVisited.trans visited.symm
  · refine failures.trans (List.filterMap_congr fun path _ => ?_)
    simp [Reader.failure?, refused]
  · exact emitted.trans (List.filterMap_congr fun path _ => Reader.handed?_lenient)
  · rw [strictEmitted, emitted, List.filter_filterMap]
    exact List.filterMap_congr fun path _ => Reader.handed?_strict
  · intro path
    exact Reader.refusal?_eq_none_iff
  · intro path failure
    rw [Reader.unclean?_eq_some_iff]
    constructor
    · rintro ⟨script, summary, output, first, rest, loaded, answered, failing, rfl⟩
      exact ⟨script, summary, output, first, rest, loaded, answered, failing, rfl, rfl⟩
    · rintro ⟨script, summary, output, first, rest, loaded, answered, failing, isFirst, -⟩
      exact ⟨script, summary, output, first, rest, loaded, answered, failing, isFirst⟩
  · intro path script summary output loaded answered clean failed
    have visit := Reader.visited_eq_ok_iff.mpr ⟨script, loaded, answered⟩
    rw [strictFailures] at failed
    obtain ⟨⟨_, failure⟩, listed, rfl⟩ := List.mem_map.mp failed
    obtain ⟨path, -, fails⟩ := List.mem_filterMap.mp listed
    obtain ⟨failure, fails, ⟨⟩⟩ := Option.map_eq_some_iff.mp fails
    rw [Reader.failure?_of_visited visit] at fails
    simp [Summary.unclean?, clean] at fails
  · intro τ script handler start first rest failing
    rw [script.runFor_eq] at failing
    exact Script.run_first_failure failing

theorem strict_removes_overfull_wipein :
    let client := Tool.collecting {} () (·.summary.discovered) fun _ _ => []
    let file (commands : List Json) := (Json.object [("scr", .array commands)]).compact.toUTF8
    let overfull := Json.object [("cmd0", .string "wipein"), ("arg0", .string "1")]
    let read : Reader
      | "empty" => .ok (file [])
      | "overfull" => .ok (file [.object [("cmd0", .string "setup")], overfull])
      | _ => .error .missing
    let batch strict :=
      client.recording.batch read ⟨false, strict⟩ ([], []) ["absent", "overfull", "empty"]
    client.Answers (fun _ script => .ok (Tool.found {} () (·.summary.discovered) script)) ∧
      (batch false).failures.map Prod.fst = ["absent"] ∧
      (batch true).failures.map (fun (path, failure) => (path, failure.text)) =
        [("absent", "loading script absent: failed to read script absent: " ++
            "No such file or directory (os error 2)"),
          ("overfull", "1 command(s) failed to bind: command #1 (wipein): " ++
            "wipein takes at most 0 argument(s) but 1 were supplied")] ∧
      ((batch true).state.2.filterMap Call.emitted?).map Prod.fst = ["empty"] := by
  intro client file overfull read batch
  have answers : client.Answers _ :=
    Tool.visiting_answers {} () (·.summary.discovered) (fun _ _ => []) _
  obtain ⟨-, -, ⟨lenient, strict⟩, ⟨-, emitted⟩, -⟩ :=
    strict_removes_unclean answers read [] ["absent", "overfull", "empty"]
  refine ⟨answers, ?_, ?_, ?_⟩
  · rw [lenient]
    decide +kernel
  · rw [strict]
    decide +kernel
  · rw [emitted]
    decide +kernel

end Client
end Scenario
