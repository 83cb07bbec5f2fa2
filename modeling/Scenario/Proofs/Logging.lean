import Scenario.Proofs.Accounting

/-! # Logging

The log of a run and its summary tell the same story. The warnings are about
values kept and commands skipped, one for each that the summary lists and in the
same order; the rest of the log is about discoveries and the counts.
-/

namespace Scenario

namespace Command

/-- The values that the command's binding keeps as they are. A command that does not bind keeps
    none, whatever arguments of it did not convert. -/
def keptValues (command : Command) : List Fallback :=
  match Opcode.lookup? command.opcode with
  | none => []
  | some opcode =>
    match opcode.bind command.present with
    | .ok binding => binding.fallbacks
    | .error _ => []

theorem keptValues_of_bind {command : Command} {opcode : Opcode} {binding : Binding}
    (registered : Opcode.lookup? command.opcode = some opcode)
    (bound : opcode.bind command.present = .ok binding) :
    command.keptValues = binding.fallbacks := by
  simp [keptValues, registered, bound]

end Command

namespace Callback

/-- The warnings about a command, by how it was delivered. -/
def warnings : Callback → List LogEntry
  | .operation command _ => command.keptValues.map fun kept =>
    .warn <| s!"command #{command.index}: {kept.opcode.handler} parameter `{kept.param}` " ++
      s!"expects {kept.expected.name}, keeping raw value " ++ kept.value.compact
  | .failed command error =>
    [.warn <| s!"command #{command.index} ({command.opcode}) skipped: " ++ error.message]
  | _ => []

/-- The values kept of a command, with its place. -/
def kept : Callback → List (Nat × Fallback)
  | .operation command _ => command.keptValues.map fun kept => (command.index, kept)
  | _ => []

def failure? : Callback → Option CommandFailure
  | .failed command error => some ⟨command.index, command.opcode, error⟩
  | _ => none

theorem warnings_level {call : Callback} {entry : LogEntry} (warned : entry ∈ call.warnings) :
    entry.level = .warn := by
  cases call with
  | operation command operation =>
      obtain ⟨kept, -, rfl⟩ := List.mem_map.mp warned
      rfl
  | failed command error =>
      rw [List.mem_singleton.mp warned]
      rfl
  | dialogue | discovered | unhandled => cases warned

theorem warnings_length (calls : List Callback) :
    (calls.flatMap warnings).length =
      (calls.flatMap kept).length + (calls.filterMap failure?).length := by
  induction calls with
  | nil => rfl
  | cons call rest ih =>
      simp only [List.flatMap_cons, List.length_append, List.filterMap_cons, ih]
      cases call with
      | operation command operation =>
          simp only [warnings, kept, failure?, List.length_map]
          omega
      | failed command error =>
          simp only [warnings, kept, failure?, List.length_cons, List.length_nil]
          omega
      | dialogue | discovered | unhandled =>
          simp only [warnings, kept, failure?, List.length_nil]
          omega

end Callback

namespace Event

/-- What a run logs, keeps and lists of a command is settled by how it was delivered. -/
theorem Routed.log_eq {event : Event} (routed : event.Routed) :
    event.log = event.callback.warnings ++ (event.report?.map Report.logEntry).toList := by
  obtain ⟨command, outcome⟩ := event
  rcases outcome with error | (line | ⟨operation, fallbacks⟩ | report | -)
  · rfl
  · rfl
  · obtain ⟨-, opcode, binding, registered, bound, -, rfl⟩ :=
      Command.settled?_operation routed.settled_of_operation
    simp [log, callback, Callback.warnings, report?, Command.keptEntry,
      Command.keptValues_of_bind registered bound]
  · rfl
  · rfl

theorem Routed.kept_eq {event : Event} (routed : event.Routed) :
    (event.fallbacks.map fun kept => (event.index, kept)) = event.callback.kept := by
  obtain ⟨command, outcome⟩ := event
  rcases outcome with error | (line | ⟨operation, fallbacks⟩ | report | -)
  · rfl
  · rfl
  · obtain ⟨-, opcode, binding, registered, bound, -, rfl⟩ :=
      Command.settled?_operation routed.settled_of_operation
    simp [fallbacks, callback, Callback.kept, index, Command.keptValues_of_bind registered bound]
  · rfl
  · rfl

theorem failure?_callback (event : Event) : event.callback.failure? = event.failure? := by
  obtain ⟨command, outcome⟩ := event
  rcases outcome with error | (line | ⟨operation, fallbacks⟩ | report | -) <;> rfl

end Event

namespace Script

theorem run_log_warnings (script : Script) :
    script.run.log.filter (·.level = .warn) =
      (script.run.events.map Event.callback).flatMap Callback.warnings := by
  rw [Run.log, List.filter_append, List.filter_flatMap, List.flatMap_map]
  have last : [script.run.summary.logEntry].filter (·.level = .warn) = [] := rfl
  rw [last, List.append_nil]
  refine List.flatMap_congr fun event member => ?_
  rw [(script.run_routed event member).log_eq, List.filter_append, List.filter_eq_self.mpr]
  · cases event.report? <;> simp [Report.logEntry, LogEntry.debug]
  · intro entry warned
    exact decide_eq_true (Callback.warnings_level warned)

theorem run_log_debug (script : Script) :
    script.run.log.filter (·.level = .debug) =
      script.run.summary.discovered.map Report.logEntry ++ [script.run.summary.logEntry] := by
  have reports : script.run.summary.discovered = script.run.events.filterMap Event.report? :=
    Run.start_feed_reports script.commands
  have last : [script.run.summary.logEntry].filter (·.level = .debug) =
      [script.run.summary.logEntry] := rfl
  rw [Run.log, List.filter_append, List.filter_flatMap, last, reports, List.map_filterMap,
    List.filterMap_eq_flatMap_toList]
  congr 1
  refine List.flatMap_congr fun event member => ?_
  rw [(script.run_routed event member).log_eq, List.filter_append, List.filter_eq_nil_iff.mpr]
  · cases event.report? <;> simp [Report.logEntry, LogEntry.debug]
  · intro entry warned
    simp [Callback.warnings_level warned]

theorem run_kept (script : Script) :
    script.run.summary.fallbacks =
      (script.run.events.map Event.callback).flatMap Callback.kept := by
  rw [List.flatMap_map]
  exact List.flatMap_congr fun event member => (script.run_routed event member).kept_eq

theorem run_failures (script : Script) :
    script.run.summary.failures =
      (script.run.events.map Event.callback).filterMap Callback.failure? := by
  rw [List.filterMap_map]
  exact List.filterMap_congr fun event _ => event.failure?_callback.symm

/-- All that is told of a command which routing settles without discovery. -/
theorem told_of_settled (script : Script) {command : Command} {outcome : Outcome}
    (member : command ∈ script.commands) (settled : command.settled? = some outcome) :
    ∀ call ∈ script.run.events.map Event.callback, call.command.index = command.index →
      call = Event.callback ⟨command, outcome⟩ := by
  intro call told same
  obtain ⟨event, traced, rfl⟩ := List.mem_map.mp told
  have own : event.command ∈ script.commands := by
    rw [← Discovery.empty.trace_commands script.commands, ← run_events]
    exact List.mem_map_of_mem traced
  have isCommand : event.command = command :=
    script.eq_of_index_eq member own (by rwa [Event.callback_command] at same)
  rw [← isCommand] at settled ⊢
  rw [← (script.run_routed event traced).outcome_of_settled settled]

/-- Log and summary tell the same story, and the handler hears it too. Each command is delivered
    once, in order. The warnings are, for each command in turn, one for each value that its binding
    keeps if it was delivered as an operation, the one that it is skipped if it failed, and none
    otherwise; the summary lists the same values and the same failures, so that there are as many
    warnings as these. A command whose arguments do not bind is only ever told as failed, and
    nothing of it is listed as kept. What else is logged is one entry for each report, in order,
    and last the counts of the summary. -/
theorem log_tells_summary {σ : Type} (script : Script) (handler : Handler σ) (start : σ) :
    let finished := script.runFor handler start
    let summary := finished.summary
    let told := (script.runFor .recorder []).state
    let warned := finished.log.filter (·.level = .warn)
    (told.map Callback.command = script.commands ∧
        finished.state = told.foldl handler.answer start) ∧
      (warned = told.flatMap Callback.warnings ∧
        summary.fallbacks = told.flatMap Callback.kept ∧
        summary.failures = told.filterMap Callback.failure? ∧
        warned.length = summary.fallbacks.length + summary.failures.length) ∧
      (∀ command operation, .operation command operation ∈ told →
        ∃ opcode binding, Opcode.lookup? command.opcode = some opcode ∧
          opcode.bind command.present = .ok binding ∧ operation = .ofBinding binding ∧
          command.keptValues = binding.fallbacks) ∧
      (∀ command ∈ script.commands, ∀ opcode error, '：' ∉ command.opcode.toList →
        Opcode.lookup? command.opcode = some opcode →
        opcode.bind command.present = .error error →
        (∀ call ∈ told, call.command.index = command.index →
          call = .failed command (.unbound error)) ∧
        ∀ value, (command.index, value) ∉ summary.fallbacks) ∧
      finished.log.filter (·.level = .debug) =
        summary.discovered.map (fun report =>
          .debug <| "discovered unknown opcode " ++ Text.quoted report.opcode ++
            s!" at command #{report.firstIndex} with {report.observed.length} argument(s)") ++
        [.debug <| s!"processed {summary.commands} command(s): {summary.dialogue} dialogue, " ++
          s!"{summary.operations} operation(s), {summary.defaults} default, " ++
          s!"{summary.discovered.length} discovered, {summary.failures.length} failed"] := by
  intro finished summary told warned
  have ended : finished = _ := script.runFor_eq handler start
  have heard : told = script.run.events.map Event.callback := script.recorder_told
  have listed : summary = script.run.summary := congrArg Processor.summary ended
  have logged : finished.log = script.run.log := by rw [ended]
  have warnings : warned = told.flatMap Callback.warnings := by
    rw [heard, ← run_log_warnings, ← logged]
  have kept : summary.fallbacks = told.flatMap Callback.kept := by
    rw [listed, heard, run_kept]
  have failed : summary.failures = told.filterMap Callback.failure? := by
    rw [listed, heard, run_failures]
  refine ⟨⟨?_, ?_⟩, ⟨warnings, kept, failed, ?_⟩, ?_, ?_, ?_⟩
  · rw [heard, run_events]
    exact Discovery.trace_callbacks .empty script.commands
  · rw [ended, heard]
    exact handler.watch_eq_foldl_answer start script.run.events
  · rw [warnings, kept, failed]
    exact Callback.warnings_length told
  · intro command operation delivered
    rw [heard] at delivered
    obtain ⟨⟨event, outcome⟩, traced, same⟩ := List.mem_map.mp delivered
    rcases outcome with error | (line | ⟨bound, fallbacks⟩ | report | -) <;> cases same
    obtain ⟨-, opcode, binding, registered, bound, made, -⟩ :=
      Command.settled?_operation (script.run_routed _ traced).settled_of_operation
    exact ⟨opcode, binding, registered, bound, made, Command.keptValues_of_bind registered bound⟩
  · intro command member opcode error untagged registered unbound
    have settled := Command.settled?_of_unbound untagged registered unbound
    have told_failed : ∀ call ∈ told, call.command.index = command.index →
        call = .failed command (.unbound error) := by
      rw [heard]
      exact script.told_of_settled member settled
    refine ⟨told_failed, fun value listed => ?_⟩
    rw [kept] at listed
    obtain ⟨call, called, isKept⟩ := List.mem_flatMap.mp listed
    cases call with
    | operation other operation =>
        obtain ⟨_, -, same⟩ := List.mem_map.mp isKept
        cases told_failed _ called (congrArg Prod.fst same)
    | dialogue | discovered | failed | unhandled => cases isKept
  · rw [logged, run_log_debug, listed]
    rfl

end Script

end Scenario
