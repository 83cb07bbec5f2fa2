import Mathlib.Data.List.Nodup
import Scenario.Proofs.Trace

/-! # Accounting

No command is lost, told twice or taken out of turn: a processor makes one call
for each command, the call of its outcome, and each command is in one of the
counts.
-/

namespace Scenario

namespace Event

/-- An event is of one kind only. -/
theorem length_eq_counts (events : List Event) :
    events.length =
      events.countP (·.line?.isSome) + events.countP (·.operation?.isSome) +
        events.countP isRepeated + (events.filterMap report?).length +
        (events.filterMap failure?).length := by
  induction events with
  | nil => rfl
  | cons event rest ih =>
      obtain ⟨command, outcome⟩ := event
      rcases outcome with error | (line | ⟨operation, fallbacks⟩ | report | -) <;>
        simp only [List.length_cons, ih, List.countP_cons, List.filterMap_cons, line?, operation?,
          isRepeated, report?, failure?, Option.isSome, ↓reduceIte, Bool.false_eq_true] <;>
        omega

@[simp] theorem callback_command (event : Event) : event.callback.command = event.command := by
  obtain ⟨command, outcome⟩ := event
  rcases outcome with error | (line | ⟨operation, fallbacks⟩ | report | -) <;> rfl

end Event

/-- The calls of a trace are about its commands, one for each, in order. -/
theorem Discovery.trace_callbacks (discovery : Discovery) (commands : List Command) :
    ((discovery.trace commands).map Event.callback).map Callback.command = commands := by
  rw [List.map_map]
  exact (List.map_congr_left fun event _ => event.callback_command).trans
    (discovery.trace_commands commands)

namespace Handler

variable {σ : Type}

theorem watch_eq_foldl_answer (handler : Handler σ) (state : σ) (events : List Event) :
    handler.watch state events = (events.map Event.callback).foldl handler.answer state := by
  rw [watch, List.foldl_map]
  rfl

theorem recorder_answer (calls : List Callback) (call : Callback) :
    recorder.answer calls call = calls ++ [call] := by
  cases call <;> rfl

theorem recorder_watch (calls : List Callback) (events : List Event) :
    recorder.watch calls events = calls ++ events.map Event.callback := by
  induction events generalizing calls with
  | nil => simp [watch]
  | cons event rest ih =>
      rw [watch, List.foldl_cons, ← watch, ih, step, recorder_answer, List.append_assoc,
        List.singleton_append, List.map_cons]

end Handler

namespace Run

/-- Each command of a run is in one of the counts. -/
theorem summary_accounts (commands : List Command) :
    let run := start.feed commands
    run.summary.commands =
      run.summary.dialogue + run.summary.operations + run.summary.defaults +
        run.discovery.reports.length + run.summary.failures.length := by
  intro run
  rw [start_feed_reports]
  exact Event.length_eq_counts run.events

end Run

namespace Script

/-- Commands of a script with one place are one command. -/
theorem eq_of_index_eq (script : Script) {command other : Command}
    (member : command ∈ script.commands) (otherMember : other ∈ script.commands)
    (same : other.index = command.index) : other = command := by
  have distinct : (script.commands.map Command.index).Nodup := by
    rw [script.numbered]
    exact List.nodup_range
  exact List.inj_on_of_nodup_map distinct otherMember member same

theorem runFor_state {σ : Type} (script : Script) (handler : Handler σ) (state : σ) :
    (script.runFor handler state).state =
      (script.run.events.map Event.callback).foldl handler.answer state := by
  rw [runFor_eq, Handler.watch_eq_foldl_answer]

theorem recorder_told (script : Script) :
    (script.runFor .recorder []).state = script.run.events.map Event.callback := by
  rw [runFor_eq, Handler.recorder_watch, List.nil_append]

end Script

namespace Processor

variable {σ : Type}

/-- The calls of a handler that was fed commands. -/
theorem feed_state (handler : Handler σ) (state : σ) (commands : List Command) :
    ((start state).feed handler commands).state =
      ((Discovery.empty.trace commands).map Event.callback).foldl handler.answer state := by
  rw [feed_start, ← Handler.watch_eq_foldl_answer, ← Run.start_feed_events]
  rfl

theorem recorder_state (commands : List Command) :
    ((start []).feed .recorder commands).state =
      (Discovery.empty.trace commands).map Event.callback := by
  rw [feed_state, ← Handler.watch_eq_foldl_answer, Handler.recorder_watch, List.nil_append]

/-- Commands in, calls and counts out. A handler that records its calls gets one for each command,
    in order, and it is the call of the command's outcome; every other handler gets the same. Each
    command is in one of the counts, reports included, and the end of the run fills the reports
    in. The calls of a whole script are about its commands from the first to the last. -/
theorem feed_accounts (handler : Handler σ) (state : σ) (commands : List Command) :
    let events := Discovery.empty.trace commands
    let calls := ((start []).feed .recorder commands).state
    let fed := (start state).feed handler commands
    (events.map Event.command = commands ∧ calls = events.map Event.callback ∧
        calls.map Callback.command = commands ∧ fed.state = calls.foldl handler.answer state) ∧
      (fed.summary.commands = commands.length ∧
        fed.summary.commands =
          fed.summary.dialogue + fed.summary.operations + fed.summary.defaults +
            fed.discovery.reports.length + fed.summary.failures.length) ∧
      fed.finish.summary = { fed.summary with discovered := fed.discovery.reports } ∧
      ∀ script : Script,
        let told := (script.runFor .recorder []).state
        told.map Callback.command = script.commands ∧
          told.map (·.command.index) = List.range script.commands.length ∧
          (script.runFor handler state).state = told.foldl handler.answer state := by
  intro events calls fed
  have recorded : calls = events.map Event.callback := recorder_state commands
  have asRun : fed = ofRun handler state (Run.start.feed commands) :=
    feed_start handler state commands
  refine ⟨⟨Discovery.trace_commands _ _, recorded, ?_, ?_⟩, ⟨?_, ?_⟩, rfl, ?_⟩
  · rw [recorded]
    exact Discovery.trace_callbacks .empty commands
  · rw [recorded]
    exact feed_state handler state commands
  · rw [asRun]
    simp [ofRun, Run.summary]
  · rw [asRun]
    exact Run.summary_accounts commands
  · intro script told
    have recorded : told = (Discovery.empty.trace script.commands).map Event.callback :=
      recorder_state script.commands
    have commands : told.map Callback.command = script.commands := by
      rw [recorded]
      exact Discovery.trace_callbacks .empty script.commands
    refine ⟨commands, ?_, ?_⟩
    · rw [← script.numbered, ← commands, List.map_map]
      rfl
    · rw [recorded]
      exact feed_state handler state script.commands

end Processor

end Scenario
