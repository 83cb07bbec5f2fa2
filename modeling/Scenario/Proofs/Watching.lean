import Scenario.Proofs.Accounting

/-! # Watching

Handlers only watch. What a handler cares for decides which of its methods hear
of a command, and nothing about the run: its counts, its reports and its log are
the same for all handlers.
-/

namespace Scenario

/-- The command of a call that comes down to `unhandled` where a handler has nothing of its own for
    the call's kind. Discoveries do not. -/
def Callback.passedOn? : Callback → Option Command
  | .operation command _ => some command
  | .dialogue command _ => some command
  | .discovered _ _ => none
  | .failed command _ => some command
  | .unhandled command => some command

/-- An event is a report or comes down to `unhandled`. -/
theorem Event.length_eq_passedOn (events : List Event) :
    ((events.map callback).filterMap Callback.passedOn?).length +
      (events.filterMap report?).length = events.length := by
  induction events with
  | nil => rfl
  | cons event rest ih =>
      obtain ⟨command, outcome⟩ := event
      rcases outcome with error | (line | ⟨operation, fallbacks⟩ | report | -) <;>
        simp only [List.map_cons, List.filterMap_cons, callback, Callback.passedOn?, report?,
          List.length_cons, ← ih] <;>
        omega

namespace Handler

variable {σ : Type}

/-- Keeps the commands that it is told of by default, and has nothing else of its own. -/
def bystander : Handler (List Command) where
  unhandled := fun commands command => commands ++ [command]

theorem answer_unhandled (unhandled : σ → Command → σ) (state : σ) (call : Callback) :
    answer { unhandled } state call = call.passedOn?.elim state (unhandled state) := by
  cases call <;> rfl

theorem foldl_answer_unhandled (unhandled : σ → Command → σ) (state : σ) (calls : List Callback) :
    calls.foldl (answer { unhandled }) state =
      (calls.filterMap Callback.passedOn?).foldl unhandled state := by
  induction calls generalizing state with
  | nil => rfl
  | cons call rest ih =>
      rw [List.foldl_cons, ih, answer_unhandled, List.filterMap_cons]
      cases call.passedOn? with
      | none => rfl
      | some command => rfl

end Handler

namespace Script

theorem runFor_bystander (script : Script) :
    (script.runFor .bystander []).state =
      (script.run.events.map Event.callback).filterMap Callback.passedOn? := by
  rw [runFor_state]
  refine (Handler.foldl_answer_unhandled _ [] _).trans ?_
  rw [List.foldl_append_eq_append, List.nil_append]
  exact List.flatMap_singleton' _

/-- Handlers only watch. Whatever two handlers do, the run has one summary and one log. A handler
    with a method of its own for every kind of event is told of each command once, in order; one
    that has nothing but `unhandled` hears of the same commands by that, in the same order, except
    for those that the other is told of as discovered. So it is called as often as there are
    commands less reports. -/
theorem runFor_watched {σ τ : Type} (script : Script) (handler : Handler σ) (start : σ)
    (other : Handler τ) (otherStart : τ) :
    let finished := script.runFor handler start
    let otherFinished := script.runFor other otherStart
    let told := (script.runFor .recorder []).state
    let passedOn := (script.runFor .bystander []).state
    (finished.summary = otherFinished.summary ∧ finished.log = otherFinished.log) ∧
      (told.map Callback.command = script.commands ∧
        finished.state = told.foldl handler.answer start) ∧
      (passedOn = told.filterMap Callback.passedOn? ∧
        ∀ unhandled : σ → Command → σ,
          (script.runFor { unhandled } start).state = passedOn.foldl unhandled start) ∧
      passedOn.length + finished.summary.discovered.length = finished.summary.commands := by
  intro finished otherFinished told passedOn
  have ended : finished = _ := script.runFor_eq handler start
  have otherEnded : otherFinished = _ := script.runFor_eq other otherStart
  have heard : told = script.run.events.map Event.callback := script.recorder_told
  have passed : passedOn = told.filterMap Callback.passedOn? := by
    rw [heard]
    exact script.runFor_bystander
  refine ⟨⟨?_, ?_⟩, ⟨?_, ?_⟩, ⟨passed, fun unhandled => ?_⟩, ?_⟩
  · rw [ended, otherEnded]
  · rw [ended, otherEnded]
  · rw [heard, script.run_events]
    exact Discovery.trace_callbacks .empty script.commands
  · rw [heard]
    exact script.runFor_state handler start
  · rw [passed, heard, runFor_state]
    exact Handler.foldl_answer_unhandled unhandled start _
  · have reports : script.run.summary.discovered = script.run.events.filterMap Event.report? :=
      Run.start_feed_reports script.commands
    rw [passed, heard, ended, reports]
    exact Event.length_eq_passedOn script.run.events

end Script

end Scenario
