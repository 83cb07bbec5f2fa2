import Scenario.Run

/-! # Handlers

A handler watches a run and keeps a state of its own. It is called once for each
command, in order, and has no influence on the run.
-/

namespace Scenario

/-- What to do about each kind of event. Events that a handler does not care for go to
    `unhandled`, except for discoveries, which are then passed over. -/
structure Handler (σ : Type) where
  unhandled : σ → Command → σ := fun state _ => state
  operation : σ → Command → Operation → σ := fun state command _ => unhandled state command
  dialogue : σ → Command → Line → σ := fun state command _ => unhandled state command
  discovered : σ → Command → Report → σ := fun state _ _ => state
  failed : σ → Command → DispatchError → σ := fun state command _ => unhandled state command

/-- One call of a handler: what it is told about a command. -/
inductive Callback where
  | operation (command : Command) (operation : Operation)
  | dialogue (command : Command) (line : Line)
  | discovered (command : Command) (report : Report)
  | failed (command : Command) (error : DispatchError)
  /-- An unknown opcode that was reported before. -/
  | unhandled (command : Command)

/-- The command that a call is about. -/
def Callback.command : Callback → Command
  | .operation command _ => command
  | .dialogue command _ => command
  | .discovered command _ => command
  | .failed command _ => command
  | .unhandled command => command

/-- The call that an event makes. -/
def Event.callback (event : Event) : Callback :=
  match event.outcome with
  | .ok (.dialogue line) => .dialogue event.command line
  | .ok (.operation operation _) => .operation event.command operation
  | .ok (.discovered report) => .discovered event.command report
  | .ok .repeated => .unhandled event.command
  | .error error => .failed event.command error

namespace Handler

/-- The handler's answer to one call. -/
def answer {σ : Type} (handler : Handler σ) (state : σ) : Callback → σ
  | .dialogue command line => handler.dialogue state command line
  | .operation command operation => handler.operation state command operation
  | .discovered command report => handler.discovered state command report
  | .failed command error => handler.failed state command error
  | .unhandled command => handler.unhandled state command

/-- The handler's answer to one event. -/
def step {σ : Type} (handler : Handler σ) (state : σ) (event : Event) : σ :=
  handler.answer state event.callback

/-- The handler's state after a list of events. -/
def watch {σ : Type} (handler : Handler σ) (state : σ) (events : List Event) : σ :=
  events.foldl handler.step state

/-- Keeps every call, in the order in which they are made. -/
def recorder : Handler (List Callback) where
  operation := fun calls command operation => calls ++ [.operation command operation]
  dialogue := fun calls command line => calls ++ [.dialogue command line]
  discovered := fun calls command report => calls ++ [.discovered command report]
  failed := fun calls command error => calls ++ [.failed command error]
  unhandled := fun calls command => calls ++ [.unhandled command]

end Handler
end Scenario
