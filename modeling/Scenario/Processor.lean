import Scenario.Handler

/-! # Processors

A processor takes the commands of a script in order, tells a handler about each
of them as it goes, and keeps the counts and the log.
-/

namespace Scenario

/-- A handler at work on a script. -/
structure Processor (σ : Type) where
  /-- The handler's own state. -/
  state : σ
  discovery : Discovery
  /-- The counts so far. Reports are filled in at the end. -/
  summary : Summary
  log : List LogEntry

namespace Processor

variable {σ : Type}

def start (state : σ) : Processor σ :=
  ⟨state, .empty, .empty, []⟩

/-- Takes the next command. -/
def process (handler : Handler σ) (processor : Processor σ) (command : Command) : Processor σ :=
  let ⟨state, discovery, counted, log⟩ := processor
  let summary := { counted with commands := counted.commands + 1 }
  let (outcome, discovery) := discovery.classify command
  match outcome with
  | .ok (.dialogue line) =>
    ⟨handler.dialogue state command line, discovery,
      { summary with dialogue := summary.dialogue + 1 }, log⟩
  | .ok (.operation operation fallbacks) =>
    let kept := fallbacks.map fun fallback => (command.index, fallback)
    ⟨handler.operation state command operation, discovery,
      { summary with
        operations := summary.operations + 1
        fallbacks := summary.fallbacks ++ kept },
      log ++ fallbacks.map command.keptEntry⟩
  | .ok (.discovered report) =>
    ⟨handler.discovered state command report, discovery, summary, log ++ [report.logEntry]⟩
  | .ok .repeated =>
    ⟨handler.unhandled state command, discovery,
      { summary with defaults := summary.defaults + 1 }, log⟩
  | .error error =>
    ⟨handler.failed state command error, discovery,
      { summary with
        failures := summary.failures ++ [⟨command.index, command.opcode, error⟩] },
      log ++ [command.skippedEntry error]⟩

/-- Takes commands in order. -/
def feed (handler : Handler σ) (processor : Processor σ) (commands : List Command) :
    Processor σ :=
  commands.foldl (process handler) processor

/-- Fills the reports in and logs the counts. -/
def finish (processor : Processor σ) : Processor σ :=
  let summary := { processor.summary with discovered := processor.discovery.reports }
  { processor with summary, log := processor.log ++ [summary.logEntry] }

end Processor

/-- Runs a whole script for a handler that starts in `state`. -/
def Script.runFor {σ : Type} (script : Script) (handler : Handler σ) (state : σ) : Processor σ :=
  ((Processor.start state).feed handler script.commands).finish

end Scenario
