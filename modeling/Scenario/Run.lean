import Scenario.Script
import Scenario.Summary

/-! # Runs

A run takes the commands of one script in order and keeps what became of each.
Its summary, its log and what handlers make of it are functions of these events.
-/

namespace Scenario

/-- A run in progress. It starts with nothing discovered, whatever ran before. -/
structure Run where
  discovery : Discovery
  /-- The events so far, newest first. -/
  newest : List Event

namespace Run

def start : Run :=
  ⟨.empty, []⟩

/-- Takes the next command. -/
def process (run : Run) (command : Command) : Run :=
  let (outcome, discovery) := run.discovery.classify command
  ⟨discovery, ⟨command, outcome⟩ :: run.newest⟩

/-- What became of each command, in the order in which they were taken. -/
def events (run : Run) : List Event :=
  run.newest.reverse

@[simp] theorem events_start : start.events = [] := rfl

/-- Taking a command adds its event at the end. -/
@[simp] theorem events_process (run : Run) (command : Command) :
    (run.process command).events =
      run.events ++ [⟨command, (run.discovery.classify command).1⟩] := by
  simp [events, process]

def summary (run : Run) : Summary where
  commands := run.events.length
  dialogue := run.events.countP (·.line?.isSome)
  operations := run.events.countP (·.operation?.isSome)
  defaults := run.events.countP Event.isRepeated
  discovered := run.discovery.reports
  fallbacks := run.events.flatMap fun event => event.fallbacks.map fun kept => (event.index, kept)
  failures := run.events.filterMap Event.failure?

/-- What is logged while the commands are taken and when the run ends. -/
def log (run : Run) : List LogEntry :=
  run.events.flatMap Event.log ++ [run.summary.logEntry]

end Run

/-- Runs a whole script. -/
def Script.run (script : Script) : Run :=
  script.commands.foldl Run.process .start

end Scenario
