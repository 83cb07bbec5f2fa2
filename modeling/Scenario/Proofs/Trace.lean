import Scenario.Proofs.Routing
import Scenario.Processor

/-! # Traces

The events of commands that are routed one after the other, from any state of
discovery. Runs and processors are views of their trace: whatever a processor
counts, logs or tells its handler can be read off the events.
-/

namespace Scenario

/-- What becomes of the command where its opcode name is known from before. -/
def Command.knownEvent (command : Command) : Event :=
  ⟨command, command.settled?.getD (.ok .repeated)⟩

namespace Discovery

/-- What is discovered once the commands were routed in order. -/
def after (discovery : Discovery) (commands : List Command) : Discovery :=
  commands.foldl (fun discovery command => (discovery.classify command).2) discovery

/-- The commands with their outcomes, routed in order. -/
def trace : Discovery → List Command → List Event
  | _, [] => []
  | discovery, command :: rest =>
    ⟨command, (discovery.classify command).1⟩ :: trace (discovery.classify command).2 rest

@[simp] theorem after_nil (discovery : Discovery) : discovery.after [] = discovery := rfl

@[simp] theorem after_cons (discovery : Discovery) (command : Command) (rest : List Command) :
    discovery.after (command :: rest) = (discovery.classify command).2.after rest := rfl

@[simp] theorem trace_nil (discovery : Discovery) : discovery.trace [] = [] := rfl

@[simp] theorem trace_cons (discovery : Discovery) (command : Command) (rest : List Command) :
    discovery.trace (command :: rest) =
      ⟨command, (discovery.classify command).1⟩ :: (discovery.classify command).2.trace rest :=
  rfl

theorem trace_append (discovery : Discovery) (before later : List Command) :
    discovery.trace (before ++ later) =
      discovery.trace before ++ (discovery.after before).trace later := by
  induction before generalizing discovery with
  | nil => rfl
  | cons command rest ih => simp only [List.cons_append, trace_cons, after_cons, ih]

/-- Each command has one event, in order. -/
@[simp] theorem trace_commands (discovery : Discovery) (commands : List Command) :
    (discovery.trace commands).map Event.command = commands := by
  induction commands generalizing discovery with
  | nil => rfl
  | cons command rest ih => simp only [trace_cons, List.map_cons, ih]

@[simp] theorem trace_length (discovery : Discovery) (commands : List Command) :
    (discovery.trace commands).length = commands.length := by
  rw [← List.length_map Event.command, trace_commands]

/-- Reports are added by the events that discover something, and by no other. -/
theorem after_reports (discovery : Discovery) (commands : List Command) :
    (discovery.after commands).reports =
      discovery.reports ++ (discovery.trace commands).filterMap Event.report? := by
  induction commands generalizing discovery with
  | nil => simp
  | cons command rest ih =>
      rw [after_cons, trace_cons, ih, List.filterMap_cons]
      rcases classify_cases discovery command with
        ⟨outcome, settled, routed⟩ | ⟨-, -, routed⟩ | ⟨-, -, routed⟩
      · rcases Command.settled?_cases settled with
          ⟨line, rfl⟩ | ⟨operation, fallbacks, rfl⟩ | ⟨error, rfl⟩ <;>
          simp only [routed, Event.report?]
      · simp only [routed, Event.report?]
      · simp only [routed, Event.report?, sight, List.append_assoc, List.singleton_append]

/-- What does not tell a report from a repeat goes by each command alone. -/
theorem trace_map_of_blind {α : Type} {view : Event → α}
    (blind : ∀ command report,
      view ⟨command, .ok (.discovered report)⟩ = view ⟨command, .ok .repeated⟩)
    (discovery : Discovery) (commands : List Command) :
    (discovery.trace commands).map view = commands.map fun command => view command.knownEvent := by
  induction commands generalizing discovery with
  | nil => rfl
  | cons command rest ih =>
      rw [trace_cons, List.map_cons, List.map_cons, ih]
      congr 1
      rcases classify_cases discovery command with
        ⟨outcome, settled, routed⟩ | ⟨reaches, -, routed⟩ | ⟨reaches, -, routed⟩
      · rw [routed, Command.knownEvent, settled, Option.getD_some]
      · rw [routed, Command.knownEvent, reaches, Option.getD_none]
      · rw [routed, Command.knownEvent, reaches, Option.getD_none]
        exact blind command _

theorem trace_filterMap_of_blind {α : Type} {view : Event → Option α}
    (blind : ∀ command report,
      view ⟨command, .ok (.discovered report)⟩ = view ⟨command, .ok .repeated⟩)
    (discovery : Discovery) (commands : List Command) :
    (discovery.trace commands).filterMap view =
      commands.filterMap fun command => view command.knownEvent := by
  have seen := congrArg (List.filterMap id) (trace_map_of_blind blind discovery commands)
  rwa [List.filterMap_map, List.filterMap_map] at seen

theorem mem_seen_after {discovery : Discovery} {commands : List Command} {name : String} :
    name ∈ (discovery.after commands).seen ↔
      name ∈ discovery.seen ∨
        ∃ command ∈ commands, command.ReachesDiscovery ∧ command.opcode = name := by
  induction commands generalizing discovery with
  | nil => simp
  | cons command rest ih =>
      simp only [after_cons, ih, mem_seen_classify, List.mem_cons, exists_eq_or_imp, or_assoc]

end Discovery

namespace Event

/-- The outcome is that of the command in some state of discovery. -/
def Routed (event : Event) : Prop :=
  ∃ state : Discovery, event.outcome = (state.classify event.command).1

theorem Routed.outcome_of_settled {event : Event} {outcome : Outcome} (routed : event.Routed)
    (settled : event.command.settled? = some outcome) : event.outcome = outcome := by
  obtain ⟨state, became⟩ := routed
  rw [became, Discovery.classify_of_settled state settled]

theorem Routed.settled_of_operation {command : Command} {operation : Operation}
    {fallbacks : List Fallback}
    (routed : Routed ⟨command, .ok (.operation operation fallbacks)⟩) :
    command.settled? = some (.ok (.operation operation fallbacks)) := by
  obtain ⟨state, became⟩ := routed
  exact Discovery.classify_operation_iff.mp became.symm

end Event

theorem Discovery.trace_routed {discovery : Discovery} {commands : List Command} {event : Event}
    (traced : event ∈ discovery.trace commands) : event.Routed := by
  induction commands generalizing discovery with
  | nil => cases traced
  | cons command rest ih =>
      rcases List.mem_cons.mp traced with rfl | later
      · exact ⟨discovery, rfl⟩
      · exact ih later

namespace Run

def feed (run : Run) (commands : List Command) : Run :=
  commands.foldl process run

@[simp] theorem feed_cons (run : Run) (command : Command) (rest : List Command) :
    run.feed (command :: rest) = (run.process command).feed rest := rfl

@[simp] theorem feed_discovery (run : Run) (commands : List Command) :
    (run.feed commands).discovery = run.discovery.after commands := by
  induction commands generalizing run with
  | nil => rfl
  | cons command rest ih => exact ih (run.process command)

@[simp] theorem feed_events (run : Run) (commands : List Command) :
    (run.feed commands).events = run.events ++ run.discovery.trace commands := by
  induction commands generalizing run with
  | nil => simp [feed]
  | cons command rest ih =>
      rw [feed_cons, ih, events_process, List.append_assoc, Discovery.trace_cons]
      rfl

theorem start_feed_discovery (commands : List Command) :
    (start.feed commands).discovery = Discovery.empty.after commands :=
  start.feed_discovery commands

theorem start_feed_events (commands : List Command) :
    (start.feed commands).events = Discovery.empty.trace commands :=
  start.feed_events commands

/-- The reports of a run are those of its events. -/
theorem start_feed_reports (commands : List Command) :
    (start.feed commands).discovery.reports =
      (start.feed commands).events.filterMap Event.report? := by
  rw [start_feed_discovery, start_feed_events, Discovery.after_reports]
  rfl

end Run

namespace Processor

variable {σ : Type}

/-- The processor that has come as far as a run. -/
def ofRun (handler : Handler σ) (state : σ) (run : Run) : Processor σ where
  state := handler.watch state run.events
  discovery := run.discovery
  summary := { run.summary with discovered := [] }
  log := run.events.flatMap Event.log

/-- Processor and run stay in step. -/
theorem process_ofRun (handler : Handler σ) (state : σ) (run : Run) (command : Command) :
    (ofRun handler state run).process handler command =
      ofRun handler state (run.process command) := by
  cases routed : run.discovery.classify command with
  | mk outcome discovery =>
      rcases outcome with error | (line | ⟨operation, fallbacks⟩ | report | -) <;>
        simp [process, ofRun, Run.process, Run.events, Run.summary, routed, Handler.watch,
          Handler.step, Handler.answer, Event.callback, Event.log, Event.line?, Event.operation?,
          Event.isRepeated, Event.fallbacks, Event.failure?, Event.index]

theorem feed_ofRun (handler : Handler σ) (state : σ) (run : Run) (commands : List Command) :
    (ofRun handler state run).feed handler commands = ofRun handler state (run.feed commands) :=
  List.foldl_hom (ofRun handler state) (process_ofRun handler state)

/-- A processor that was fed commands is where the run of these commands is. -/
theorem feed_start (handler : Handler σ) (state : σ) (commands : List Command) :
    (start state).feed handler commands = ofRun handler state (Run.start.feed commands) :=
  feed_ofRun handler state .start commands

end Processor

namespace Script

/-- Where a script ends for a handler: its calls are those of the run's events, and its counts,
    reports and log are the run's own. -/
theorem runFor_eq {σ : Type} (script : Script) (handler : Handler σ) (state : σ) :
    script.runFor handler state =
      ⟨handler.watch state script.run.events, script.run.discovery, script.run.summary,
        script.run.log⟩ := by
  rw [runFor, Processor.feed_start]
  rfl

theorem run_discovery (script : Script) :
    script.run.discovery = Discovery.empty.after script.commands :=
  Run.start_feed_discovery script.commands

theorem run_events (script : Script) :
    script.run.events = Discovery.empty.trace script.commands :=
  Run.start_feed_events script.commands

theorem run_routed (script : Script) : ∀ event ∈ script.run.events, event.Routed := by
  intro event member
  rw [run_events] at member
  exact Discovery.trace_routed member

end Script

end Scenario
