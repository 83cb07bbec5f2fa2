import Scenario.Proofs.Trace

/-! # Totals

The summary of a run is put together from what each of its events adds: counts
add up, and lists follow one another.
-/

namespace Scenario

namespace Summary

def append (summary other : Summary) : Summary where
  commands := summary.commands + other.commands
  dialogue := summary.dialogue + other.dialogue
  operations := summary.operations + other.operations
  defaults := summary.defaults + other.defaults
  discovered := summary.discovered ++ other.discovered
  fallbacks := summary.fallbacks ++ other.fallbacks
  failures := summary.failures ++ other.failures

instance : Append Summary := ⟨append⟩

theorem append_assoc (first second third : Summary) :
    first ++ second ++ third = first ++ (second ++ third) := by
  show append (append first second) third = append first (append second third)
  simp only [append, Nat.add_assoc, List.append_assoc]

theorem empty_append (summary : Summary) : empty ++ summary = summary := by
  show append empty summary = summary
  simp only [append, empty, Nat.zero_add, List.nil_append]

/-- What one event adds: a command, and its own count, report, values kept or failure. -/
def ofEvent (event : Event) : Summary :=
  match event.outcome with
  | .ok (.dialogue _) => { empty with commands := 1, dialogue := 1 }
  | .ok (.operation _ fallbacks) =>
    { empty with
      commands := 1
      operations := 1
      fallbacks := fallbacks.map fun fallback => (event.index, fallback) }
  | .ok (.discovered report) => { empty with commands := 1, discovered := [report] }
  | .ok .repeated => { empty with commands := 1, defaults := 1 }
  | .error error =>
    { empty with commands := 1, failures := [⟨event.index, event.command.opcode, error⟩] }

def ofEvents : List Event → Summary
  | [] => empty
  | event :: rest => ofEvent event ++ ofEvents rest

theorem ofEvents_append (before later : List Event) :
    ofEvents (before ++ later) = ofEvents before ++ ofEvents later := by
  induction before with
  | nil => exact (empty_append _).symm
  | cons event rest ih => rw [List.cons_append, ofEvents, ofEvents, ih, append_assoc]

/-- The totals of events, kind by kind. -/
theorem ofEvents_eq (events : List Event) :
    ofEvents events =
      { commands := events.length
        dialogue := events.countP (·.line?.isSome)
        operations := events.countP (·.operation?.isSome)
        defaults := events.countP Event.isRepeated
        discovered := events.filterMap Event.report?
        fallbacks := events.flatMap fun event => event.fallbacks.map fun kept => (event.index, kept)
        failures := events.filterMap Event.failure? } := by
  induction events with
  | nil => rfl
  | cons event rest ih =>
      rw [ofEvents, ih]
      show append (ofEvent event) _ = _
      obtain ⟨command, outcome⟩ := event
      rcases outcome with error | (line | ⟨operation, fallbacks⟩ | report | -) <;>
        simp [append, ofEvent, empty, List.countP_cons, List.filterMap_cons, Event.line?,
          Event.operation?, Event.isRepeated, Event.report?, Event.fallbacks, Event.failure?,
          Event.index, Nat.add_comm]

end Summary

/-- The summary of a run is the total of its events. -/
theorem Run.start_feed_summary (commands : List Command) :
    (start.feed commands).summary = .ofEvents (Discovery.empty.trace commands) := by
  rw [Summary.ofEvents_eq, ← start_feed_events, summary, start_feed_reports]

/-- What a processor reports in the end is the total of its events, whatever its handler. -/
theorem Processor.feed_finish_summary {σ : Type} (handler : Handler σ) (state : σ)
    (commands : List Command) :
    ((start state).feed handler commands).finish.summary =
      .ofEvents (Discovery.empty.trace commands) := by
  rw [feed_start, ← Run.start_feed_summary]
  rfl

end Scenario
