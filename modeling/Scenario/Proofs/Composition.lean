import Scenario.Proofs.Accounting
import Scenario.Proofs.Sightings

/-! # Runs compose

Two runs over the same commands, one of which knows some names from before,
differ only in the first sightings of these names: where the one discovers, the
other has seen the name already. A run over two lists is therefore the run over
the first and the corrected run over the second.
-/

namespace Scenario

namespace Event

/-- The event in a run that knows some opcode names from before. -/
def demote (known : List String) (event : Event) : Event :=
  match event.outcome with
  | .ok (.discovered report) =>
    if report.opcode ∈ known then ⟨event.command, .ok .repeated⟩ else event
  | _ => event

variable (known : List String)

/-- Knowing names takes reports away, and turns each of them into a repeat. -/
theorem demote_cases (event : Event) :
    event.demote known = event ∧ (∀ report ∈ event.report?, report.opcode ∉ known) ∨
      event.demote known = ⟨event.command, .ok .repeated⟩ ∧
        ∃ report, event.outcome = .ok (.discovered report) ∧ report.opcode ∈ known := by
  obtain ⟨command, outcome⟩ := event
  rcases outcome with error | (line | ⟨operation, fallbacks⟩ | report | -) <;>
    try exact .inl ⟨rfl, by simp [report?]⟩
  by_cases isKnown : report.opcode ∈ known
  · exact .inr ⟨if_pos isKnown, report, rfl, isKnown⟩
  · exact .inl ⟨if_neg isKnown, by simpa [report?] using isKnown⟩

/-- What does not tell a report from a repeat is the same in a run that knows names. -/
theorem demote_of_blind {α : Type} {view : Event → α}
    (blind : ∀ command report,
      view ⟨command, .ok (.discovered report)⟩ = view ⟨command, .ok .repeated⟩)
    (event : Event) : view (event.demote known) = view event := by
  rcases demote_cases known event with ⟨same, -⟩ | ⟨same, report, found, -⟩
  · rw [same]
  · obtain ⟨command, outcome⟩ := event
    simp only at found
    rw [same, found, blind]

@[simp] theorem demote_index (event : Event) : (event.demote known).index = event.index :=
  demote_of_blind known (fun _ _ => rfl) event

@[simp] theorem demote_line? (event : Event) : (event.demote known).line? = event.line? :=
  demote_of_blind known (fun _ _ => rfl) event

@[simp] theorem demote_operation? (event : Event) :
    (event.demote known).operation? = event.operation? :=
  demote_of_blind known (fun _ _ => rfl) event

@[simp] theorem demote_fallbacks (event : Event) :
    (event.demote known).fallbacks = event.fallbacks :=
  demote_of_blind known (fun _ _ => rfl) event

@[simp] theorem demote_failure? (event : Event) :
    (event.demote known).failure? = event.failure? :=
  demote_of_blind known (fun _ _ => rfl) event

@[simp] theorem demote_report? (event : Event) :
    (event.demote known).report? = event.report?.filter (·.opcode ∉ known) := by
  rcases demote_cases known event with ⟨same, unknown⟩ | ⟨same, report, found, isKnown⟩
  · rw [same]
    cases reported : event.report? with
    | none => rfl
    | some report =>
        have isNew : report.opcode ∉ known := unknown report reported
        simp [Option.filter, isNew]
  · simp [same, report?, found, Option.filter, isKnown]

theorem demote_isRepeated (event : Event) :
    (event.demote known).isRepeated =
      (event.isRepeated || event.report?.any (·.opcode ∈ known)) := by
  rcases demote_cases known event with ⟨same, unknown⟩ | ⟨same, report, found, isKnown⟩
  · rw [same]
    cases reported : event.report? with
    | none => simp
    | some report =>
        have isNew : report.opcode ∉ known := unknown report reported
        simp [isNew]
  · simp [same, isRepeated, report?, found, isKnown]

theorem report?_eq_none_of_isRepeated {event : Event} (repeats : event.isRepeated = true) :
    event.report? = none := by
  obtain ⟨command, outcome⟩ := event
  rcases outcome with error | (line | ⟨operation, fallbacks⟩ | report | -) <;>
    first | rfl | cases repeats

/-- The reports of known names turn up among the repeats. -/
theorem countP_isRepeated_demote (events : List Event) :
    (events.map (demote known)).countP isRepeated =
      events.countP isRepeated +
        ((events.filterMap report?).filter (·.opcode ∈ known)).length := by
  induction events with
  | nil => rfl
  | cons event rest ih =>
      simp only [List.map_cons, List.countP_cons, ih, demote_isRepeated]
      cases reported : event.report? with
      | none => simp [reported]; omega
      | some report =>
          have fresh : event.isRepeated = false := by
            cases repeats : event.isRepeated with
            | false => rfl
            | true => simp [report?_eq_none_of_isRepeated repeats] at reported
          by_cases isKnown : report.opcode ∈ known <;>
            simp only [List.filterMap_cons, reported, fresh, isKnown, List.filter_cons,
              Option.any_some, Bool.false_or, decide_true, decide_false, List.length_cons,
              ↓reduceIte, Bool.false_eq_true] <;>
            omega

theorem filterMap_report?_demote (events : List Event) :
    (events.map (demote known)).filterMap report? =
      (events.filterMap report?).filter (·.opcode ∉ known) := by
  induction events with
  | nil => rfl
  | cons event rest ih =>
      rw [List.map_cons, List.filterMap_cons, List.filterMap_cons, ih, demote_report?]
      cases event.report? with
      | none => rfl
      | some report => by_cases isKnown : report.opcode ∈ known <;> simp [Option.filter, isKnown]

end Event

/-- The call in a run that knows some opcode names from before. -/
def Callback.demote (known : List String) : Callback → Callback
  | .discovered command report =>
    if report.opcode ∈ known then .unhandled command else .discovered command report
  | call => call

theorem Event.callback_demote (known : List String) (event : Event) :
    (event.demote known).callback = event.callback.demote known := by
  obtain ⟨command, outcome⟩ := event
  rcases outcome with error | (line | ⟨operation, fallbacks⟩ | report | -) <;> try rfl
  by_cases isKnown : report.opcode ∈ known <;>
    simp [demote, callback, Callback.demote, isKnown]

namespace Discovery

/-- `later` has seen what `fresh` has, and the names known from before. -/
def Inherits (known : List String) (fresh later : Discovery) : Prop :=
  ∀ name, name ∈ later.seen ↔ name ∈ known ∨ name ∈ fresh.seen

/-- One command keeps the two states in step. -/
theorem Inherits.classify {known : List String} {fresh later : Discovery}
    (inherits : Inherits known fresh later) (command : Command) :
    Event.mk command (later.classify command).1 =
        Event.demote known ⟨command, (fresh.classify command).1⟩ ∧
      Inherits known (fresh.classify command).2 (later.classify command).2 := by
  rcases classify_cases fresh command with
    ⟨outcome, settled, routed⟩ | ⟨reaches, seen, routed⟩ | ⟨reaches, unseen, routed⟩
  · rw [routed, classify_of_settled later settled]
    refine ⟨?_, inherits⟩
    rcases Command.settled?_cases settled with
      ⟨line, rfl⟩ | ⟨operation, fallbacks, rfl⟩ | ⟨error, rfl⟩ <;> rfl
  · rw [routed, classify_of_seen reaches ((inherits _).mpr (.inr seen))]
    exact ⟨rfl, inherits⟩
  · rw [routed]
    -- a first sighting for the one is a repeat for the other just if the name is known from before
    by_cases isKnown : command.opcode ∈ known
    · rw [classify_of_seen reaches ((inherits _).mpr (.inl isKnown))]
      refine ⟨(if_pos isKnown).symm, fun name => ?_⟩
      simp only [inherits name, sight, List.mem_cons]
      constructor
      · intro either
        exact either.imp_right .inr
      · rintro (old | rfl | seen)
        · exact .inl old
        · exact .inl isKnown
        · exact .inr seen
    · have unseenLater : command.opcode ∉ later.seen :=
        fun seen => ((inherits _).mp seen).elim isKnown unseen
      rw [classify_of_unseen reaches unseenLater]
      refine ⟨(if_neg isKnown).symm, fun name => ?_⟩
      simp only [sight, List.mem_cons, inherits name]
      exact or_left_comm

theorem Inherits.trace {known : List String} {fresh later : Discovery}
    (inherits : Inherits known fresh later) (commands : List Command) :
    later.trace commands = (fresh.trace commands).map (Event.demote known) := by
  induction commands generalizing fresh later with
  | nil => rfl
  | cons command rest ih =>
      obtain ⟨same, next⟩ := inherits.classify command
      rw [trace_cons, trace_cons, List.map_cons, same, ih next]

/-- A state knows the names of its reports from before. -/
theorem inherits_after (commands : List Command) :
    Inherits ((empty.after commands).reports.map Report.opcode) empty (empty.after commands) := by
  intro name
  simpa [empty] using (consistent_after commands).agree name

end Discovery

namespace Run

/-- The second part of a run, as if it had been run alone but for the names known by then. -/
theorem feed_append_events (before later : List Command) :
    let known := (start.feed before).discovery.reports.map Report.opcode
    (start.feed (before ++ later)).events =
      (start.feed before).events ++ (start.feed later).events.map (Event.demote known) := by
  intro known
  simp only [known, start_feed_events, start_feed_discovery, Discovery.trace_append]
  rw [(Discovery.inherits_after before).trace later]

/-- The summary of a run over two lists, by the summaries of the runs over each. -/
theorem feed_append_summary (before later : List Command) :
    let a := (start.feed before).summary
    let b := (start.feed later).summary
    let known := a.discovered.map Report.opcode
    (start.feed (before ++ later)).summary =
      { commands := a.commands + b.commands
        dialogue := a.dialogue + b.dialogue
        operations := a.operations + b.operations
        defaults := a.defaults + b.defaults + (b.discovered.filter (·.opcode ∈ known)).length
        discovered := a.discovered ++ b.discovered.filter (·.opcode ∉ known)
        fallbacks := a.fallbacks ++ b.fallbacks
        failures := a.failures ++ b.failures } := by
  intro a b known
  have events : (start.feed (before ++ later)).events =
      (start.feed before).events ++ (start.feed later).events.map (Event.demote known) :=
    feed_append_events before later
  simp only [summary, start_feed_reports, events, a, b]
  congr 1
  · rw [List.length_append, List.length_map]
  · simp only [List.countP_append, List.countP_map, Function.comp_def, Event.demote_line?]
  · simp only [List.countP_append, List.countP_map, Function.comp_def, Event.demote_operation?]
  · rw [List.countP_append, Event.countP_isRepeated_demote, Nat.add_assoc]
  · rw [List.filterMap_append, Event.filterMap_report?_demote]
  · simp only [List.flatMap_append, List.flatMap_map, Event.demote_fallbacks, Event.demote_index]
  · simp only [List.filterMap_append, List.filterMap_map, Function.comp_def, Event.demote_failure?]

end Run

namespace Processor

variable {σ : Type}

theorem finish_summary (handler : Handler σ) (state : σ) (commands : List Command) :
    ((start state).feed handler commands).finish.summary =
      (Run.start.feed commands).summary := by
  rw [feed_start]
  rfl

/-- The calls over two lists are those over the first, and those over the second corrected for the
    names that the first reported. -/
theorem recorder_append (before later : List Command) :
    let known := (Run.start.feed before).discovery.reports.map Report.opcode
    let calls (commands : List Command) := ((start []).feed .recorder commands).state
    calls (before ++ later) = calls before ++ (calls later).map (Callback.demote known) := by
  intro known calls
  simp only [calls, recorder_state, ← Run.start_feed_events, Run.feed_append_events,
    List.map_append, List.map_map, Function.comp_def, Event.callback_demote, known]

/-- Runs compose. Three handlers are fed two lists apart and one after the other. Counts add up,
    fallbacks and failures follow one another, and so do the reports, less those of the second
    list that share a name with the first: these are defaults now, and in the calls they are the
    only ones that change. -/
theorem feed_append {σ₁ σ₂ σ₃ : Type} (first : Handler σ₁) (second : Handler σ₂)
    (both : Handler σ₃) (start₁ : σ₁) (start₂ : σ₂) (start₃ : σ₃) (before later : List Command) :
    let a := ((start start₁).feed first before).finish.summary
    let b := ((start start₂).feed second later).finish.summary
    let c := ((start start₃).feed both (before ++ later)).finish.summary
    let known := a.discovered.map Report.opcode
    let shared := b.discovered.filter (·.opcode ∈ known)
    let calls (commands : List Command) := ((start []).feed .recorder commands).state
    (c.commands = a.commands + b.commands ∧ c.dialogue = a.dialogue + b.dialogue ∧
        c.operations = a.operations + b.operations) ∧
      (c.fallbacks = a.fallbacks ++ b.fallbacks ∧ c.failures = a.failures ++ b.failures) ∧
      c.discovered = a.discovered ++ b.discovered.filter (·.opcode ∉ known) ∧
      c.defaults = a.defaults + b.defaults + shared.length ∧
      calls (before ++ later) = calls before ++ (calls later).map (Callback.demote known) := by
  intro a b c known shared calls
  have whole : c = _ :=
    (finish_summary both start₃ (before ++ later)).trans (Run.feed_append_summary before later)
  rw [← finish_summary first start₁, ← finish_summary second start₂] at whole
  have told : calls (before ++ later) = calls before ++ (calls later).map (Callback.demote known) := by
    rw [show known = _ from congrArg (fun summary => summary.discovered.map Report.opcode)
      (finish_summary first start₁ before)]
    exact recorder_append before later
  exact ⟨⟨congrArg Summary.commands whole, congrArg Summary.dialogue whole,
      congrArg Summary.operations whole⟩,
    ⟨congrArg Summary.fallbacks whole, congrArg Summary.failures whole⟩,
    congrArg Summary.discovered whole, congrArg Summary.defaults whole, told⟩

end Processor
end Scenario
