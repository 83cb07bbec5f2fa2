import Scenario.Proofs.Composition
import Scenario.Proofs.Totals

/-! # Taking a command out

A command is there for the others only as the first sighting of its opcode name.
Without it, the next command that reaches discovery with the name is the first
sighting, and nothing else becomes of any other command.
-/

namespace Scenario

namespace Event

theorem demote_eq_self_of_settled {command : Command} {outcome : Outcome} (known : List String)
    (settled : command.settled? = some outcome) :
    demote known ⟨command, outcome⟩ = ⟨command, outcome⟩ := by
  rcases Command.settled?_cases settled with
    ⟨line, rfl⟩ | ⟨operation, fallbacks, rfl⟩ | ⟨error, rfl⟩ <;> rfl

end Event

namespace Discovery

/-- Names known from before make no difference to commands that cannot be their first sighting. -/
theorem trace_demote_eq_self {known : List String} {discovery : Discovery}
    {commands : List Command}
    (apart : ∀ command ∈ commands, command.ReachesDiscovery → command.opcode ∈ known →
      command.opcode ∈ discovery.seen) :
    (discovery.trace commands).map (Event.demote known) = discovery.trace commands := by
  induction commands generalizing discovery with
  | nil => rfl
  | cons command rest ih =>
      rw [trace_cons, List.map_cons, ih]
      · congr 1
        rcases classify_cases discovery command with
          ⟨outcome, settled, routed⟩ | ⟨-, -, routed⟩ | ⟨reaches, unseen, routed⟩
        · rw [routed]
          exact Event.demote_eq_self_of_settled known settled
        · rw [routed]
          rfl
        · rw [routed]
          apply if_neg
          intro isKnown
          exact unseen (apart command List.mem_cons_self
            (Command.settled?_eq_none_iff.mp reaches) isKnown)
      · intro other member reaches isKnown
        exact mem_seen_classify.mpr
          (.inl (apart other (List.mem_cons_of_mem command member) reaches isKnown))

theorem inherits_sight (discovery : Discovery) (command : Command) :
    Inherits [command.opcode] discovery (discovery.sight command) := by
  intro name
  simp only [sight, List.mem_cons, List.not_mem_nil, or_false]

theorem trace_sight (discovery : Discovery) (command : Command) (later : List Command) :
    (discovery.sight command).trace later =
      (discovery.trace later).map (Event.demote [command.opcode]) :=
  (inherits_sight discovery command).trace later

/-- A command that is no first sighting, or the only one of its name to reach discovery, leaves no
    trace in what becomes of those after it. -/
theorem trace_classify_eq (discovery : Discovery) {command : Command} {later : List Command}
    (apart : (∀ report, (discovery.classify command).1 ≠ .ok (.discovered report)) ∨
      ∀ other ∈ later, ¬ (other.ReachesDiscovery ∧ other.opcode = command.opcode)) :
    (discovery.classify command).2.trace later = discovery.trace later := by
  rcases classify_cases discovery command with
    ⟨outcome, -, routed⟩ | ⟨-, -, routed⟩ | ⟨-, -, routed⟩
  · rw [routed]
  · rw [routed]
  · rcases apart with unreported | alone
    · exact absurd (congrArg Prod.fst routed) (unreported _)
    · rw [routed, trace_sight]
      apply trace_demote_eq_self
      intro other member reaches shared
      exact absurd ⟨reaches, List.mem_singleton.mp shared⟩ (alone other member)

/-- The next command to reach discovery with the name of a first sighting repeats it, and is the
    first sighting itself if the other is not there. -/
theorem trace_sight_of_next {discovery : Discovery} {command next : Command}
    {between : List Command} (unseen : command.opcode ∉ discovery.seen)
    (reaches : next.ReachesDiscovery) (same : next.opcode = command.opcode)
    (apart : ∀ other ∈ between, ¬ (other.ReachesDiscovery ∧ other.opcode = command.opcode))
    (rest : List Command) :
    ∃ others, others.map Event.command = rest ∧
      (discovery.sight command).trace (between ++ next :: rest) =
        discovery.trace between ++ ⟨next, .ok .repeated⟩ :: others ∧
      discovery.trace (between ++ next :: rest) =
        discovery.trace between ++ ⟨next, .ok (.discovered (.ofCommand next))⟩ :: others := by
  have stillUnseen : next.opcode ∉ (discovery.after between).seen := by
    rw [same, mem_seen_after, not_or]
    refine ⟨unseen, ?_⟩
    rintro ⟨other, member, shared⟩
    exact apart other member shared
  have isFirst := classify_of_unseen (Command.settled?_eq_none_iff.mpr reaches) stillUnseen
  have without : discovery.trace (between ++ next :: rest) =
      discovery.trace between ++ ⟨next, .ok (.discovered (.ofCommand next))⟩ ::
        ((discovery.after between).sight next).trace rest := by
    rw [trace_append, trace_cons, isFirst]
  refine ⟨_, trace_commands _ rest, ?_, without⟩
  rw [trace_sight, without, List.map_append, List.map_cons, trace_demote_eq_self,
    trace_demote_eq_self]
  · congr 2
    exact if_pos (List.mem_singleton.mpr same)
  · -- once `next` was sighted the name is no news, wherever it is known from
    intro other member reaches shared
    rw [List.mem_singleton.mp shared, ← same]
    exact List.mem_cons_self
  · intro other member reaches shared
    exact absurd ⟨reaches, List.mem_singleton.mp shared⟩ (apart other member)

end Discovery

namespace Processor

/-- A command affects others only as the first sighting of its name. Where it is no such sighting,
    or no later command reaches discovery with its name, the run without it tells the same of every
    other command, and its summary lacks just what the command adds to the counts and lists. Else
    the first later command that reaches discovery with the name is reported, in its own place,
    where it was a repeat before, and of all others the same is told and counted. -/
theorem feed_without {σ : Type} (handler : Handler σ) (start : σ) (before later : List Command)
    (command : Command) :
    let calls (commands : List Command) := ((Processor.start []).feed .recorder commands).state
    let summary (commands : List Command) :=
      ((Processor.start start).feed handler commands).finish.summary
    let became : Event := ⟨command, ((Discovery.empty.after before).classify command).1⟩
    let sharing (other : Command) := other.ReachesDiscovery ∧ other.opcode = command.opcode
    ((∀ report, became.outcome ≠ .ok (.discovered report)) ∨ (∀ other ∈ later, ¬ sharing other) →
      ∃ events, events.map Event.command = later ∧
        calls (before ++ command :: later) =
          calls before ++ became.callback :: events.map Event.callback ∧
        calls (before ++ later) = calls before ++ events.map Event.callback ∧
        summary (before ++ command :: later) =
          summary before ++ .ofEvent became ++ .ofEvents events ∧
        summary (before ++ later) = summary before ++ .ofEvents events) ∧
      ∀ report between next rest, became.outcome = .ok (.discovered report) →
        later = between ++ next :: rest → sharing next → (∀ other ∈ between, ¬ sharing other) →
        ∃ events others, events.map Event.command = between ∧ others.map Event.command = rest ∧
          calls (before ++ command :: later) = calls before ++ .discovered command report ::
            events.map Event.callback ++ .unhandled next :: others.map Event.callback ∧
          calls (before ++ later) = calls before ++ events.map Event.callback ++
            .discovered next (.ofCommand next) :: others.map Event.callback ∧
          summary (before ++ command :: later) = summary before ++ .ofEvent became ++
            .ofEvents events ++ .ofEvent ⟨next, .ok .repeated⟩ ++ .ofEvents others ∧
          summary (before ++ later) = summary before ++ .ofEvents events ++
            .ofEvent ⟨next, .ok (.discovered (.ofCommand next))⟩ ++ .ofEvents others := by
  intro calls summary became sharing
  have told (commands : List Command) :
      calls commands = (Discovery.empty.trace commands).map Event.callback :=
    recorder_state commands
  have counted (commands : List Command) :
      summary commands = .ofEvents (Discovery.empty.trace commands) :=
    feed_finish_summary handler start commands
  have without := Discovery.empty.trace_append before later
  constructor
  · intro apart
    have whole : Discovery.empty.trace (before ++ command :: later) =
        Discovery.empty.trace before ++ became ::
          (Discovery.empty.after before).trace later := by
      rw [Discovery.trace_append, Discovery.trace_cons, Discovery.trace_classify_eq _ apart]
    refine ⟨_, (Discovery.empty.after before).trace_commands later, ?_, ?_, ?_, ?_⟩
    · rw [told, told, whole, List.map_append, List.map_cons]
    · rw [told, told, without, List.map_append]
    · rw [counted, counted, whole, Summary.ofEvents_append, Summary.ofEvents, Summary.append_assoc]
    · rw [counted, counted, without, Summary.ofEvents_append]
  · intro report between next rest found split shares apart
    obtain ⟨unseen, -, sighted⟩ := Discovery.classify_of_discovered found
    obtain ⟨others, ofRest, repeated, reported⟩ :=
      Discovery.trace_sight_of_next unseen shares.1 shares.2 apart rest
    have whole : Discovery.empty.trace (before ++ command :: later) =
        Discovery.empty.trace before ++ became ::
          ((Discovery.empty.after before).trace between ++ ⟨next, .ok .repeated⟩ :: others) := by
      rw [Discovery.trace_append, Discovery.trace_cons, sighted, split, repeated]
    have call : became.callback = .discovered command report := by
      rw [Event.callback, found]
    rw [split, reported] at without
    refine ⟨_, others, (Discovery.empty.after before).trace_commands between, ofRest,
      ?_, ?_, ?_, ?_⟩
    · rw [told, told, whole]
      simp only [List.map_append, List.map_cons, List.cons_append, List.append_assoc, call]
      rfl
    · rw [told, told, split, without]
      simp only [List.map_append, List.map_cons, List.append_assoc]
      rfl
    · rw [counted, counted, whole]
      simp only [Summary.ofEvents_append, Summary.ofEvents, Summary.append_assoc]
    · rw [counted, counted, split, without]
      simp only [Summary.ofEvents_append, Summary.ofEvents, Summary.append_assoc]

theorem feed_without_first_glow :
    let glow (index : Nat) : Command := ⟨index, "glow", .primary, fun _ => none, []⟩
    let speech : Command :=
      { glow 1 with args := fun slot => if slot.val = 1 then some (.string "hello") else none }
    let calls (commands : List Command) := ((start []).feed .recorder commands).state
    (glow 2).ReachesDiscovery ∧ ¬ speech.ReachesDiscovery ∧
      (Discovery.empty.classify (glow 0)).1 = .ok (.discovered (.ofCommand (glow 0))) ∧
      ∃ told, calls [glow 0, speech, glow 2] =
          .discovered (glow 0) (.ofCommand (glow 0)) :: told ++ [.unhandled (glow 2)] ∧
        calls [speech, glow 2] = told ++ [.discovered (glow 2) (.ofCommand (glow 2))] := by
  intro glow speech calls
  have firstReaches : (glow 0).ReachesDiscovery := by decide +kernel
  have reaches : (glow 2).ReachesDiscovery := by decide +kernel
  have spoken : ¬ speech.ReachesDiscovery := by decide +kernel
  have found : (Discovery.empty.classify (glow 0)).1 =
      .ok (.discovered (.ofCommand (glow 0))) :=
    congrArg Prod.fst (Discovery.classify_of_unseen
      (Command.settled?_eq_none_iff.mpr firstReaches) List.not_mem_nil)
  have apart (other : Command) (member : other ∈ [speech]) :
      ¬ (other.ReachesDiscovery ∧ other.opcode = (glow 0).opcode) := by
    rw [List.mem_singleton.mp member]
    exact fun sharing => spoken sharing.1
  obtain ⟨events, others, -, none, whole, without, -⟩ :=
    (feed_without .recorder [] [] [speech, glow 2] (glow 0)).2 _ [speech] (glow 2) [] found rfl
      ⟨reaches, rfl⟩ apart
  obtain rfl : others = [] := List.map_eq_nil_iff.mp none
  exact ⟨reaches, spoken, found, _, whole, without⟩

end Processor

end Scenario
