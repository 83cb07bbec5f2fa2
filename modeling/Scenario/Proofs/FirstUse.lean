import Mathlib.Order.Lattice.Nat
import Scenario.Proofs.Accounting
import Scenario.Proofs.Precedence

/-! # First uses

A report gives the place of the first command that reaches discovery with its
name. Lines without a tag use names too and never reach discovery. Where such a
line is the first use of a name, the report gives a later place.
-/

namespace Scenario

theorem Event.report?_eq_some_iff {event : Event} {report : Report} :
    event.report? = some report ↔ event.outcome = .ok (.discovered report) := by
  obtain ⟨command, outcome⟩ := event
  rcases outcome with error | (line | ⟨operation, fallbacks⟩ | found | -) <;> simp [report?]

namespace Discovery

theorem classify_discovered_iff {discovery : Discovery} {command : Command} {report : Report} :
    (discovery.classify command).1 = .ok (.discovered report) ↔
      command.ReachesDiscovery ∧ command.opcode ∉ discovery.seen ∧
        .ofCommand command = report := by
  rw [← Command.settled?_eq_none_iff]
  rcases classify_cases discovery command with
    ⟨outcome, settled, routed⟩ | ⟨reaches, seen, routed⟩ | ⟨reaches, unseen, routed⟩
  · rcases Command.settled?_cases settled with
      ⟨line, rfl⟩ | ⟨operation, fallbacks, rfl⟩ | ⟨error, rfl⟩ <;>
      simp [routed, settled]
  · simp [routed, seen]
  · simp [routed, reaches, unseen]

/-- An event of a trace is that of its command in the state that the commands before it left. -/
theorem mem_trace_iff {discovery : Discovery} {commands : List Command} {event : Event} :
    event ∈ discovery.trace commands ↔
      ∃ before command later, commands = before ++ command :: later ∧
        event = ⟨command, ((discovery.after before).classify command).1⟩ := by
  constructor
  · intro traced
    induction commands generalizing discovery with
    | nil => cases traced
    | cons command rest ih =>
        rcases List.mem_cons.mp traced with rfl | inRest
        · exact ⟨[], command, rest, rfl, rfl⟩
        · obtain ⟨before, next, later, rfl, became⟩ := ih inRest
          exact ⟨command :: before, next, later, rfl, became⟩
  · rintro ⟨before, command, later, rfl, rfl⟩
    rw [trace_append, trace_cons]
    exact List.mem_append_right _ List.mem_cons_self

/-- The reports are those of the commands that reach discovery with a name that no earlier command
    brought there. -/
theorem mem_reports_after_iff {commands : List Command} {report : Report} :
    report ∈ (empty.after commands).reports ↔
      ∃ before command later, commands = before ++ command :: later ∧
        command.ReachesDiscovery ∧ .ofCommand command = report ∧
        ∀ other ∈ before, other.ReachesDiscovery → other.opcode ≠ command.opcode := by
  have unseen_iff (before : List Command) (command : Command) :
      command.opcode ∉ (empty.after before).seen ↔
        ∀ other ∈ before, other.ReachesDiscovery → other.opcode ≠ command.opcode := by
    simp [mem_seen_after, empty]
  rw [after_reports, show empty.reports = [] from rfl, List.nil_append, List.mem_filterMap]
  simp only [Event.report?_eq_some_iff, mem_trace_iff]
  constructor
  · rintro ⟨_, ⟨before, command, later, split, rfl⟩, found⟩
    obtain ⟨reaches, unseen, same⟩ := classify_discovered_iff.mp found
    exact ⟨before, command, later, split, reaches, same, (unseen_iff before command).mp unseen⟩
  · rintro ⟨before, command, later, split, reaches, same, apart⟩
    exact ⟨_, ⟨before, command, later, split, rfl⟩,
      classify_discovered_iff.mpr ⟨reaches, (unseen_iff before command).mpr apart, same⟩⟩

end Discovery

namespace Command

variable {command other : Command}

/-- A command with a name that another brought to discovery gets there too, unless it is a line
    without a tag. -/
theorem reachesDiscovery_iff_of_opcode_eq (reaches : other.ReachesDiscovery)
    (same : command.opcode = other.opcode) :
    command.ReachesDiscovery ↔ ¬ ((command.arg? 1).isSome ∧ command.arg? 0 = none) := by
  obtain ⟨untagged, unregistered, -⟩ := reaches
  rw [← same] at untagged unregistered
  exact ⟨fun reached => reached.2.2, fun unspoken => ⟨untagged, unregistered, unspoken⟩⟩

theorem exists_line_of_not_reachesDiscovery (reaches : other.ReachesDiscovery)
    (same : command.opcode = other.opcode) (settled : ¬ command.ReachesDiscovery) :
    ∃ text, command.line? = some ⟨.untagged command.opcode, text⟩ := by
  rw [reachesDiscovery_iff_of_opcode_eq reaches same, not_not] at settled
  obtain ⟨filled, free⟩ := settled
  obtain ⟨text, spoken⟩ := Option.isSome_iff_exists.mp filled
  obtain ⟨untagged, unregistered, -⟩ := reaches
  rw [← same] at untagged unregistered
  exact ⟨text, by simp [line?, untagged, unregistered, free, spoken]⟩

end Command

namespace Script

/-- The places of the commands with an opcode name. -/
def uses (script : Script) (name : String) : Set Nat :=
  {index | ∃ command ∈ script.commands, command.opcode = name ∧ command.index = index}

/-- The places of those that reach discovery. -/
def sightings (script : Script) (name : String) : Set Nat :=
  {index | ∃ command ∈ script.commands,
    command.opcode = name ∧ command.ReachesDiscovery ∧ command.index = index}

theorem mem_before_iff {script : Script} {before later : List Command} {command other : Command}
    (split : script.commands = before ++ command :: later) :
    other ∈ before ↔ other ∈ script.commands ∧ other.index < command.index := by
  have ascending : (script.commands.map Command.index).Pairwise (· < ·) := by
    rw [script.numbered]
    exact List.pairwise_lt_range
  rw [split] at ascending ⊢
  obtain ⟨-, ascendingFrom, below⟩ := List.pairwise_append.mp (List.pairwise_map.mp ascending)
  constructor
  · intro earlier
    exact ⟨List.mem_append_left _ earlier, below other earlier command List.mem_cons_self⟩
  · rintro ⟨member, less⟩
    rcases List.mem_append.mp member with earlier | rest
    · exact earlier
    · rcases List.mem_cons.mp rest with rfl | isLater
      · exact absurd less (lt_irrefl _)
      · exact absurd less (List.rel_of_pairwise_cons ascendingFrom isLater).asymm

theorem exists_first_use {script : Script} {name : String} (used : (script.uses name).Nonempty) :
    ∃ first ∈ script.commands, first.opcode = name ∧ IsLeast (script.uses name) first.index := by
  obtain ⟨index, least⟩ : ∃ index, IsLeast (script.uses name) index :=
    ⟨sInf (script.uses name), Nat.sInf_mem used, fun _ => Nat.sInf_le⟩
  obtain ⟨first, member, same, rfl⟩ := least.1
  exact ⟨first, member, same, least⟩

/-- There is a report with a name and a place just where the place is the least at which a command
    reaches discovery with the name. -/
theorem exists_report_iff (script : Script) (name : String) (index : Nat) :
    (∃ report ∈ script.run.summary.discovered, report.opcode = name ∧ report.firstIndex = index) ↔
      IsLeast (script.sightings name) index := by
  rw [Run.summary, run_discovery]
  simp only [Discovery.mem_reports_after_iff]
  constructor
  · rintro ⟨_, ⟨before, command, later, split, reaches, rfl, apart⟩, rfl, rfl⟩
    refine ⟨⟨command, by simp [split], rfl, reaches, rfl⟩, ?_⟩
    rintro _ ⟨other, member, same, otherReaches, rfl⟩
    by_contra less
    exact apart other ((mem_before_iff split).mpr ⟨member, not_le.mp less⟩) otherReaches same
  · rintro ⟨⟨command, member, rfl, reaches, rfl⟩, least⟩
    obtain ⟨before, later, split⟩ := List.append_of_mem member
    refine ⟨.ofCommand command, ⟨before, command, later, split, reaches, rfl, ?_⟩, rfl, rfl⟩
    intro other earlier otherReaches same
    obtain ⟨otherMember, less⟩ := (mem_before_iff split).mp earlier
    exact absurd (least ⟨other, otherMember, same, otherReaches, rfl⟩) (not_le.mpr less)

/-- The places in the reports are the least ones at which commands reach discovery with a name, and
    each of these is reported. Such a place is that of the first use of the name just if the first
    use does not fill the second argument slot and leave the first one empty: whatever uses the name
    before the place in its report is a line without a tag. -/
theorem firstIndex_isLeast {σ : Type} (script : Script) (handler : Handler σ) (start : σ) :
    let discovered := (script.runFor handler start).summary.discovered
    (∀ name index, (∃ report ∈ discovered, report.opcode = name ∧ report.firstIndex = index) ↔
        IsLeast (script.sightings name) index) ∧
      ∀ report ∈ discovered,
        (∃ first ∈ script.commands, first.opcode = report.opcode ∧
          IsLeast (script.uses report.opcode) first.index ∧
          (IsLeast (script.uses report.opcode) report.firstIndex ↔
            ¬ ((first.arg? 1).isSome ∧ first.arg? 0 = none))) ∧
        ∀ command ∈ script.commands, command.opcode = report.opcode →
          command.index < report.firstIndex →
          ∃ text, command.line? = some ⟨.untagged report.opcode, text⟩ := by
  rw [runFor_eq]
  refine ⟨script.exists_report_iff, fun report reported => ?_⟩
  obtain ⟨⟨sighted, member, same, reaches, place⟩, least⟩ :=
    (script.exists_report_iff report.opcode report.firstIndex).mp ⟨report, reported, rfl, rfl⟩
  constructor
  · obtain ⟨first, firstMember, firstSame, firstLeast⟩ :=
      exists_first_use ⟨sighted.index, sighted, member, same, rfl⟩
    refine ⟨first, firstMember, firstSame, firstLeast, ?_⟩
    -- the name is that of a sighting, so its first use is one too unless it is a line
    rw [← Command.reachesDiscovery_iff_of_opcode_eq reaches (firstSame.trans same.symm)]
    constructor
    · intro isFirst
      have samePlace : sighted.index = first.index := place.trans (isFirst.unique firstLeast)
      rwa [← script.eq_of_index_eq firstMember member samePlace]
    · intro firstReaches
      have low : report.firstIndex ≤ first.index :=
        least ⟨first, firstMember, firstSame, firstReaches, rfl⟩
      exact ⟨⟨sighted, member, same, place⟩, fun index used => low.trans (firstLeast.2 used)⟩
  · intro command commandMember commandSame less
    rw [← commandSame]
    apply Command.exists_line_of_not_reachesDiscovery reaches (commandSame.trans same.symm)
    intro commandReaches
    exact absurd (least ⟨command, commandMember, commandSame, commandReaches, rfl⟩)
      (not_le.mpr less)

theorem firstIndex_isLeast_before_speech :
    let sighting := Json.object [("arg0", .null), ("cmd0", .string "glow")]
    let speech := Json.object [("arg1", .string "hello"), ("cmd0", .string "glow")]
    let document := Json.object [("scr", .array [sighting, speech])]
    let report : Report := ⟨"glow", 0, [⟨0, .null⟩]⟩
    ∃ script, (ofDocument document).result = .ok script ∧
      report ∈ (script.runFor {} ()).summary.discovered ∧
      IsLeast (script.sightings "glow") 0 ∧ IsLeast (script.uses "glow") 0 := by
  intro sighting speech document report
  obtain ⟨script, loaded, discovered, used, filled⟩ :
      ∃ script, (ofDocument document).result = .ok script ∧
        (script.runFor {} ()).summary.discovered = [report] ∧ 0 ∈ script.uses "glow" ∧
        ∀ command ∈ script.commands, command.index ≤ 0 → command.arg? 0 ≠ none :=
    ⟨_, rfl, rfl, ⟨_, List.mem_cons_self, rfl, rfl⟩, by decide +kernel⟩
  have reported : report ∈ (script.runFor {} ()).summary.discovered := by simp [discovered]
  obtain ⟨least, uses⟩ := script.firstIndex_isLeast {} ()
  obtain ⟨⟨first, member, -, firstLeast, isFirst⟩, -⟩ := uses report reported
  refine ⟨script, loaded, reported, (least _ _).mp ⟨report, reported, rfl, rfl⟩, isFirst.mpr ?_⟩
  exact fun spoken => filled first member (firstLeast.2 used) spoken.2

/-- A line without a tag can be the first use of a name that is reported at a later place. -/
theorem firstIndex_after_speech :
    let speech := Json.object [("arg1", .string "hello"), ("cmd0", .string "glow")]
    let sighting := Json.object [("arg0", .null), ("cmd0", .string "glow")]
    let document := Json.object [("scr", .array [speech, sighting])]
    ∃ script, (ofDocument document).result = .ok script ∧
      ∃ report ∈ (script.runFor {} ()).summary.discovered,
        ¬ IsLeast (script.uses report.opcode) report.firstIndex := by
  intro speech sighting document
  obtain ⟨script, loaded, discovered, used⟩ :
      ∃ script, (ofDocument document).result = .ok script ∧
        (script.runFor {} ()).summary.discovered = [⟨"glow", 1, [⟨0, .null⟩]⟩] ∧
        0 ∈ script.uses "glow" :=
    ⟨_, rfl, rfl, _, List.mem_cons_self, rfl, rfl⟩
  refine ⟨script, loaded, _, discovered ▸ List.mem_singleton_self _, ?_⟩
  intro least
  exact absurd (least.2 used) (by decide)

end Script

end Scenario
