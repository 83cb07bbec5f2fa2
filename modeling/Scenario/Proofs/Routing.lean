import Scenario.Dispatch

/-! # What routing a command can do

Only a command that no other rule settles reaches discovery, and only the first
sighting of its name changes what is discovered. Every fact about runs is drawn
from the three cases of `Discovery.classify_cases`.
-/

namespace Scenario

namespace Opcode

/-- No name is listed twice. -/
theorem lookup?_eq_some_iff {name : String} {opcode : Opcode} :
    lookup? name = some opcode ↔ (name, opcode) ∈ names :=
  lookup_eq_some_iff_mem (by decide)

theorem lookup?_eq_none_iff {name : String} :
    lookup? name = none ↔ ∀ opcode, (name, opcode) ∉ names := by
  simp only [Option.eq_none_iff_forall_ne_some, ne_eq, lookup?_eq_some_iff]

end Opcode

namespace Command

/-- The command passes all rules before discovery: its opcode name has no separator and is not
    registered, and the command is no line without a tag. -/
def ReachesDiscovery (command : Command) : Prop :=
  '：' ∉ command.opcode.toList ∧ Opcode.lookup? command.opcode = none ∧
    ¬ ((command.arg? 1).isSome ∧ command.arg? 0 = none)

instance (command : Command) : Decidable command.ReachesDiscovery := by
  unfold ReachesDiscovery; infer_instance

theorem isTag_iff {label : String} : Speaker.isTag label = true ↔ '：' ∈ label.toList :=
  List.contains_iff_mem

theorem taggedLine?_eq_none_iff {command : Command} :
    command.taggedLine? = none ↔ '：' ∉ command.opcode.toList := by
  rw [← isTag_iff]
  by_cases tag : Speaker.isTag command.opcode = true <;> simp [taggedLine?, tag]

theorem untaggedLine?_eq_none_iff {command : Command} :
    command.untaggedLine? = none ↔ ¬ ((command.arg? 1).isSome ∧ command.arg? 0 = none) := by
  cases first : command.arg? 0 <;> cases text : command.arg? 1 <;>
    simp [untaggedLine?, textSlot, first, text]

theorem settled?_eq_none_iff {command : Command} :
    command.settled? = none ↔ command.ReachesDiscovery := by
  unfold settled? ReachesDiscovery
  rw [← taggedLine?_eq_none_iff, ← untaggedLine?_eq_none_iff]
  cases command.taggedLine? with
  | some line => simp
  | none => cases Opcode.lookup? command.opcode <;> simp

/-- The rules before discovery make a line, an operation or an error of a command. -/
theorem settled?_cases {command : Command} {outcome : Outcome}
    (settled : command.settled? = some outcome) :
    (∃ line, outcome = .ok (.dialogue line)) ∨
      (∃ operation fallbacks, outcome = .ok (.operation operation fallbacks)) ∨
      ∃ error, outcome = .error error := by
  unfold settled? at settled
  split at settled
  · next tagged _ =>
      cases tagged with
      | ok line => exact .inl ⟨line, by cases settled; rfl⟩
      | error error => exact .inr (.inr ⟨error, by cases settled; rfl⟩)
  · split at settled
    · next opcode _ =>
        cases bound : opcode.bind command.present with
        | ok binding =>
            simp only [Opcode.dispatch, bound, Option.some.injEq] at settled
            exact .inr (.inl ⟨_, _, settled.symm⟩)
        | error error =>
            simp only [Opcode.dispatch, bound, Option.some.injEq] at settled
            exact .inr (.inr ⟨_, settled.symm⟩)
    · obtain ⟨line, -, rfl⟩ := Option.map_eq_some_iff.mp settled
      exact .inl ⟨line, rfl⟩

/-- Only registered commands whose arguments bind are operations. -/
theorem settled?_operation {command : Command} {operation : Operation} {fallbacks : List Fallback}
    (settled : command.settled? = some (.ok (.operation operation fallbacks))) :
    '：' ∉ command.opcode.toList ∧
      ∃ opcode binding, Opcode.lookup? command.opcode = some opcode ∧
        opcode.bind command.present = .ok binding ∧ operation = .ofBinding binding ∧
        fallbacks = binding.fallbacks := by
  unfold settled? at settled
  split at settled
  · next tagged _ => cases tagged <;> cases settled
  · next untagged =>
      refine ⟨taggedLine?_eq_none_iff.mp untagged, ?_⟩
      split at settled
      · next opcode registered =>
          cases bound : opcode.bind command.present with
          | error error => simp [Opcode.dispatch, bound] at settled
          | ok binding =>
              simp only [Opcode.dispatch, bound, Option.some.injEq, Except.ok.injEq,
                Dispatch.operation.injEq] at settled
              exact ⟨opcode, binding, registered, bound, settled.1.symm, settled.2.symm⟩
      · simp at settled

theorem settled?_of_registered {command : Command} {opcode : Opcode}
    (untagged : '：' ∉ command.opcode.toList)
    (registered : Opcode.lookup? command.opcode = some opcode) :
    command.settled? = some (opcode.dispatch command.present) := by
  simp only [settled?, taggedLine?_eq_none_iff.mpr untagged, registered]

theorem settled?_of_unbound {command : Command} {opcode : Opcode} {error : BindError}
    (untagged : '：' ∉ command.opcode.toList)
    (registered : Opcode.lookup? command.opcode = some opcode)
    (unbound : opcode.bind command.present = .error error) :
    command.settled? = some (.error (.unbound error)) := by
  rw [settled?_of_registered untagged registered, Opcode.dispatch, unbound]

end Command

namespace Discovery

/-- What is discovered after the first sighting of a command's opcode name. -/
def sight (discovery : Discovery) (command : Command) : Discovery :=
  ⟨command.opcode :: discovery.seen, discovery.reports ++ [Report.ofCommand command]⟩

theorem observe_of_seen {discovery : Discovery} {command : Command}
    (seen : command.opcode ∈ discovery.seen) : discovery.observe command = (none, discovery) := by
  simp [observe, seen]

theorem observe_of_unseen {discovery : Discovery} {command : Command}
    (unseen : command.opcode ∉ discovery.seen) :
    discovery.observe command = (some (Report.ofCommand command), discovery.sight command) := by
  simp [observe, unseen, sight]

theorem classify_of_settled (discovery : Discovery) {command : Command} {outcome : Outcome}
    (settled : command.settled? = some outcome) :
    discovery.classify command = (outcome, discovery) := by
  simp only [classify, settled]

theorem classify_of_seen {discovery : Discovery} {command : Command}
    (reaches : command.settled? = none) (seen : command.opcode ∈ discovery.seen) :
    discovery.classify command = (.ok .repeated, discovery) := by
  simp only [classify, reaches, observe_of_seen seen]

theorem classify_of_unseen {discovery : Discovery} {command : Command}
    (reaches : command.settled? = none) (unseen : command.opcode ∉ discovery.seen) :
    discovery.classify command =
      (.ok (.discovered (Report.ofCommand command)), discovery.sight command) := by
  simp only [classify, reaches, observe_of_unseen unseen]

/-- All that routing can do: a rule before discovery settles the command, or discovery knows its
    name already, or it is the first sighting of its name. -/
theorem classify_cases (discovery : Discovery) (command : Command) :
    (∃ outcome, command.settled? = some outcome ∧
        discovery.classify command = (outcome, discovery)) ∨
      (command.settled? = none ∧ command.opcode ∈ discovery.seen ∧
        discovery.classify command = (.ok .repeated, discovery)) ∨
      (command.settled? = none ∧ command.opcode ∉ discovery.seen ∧
        discovery.classify command =
          (.ok (.discovered (Report.ofCommand command)), discovery.sight command)) := by
  cases settled : command.settled? with
  | some outcome => exact .inl ⟨outcome, rfl, classify_of_settled discovery settled⟩
  | none =>
      by_cases seen : command.opcode ∈ discovery.seen
      · exact .inr (.inl ⟨rfl, seen, classify_of_seen settled seen⟩)
      · exact .inr (.inr ⟨rfl, seen, classify_of_unseen settled seen⟩)

/-- Outcomes other than those of discovery are the same in every state. -/
theorem classify_eq_iff {discovery : Discovery} {command : Command} {outcome : Outcome}
    (notRepeated : outcome ≠ .ok .repeated)
    (notDiscovered : ∀ report, outcome ≠ .ok (.discovered report)) :
    (discovery.classify command).1 = outcome ↔ command.settled? = some outcome := by
  rcases classify_cases discovery command with
    ⟨other, settled, routed⟩ | ⟨reaches, -, routed⟩ | ⟨reaches, -, routed⟩
  · rw [routed, settled, Option.some.injEq]
  · simp [routed, reaches, Ne.symm notRepeated]
  · simp [routed, reaches, Ne.symm (notDiscovered _)]

theorem classify_of_discovered {discovery : Discovery} {command : Command} {report : Report}
    (found : (discovery.classify command).1 = .ok (.discovered report)) :
    command.opcode ∉ discovery.seen ∧ report = .ofCommand command ∧
      (discovery.classify command).2 = discovery.sight command := by
  rcases classify_cases discovery command with
    ⟨outcome, settled, routed⟩ | ⟨-, -, routed⟩ | ⟨-, unseen, routed⟩
  · rw [routed] at found
    rcases Command.settled?_cases settled with
      ⟨line, rfl⟩ | ⟨operation, fallbacks, rfl⟩ | ⟨error, rfl⟩ <;> cases found
  · rw [routed] at found
    cases found
  · rw [routed] at found ⊢
    cases found
    exact ⟨unseen, rfl, rfl⟩

/-- A command that reaches discovery leaves its name there; no other leaves anything. -/
theorem mem_seen_classify {discovery : Discovery} {command : Command} {name : String} :
    name ∈ (discovery.classify command).2.seen ↔
      name ∈ discovery.seen ∨ command.ReachesDiscovery ∧ command.opcode = name := by
  rw [← Command.settled?_eq_none_iff]
  rcases classify_cases discovery command with
    ⟨outcome, settled, routed⟩ | ⟨reaches, seen, routed⟩ | ⟨reaches, -, routed⟩
  · simp only [routed, settled, reduceCtorEq, false_and, or_false]
  · simp only [routed, reaches, true_and]
    exact ⟨.inl, fun either => either.elim id fun same => same ▸ seen⟩
  · simp only [routed, sight, List.mem_cons, reaches, true_and]
    exact ⟨fun either => either.symm.imp_right Eq.symm, fun either => either.symm.imp_left Eq.symm⟩

theorem classify_operation_iff {discovery : Discovery} {command : Command} {operation : Operation}
    {fallbacks : List Fallback} :
    (discovery.classify command).1 = .ok (.operation operation fallbacks) ↔
      command.settled? = some (.ok (.operation operation fallbacks)) :=
  classify_eq_iff (by simp) (by simp)

theorem classify_error_iff {discovery : Discovery} {command : Command} {error : DispatchError} :
    (discovery.classify command).1 = .error error ↔ command.settled? = some (.error error) :=
  classify_eq_iff (by simp) (by simp)

end Discovery
end Scenario
