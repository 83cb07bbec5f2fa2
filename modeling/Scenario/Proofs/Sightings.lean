import Mathlib.Data.List.Induction
import Scenario.Proofs.Trace

/-! # First sightings

Commands reach discovery in two ways: they are shown to it, or no other rule
settles them. In whatever order such calls come, the reports are those of the
first call with each name, and no other call changes anything.
-/

namespace Scenario.Discovery

/-- A call on a state of discovery. -/
inductive Call where
  /-- Shows a command to discovery. -/
  | observe (command : Command)
  /-- Routes a command. -/
  | classify (command : Command)

/-- What a call gives back. -/
inductive Answer where
  | observed (report : Option Report)
  | classified (outcome : Outcome)

/-- The report that an answer brings. -/
def Answer.report? : Answer → Option Report
  | .observed report => report
  | .classified (.ok (.discovered report)) => some report
  | .classified _ => none

namespace Call

def command : Call → Command
  | .observe command => command
  | .classify command => command

def Reaches : Call → Prop
  | .observe _ => True
  | .classify command => command.ReachesDiscovery

instance (call : Call) : Decidable call.Reaches := by
  cases call <;> unfold Reaches <;> infer_instance

def reporting : Call → Report → Answer
  | .observe _, report => .observed (some report)
  | .classify _, report => .classified (.ok (.discovered report))

/-- The answer about a name that was reported before. -/
def silent : Call → Answer
  | .observe _ => .observed none
  | .classify _ => .classified (.ok .repeated)

/-- The call reaches discovery, and none of the earlier calls did so with its opcode name. -/
def IsFirst (earlier : List Call) (call : Call) : Prop :=
  call.Reaches ∧ ∀ other ∈ earlier, other.Reaches → other.command.opcode ≠ call.command.opcode

instance (earlier : List Call) (call : Call) : Decidable (call.IsFirst earlier) := by
  unfold IsFirst; infer_instance

/-- The calls that are the first with their opcode names, in order, where `earlier` calls were
    made before. -/
def firsts (earlier : List Call) : List Call → List Call
  | [] => []
  | call :: later =>
    if call.IsFirst earlier then call :: firsts (earlier ++ [call]) later
    else firsts (earlier ++ [call]) later

theorem firsts_sublist (earlier calls : List Call) : (firsts earlier calls).Sublist calls := by
  induction calls generalizing earlier with
  | nil => exact .slnil
  | cons call later ih =>
      simp only [firsts]
      split
      · exact (ih _).cons_cons call
      · exact (ih _).cons call

end Call

def call (discovery : Discovery) : Call → Answer × Discovery
  | .observe command => ((discovery.observe command).map .observed id)
  | .classify command => ((discovery.classify command).map .classified id)

/-- What is discovered after calls in order. -/
def afterCalls (discovery : Discovery) (calls : List Call) : Discovery :=
  calls.foldl (fun discovery call => (discovery.call call).2) discovery

@[simp] theorem afterCalls_concat (discovery : Discovery) (earlier : List Call) (call : Call) :
    discovery.afterCalls (earlier ++ [call]) = ((discovery.afterCalls earlier).call call).2 :=
  List.foldl_append

theorem after_eq_afterCalls (discovery : Discovery) (commands : List Command) :
    discovery.after commands = discovery.afterCalls (commands.map .classify) := by
  rw [afterCalls, List.foldl_map]
  rfl

theorem call_cases (discovery : Discovery) (call : Call) :
    (¬ call.Reaches ∧ (discovery.call call).1.report? = none ∧
        (discovery.call call).2 = discovery) ∨
      (call.Reaches ∧ call.command.opcode ∈ discovery.seen ∧
        discovery.call call = (call.silent, discovery)) ∨
      (call.Reaches ∧ call.command.opcode ∉ discovery.seen ∧
        discovery.call call =
          (call.reporting (.ofCommand call.command), discovery.sight call.command)) := by
  cases call with
  | observe command =>
      by_cases seen : command.opcode ∈ discovery.seen
      · exact .inr (.inl ⟨trivial, seen, by rw [Discovery.call, observe_of_seen seen]; rfl⟩)
      · exact .inr (.inr ⟨trivial, seen, by rw [Discovery.call, observe_of_unseen seen]; rfl⟩)
  | classify command =>
      rcases classify_cases discovery command with
        ⟨outcome, settled, routed⟩ | ⟨reaches, seen, routed⟩ | ⟨reaches, unseen, routed⟩
      · refine .inl ⟨fun reaches => ?_, ?_, by rw [Discovery.call, routed]; rfl⟩
        · simp [Command.settled?_eq_none_iff.mpr reaches] at settled
        · rw [Discovery.call, routed]
          rcases Command.settled?_cases settled with
            ⟨line, rfl⟩ | ⟨operation, fallbacks, rfl⟩ | ⟨error, rfl⟩ <;> rfl
      · exact .inr (.inl ⟨Command.settled?_eq_none_iff.mp reaches, seen,
          by rw [Discovery.call, routed]; rfl⟩)
      · exact .inr (.inr ⟨Command.settled?_eq_none_iff.mp reaches, unseen,
          by rw [Discovery.call, routed]; rfl⟩)

/-- The names that were seen are those of the reports, and each is reported once. -/
structure Consistent (discovery : Discovery) : Prop where
  agree : ∀ name, name ∈ discovery.seen ↔ name ∈ discovery.reports.map Report.opcode
  nodup : (discovery.reports.map Report.opcode).Nodup

theorem consistent_empty : empty.Consistent := by
  constructor <;> simp [empty]

theorem Consistent.sight {discovery : Discovery} (consistent : discovery.Consistent)
    {command : Command} (unseen : command.opcode ∉ discovery.seen) :
    (discovery.sight command).Consistent := by
  constructor
  · intro name
    simp only [Discovery.sight, List.mem_cons, consistent.agree name, List.map_append,
      List.mem_append, List.map_cons, List.map_nil, List.not_mem_nil, or_false]
    exact or_comm
  · simp only [Discovery.sight, List.map_append, List.map_cons, List.map_nil]
    refine List.nodup_append.mpr ⟨consistent.nodup, by simp, ?_⟩
    intro name reported other isNew
    rw [List.mem_singleton.mp isNew]
    rintro rfl
    exact unseen ((consistent.agree _).mpr reported)

theorem Consistent.call {discovery : Discovery} (consistent : discovery.Consistent)
    (call : Call) : (discovery.call call).2.Consistent := by
  rcases call_cases discovery call with
    ⟨-, -, same⟩ | ⟨-, -, made⟩ | ⟨-, unseen, made⟩
  · rwa [same]
  · rwa [made]
  · rw [made]
    exact consistent.sight unseen

theorem Consistent.afterCalls {discovery : Discovery} (consistent : discovery.Consistent)
    (calls : List Call) : (discovery.afterCalls calls).Consistent := by
  induction calls generalizing discovery with
  | nil => exact consistent
  | cons call later ih => exact ih (consistent.call call)

theorem consistent_after (commands : List Command) : (empty.after commands).Consistent := by
  rw [after_eq_afterCalls]
  exact consistent_empty.afterCalls _

theorem mem_seen_afterCalls {calls : List Call} {name : String} :
    name ∈ (empty.afterCalls calls).seen ↔
      ∃ call ∈ calls, call.Reaches ∧ call.command.opcode = name := by
  -- from the last call back, for it meets the state that all earlier ones left
  induction calls using List.reverseRecOn with
  | nil => simp [afterCalls, empty]
  | append_singleton earlier call ih =>
      rw [afterCalls_concat]
      simp only [List.mem_append, List.mem_singleton, or_and_right, exists_or, exists_eq_left]
      rw [← ih]
      rcases call_cases (empty.afterCalls earlier) call with
        ⟨unreached, -, same⟩ | ⟨-, seen, made⟩ | ⟨reaches, -, made⟩
      · simp only [same, unreached, false_and, or_false]
      · rw [made]
        exact ⟨.inl, fun either => either.elim id fun ⟨_, same⟩ => same ▸ seen⟩
      · simp only [made, Discovery.sight, List.mem_cons, reaches, true_and]
        exact ⟨fun either => either.symm.imp_right Eq.symm,
          fun either => either.symm.imp_left Eq.symm⟩

theorem isFirst_iff {earlier : List Call} {call : Call} :
    call.IsFirst earlier ↔
      call.Reaches ∧ call.command.opcode ∉ (empty.afterCalls earlier).seen := by
  simp only [Call.IsFirst, mem_seen_afterCalls, not_exists, not_and, ne_eq]

/-- What a call does depends on the earlier calls only through whether it is the first. -/
theorem call_afterCalls (earlier : List Call) (call : Call) :
    let before := empty.afterCalls earlier
    (call.IsFirst earlier →
        before.call call = (call.reporting (.ofCommand call.command), before.sight call.command)) ∧
      (¬ call.IsFirst earlier →
        (before.call call).1.report? = none ∧ (before.call call).2 = before) ∧
      (call.Reaches → ¬ call.IsFirst earlier → (before.call call).1 = call.silent) := by
  intro before
  simp only [isFirst_iff]
  rcases call_cases before call with
    ⟨unreached, unreported, same⟩ | ⟨reaches, seen, made⟩ | ⟨reaches, unseen, made⟩
  · exact ⟨fun first => absurd first.1 unreached, fun _ => ⟨unreported, same⟩,
      fun reaches => absurd reaches unreached⟩
  · refine ⟨fun first => absurd seen first.2, fun _ => ⟨?_, by rw [made]⟩, fun _ _ => by rw [made]⟩
    rw [made]
    cases call <;> rfl
  · exact ⟨fun _ => made, fun later => absurd ⟨reaches, unseen⟩ later,
      fun _ later => absurd ⟨reaches, unseen⟩ later⟩

theorem reports_afterCalls_append (earlier calls : List Call) :
    (empty.afterCalls (earlier ++ calls)).reports =
      (empty.afterCalls earlier).reports ++
        (Call.firsts earlier calls).map fun call => Report.ofCommand call.command := by
  induction calls generalizing earlier with
  | nil => simp [Call.firsts]
  | cons call later ih =>
      -- the call moves from the later calls to the earlier ones
      have step := ih (earlier ++ [call])
      rw [List.append_assoc, List.singleton_append, afterCalls_concat] at step
      obtain ⟨first, notFirst, -⟩ := call_afterCalls earlier call
      rw [step, Call.firsts]
      split
      · next isFirst =>
          simp only [first isFirst, Discovery.sight, List.append_assoc, List.singleton_append,
            List.map_cons]
      · next isLater => rw [(notFirst isLater).2]

theorem reports_afterCalls (calls : List Call) :
    (empty.afterCalls calls).reports =
      (Call.firsts [] calls).map fun call => Report.ofCommand call.command :=
  reports_afterCalls_append [] calls

/-- The reported indices are among those of the commands, in the same order. -/
theorem after_firstIndex_sublist (commands : List Command) :
    ((empty.after commands).reports.map Report.firstIndex).Sublist
      (commands.map Command.index) := by
  have sublist := (Call.firsts_sublist [] (commands.map .classify)).map fun call =>
    call.command.index
  rw [List.map_map] at sublist
  rw [after_eq_afterCalls, reports_afterCalls, List.map_map]
  exact sublist

/-- Reports are exact. Whatever calls were made on an empty state, it holds the reports of the
    first calls with each name and nothing else, no name twice. These calls brought their reports
    when they were made; the others brought none and changed nothing. So the reports of a whole
    script are in the order of its commands. -/
theorem reports_exact (calls : List Call) :
    let state := empty.afterCalls calls
    (state.reports = (Call.firsts [] calls).map fun call => Report.ofCommand call.command) ∧
      (∀ name, name ∈ state.seen ↔ name ∈ state.reports.map Report.opcode) ∧
      (state.reports.map Report.opcode).Nodup ∧
      (∀ earlier call later, calls = earlier ++ call :: later →
        let before := empty.afterCalls earlier
        let (answer, next) := before.call call
        (call.IsFirst earlier → answer = call.reporting (.ofCommand call.command)) ∧
          (¬ call.IsFirst earlier → answer.report? = none ∧ next = before) ∧
          (call.Reaches → ¬ call.IsFirst earlier → answer = call.silent)) ∧
      ∀ {σ : Type} (handler : Handler σ) (start : σ) (script : Script),
        ((script.runFor handler start).summary.discovered.map Report.firstIndex).Pairwise
          (· < ·) := by
  have consistent := consistent_empty.afterCalls calls
  refine ⟨reports_afterCalls calls, consistent.agree, consistent.nodup, ?_, ?_⟩
  · intro earlier call later _
    obtain ⟨first, notFirst, silent⟩ := call_afterCalls earlier call
    exact ⟨fun isFirst => congrArg Prod.fst (first isFirst), notFirst, silent⟩
  · intro σ handler start script
    have numbered : (script.commands.map Command.index).Pairwise (· < ·) := by
      rw [script.numbered]
      exact List.pairwise_lt_range
    rw [Script.runFor_eq]
    simp only [Run.summary, Script.run_discovery]
    exact numbered.sublist (after_firstIndex_sublist script.commands)

end Scenario.Discovery
