import Mathlib.Data.List.TakeWhile
import Scenario.Proofs.Turns
import Scenario.Tool

/-! # Verdicts

Where a visit goes by the path and its script alone and every output is taken,
what becomes of a path is settled by the path. A batch then is the list of the
verdicts on its paths, and strict checking takes out the scripts with commands
that failed, and nothing else.
-/

namespace Scenario

/-- The failure that a summary makes of its script under strict checking: how many commands failed,
    and the first of them. -/
def Summary.unclean? (summary : Summary) : Option ScriptFailure :=
  summary.failures.head?.map (.unclean summary.failures.length)

theorem Summary.check_eq (summary : Summary) (strict : Bool) :
    (if strict then summary.check else .ok ()) =
      match if strict then summary.unclean? else none with
      | some failure => .error failure
      | none => .ok () := by
  cases strict with
  | false => rfl
  | true => cases failures : summary.failures <;> simp [check, unclean?, failures]

theorem Summary.unclean?_eq_some_iff {summary : Summary} {failure : ScriptFailure} :
    summary.unclean? = some failure ↔ ∃ first rest, summary.failures = first :: rest ∧
      failure = .unclean summary.failures.length first := by
  cases failures : summary.failures <;> simp [unclean?, failures, eq_comm]

namespace Reader

variable {α : Type} (read : Reader) (answer : Path → Script → Except String (Summary × α))

/-- What a visit of a path brings, or why it brings nothing. -/
def visited (path : Path) : Except ScriptFailure (Summary × α) :=
  match read path with
  | .error reason => .error (.unreadable path reason)
  | .ok bytes =>
    match (Script.ofBytes bytes).result with
    | .error error => .error (.unloadable path error)
    | .ok script => (answer path script).mapError .refused

/-- The failure of a path that has no visit, or none that succeeds. -/
def refusal? (path : Path) : Option ScriptFailure :=
  match read.visited answer path with
  | .error failure => some failure
  | .ok _ => none

/-- The failure of a path whose visit found commands that failed. -/
def unclean? (path : Path) : Option ScriptFailure :=
  match read.visited answer path with
  | .error _ => none
  | .ok (summary, _) => summary.unclean?

def output? (path : Path) : Option α :=
  match read.visited answer path with
  | .error _ => none
  | .ok (_, output) => some output

/-- The failure of a path under the given checking. -/
def failure? (strict : Bool) (path : Path) : Option ScriptFailure :=
  (read.refusal? answer path).or (if strict then read.unclean? answer path else none)

/-- The path with its output, if it does not fail under the given checking. -/
def handed? (strict : Bool) (path : Path) : Option (Path × α) :=
  if (read.failure? answer strict path).isSome then none
  else (read.output? answer path).map fun output => (path, output)

/-- The paths of a batch that are taken: up to the first that fails if it is to stop there. -/
def taken (options : BatchOptions) (paths : List Path) : List Path :=
  if options.failFast then
    paths.take (paths.findIdx (fun path => (read.failure? answer options.strict path).isSome) + 1)
  else paths

theorem taken_nil (options : BatchOptions) : read.taken answer options [] = [] := by
  simp [taken]

theorem taken_cons (options : BatchOptions) (path : Path) (paths : List Path) :
    read.taken answer options (path :: paths) =
      path :: if options.failFast = true ∧ read.failure? answer options.strict path ≠ none then []
        else read.taken answer options paths := by
  cases stops : options.failFast with
  | false => simp [taken, stops]
  | true =>
      cases failed : read.failure? answer options.strict path <;>
        simp [taken, stops, failed, List.findIdx_cons]

variable {read answer} {path : Path} {found : Summary × α}

theorem visited_eq_ok_iff :
    read.visited answer path = .ok found ↔
      ∃ script, read.script? path = some script ∧ answer path script = .ok found := by
  unfold visited script?
  cases read path with
  | error reason => simp
  | ok bytes =>
      cases loading : (Script.ofBytes bytes).result with
      | error error => simp [loading, Except.toOption]
      | ok script =>
          cases visit : answer path script <;>
            simp [loading, visit, Except.toOption, Except.mapError]

theorem refusal?_of_visited (visit : read.visited answer path = .ok found) :
    read.refusal? answer path = none := by
  simp only [refusal?, visit]

theorem unclean?_of_visited (visit : read.visited answer path = .ok found) :
    read.unclean? answer path = found.1.unclean? := by
  simp only [unclean?, visit]

theorem output?_of_visited (visit : read.visited answer path = .ok found) :
    read.output? answer path = some found.2 := by
  simp only [output?, visit]

theorem failure?_of_visited (visit : read.visited answer path = .ok found) (strict : Bool) :
    read.failure? answer strict path = if strict then found.1.unclean? else none := by
  rw [failure?, refusal?_of_visited visit, unclean?_of_visited visit, Option.none_or]

theorem handed?_of_visited (visit : read.visited answer path = .ok found) (strict : Bool) :
    read.handed? answer strict path =
      if (if strict then found.1.unclean? else none).isSome then none
      else some (path, found.2) := by
  rw [handed?, failure?_of_visited visit, output?_of_visited visit, Option.map_some]

theorem refusal?_eq_none_iff :
    read.refusal? answer path = none ↔
      ∃ script found, read.script? path = some script ∧ answer path script = .ok found := by
  constructor
  · intro visits
    cases visit : read.visited answer path with
    | error failure => simp [refusal?, visit] at visits
    | ok found =>
        obtain ⟨script, visit⟩ := visited_eq_ok_iff.mp visit
        exact ⟨script, found, visit⟩
  · rintro ⟨script, found, visit⟩
    exact refusal?_of_visited (visited_eq_ok_iff.mpr ⟨script, visit⟩)

end Reader

namespace Client

variable {σ τ α : Type} {client : Client σ α}
  {answer : Path → Script → Except String (Summary × α)}

/-- Visits go by the path and its script alone, and every output is taken. -/
structure Answers (client : Client σ α) (answer : Path → Script → Except String (Summary × α)) :
    Prop where
  visit : ∀ state path script, (client.visit state path script).result = answer path script
  emit : ∀ state path output, (client.emit state path output).result = .ok ()

/-- The outputs that are handed on go into the client's state one by one, and nothing else does, as
    far as a view of the state shows. -/
structure Keeps (client : Client σ α) (view : σ → τ) (take : τ → Path × α → τ) : Prop where
  visit : ∀ state path script, view (client.visit state path script).state = view state
  emit : ∀ state path output,
    view (client.emit state path output).state = take (view state) (path, output)

/-- Outputs that are kept one by one are kept in their order. -/
theorem foldl_keep (kept handed : List (Path × α)) :
    handed.foldl (fun kept output => kept ++ [output]) kept = kept ++ handed := by
  rw [List.foldl_append_eq_append, ← List.flatMap_def, List.flatMap_singleton']

theorem Answers.recording (answers : client.Answers answer) : client.recording.Answers answer := by
  constructor
  · intro (state, calls) path script
    exact answers.visit state path script
  · intro (state, calls) path output
    exact answers.emit state path output

theorem recording_keeps_emitted (client : Client σ α) :
    client.recording.Keeps (fun (_, calls) => calls.filterMap Call.emitted?)
      fun kept handed => kept ++ [handed] := by
  constructor
  · intro (state, calls) path script
    simp [Client.recording, Call.emitted?]
  · intro (state, calls) path output
    simp [Client.recording, Call.emitted?]

variable {view : σ → τ} {take : τ → Path × α → τ}

theorem Answers.settle (answers : client.Answers answer) (keeps : client.Keeps view take)
    (options : BatchOptions) (path : Path) {notes : List Note} (state : σ) (summary : Summary)
    (output : α) :
    let reply := client.settle options path ⟨state, notes, .ok (summary, output)⟩
    let failure? := if options.strict then summary.unclean? else none
    reply.error? = failure? ∧
      view reply.state =
        (if failure?.isSome then none else some (path, output)).toList.foldl take (view state) := by
  simp only [Client.settle, summary.check_eq]
  cases (if options.strict then summary.unclean? else none) with
  | some failure => simp [Reply.error?]
  | none => simp [Reply.error?, answers.emit, keeps.emit, Except.mapError]

/-- The turn of a path is its verdict. -/
theorem Answers.attempt (answers : client.Answers answer) (keeps : client.Keeps view take)
    (read : Reader) (options : BatchOptions) (state : σ) (path : Path) :
    let reply := client.attempt read options state path
    reply.error? = read.failure? answer options.strict path ∧
      view reply.state =
        (read.handed? answer options.strict path).toList.foldl take (view state) := by
  unfold Reader.handed? Reader.failure? Reader.refusal? Reader.unclean? Reader.output?
    Reader.visited
  cases bytes : read path with
  | error reason => simp [Client.attempt, bytes, Reply.error?]
  | ok content =>
      cases loading : (Script.ofBytes content).result with
      | error error => simp [Client.attempt, bytes, loading, Reply.error?]
      | ok script =>
          have visit := answers.visit state path script
          have kept := keeps.visit state path script
          simp only [Client.attempt, bytes, loading]
          generalize client.visit state path script = reply at visit kept
          obtain ⟨after, notes, result⟩ := reply
          cases result with
          | error text => simp [← visit, Client.settle, Reply.error?, Except.mapError, kept]
          | ok found =>
              obtain ⟨summary, output⟩ := found
              obtain ⟨failed, viewed⟩ := answers.settle keeps options path after summary output
              rw [← visit, ← kept]
              exact ⟨failed, viewed⟩

/-- A batch is the list of the verdicts on the paths that it takes. -/
theorem Answers.batch (answers : client.Answers answer) (keeps : client.Keeps view take)
    (read : Reader) (options : BatchOptions) (state : σ) (paths : List Path) :
    let batch := client.batch read options state paths
    let taken := read.taken answer options paths
    batch.attempted = taken.length ∧
      batch.failures = taken.filterMap (fun path =>
        (read.failure? answer options.strict path).map fun failure => (path, failure)) ∧
      view batch.state =
        (taken.filterMap (read.handed? answer options.strict)).foldl take (view state) := by
  induction paths generalizing state with
  | nil => simp [Client.batch, Reader.taken_nil]
  | cons path paths ih =>
      obtain ⟨failed, viewed⟩ := answers.attempt keeps read options state path
      simp only [batch_cons, Reader.taken_cons]
      generalize client.attempt read options state path = reply at failed viewed
      have failures : (Batch.ofReply path reply).failures =
          ((read.failure? answer options.strict path).map (path, ·)).toList := by
        rw [← failed]
        rfl
      have stops : (options.failFast = true ∧ (Batch.ofReply path reply).failures ≠ []) ↔
          options.failFast = true ∧ read.failure? answer options.strict path ≠ none := by
        simp [failures]
      simp only [stops, List.filterMap_eq_flatMap_toList, List.flatMap_cons]
      split
      · rw [List.flatMap_nil, List.flatMap_nil, List.append_nil, List.append_nil]
        exact ⟨rfl, failures, viewed⟩
      · obtain ⟨attempted, laterFailures, laterKept⟩ := ih (Batch.ofReply path reply).state
        rw [List.filterMap_eq_flatMap_toList] at laterFailures laterKept
        refine ⟨?_, ?_, ?_⟩
        · rw [Batch.followedBy_attempted, attempted, List.length_cons, Nat.add_comm]
          rfl
        · rw [Batch.followedBy_failures, laterFailures, failures]
        · rw [Batch.followedBy_state, laterKept, List.foldl_append, ← viewed]
          rfl

end Client

namespace Tool

variable {σ α : Type} (handler : Handler σ) (start : σ) (output : Processor σ → α)
  (remarks : Path → Summary → List Note)

/-- What the tool finds in a script, whatever its path and whatever ran before. -/
def found (script : Script) : Summary × α :=
  let finished := script.runFor handler start
  (finished.summary, output finished)

theorem visiting_answers {τ : Type} (take : τ → Path → α → τ) :
    (visiting handler start output remarks take).Answers fun _ script =>
      .ok (found handler start output script) := by
  constructor
  · intro taken path script
    rfl
  · intro taken path output
    rfl

theorem visiting_keeps {τ : Type} (take : τ → Path → α → τ) :
    (visiting handler start output remarks take).Keeps id fun taken (path, output) =>
      take taken path output := by
  constructor
  · intro taken path script
    rfl
  · intro taken path output
    rfl

end Tool
end Scenario
