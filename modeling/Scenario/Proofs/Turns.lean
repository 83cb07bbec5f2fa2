import Mathlib.Data.List.Basic
import Scenario.Batch

/-! # Turns of a batch

A batch takes its paths one at a time. Each turn makes at most two calls of the
client, and fails at the first of four points or not at all; a batch is the
sequence of its turns. The calls are those that a client would see which keeps
them, and keeping them changes nothing.
-/

namespace Scenario

namespace Client

/-- A call of a client, with its answer. -/
inductive Call (α : Type) where
  | visit (path : Path) (script : Script) (answer : Except String (Summary × α))
  | emit (path : Path) (output : α) (answer : Except String Unit)

variable {σ α : Type}

/-- The client, with every call kept in the order in which they are made. -/
def recording (client : Client σ α) : Client (σ × List (Call α)) α where
  visit := fun (state, calls) path script =>
    let reply := client.visit state path script
    ⟨(reply.state, calls ++ [.visit path script reply.result]), reply.notes, reply.result⟩
  emit := fun (state, calls) path output =>
    let reply := client.emit state path output
    ⟨(reply.state, calls ++ [.emit path output reply.result]), reply.notes, reply.result⟩

end Client

/-- The script that a path leads to, if there is one. -/
def Reader.script? (read : Reader) (path : Path) : Option Script :=
  match read path with
  | .ok bytes => (Script.ofBytes bytes).result.toOption
  | .error _ => none

/-- The output of a script with this summary is handed on. -/
def Summary.Passes (summary : Summary) (options : BatchOptions) : Prop :=
  summary.isClean = true ∨ options.strict = false

instance (summary : Summary) (options : BatchOptions) : Decidable (summary.Passes options) := by
  unfold Summary.Passes; infer_instance

/-- What is done about one path: the calls of the client, and the failure if there is one. -/
structure Turn (α : Type) where
  path : Path
  calls : List (Client.Call α)
  failure? : Option ScriptFailure

namespace Turn

variable {α : Type}

def failed? (turn : Turn α) : Option (Path × ScriptFailure) :=
  turn.failure?.map fun failure => (turn.path, failure)

theorem filterMap_failed?_eq_nil {turns : List (Turn α)}
    (passed : ∀ turn ∈ turns, turn.failure? = none) : turns.filterMap failed? = [] :=
  List.filterMap_eq_nil_iff.mpr fun turn member => by rw [failed?, passed turn member]; rfl

/-- How a turn can go, by the first point at which it fails. -/
inductive Goes (read : Reader) (options : BatchOptions) : Turn α → Prop where
  | unreadable {path : Path} {reason : ReadError} : read path = .error reason →
    Goes read options ⟨path, [], some (.unreadable path reason)⟩
  | unloadable {path : Path} {bytes : ByteArray} {error : LoadError} : read path = .ok bytes →
    (Script.ofBytes bytes).result = .error error →
    Goes read options ⟨path, [], some (.unloadable path error)⟩
  | notVisited {path : Path} {script : Script} {text : String} : read.script? path = some script →
    Goes read options ⟨path, [.visit path script (.error text)], some (.refused text)⟩
  /-- The emitter is not called. -/
  | unclean {path : Path} {script : Script} {summary : Summary} {output : α}
      {first : CommandFailure} {rest : List CommandFailure} : read.script? path = some script →
    options.strict = true → summary.failures = first :: rest →
    Goes read options ⟨path, [.visit path script (.ok (summary, output))],
      some (.unclean (rest.length + 1) first)⟩
  | notEmitted {path : Path} {script : Script} {summary : Summary} {output : α} {text : String} :
    read.script? path = some script → summary.Passes options →
    Goes read options
      ⟨path, [.visit path script (.ok (summary, output)), .emit path output (.error text)],
        some (.refused text)⟩
  | emitted {path : Path} {script : Script} {summary : Summary} {output : α} :
    read.script? path = some script → summary.Passes options →
    Goes read options
      ⟨path, [.visit path script (.ok (summary, output)), .emit path output (.ok ())], none⟩

end Turn

/-- The turns of a batch: one for each path in order, up to the first that fails if the batch is to
    stop there. -/
inductive Turns {α : Type} (read : Reader) (options : BatchOptions) :
    List Path → List (Turn α) → Prop where
  | none : Turns read options [] []
  | last {turn : Turn α} {paths : List Path} : turn.Goes read options →
    options.failFast = true → turn.failure? ≠ none → Turns read options (turn.path :: paths) [turn]
  | next {turn : Turn α} {paths : List Path} {turns : List (Turn α)} : turn.Goes read options →
    (options.failFast = true → turn.failure? = none) → Turns read options paths turns →
    Turns read options (turn.path :: paths) (turn :: turns)

theorem Summary.check_cases (summary : Summary) (options : BatchOptions) :
    let checked := if options.strict then summary.check else .ok ()
    summary.Passes options ∧ checked = .ok () ∨
      options.strict = true ∧ ∃ first rest, summary.failures = first :: rest ∧
        checked = .error (.unclean (rest.length + 1) first) := by
  cases strict : options.strict with
  | false => exact .inl ⟨.inr strict, rfl⟩
  | true =>
      cases failures : summary.failures with
      | nil => exact .inl ⟨.inl (by simp [isClean, failures]), by simp [check, failures]⟩
      | cons first rest => exact .inr ⟨rfl, first, rest, rfl, by simp [check, failures]⟩

/-- The error of a step that did not end well. -/
def Reply.error? {σ ε α : Type} (reply : Reply σ ε α) : Option ε :=
  match reply.result with
  | .ok _ => none
  | .error error => some error

namespace Client

variable {σ α : Type}

theorem recording_visit (client : Client σ α) (state : σ) (calls : List (Call α)) (path : Path)
    (script : Script) :
    client.recording.visit (state, calls) path script =
      let reply := client.visit state path script
      ⟨(reply.state, calls ++ [.visit path script reply.result]), reply.notes, reply.result⟩ := rfl

theorem settle_turn (client : Client σ α) {read : Reader} (options : BatchOptions) {path : Path}
    {script : Script} (loaded : read.script? path = some script) (calls : List (Call α))
    (visit : Reply σ String (Summary × α)) :
    let reply := client.settle options path visit
    ∃ later, Turn.Goes read options ⟨path, .visit path script visit.result :: later, reply.error?⟩ ∧
      client.recording.settle options path ⟨(visit.state, calls), visit.notes, visit.result⟩ =
        ⟨(reply.state, calls ++ later), reply.notes, reply.result⟩ := by
  obtain ⟨state, notes, result⟩ := visit
  cases result with
  | error text => exact ⟨[], .notVisited loaded, by simp [settle]⟩
  | ok found =>
      obtain ⟨summary, output⟩ := found
      rcases summary.check_cases options with
        ⟨passes, checked⟩ | ⟨strict, first, rest, failed, checked⟩
      · cases emitted : (client.emit state path output).result with
        | error text =>
            refine ⟨[.emit path output (.error text)], ?_, ?_⟩
            · simp only [settle, checked, emitted]
              exact .notEmitted loaded passes
            · simp [settle, checked, emitted, recording]
        | ok =>
            refine ⟨[.emit path output (.ok ())], ?_, ?_⟩
            · simp only [settle, checked, emitted]
              exact .emitted loaded passes
            · simp [settle, checked, emitted, recording]
      · -- the summary is checked before the output is handed on
        refine ⟨[], ?_, ?_⟩
        · simp only [settle, checked]
          exact .unclean loaded strict failed
        · simp [settle, checked]

/-- One path is one turn, whether the calls are kept or not. -/
theorem attempt_turn (client : Client σ α) (read : Reader) (options : BatchOptions) (state : σ)
    (calls : List (Call α)) (path : Path) :
    let reply := client.attempt read options state path
    ∃ turn : Turn α, turn.path = path ∧ turn.Goes read options ∧ turn.failure? = reply.error? ∧
      client.recording.attempt read options (state, calls) path =
        ⟨(reply.state, calls ++ turn.calls), reply.notes, reply.result⟩ := by
  intro reply
  cases bytes : read path with
  | error reason =>
      exact ⟨_, rfl, .unreadable bytes, by simp [reply, attempt, bytes, Reply.error?],
        by simp [reply, attempt, bytes]⟩
  | ok content =>
      cases loading : (Script.ofBytes content).result with
      | error error =>
          exact ⟨_, rfl, .unloadable bytes loading,
            by simp [reply, attempt, bytes, loading, Reply.error?],
            by simp [reply, attempt, bytes, loading]⟩
      | ok script =>
          have loaded : read.script? path = some script := by
            simp [Reader.script?, bytes, loading, Except.toOption]
          obtain ⟨later, goes, settled⟩ := client.settle_turn options loaded
            (calls ++ [.visit path script (client.visit state path script).result])
            (client.visit state path script)
          refine ⟨_, rfl, goes, ?_, ?_⟩
          · simp [reply, attempt, bytes, loading, Reply.error?]
          · simp only [reply, attempt, bytes, loading, recording_visit, settled, List.append_assoc,
              List.singleton_append]

end Client

namespace Batch

variable {σ : Type}

/-- The batch of one path, by how its turn ended. -/
def ofReply (path : Path) (reply : Reply σ ScriptFailure Unit) : Batch σ where
  state := reply.state
  notes := reply.notes ++
    (reply.error?.map fun failure => .log (Client.failureEntry path failure)).toList
  attempted := 1
  failures := (reply.error?.map fun failure => (path, failure)).toList

/-- One batch after another, which goes on where the first ended. -/
def followedBy (first second : Batch σ) : Batch σ :=
  ⟨second.state, first.notes ++ second.notes, first.attempted + second.attempted,
    first.failures ++ second.failures⟩

@[simp] theorem followedBy_state (first second : Batch σ) :
    (first.followedBy second).state = second.state := rfl

@[simp] theorem followedBy_attempted (first second : Batch σ) :
    (first.followedBy second).attempted = first.attempted + second.attempted := rfl

@[simp] theorem followedBy_failures (first second : Batch σ) :
    (first.followedBy second).failures = first.failures ++ second.failures := rfl

theorem followedBy_assoc (first second third : Batch σ) :
    (first.followedBy second).followedBy third = first.followedBy (second.followedBy third) := by
  simp [followedBy, Nat.add_assoc]

theorem followedBy_nil (batch : Batch σ) : batch.followedBy ⟨batch.state, [], 0, []⟩ = batch := by
  simp [followedBy]

end Batch

namespace Client

variable {σ α : Type}

/-- A batch goes on after its first path unless that failed and the batch is to stop. -/
theorem batch_cons (client : Client σ α) (read : Reader) (options : BatchOptions) (state : σ)
    (path : Path) (paths : List Path) :
    client.batch read options state (path :: paths) =
      let first := Batch.ofReply path (client.attempt read options state path)
      if options.failFast = true ∧ first.failures ≠ [] then first
      else first.followedBy (client.batch read options first.state paths) := by
  rw [batch]
  generalize client.attempt read options state path = reply
  obtain ⟨after, notes, result⟩ := reply
  cases result with
  | ok => simp [Batch.ofReply, Reply.error?, Batch.followedBy, Nat.add_comm]
  | error failure =>
      by_cases stops : options.failFast = true <;>
        simp [Batch.ofReply, Reply.error?, Batch.followedBy, Nat.add_comm, stops]

/-- A batch is the sequence of its turns, and goes the same way whether the calls are kept or
    not. -/
theorem recording_batch (client : Client σ α) (read : Reader) (options : BatchOptions) (state : σ)
    (calls : List (Call α)) (paths : List Path) :
    let batch := client.batch read options state paths
    ∃ turns : List (Turn α), Turns read options paths turns ∧
      client.recording.batch read options (state, calls) paths =
        ⟨(batch.state, calls ++ turns.flatMap Turn.calls), batch.notes, batch.attempted,
          batch.failures⟩ ∧
      batch.attempted = turns.length ∧ batch.failures = turns.filterMap Turn.failed? := by
  -- the calls are general, since those of a turn stand before the calls of the later turns
  induction paths generalizing state calls with
  | nil => exact ⟨[], .none, by simp [batch]⟩
  | cons path paths ih =>
      obtain ⟨turn, rfl, goes, failed, kept⟩ := client.attempt_turn read options state calls path
      rw [batch_cons, batch_cons, kept]
      generalize client.attempt read options state turn.path = reply at failed
      have failures : (Batch.ofReply turn.path reply).failures = turn.failed?.toList := by
        simp [Batch.ofReply, Turn.failed?, failed]
      have stops : (options.failFast = true ∧ (Batch.ofReply turn.path reply).failures ≠ []) ↔
          options.failFast = true ∧ turn.failure? ≠ none := by
        simp [failures, Turn.failed?]
      have recorded : Batch.ofReply turn.path
          (⟨(reply.state, calls ++ turn.calls), reply.notes, reply.result⟩ : Reply _ _ _) =
            ⟨(reply.state, calls ++ turn.calls), (Batch.ofReply turn.path reply).notes, 1,
              (Batch.ofReply turn.path reply).failures⟩ := rfl
      simp only [recorded, stops]
      split
      · next stopped =>
          refine ⟨[turn], .last goes stopped.1 stopped.2, by simp [Batch.ofReply], rfl, ?_⟩
          rw [failures, List.filterMap_eq_flatMap_toList, List.flatMap_singleton]
      · next goesOn =>
          obtain ⟨turns, covers, rest, attempted, failed⟩ := ih reply.state (calls ++ turn.calls)
          refine ⟨turn :: turns, .next goes (by simpa using goesOn) covers, ?_, ?_, ?_⟩
          · simp [Batch.followedBy, Batch.ofReply, rest]
          · simp [Batch.followedBy, Batch.ofReply, attempted, Nat.add_comm]
          · rw [List.filterMap_eq_flatMap_toList, List.flatMap_cons,
              ← List.filterMap_eq_flatMap_toList, ← failed, ← failures]
            rfl

end Client

namespace Client.Call

variable {α : Type}

def visited? : Call α → Option (Path × Script)
  | .visit path script _ => some (path, script)
  | .emit _ _ _ => none

def emitted? : Call α → Option (Path × α)
  | .visit _ _ _ => none
  | .emit path output _ => some (path, output)

/-- The path and the output of a visit that succeeded with a summary that passes. -/
def passed? (options : BatchOptions) : Call α → Option (Path × α)
  | .visit path _ (.ok (summary, output)) =>
    if summary.Passes options then some (path, output) else none
  | _ => none

def isEmitted : Call α → Bool
  | .emit _ _ (.ok _) => true
  | _ => false

end Client.Call

namespace Turn.Goes

open Client (Call)

variable {α : Type} {read : Reader} {options : BatchOptions} {turn : Turn α}

theorem visited (goes : turn.Goes read options) :
    turn.calls.filterMap Call.visited? =
      ((read.script? turn.path).map fun script => (turn.path, script)).toList := by
  cases goes with
  | unreadable unreadable => simp [Reader.script?, unreadable]
  | unloadable readable unloadable =>
      simp [Reader.script?, readable, unloadable, Except.toOption]
  | notVisited loaded | unclean loaded | notEmitted loaded | emitted loaded =>
      simp [loaded, Call.visited?]

theorem emitted_eq_passed (goes : turn.Goes read options) :
    turn.calls.filterMap Call.emitted? = turn.calls.filterMap (Call.passed? options) := by
  cases goes with
  | unreadable | unloadable => rfl
  | notVisited => rfl
  | unclean loaded strict failed =>
      simp [Call.emitted?, Call.passed?, Summary.Passes, Summary.isClean, strict, failed]
  | notEmitted loaded passes | emitted loaded passes =>
      simp [List.filterMap_cons, Call.emitted?, Call.passed?, passes]

/-- A turn fails or hands its output on. -/
theorem count (goes : turn.Goes read options) :
    turn.failed?.toList.length + turn.calls.countP Call.isEmitted = 1 := by
  cases goes <;> rfl

end Turn.Goes

namespace Turns

open Client (Call)

variable {α : Type} {read : Reader} {options : BatchOptions} {paths : List Path}
  {turns : List (Turn α)}

theorem goes (covers : Turns read options paths turns) :
    ∀ turn ∈ turns, turn.Goes read options := by
  induction covers with
  | none => simp
  | last goes => simpa using goes
  | next goes _ _ ih => exact List.forall_mem_cons.mpr ⟨goes, ih⟩

theorem paths_eq_take (covers : Turns read options paths turns) :
    turns.map Turn.path = paths.take turns.length := by
  induction covers with
  | none => rfl
  | last => simp
  | next _ _ _ ih => simp [ih]

/-- All paths have their turns, or the last turn is the first that failed. -/
theorem ends (covers : Turns read options paths turns) :
    turns.length = paths.length ∧
        (options.failFast = true → ∀ turn ∈ turns, turn.failure? = Option.none) ∨
      options.failFast = true ∧ ∃ passed failed failure, turns = passed ++ [failed] ∧
        (∀ turn ∈ passed, turn.failure? = Option.none) ∧ failed.failure? = some failure := by
  induction covers with
  | none => exact .inl ⟨rfl, by simp⟩
  | @last turn _ _ stops failed =>
      obtain ⟨failure, failed⟩ := Option.ne_none_iff_exists'.mp failed
      exact .inr ⟨stops, [], turn, failure, rfl, by simp, failed⟩
  | @next turn _ turns _ passes _ ih =>
      rcases ih with ⟨length, all⟩ | ⟨stops, passed, failed, failure, rfl, all, failedWith⟩
      · exact .inl ⟨by simp [length], fun stops =>
          List.forall_mem_cons.mpr ⟨passes stops, all stops⟩⟩
      · exact .inr ⟨stops, turn :: passed, failed, failure, rfl,
          List.forall_mem_cons.mpr ⟨passes stops, all⟩, failedWith⟩

theorem paths_of_goesOn (covers : Turns read options paths turns)
    (goesOn : options.failFast = false) : turns.map Turn.path = paths := by
  rcases covers.ends with ⟨length, -⟩ | ⟨stops, -⟩
  · rw [covers.paths_eq_take, length, List.take_length]
  · rw [goesOn] at stops
    cases stops

theorem visited (covers : Turns read options paths turns) :
    (turns.flatMap Turn.calls).filterMap Call.visited? =
      (turns.map Turn.path).filterMap fun path =>
        (read.script? path).map fun script => (path, script) := by
  rw [List.filterMap_flatMap, List.filterMap_map, List.filterMap_eq_flatMap_toList]
  exact List.flatMap_congr fun turn member => (covers.goes turn member).visited

theorem emitted_eq_passed (covers : Turns read options paths turns) :
    (turns.flatMap Turn.calls).filterMap Call.emitted? =
      (turns.flatMap Turn.calls).filterMap (Call.passed? options) := by
  rw [List.filterMap_flatMap, List.filterMap_flatMap]
  exact List.flatMap_congr fun turn member => (covers.goes turn member).emitted_eq_passed

theorem count (covers : Turns read options paths turns) :
    turns.length = (turns.filterMap Turn.failed?).length +
      (turns.flatMap Turn.calls).countP Call.isEmitted := by
  have each := covers.goes
  clear covers
  induction turns with
  | nil => rfl
  | cons turn turns ih =>
      obtain ⟨goes, each⟩ := List.forall_mem_cons.mp each
      have one := goes.count
      have rest := ih each
      rw [List.filterMap_eq_flatMap_toList] at rest ⊢
      simp only [List.flatMap_cons, List.length_append, List.countP_append, List.length_cons]
      omega

end Turns

namespace Client

variable {σ α : Type}

/-- Batches account for every path that they take. A batch is the sequence of its turns, in the
    order of the paths, up to the first that fails if it is to stop there; keeping the calls does
    not change it. Every path taken that leads to a script is visited once, with that script, and
    every output of a visit whose summary passes is handed on once, both in order. Each turn is
    among the failures or was handed on and taken. A batch that stops has at most one failure, the
    last path it took; one that does not stop takes all paths, and so does one without failures. -/
theorem batch_accounts (client : Client σ α) (read : Reader) (options : BatchOptions) (state : σ)
    (paths : List Path) :
    let batch := client.batch read options state paths
    let watched := client.recording.batch read options (state, []) paths
    let calls := watched.state.2
    let taken := paths.take batch.attempted
    (∃ turns : List (Turn α), Turns read options paths turns ∧ turns.map Turn.path = taken ∧
        batch.attempted = turns.length ∧ calls = turns.flatMap Turn.calls ∧
        batch.failures = turns.filterMap Turn.failed?) ∧
      watched = ⟨(batch.state, calls), batch.notes, batch.attempted, batch.failures⟩ ∧
      (calls.filterMap Call.visited? = taken.filterMap fun path =>
        (read.script? path).map fun script => (path, script)) ∧
      calls.filterMap Call.emitted? = calls.filterMap (Call.passed? options) ∧
      batch.attempted = batch.failures.length + calls.countP Call.isEmitted ∧
      (options.failFast = true → batch.failures = [] ∧ batch.attempted = paths.length ∨
        ∃ failed, batch.failures = [failed] ∧ taken.getLast? = some failed.1) ∧
      (options.failFast = false → batch.attempted = paths.length) ∧
      (batch.error? = none ↔ batch.failures = []) := by
  intro batch watched calls taken
  obtain ⟨turns, covers, kept, attempted, failures⟩ :=
    client.recording_batch read options state [] paths
  have calls_eq : calls = turns.flatMap Turn.calls := by
    simp [calls, watched, kept]
  have taken_eq : turns.map Turn.path = taken := by
    rw [covers.paths_eq_take, ← attempted]
  refine ⟨⟨turns, covers, taken_eq, attempted, calls_eq, failures⟩, ?_, ?_, ?_, ?_, ?_, ?_, ?_⟩
  · rw [calls_eq]
    exact kept
  · rw [calls_eq, ← taken_eq]
    exact covers.visited
  · rw [calls_eq]
    exact covers.emitted_eq_passed
  · rw [calls_eq]
    exact attempted.trans (failures ▸ covers.count)
  · intro stops
    rcases covers.ends with ⟨length, all⟩ | ⟨-, passed, failed, failure, rfl, all, failedWith⟩
    · refine .inl ⟨?_, attempted.trans length⟩
      rw [failures, Turn.filterMap_failed?_eq_nil (all stops)]
    · refine .inr ⟨(failed.path, failure), ?_, ?_⟩
      · rw [failures, List.filterMap_append, Turn.filterMap_failed?_eq_nil all]
        simp [Turn.failed?, failedWith]
      · simp [← taken_eq]
  · intro goesOn
    rcases covers.ends with ⟨length, -⟩ | ⟨stops, -⟩
    · exact attempted.trans length
    · rw [goesOn] at stops
      cases stops
  · simp [Batch.error?]

end Client
end Scenario
