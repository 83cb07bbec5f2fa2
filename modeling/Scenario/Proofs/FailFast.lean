import Scenario.Proofs.Turns

/-! # Stopping at the first failure

A batch that stops at the first failure does what the batch that goes on does up
to that point, and nothing more. The two take their paths in lock step, since
the turn of a path is the same in both.
-/

namespace Scenario.Client

variable {σ α : Type} (client : Client σ α) (read : Reader) (strict : Bool)

theorem batch_cons_goesOn (state : σ) (path : Path) (paths : List Path) :
    let first := Batch.ofReply path (client.attempt read ⟨false, strict⟩ state path)
    client.batch read ⟨false, strict⟩ state (path :: paths) =
      first.followedBy (client.batch read ⟨false, strict⟩ first.state paths) := by
  rw [batch_cons]
  simp

theorem batch_cons_of_failed {state : σ} {path : Path} {failure : ScriptFailure}
    (failed : (client.attempt read ⟨true, strict⟩ state path).error? = some failure)
    (paths : List Path) :
    client.batch read ⟨true, strict⟩ state (path :: paths) =
      Batch.ofReply path (client.attempt read ⟨true, strict⟩ state path) := by
  rw [batch_cons]
  simp [Batch.ofReply, failed]

theorem batch_cons_of_passed {state : σ} {path : Path}
    (passed : (client.attempt read ⟨true, strict⟩ state path).error? = none)
    (paths : List Path) :
    let first := Batch.ofReply path (client.attempt read ⟨true, strict⟩ state path)
    client.batch read ⟨true, strict⟩ state (path :: paths) =
      first.followedBy (client.batch read ⟨true, strict⟩ first.state paths) := by
  rw [batch_cons]
  simp [Batch.ofReply, passed]

/-- A batch that goes on is the batch over some paths, and then the batch over the others. -/
theorem batch_append (state : σ) (before later : List Path) :
    let first := client.batch read ⟨false, strict⟩ state before
    client.batch read ⟨false, strict⟩ state (before ++ later) =
      first.followedBy (client.batch read ⟨false, strict⟩ first.state later) := by
  induction before generalizing state with
  | nil => simp [batch, Batch.followedBy]
  | cons path before ih =>
      intro first
      simp only [first, List.cons_append, batch_cons_goesOn, ih, Batch.followedBy_assoc]
      rfl

/-- The two batches in lock step: they are the same, or the one that stops is the other one over
    the paths up to the first that fails. -/
theorem batch_lockstep (state : σ) (paths : List Path) :
    let fast := client.batch read ⟨true, strict⟩ state paths
    let full := client.batch read ⟨false, strict⟩ state
    (full paths).failures = [] ∧ fast = full paths ∨
      ∃ before path after failure, paths = before ++ path :: after ∧ (full before).failures = [] ∧
        fast = full (before ++ [path]) ∧ fast.attempted = before.length + 1 ∧
        fast.failures = [(path, failure)] := by
  induction paths generalizing state with
  | nil => exact .inl ⟨rfl, rfl⟩
  | cons path paths ih =>
      intro fast full
      -- the turn of the first path does not depend on what its failure would mean
      have turn : client.attempt read ⟨true, strict⟩ state path =
          client.attempt read ⟨false, strict⟩ state path := rfl
      have goesOn (paths : List Path) : full (path :: paths) = _ :=
        client.batch_cons_goesOn read strict state path paths
      cases failed : (client.attempt read ⟨true, strict⟩ state path).error? with
      | some failure =>
          have stopped : fast = Batch.ofReply path _ :=
            client.batch_cons_of_failed read strict failed paths
          rw [turn] at stopped failed
          have alone : full [path] = fast :=
            (goesOn []).trans ((Batch.followedBy_nil _).trans stopped.symm)
          refine .inr ⟨[], path, paths, failure, rfl, rfl, alone.symm, ?_, ?_⟩
          · rw [stopped]
            rfl
          · simp [stopped, Batch.ofReply, failed]
      | none =>
          have continued : fast = _ := client.batch_cons_of_passed read strict failed paths
          rw [turn] at continued failed
          generalize firstOf : Batch.ofReply path (client.attempt read ⟨false, strict⟩ state path) =
            first at continued goesOn
          have noFailure : first.failures = [] := by
            simp [← firstOf, Batch.ofReply, failed]
          have one : first.attempted = 1 := by
            rw [← firstOf]
            rfl
          rcases ih first.state with
            ⟨clean, same⟩ | ⟨before, failing, after, failure, rfl, clean, same, attempted, failed⟩
          · refine .inl ⟨?_, ?_⟩
            · rw [goesOn, Batch.followedBy_failures, noFailure]
              exact clean
            · rw [continued, goesOn, same]
          · refine .inr ⟨path :: before, failing, after, failure, rfl, ?_, ?_, ?_, ?_⟩
            · rw [goesOn, Batch.followedBy_failures, noFailure]
              exact clean
            · rw [continued, same, List.cons_append, goesOn]
            · rw [continued, Batch.followedBy_attempted, attempted, one, List.length_cons]
              exact Nat.add_comm 1 _
            · rw [continued, Batch.followedBy_failures, noFailure, failed, List.nil_append]

theorem recording_keeps (options : BatchOptions) (state : σ) (calls : List (Call α))
    (paths : List Path) :
    calls <+: (client.recording.batch read options (state, calls) paths).state.2 := by
  obtain ⟨turns, -, kept, -⟩ := client.recording_batch read options state calls paths
  rw [kept]
  exact List.prefix_append ..

/-- Stopping at the first failure is a prefix of going on, with all calls kept. Without a failure
    the two batches are the same. Otherwise the one that stops is the one that goes on over the
    paths up to the first that fails: it makes the same calls with the same answers, it has taken
    as many paths as that path's place, and it has this failure only. The other goes on from there,
    so its calls and its failures come after. -/
theorem batch_failFast (state : σ) (paths : List Path) :
    let fast := client.recording.batch read ⟨true, strict⟩ (state, []) paths
    let full := client.recording.batch read ⟨false, strict⟩ (state, [])
    ((full paths).failures = [] → fast = full paths) ∧
      ∀ first rest, (full paths).failures = first :: rest →
        ∃ before after, paths = before ++ first.1 :: after ∧ (full before).failures = [] ∧
          fast = full (before ++ [first.1]) ∧ fast.attempted = before.length + 1 ∧
          fast.failures = [first] ∧ fast.state.2 <+: (full paths).state.2 ∧
          full paths =
            fast.followedBy (client.recording.batch read ⟨false, strict⟩ fast.state after) := by
  intro fast full
  rcases client.recording.batch_lockstep read strict (state, []) paths with
    ⟨clean, same⟩ | ⟨before, path, after, failure, rfl, clean, same, attempted, failed⟩
  · refine ⟨fun _ => same, fun first rest failures => ?_⟩
    rw [clean] at failures
    cases failures
  · have goesOn : full (before ++ path :: after) =
        fast.followedBy (client.recording.batch read ⟨false, strict⟩ fast.state after) := by
      have upTo : fast = full (before ++ [path]) := same
      rw [List.append_cons, upTo]
      exact client.recording.batch_append read strict (state, []) (before ++ [path]) after
    obtain ⟨more, failures⟩ :
        ∃ more, (full (before ++ path :: after)).failures = (path, failure) :: more := by
      rw [goesOn, Batch.followedBy_failures, failed]
      exact ⟨_, rfl⟩
    have keeps : fast.state.2 <+: (full (before ++ path :: after)).state.2 := by
      rw [goesOn]
      exact client.recording_keeps read ⟨false, strict⟩ fast.state.1 fast.state.2 after
    refine ⟨fun noFailure => ?_, fun first rest failing => ?_⟩
    · rw [failures] at noFailure
      cases noFailure
    · obtain ⟨rfl, -⟩ := List.cons.inj (failures.symm.trans failing)
      exact ⟨before, after, rfl, clean, same, attempted, failed, keeps, goesOn⟩

end Scenario.Client
