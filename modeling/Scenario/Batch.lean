import Scenario.Files
import Scenario.Run

/-! # Batches

Working through a list of script files, each loaded and run on its own. A script
that fails contributes nothing, and the others go on unless told otherwise.
-/

namespace Scenario

/-- Something said on the side while a batch is worked through. -/
inductive Note where
  | log (entry : LogEntry)
  | line (text : String)

structure BatchOptions where
  /-- Stop at the first script that fails. -/
  failFast : Bool
  /-- A command that fails makes its script fail. -/
  strict : Bool

/-- Why a script contributes nothing. -/
inductive ScriptFailure where
  | unreadable (path : Path) (reason : ReadError)
  | unloadable (path : Path) (error : LoadError)
  /-- Under strict checking: how many commands failed, and the first of them. -/
  | unclean (count : Nat) (first : CommandFailure)
  /-- The client of the batch would not have it. -/
  | refused (text : String)

namespace ScriptFailure

/-- The failure and its causes, outermost first. -/
def chain : ScriptFailure → List String
  | .unreadable path reason =>
    [s!"loading script {path}", s!"failed to read script {path}", reason.message]
  | .unloadable path error => [s!"loading script {path}", error.message]
  | .unclean count first => [s!"{count} command(s) failed to bind", first.text]
  | .refused text => [text]

/-- The chain on one line. -/
def text (failure : ScriptFailure) : String :=
  ": ".intercalate failure.chain

end ScriptFailure

/-- What a step leaves behind: a state, what was said on the way, and how the step ended. -/
structure Reply (σ ε α : Type) where
  state : σ
  notes : List Note
  result : Except ε α

/-- What is done with the scripts of a batch. The client's state goes through all calls, and
    each call may refuse its script with a text. -/
structure Client (σ α : Type) where
  /-- Runs a script that was loaded. -/
  visit : σ → Path → Script → Reply σ String (Summary × α)
  /-- Takes the output of a script that passed. -/
  emit : σ → Path → α → Reply σ String Unit

/-- The failure of a summary under strict checking. -/
def Summary.check (summary : Summary) : Except ScriptFailure Unit :=
  match summary.failures with
  | [] => .ok ()
  | first :: rest => .error (.unclean (rest.length + 1) first)

namespace Client

variable {σ α : Type}

/-- Checks what a visit found and hands its output on. -/
def settle (client : Client σ α) (options : BatchOptions) (path : Path)
    (visit : Reply σ String (Summary × α)) : Reply σ ScriptFailure Unit :=
  match visit.result with
  | .error text => ⟨visit.state, visit.notes, .error (.refused text)⟩
  | .ok (summary, output) =>
    match if options.strict then summary.check else .ok () with
    | .error failure => ⟨visit.state, visit.notes, .error failure⟩
    | .ok () =>
      let emit := client.emit visit.state path output
      ⟨emit.state, visit.notes ++ emit.notes, emit.result.mapError .refused⟩

/-- Takes one script: loads it, visits it, checks the summary, emits the output. -/
def attempt (client : Client σ α) (read : Reader) (options : BatchOptions) (state : σ)
    (path : Path) : Reply σ ScriptFailure Unit :=
  match read path with
  | .error reason => ⟨state, [], .error (.unreadable path reason)⟩
  | .ok bytes =>
    let loading := Script.ofBytes bytes
    let loaded := loading.log.map .log
    match loading.result with
    | .error error => ⟨state, loaded, .error (.unloadable path error)⟩
    | .ok script =>
      let reply := client.settle options path (client.visit state path script)
      { reply with notes := loaded ++ reply.notes }

end Client

/-- The outcome of a batch. -/
structure Batch (σ : Type) where
  state : σ
  notes : List Note
  /-- How many scripts were taken. -/
  attempted : Nat
  failures : List (Path × ScriptFailure)

namespace Client

variable {σ α : Type}

/-- The warning about a script that failed. -/
def failureEntry (path : Path) (failure : ScriptFailure) : LogEntry :=
  .warn (path ++ ": " ++ failure.text)

/-- Takes scripts in order, up to the first failure if the options say so. -/
def batch (client : Client σ α) (read : Reader) (options : BatchOptions) :
    σ → List Path → Batch σ
  | state, [] => ⟨state, [], 0, []⟩
  | state, path :: paths =>
    let reply := client.attempt read options state path
    match reply.result with
    | .ok () =>
      let rest := client.batch read options reply.state paths
      { rest with notes := reply.notes ++ rest.notes, attempted := rest.attempted + 1 }
    | .error failure =>
      let notes := reply.notes ++ [.log (failureEntry path failure)]
      if options.failFast then ⟨reply.state, notes, 1, [(path, failure)]⟩
      else
        let rest := client.batch read options reply.state paths
        { rest with
          notes := notes ++ rest.notes
          attempted := rest.attempted + 1
          failures := (path, failure) :: rest.failures }

end Client

namespace Batch

variable {σ : Type}

/-- The error of a batch with failures. -/
def error? (batch : Batch σ) : Option String :=
  if batch.failures.isEmpty then none else some s!"{batch.failures.length} script(s) failed"

/-- How many scripts failed of those that were taken. -/
def headline (batch : Batch σ) : String :=
  s!"{batch.failures.length} of {batch.attempted} script(s) failed:"

/-- Each failure with its causes, one a line. -/
def failureLines (batch : Batch σ) : List String :=
  batch.failures.map fun (path, failure) => s!"  - {path}: " ++ failure.text

end Batch
end Scenario
