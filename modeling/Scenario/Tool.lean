import Scenario.Assets
import Scenario.CommandLine
import Scenario.Lines
import Scenario.Processor
import Scenario.Stubs
import Scenario.Text.Plain

/-! # The tool

What an invocation prints and how it ends, as a function of its words and of the
files it reads.
-/

namespace Scenario

/-- All that an invocation leaves behind. -/
structure Output where
  code : Nat
  stdout : String
  /-- What goes to standard error, in order. -/
  notes : List Note

namespace Note

/-- A log entry as it is shown: its level, and its text with further lines indented. It is made
    plain as a whole, so a sequence that does not end swallows its line end too. -/
def logText (entry : LogEntry) : String :=
  Text.plain ("[" ++ entry.level.name ++ "] " ++
    "\n    ".intercalate (entry.text.splitOn "\n") ++ "\n")

/-- The note as shown, with or without what is only log. -/
def text (withLog : Bool) : Note → String
  | .log entry => if withLog then logText entry else ""
  | .line text => text ++ "\n"

/-- The note is shown at this verbosity: warnings always are. -/
def isShown (verbose : Bool) : Note → Bool
  | .log entry => verbose || entry.level == .warn
  | .line _ => true

end Note

/-- The text on standard error. -/
def Output.stderr (output : Output) (withLog : Bool) : String :=
  String.join (output.notes.map (Note.text withLog))

namespace Tool

open CommandLine (Format Mode Flags Invocation)

def name : String := "mei_tools"

def version : String := "0.1.0"

/-- A remark of the tool itself. -/
def remark (text : String) : Note :=
  .line ("[" ++ name ++ "] " ++ text)

/-- A text of several lines with every line after the first indented. -/
def hang (indent text : String) : String :=
  ("\n" ++ indent).intercalate (text.splitOn "\n")

/-- The causes of an error, numbered if there are several. -/
def causesText : List String → String
  | [] => ""
  | [cause] => "\n\nCaused by:\n    " ++ hang "    " cause
  | causes =>
    "\n\nCaused by:" ++ String.join (causes.zipIdx.map fun (cause, number) =>
      let digits := toString number
      "\n" ++ String.ofList (List.replicate (5 - digits.length) ' ') ++ digits ++ ": " ++
        hang "       " cause)

/-- Reports an error with its causes, outermost first. -/
def errorReport : List String → Note
  | [] => .line "Error: "
  | top :: causes => .line ("Error: " ++ top ++ causesText causes)

/-- Why a name table could not be loaded. -/
inductive NamesError where
  | unreadable (path : Path) (reason : ReadError)
  | malformed (path : Path)

/-- The error and its causes. What exactly is wrong with the JSON is not gone into. -/
def NamesError.chain : NamesError → List String
  | .unreadable path reason =>
    ["loading name table", s!"failed to read name table: {path}", reason.message]
  | .malformed path =>
    ["loading name table", s!"failed to parse name table json: {path}", "<json error>"]

/-- Loads the overrides, if any are named. -/
def loadNames (read : Reader) : Option Path → Except NamesError (NameTable × List LogEntry)
  | none => .ok (.standard, [])
  | some path =>
    match Reader.text read path with
    | .error reason => .error (.unreadable path reason)
    | .ok text =>
      match NameTable.ofText? text with
      | none => .error (.malformed path)
      | some table =>
        let loaded := s!"loaded {table.overrides.length} name override(s) from {path}"
        .ok (table, [.debug loaded])

/-- A client that runs each script for a handler and draws its output from where the run ends. The
    outputs of the scripts that pass go into its state as they come. -/
def visiting {σ τ α : Type} (handler : Handler σ) (start : σ) (output : Processor σ → α)
    (remarks : Path → Summary → List Note) (take : τ → Path → α → τ) : Client τ α where
  visit := fun taken path script =>
    let finished := script.runFor handler start
    let notes := finished.log.map .log ++ remarks path finished.summary
    ⟨taken, notes, .ok (finished.summary, output finished)⟩
  emit := fun taken path output => ⟨take taken path output, [], .ok ()⟩

/-- Keeps the outputs, each with its path. -/
def collecting {σ α : Type} (handler : Handler σ) (start : σ) (output : Processor σ → α)
    (remarks : Path → Summary → List Note) : Client (List (Path × α)) α :=
  visiting handler start output remarks fun kept path output => kept ++ [(path, output)]

/-- Writes each output as it comes; the state is what is written so far. -/
def writing {σ α : Type} (handler : Handler σ) (start : σ) (output : Processor σ → α)
    (remarks : Path → Summary → List Note) (text : Path → α → String) : Client String α :=
  visiting handler start output remarks fun written path output => written ++ text path output

/-- The end of an invocation that worked through scripts. -/
def conclude {σ : Type} (batch : Batch σ) (before after : List Note) (stdout : String) : Output :=
  match batch.error? with
  | none => ⟨0, stdout, before ++ batch.notes ++ after⟩
  | some error =>
    let failures := remark batch.headline :: batch.failureLines.map .line
    ⟨1, stdout, before ++ batch.notes ++ after ++ failures ++ [errorReport [error]]⟩

/-- A value as a JSON document. -/
def document (value : Json) : String :=
  value.indented ++ "\n"

def options (flags : Flags) : BatchOptions :=
  ⟨flags.failFast, flags.strict⟩

/-- Works through scripts and shows what each that passes has: texts as they come, and JSON values
    all together in the end. -/
def showEach {σ α : Type} (read : Reader) (flags : Flags) (scripts : List Path)
    (handler : Handler σ) (start : σ) (output : Processor σ → α)
    (remarks : Path → Summary → List Note) (before : List Note) (text : Path → α → String)
    (json : Path → α → Json) : Format → Output
  | .text =>
    let client := writing handler start output remarks text
    let batch := client.batch read (options flags) "" scripts
    conclude batch before [] batch.state
  | .json =>
    let client := collecting handler start output remarks
    let batch := client.batch read (options flags) [] scripts
    conclude batch before [] <|
      document (.array (batch.state.map fun (path, output) => json path output))

def runLines (read : Reader) (flags : Flags) (scripts : List Path) (names : Option Path)
    (format : Format) : Output :=
  match loadNames read names with
  | .error error => ⟨1, "", [errorReport error.chain]⟩
  | .ok (table, log) =>
    showEach read flags scripts table.extractor [] (·.state) (fun _ _ => []) (log.map .log)
      Row.fileText Row.fileJson format

def runAssets (read : Reader) (flags : Flags) (scripts : List Path) (format : Format) : Output :=
  let client := visiting Catalog.collector .empty (·.state) (fun _ _ => []) fun catalog _ found =>
    catalog.merge found
  let batch := client.batch read (options flags) Catalog.empty scripts
  let catalog := batch.state
  let after := if catalog.isEmpty then [remark "no asset references found"] else []
  conclude batch [] after <| match format with
    | .text => catalog.text
    | .json => document catalog.toJson

/-- The stubs of one script, under its path if there are several scripts. -/
def stubText (labelled : Bool) (path : Path) (reports : List Report) : String :=
  (if labelled then s!"// {path}\n" else "") ++ Report.stubLines reports

def runDiscover (read : Reader) (flags : Flags) (scripts : List Path) (format : Format)
    (summary : Bool) : Output :=
  let remarks (path : Path) (found : Summary) : List Note :=
    if summary then [remark (found.describe path)] else []
  showEach read flags scripts {} () (·.summary.discovered) remarks []
    (stubText (decide (1 < scripts.length))) Report.fileJson format

/-- Each registered name with the signature of its opcode. -/
def listOpcodes : String :=
  String.join (Opcode.names.map fun (name, opcode) => s!"{name} -> {opcode.signature}\n")

def runOpcodes (flags : Flags) : Output :=
  if flags.failFast || flags.strict then
    ⟨1, "", [errorReport ["--fail-fast and --strict only apply to commands that read scripts"]]⟩
  else ⟨0, listOpcodes, []⟩

/-- Carries an invocation out. -/
def invoke (read : Reader) (invocation : Invocation) : Output :=
  let flags := invocation.flags
  let output := match invocation.mode with
    | .lines scripts names format => runLines read flags scripts names format
    | .assets scripts format => runAssets read flags scripts format
    | .discover scripts format summary => runDiscover read flags scripts format summary
    | .opcodes => runOpcodes flags
  { output with notes := output.notes.filter (Note.isShown flags.verbose) }

/-- The words that the tool accepts. -/
def usage : String :=
  String.join [
    s!"{name} [flags] lines [--names FILE] [--format text|json] SCRIPT...\n",
    s!"{name} [flags] assets [--format text|json] SCRIPT...\n",
    s!"{name} [flags] discover [--summary] [--format text|json] SCRIPT...\n",
    s!"{name} [flags] opcodes\n",
    "flags: --fail-fast --strict --verbose\n"]

/-- Runs the tool; none if it does not accept its words. -/
def run (read : Reader) (words : List String) : Option Output :=
  (CommandLine.parse words).map fun
    | .run invocation => invoke read invocation
    | .version => ⟨0, s!"{name} {version}\n", []⟩
    | .help => ⟨0, usage, []⟩

end Tool
end Scenario
