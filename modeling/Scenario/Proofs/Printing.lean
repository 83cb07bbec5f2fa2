import Scenario.Proofs.Catalogs
import Scenario.Proofs.Naming
import Scenario.Proofs.Rows
import Scenario.Proofs.Verdicts
import Scenario.Proofs.Written

/-! # What is printed

An invocation that reads scripts prints what the scripts that pass have to show,
each as if it were alone, and ends well if all that are attempted pass. Scripts
that fail leave no trace.
-/

namespace Scenario

namespace Reader

variable (read : Reader)

/-- The script that a path leads to, if it passes: under strict checking no command may fail. -/
def passing? (strict : Bool) (path : Path) : Option Script :=
  (read.script? path).filter fun script => !strict || script.run.summary.failures.isEmpty

/-- The paths that are attempted: all, or those up to the first that does not pass. -/
def attempted (options : BatchOptions) (paths : List Path) : List Path :=
  if options.failFast then
    paths.take (paths.findIdx (fun path => (read.passing? options.strict path).isNone) + 1)
  else paths

/-- The attempted paths that pass, with their scripts. -/
def passing (options : BatchOptions) (paths : List Path) : List (Path × Script) :=
  (read.attempted options paths).filterMap fun path =>
    (read.passing? options.strict path).map fun script => (path, script)

variable {read}

theorem passing?_eq_some_iff {strict : Bool} {path : Path} {script : Script} :
    read.passing? strict path = some script ↔
      read.script? path = some script ∧ (strict = true → script.run.summary.failures = []) := by
  cases strict <;> simp [passing?, Option.filter_eq_some_iff]

theorem mem_passing_iff {options : BatchOptions} {paths : List Path} {path : Path}
    {script : Script} :
    (path, script) ∈ read.passing options paths ↔
      path ∈ read.attempted options paths ∧ read.passing? options.strict path = some script := by
  simp only [passing, List.mem_filterMap, Option.map_eq_some_iff, Prod.mk.injEq]
  constructor
  · rintro ⟨path, attempted, script, passes, rfl, rfl⟩
    exact ⟨attempted, passes⟩
  · rintro ⟨attempted, passes⟩
    exact ⟨path, attempted, script, passes, rfl, rfl⟩

theorem mem_passing_paths_iff {options : BatchOptions} {paths : List Path} {path : Path} :
    path ∈ (read.passing options paths).map Prod.fst ↔
      path ∈ read.attempted options paths ∧ (read.passing? options.strict path).isSome := by
  simp only [List.mem_map, Prod.exists, mem_passing_iff, exists_and_right, exists_eq_right,
    Option.isSome_iff_exists, exists_and_left]

theorem attempted_singleton (options : BatchOptions) (path : Path) :
    read.attempted options [path] = [path] := by
  unfold attempted
  split
  · exact List.take_of_length_le (by simp)
  · rfl

/-- A script that passes among others passes alone. -/
theorem passing_alone {options : BatchOptions} {paths : List Path} {path : Path} {script : Script}
    (passes : (path, script) ∈ read.passing options paths) :
    read.passing options [path] = [(path, script)] := by
  rw [passing, attempted_singleton]
  simp [(mem_passing_iff.mp passes).2]

end Reader

namespace CommandLine.Mode

/-- The scripts that a mode reads. -/
def scripts? : Mode → Option (List Path)
  | .lines scripts _ _ | .assets scripts _ | .discover scripts _ _ => some scripts
  | .opcodes => none

def names? : Mode → Option Path
  | .lines _ names _ => names
  | .assets _ _ | .discover _ _ _ | .opcodes => none

/-- The mode with other scripts. -/
def withScripts : Mode → List Path → Mode
  | .lines _ names format, scripts => .lines scripts names format
  | .assets _ format, scripts => .assets scripts format
  | .discover _ format summary, scripts => .discover scripts format summary
  | .opcodes, _ => .opcodes

theorem scripts?_withScripts {mode : Mode} {scripts : List Path}
    (reads : mode.scripts? = some scripts) (others : List Path) :
    (mode.withScripts others).scripts? = some others := by
  cases mode with
  | lines | assets | discover => rfl
  | opcodes => cases reads

@[simp] theorem names?_withScripts (mode : Mode) (others : List Path) :
    (mode.withScripts others).names? = mode.names? := by
  cases mode <;> rfl

end CommandLine.Mode

namespace Json

/-- A text that is a JSON text of the value, and a line end. -/
def Document (value : Json) (text : String) : Prop :=
  ∃ cs, Written value cs ∧ text = String.ofList cs ++ "\n"

/-- A document is read as its value, if all numbers are whole and it is not nested too deep. -/
theorem Document.read {value : Json} {text : String} (document : value.Document text)
    (readable : Readable Reading.depthLimit value) : ofTextAsWritten? text = some value := by
  obtain ⟨cs, written, rfl⟩ := document
  have lineEnd : Blank ['\n'] := by simp [Token.isSpace]
  have spaced := Spaced.intro blank_nil written lineEnd
  rw [List.nil_append] at spaced
  have read := ofTextAsWritten?_of_spaced readable spaced
  rwa [String.ofList_append] at read

end Json

/-- The names of the kinds in JSON. -/
def AssetKind.key : AssetKind → String
  | .outfit => "outfits"
  | .background => "backgrounds"
  | .music => "music"
  | .soundEffect => "sound_effects"
  | .shader => "shaders"

/-- Tables that show the same names make the same rows. -/
theorem Command.row?_congr {table other : NameTable} (same : table.render = other.render) :
    Command.row? table = Command.row? other := by
  funext command
  rw [row?, row?, same]

/-- The rows of a script, with names shown as the overrides say, which are listed as they are
    written. -/
def Script.rowsBy (entries : List (String × String)) (script : Script) : List Row :=
  script.commands.filterMap (Command.row? ⟨entries.reverse⟩)

theorem Script.extractor_rowsBy {entries : List (String × String)} {table : NameTable}
    (same : table.render = (⟨entries.reverse⟩ : NameTable).render) (script : Script) :
    (script.runFor table.extractor []).state = script.rowsBy entries := by
  rw [script.extractor_state, Command.row?_congr same, rowsBy]

namespace Tool

open CommandLine (Mode Flags)

section

variable {σ α : Type} (handler : Handler σ) (start : σ) (output : Processor σ → α) (read : Reader)

/-- The verdict on a path is that of its script. -/
theorem found_verdict (strict : Bool) (path : Path) :
    let answer := fun (_ : Path) script => Except.ok (found handler start output script)
    (read.failure? answer strict path).isSome = (read.passing? strict path).isNone ∧
      read.handed? answer strict path = (read.passing? strict path).map fun script =>
        (path, output (script.runFor handler start)) := by
  intro answer
  cases loaded : read.script? path with
  | none =>
      cases visit : read.visited answer path with
      | ok found =>
          obtain ⟨script, other, -⟩ := Reader.visited_eq_ok_iff.mp visit
          cases loaded.symm.trans other
      | error failure =>
          simp [Reader.handed?, Reader.failure?, Reader.refusal?, Reader.passing?, visit, loaded]
  | some script =>
      have visit : read.visited answer path = .ok (found handler start output script) :=
        Reader.visited_eq_ok_iff.mpr ⟨script, loaded, rfl⟩
      have summary : (found handler start output script).1 = script.run.summary := by
        rw [found, script.runFor_eq]
      rw [Reader.handed?_of_visited visit, Reader.failure?_of_visited visit, summary,
        Reader.passing?, loaded, Option.filter_some]
      cases strict with
      | false => exact ⟨rfl, rfl⟩
      | true =>
          cases failures : script.run.summary.failures <;>
            simp [Summary.unclean?, failures, found]

theorem taken_eq_attempted (options : BatchOptions) (paths : List Path) :
    read.taken (fun _ script => .ok (found handler start output script)) options paths =
      read.attempted options paths := by
  simp only [Reader.taken, Reader.attempted, (found_verdict handler start output read _ _).1]

variable (remarks : Path → Summary → List Note) (options : BatchOptions) (paths : List Path)

/-- A batch of the tool takes what it finds in the scripts that pass, one after the other, and has
    no failure if these are all that it attempts. -/
theorem visiting_batch {τ : Type} (take : τ → Path → α → τ) (taken : τ) :
    let batch := (visiting handler start output remarks take).batch read options taken paths
    (batch.failures = [] ↔ ∀ path ∈ read.attempted options paths,
        path ∈ (read.passing options paths).map Prod.fst) ∧
      batch.state = (read.passing options paths).foldl (fun taken (path, script) =>
        take taken path (output (script.runFor handler start))) taken := by
  obtain ⟨-, failures, kept⟩ := (visiting_answers handler start output remarks take).batch
    (visiting_keeps handler start output remarks take) read options taken paths
  intro batch
  rw [taken_eq_attempted] at failures kept
  constructor
  · rw [show batch.failures = _ from failures, List.filterMap_eq_nil_iff]
    apply forall₂_congr
    intro path attempted
    rw [Reader.mem_passing_paths_iff, and_iff_right attempted, Option.map_eq_none_iff,
      ← Option.isNone_iff_eq_none, ← Option.not_isSome,
      (found_verdict handler start output read options.strict path).1, Option.not_isNone]
  · have handed : (read.attempted options paths).filterMap
        (read.handed? (fun _ script => .ok (found handler start output script)) options.strict) =
        (read.passing options paths).map fun (path, script) =>
          (path, output (script.runFor handler start)) := by
      rw [Reader.passing, List.map_filterMap]
      apply List.filterMap_congr
      intro path _
      rw [(found_verdict handler start output read options.strict path).2, Option.map_map]
      rfl
    rw [handed, List.foldl_map] at kept
    exact kept

/-- What is written while a batch runs is what the scripts that pass have to show, joined. -/
theorem foldl_write (text : Path → α → String) (outputs : List (Path × α)) (written : String) :
    outputs.foldl (fun written (path, output) => written ++ text path output) written =
      written ++ String.join (outputs.map fun (path, output) => text path output) := by
  induction outputs generalizing written with
  | nil => simp
  | cons first rest ih =>
      rw [List.foldl_cons, ih, List.map_cons, String.join_cons, String.append_assoc]

end

@[simp] theorem conclude_stdout {σ : Type} (batch : Batch σ) (before after : List Note)
    (stdout : String) : (conclude batch before after stdout).stdout = stdout := by
  unfold conclude
  split <;> rfl

theorem conclude_code {σ : Type} (batch : Batch σ) (before after : List Note) (stdout : String) :
    (conclude batch before after stdout).code = if batch.failures = [] then 0 else 1 := by
  cases failures : batch.failures <;> simp [conclude, Batch.error?, failures]

/-- What is shown of each script that passes: texts joined, or JSON values in one array. -/
theorem showEach_output {σ α : Type} (read : Reader) (flags : Flags) (scripts : List Path)
    (handler : Handler σ) (start : σ) (output : Processor σ → α)
    (remarks : Path → Summary → List Note) (before : List Note) (text : Path → α → String)
    (json : Path → α → Json) (format : CommandLine.Format) :
    let shown := showEach read flags scripts handler start output remarks before text json format
    let passing := read.passing (options flags) scripts
    (shown.code = if ∀ path ∈ read.attempted (options flags) scripts,
        path ∈ passing.map Prod.fst then 0 else 1) ∧
      shown.stdout = match format with
        | .text => String.join (passing.map fun (path, script) =>
            text path (output (script.runFor handler start)))
        | .json => document (.array (passing.map fun (path, script) =>
            json path (output (script.runFor handler start)))) := by
  intro shown passing
  cases format with
  | text =>
      obtain ⟨failures, written⟩ := visiting_batch handler start output read remarks (options flags)
        scripts (fun written path output => written ++ text path output) ""
      refine ⟨?_, ?_⟩
      · simp only [shown, showEach, conclude_code, writing, failures]
        rfl
      · refine (conclude_stdout _ _ _ _).trans (written.trans ?_)
        rw [foldl_write fun path (script : Script) =>
          text path (output (script.runFor handler start)), String.empty_append]
  | json =>
      obtain ⟨failures, kept⟩ := visiting_batch handler start output read remarks (options flags)
        scripts (fun kept path output => kept ++ [(path, output)]) []
      refine ⟨?_, ?_⟩
      · simp only [shown, showEach, conclude_code, collecting, failures]
        rfl
      · have outputs : ((collecting handler start output remarks).batch read (options flags) []
            scripts).state = passing.map fun (path, script) =>
              (path, output (script.runFor handler start)) := by
          refine kept.trans ?_
          rw [← List.nil_append (passing.map _), ← Client.foldl_keep, List.foldl_map]
        simp only [shown, showEach, conclude_stdout, outputs, List.map_map]
        rfl

theorem document_written (value : Json) : value.Document (document value) :=
  ⟨_, Json.indentedChars_written 0 value, rfl⟩

/-- What is shown on standard output of the scripts that pass, given the overrides as they are
    written: their rows, their assets in one catalogue, or what was discovered in each. -/
def Prints (entries : List (String × String)) (passing : List (Path × Script)) (stdout : String) :
    Mode → Prop
  | .lines _ _ .text =>
    stdout = String.join (passing.map fun (path, script) =>
      path ++ "\n" ++ String.join ((script.rowsBy entries).map fun row =>
        s!"{row.index}:\n{row.speaker}\n" ++
          (match row.text with
            | .string text => text
            | value => value.compact) ++ "\n\n"))
  | .lines _ _ .json =>
    Json.Document (.array (passing.map fun (path, script) => .object [
      ("file", .string path),
      ("lines", .array ((script.rowsBy entries).map fun row => .object [
        ("index", .ofNat row.index), ("speaker", .string row.speaker),
        ("raw_speaker", .string row.rawSpeaker), ("text", row.text)]))])) stdout
  | .discover scripts .text _ =>
    stdout = String.join (passing.map fun (path, script) =>
      (if 1 < scripts.length then s!"// {path}\n" else "") ++
        String.join (script.run.summary.discovered.map fun report => report.stub ++ "\n"))
  | .discover _ .json _ =>
    Json.Document (.array (passing.map fun (path, script) => .object [
      ("file", .string path),
      ("discovered", .array (script.run.summary.discovered.map fun report => .object [
        ("opcode", .string report.opcode), ("first_index", .ofNat report.firstIndex),
        ("observed", .array (report.observed.map fun arg => .object [
          ("position", .ofNat arg.position), ("value", arg.value)]))]))])) stdout
  | .assets _ format =>
    ∃ catalog : Catalog, (catalog.Holds fun kind name => ∃ path script,
        (path, script) ∈ passing ∧ ∃ command ∈ script.commands, command.Names kind name) ∧
      match format with
      | .text => stdout = "\n".intercalate (AssetKind.all.map fun kind =>
          kind.title ++ ":\n" ++ String.join ((catalog.names kind).map (· ++ "\n")))
      | .json => Json.Document (.object (AssetKind.all.map fun kind =>
          (kind.key, .array ((catalog.names kind).map .string)))) stdout
  | .opcodes => False

/-- Catalogues that are merged one after the other hold what the commands of all scripts name. -/
theorem union_holds (passing : List (Path × Script)) :
    (passing.foldl (fun (catalog : Catalog) (_, script) =>
        catalog.merge (script.runFor Catalog.collector .empty).state) Catalog.empty).Holds
      fun kind name => ∃ path script, (path, script) ∈ passing ∧
        ∃ command ∈ script.commands, command.Names kind name := by
  have merged := Catalog.merged_holds (passing.map fun (_, script) =>
    (script.runFor Catalog.collector .empty).state)
  rw [Catalog.merged, List.foldl_map] at merged
  refine merged.congr fun kind name => ?_
  have own (script : Script) : name ∈ (script.runFor Catalog.collector .empty).state.names kind ↔
      ∃ command ∈ script.commands, command.Names kind name :=
    (Catalog.collected_holds script.commands).exact kind name
  simp only [List.mem_map, Prod.exists, ← own]
  constructor
  · rintro ⟨_, ⟨path, script, member, rfl⟩, named⟩
    exact ⟨path, script, member, named⟩
  · rintro ⟨path, script, member, named⟩
    exact ⟨_, ⟨path, script, member, rfl⟩, named⟩

/-- What an invocation shows when its names are loaded, and how it ends. -/
theorem invoke_of_overrides (read : Reader) {mode : Mode} (flags : Flags) {scripts : List Path}
    (reads : mode.scripts? = some scripts) {entries : List (String × String)}
    (overrides : read.Overrides mode.names? entries) :
    let output := invoke read ⟨mode, flags⟩
    let passing := read.passing (options flags) scripts
    (output.code = if ∀ path ∈ read.attempted (options flags) scripts,
        path ∈ passing.map Prod.fst then 0 else 1) ∧
      Prints entries passing output.stdout mode := by
  intro output passing
  cases mode with
  | lines _ names format =>
      cases reads
      obtain ⟨table, log, loaded, same⟩ := loadNames_of_overrides overrides
      simp only [Mode.names?] at loaded
      obtain ⟨code, stdout⟩ := showEach_output read flags scripts table.extractor [] (·.state)
        (fun _ _ => []) (log.map .log) Row.fileText Row.fileJson format
      simp only [output, invoke, runLines, loaded]
      refine ⟨code, ?_⟩
      simp only [Script.extractor_rowsBy same] at stdout
      cases format with
      | text => exact stdout
      | json => exact stdout ▸ document_written _
  | assets _ format =>
      cases reads
      obtain ⟨failures, taken⟩ := visiting_batch Catalog.collector .empty (·.state) read
        (fun _ _ => []) (options flags) scripts
        (fun (catalog : Catalog) _ found => catalog.merge found) Catalog.empty
      simp only [output, invoke, runAssets, conclude_code, conclude_stdout, failures]
      refine ⟨rfl, _, taken ▸ union_holds passing, ?_⟩
      cases format with
      | text => rfl
      | json => exact document_written _
  | discover _ format summary =>
      cases reads
      obtain ⟨code, stdout⟩ := showEach_output read flags scripts {} () (·.summary.discovered)
        (fun path found => if summary then [remark (found.describe path)] else []) []
        (stubText (decide (1 < scripts.length))) Report.fileJson format
      simp only [output, invoke, runDiscover]
      refine ⟨code, ?_⟩
      simp only [Script.runFor_eq] at stdout
      cases format with
      | text =>
          simp only [stubText, decide_eq_true_eq] at stdout
          exact stdout
      | json => exact stdout ▸ document_written _
  | opcodes => cases reads

/-- Names are loaded for lines only, and before any script is read. -/
theorem invoke_of_namesError (read : Reader) {mode : Mode} (flags : Flags) {error : NamesError}
    (failed : loadNames read mode.names? = .error error) :
    invoke read ⟨mode, flags⟩ = ⟨1, "", [errorReport error.chain]⟩ := by
  cases mode with
  | lines _ names format =>
      simp only [Mode.names?] at failed
      simp only [invoke, runLines, failed]
      cases error <;> rfl
  | assets | discover | opcodes => cases failed

/-- Scripts that fail leave no trace in what an invocation shows. Any words that are accepted are
    carried out. Those attempted that pass are the ones that load and, under strict checking, have
    no command that failed. With no file of names, or one that is an object of texts, the
    invocation ends with 0 if these are all, and otherwise with 1, and shows just these; each of
    them alone ends with 0 and shows just its own part, whatever else there was. With a file of
    names that cannot be read, or is no object of texts, it shows nothing and ends with 1. -/
theorem invoke_prints_passing (read : Reader) {mode : Mode} (flags : Flags) {scripts : List Path}
    (reads : mode.scripts? = some scripts) :
    let output := invoke read ⟨mode, flags⟩
    let attempted := read.attempted (options flags) scripts
    let passing := read.passing (options flags) scripts
    (∀ words, CommandLine.parse words = some (.run ⟨mode, flags⟩) → run read words = some output) ∧
      (∀ path script, (path, script) ∈ passing ↔ path ∈ attempted ∧
        read.script? path = some script ∧
        (flags.strict = true → script.run.summary.failures = [])) ∧
      (∀ entries, read.Overrides mode.names? entries →
        (output.code = if ∀ path ∈ attempted, path ∈ passing.map Prod.fst then 0 else 1) ∧
          Prints entries passing output.stdout mode ∧
          ∀ path script, (path, script) ∈ passing →
            let alone := invoke read ⟨mode.withScripts [path], flags⟩
            alone.code = 0 ∧
              Prints entries [(path, script)] alone.stdout (mode.withScripts [path])) ∧
      ∀ path, mode.names? = some path →
        (∀ reason, Reader.text read path = .error reason →
          output = ⟨1, "", [errorReport (NamesError.unreadable path reason).chain]⟩) ∧
        ∀ text, Reader.text read path = .ok text →
          (∀ entries, Json.ofTextAsWritten? text ≠ some (.object (NameTable.fields entries))) →
          output = ⟨1, "", [errorReport (NamesError.malformed path).chain]⟩ := by
  intro output attempted passing
  refine ⟨?_, ?_, ?_, ?_⟩
  · intro words accepted
    rw [run, accepted]
    rfl
  · intro path script
    rw [Reader.mem_passing_iff, Reader.passing?_eq_some_iff]
    rfl
  · intro entries overrides
    obtain ⟨code, prints⟩ := invoke_of_overrides read flags reads overrides
    refine ⟨code, prints, ?_⟩
    intro path script passes alone
    rw [← mode.names?_withScripts [path]] at overrides
    obtain ⟨code, prints⟩ :=
      invoke_of_overrides read flags (Mode.scripts?_withScripts reads [path]) overrides
    rw [Reader.passing_alone passes] at code prints
    rw [Reader.attempted_singleton] at code
    exact ⟨code.trans (if_pos (by simp)), prints⟩
  · intro path named
    constructor
    · intro reason unreadable
      apply invoke_of_namesError
      rw [named]
      exact loadNames_of_unreadable unreadable
    · intro text readable noObject
      apply invoke_of_namesError
      rw [named]
      refine loadNames_of_malformed readable (Option.eq_none_iff_forall_ne_some.mpr ?_)
      intro table parsed
      obtain ⟨entries, object⟩ := NameTable.entries_of_ofText? parsed
      exact noObject entries object

theorem invoke_prints_speech :
    let file (value : Json) := value.compact.toUTF8
    let script (commands : List Json) := file (.object [("scr", .array commands)])
    let speech := Json.object [("cmd0", .string "hero："), ("arg1", .string "hello")]
    let overfull := Json.object [("cmd0", .string "wipein"), ("arg0", .string "1")]
    let music := Json.object [("cmd0", .string "bgm"), ("arg0", .string "theme")]
    let unknown := Json.object [("cmd0", .string "foo"), ("arg0", .array [])]
    let read : Reader
      | "names" => .ok (file (.object [("hero", .string "Nobody"), ("hero", .string "Lady")]))
      | "speech" => .ok (script [speech])
      | "overfull" => .ok (script [speech, overfull])
      | "rest" => .ok (script [music, unknown])
      | _ => .error .missing
    let ends (words : List String) (code : Nat) (stdout : String) :=
      ∃ output, run read words = some output ∧ output.code = code ∧ output.stdout = stdout
    ends ["--strict", "lines", "--names", "names", "--", "absent", "overfull", "speech"] 1
        "speech\n0:\n= Lady =\nhello\n\n" ∧
      ends ["lines", "--names", "absent", "speech"] 1 "" ∧
      ends ["lines", "--names", "speech", "speech"] 1 "" ∧
      ends ["discover", "--fail-fast", "rest", "absent", "rest"] 1
        "// rest\nfoo(raw, cmd, arg0) // observed: []\n" ∧
      ends ["assets", "--format=json", "rest", "speech", "rest"] 0
        ("\x7b\n  \"outfits\": [],\n  \"backgrounds\": [],\n" ++
          "  \"music\": [\n    \"theme\"\n  ],\n  \"sound_effects\": [],\n" ++
          "  \"shaders\": []\n\x7d\n") ∧
      ends ["lines", "--format", "json", "speech"] 0
        ("[\n  \x7b\n    \"file\": \"speech\",\n    \"lines\": [\n      \x7b\n" ++
          "        \"index\": 0,\n        \"speaker\": \"= hero =\",\n" ++
          "        \"raw_speaker\": \"hero：\",\n        \"text\": \"hello\"\n" ++
          "      \x7d\n    ]\n  \x7d\n]\n") := by
  intro file script speech overfull music unknown read ends
  refine ⟨?_, ?_, ?_, ?_, ?_, ?_⟩
  · obtain ⟨accepted, -, prints, -⟩ := invoke_prints_passing read ⟨false, true, false⟩
      (show (Mode.lines ["absent", "overfull", "speech"] (some "names") .text).scripts? = some _
        from rfl)
    let names := [("hero", "Nobody"), ("hero", "Lady")]
    have holds : Reader.text read "names" = .ok (Json.object (NameTable.fields names)).compact := by
      decide +kernel
    have overrides : read.Overrides (some "names") names :=
      .of_spaced holds (Json.compactChars_written _).spaced
    obtain ⟨code, stdout, -⟩ := prints _ overrides
    refine ⟨_, accepted _ (by decide +kernel), code.trans ?_, stdout.trans ?_⟩
    · decide +kernel
    · decide +kernel
  · obtain ⟨accepted, -, -, failed⟩ := invoke_prints_passing read ⟨false, false, false⟩
      (show (Mode.lines ["speech"] (some "absent") .text).scripts? = some _ from rfl)
    have output := (failed "absent" rfl).1 .missing rfl
    exact ⟨_, accepted _ (by decide +kernel), congrArg Output.code output,
      congrArg Output.stdout output⟩
  · obtain ⟨accepted, -, -, failed⟩ := invoke_prints_passing read ⟨false, false, false⟩
      (show (Mode.lines ["speech"] (some "speech") .text).scripts? = some _ from rfl)
    let document := Json.object [("scr", .array [speech])]
    have holds : Reader.text read "speech" = .ok document.compact := by decide +kernel
    have readable : Json.Readable Json.Reading.depthLimit document :=
      .object (List.forall_mem_singleton.mpr (.array (List.forall_mem_singleton.mpr
        (.object (by simp [Json.Readable.string])))))
    have output := (failed "speech" rfl).2 _ holds <| by
      intro entries same
      rw [Json.ofTextAsWritten?_compact readable] at same
      cases entries <;> simp [NameTable.fields, document] at same
    exact ⟨_, accepted _ (by decide +kernel), congrArg Output.code output,
      congrArg Output.stdout output⟩
  · obtain ⟨accepted, -, prints, -⟩ := invoke_prints_passing read ⟨true, false, false⟩
      (show (Mode.discover ["rest", "absent", "rest"] .text false).scripts? = some _ from rfl)
    obtain ⟨code, stdout, -⟩ := prints [] .unnamed
    refine ⟨_, accepted _ (by decide +kernel), code.trans ?_, stdout.trans ?_⟩
    · decide +kernel
    · decide +kernel
  · obtain ⟨accepted, -, prints, -⟩ := invoke_prints_passing read ⟨false, false, false⟩
      (show (Mode.assets ["rest", "speech", "rest"] .json).scripts? = some _ from rfl)
    obtain ⟨code, -⟩ := prints [] .unnamed
    refine ⟨_, accepted _ (by decide +kernel), code.trans ?_, ?_⟩
    · decide +kernel
    · decide +kernel
  · obtain ⟨accepted, -, prints, -⟩ := invoke_prints_passing read ⟨false, false, false⟩
      (show (Mode.lines ["speech"] none .json).scripts? = some _ from rfl)
    obtain ⟨code, -⟩ := prints [] .unnamed
    refine ⟨_, accepted _ (by decide +kernel), code.trans ?_, ?_⟩
    · decide +kernel
    · decide +kernel

end Tool
end Scenario
