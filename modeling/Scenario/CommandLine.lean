import Scenario.Batch

/-! # The command line

Which words make an invocation. The flags that belong to every mode may stand
before or after the mode's name, each at most once in either place. Everything
after a lone `--` is a script path.
-/

namespace Scenario.CommandLine

inductive Format where
  | text
  | json
  deriving DecidableEq, Repr

/-- What is asked for. -/
inductive Mode where
  | lines (scripts : List Path) (names : Option Path) (format : Format)
  | assets (scripts : List Path) (format : Format)
  | discover (scripts : List Path) (format : Format) (summary : Bool)
  | opcodes
  deriving DecidableEq, Repr

/-- The flags that belong to every mode. -/
structure Flags where
  failFast : Bool := false
  strict : Bool := false
  verbose : Bool := false
  deriving DecidableEq, Repr

structure Invocation where
  mode : Mode
  flags : Flags
  deriving DecidableEq, Repr

/-- The meaning of a command line that is accepted. -/
inductive Request where
  | run (invocation : Invocation)
  | version
  | help
  deriving DecidableEq, Repr

namespace Flags

def either (flags other : Flags) : Flags :=
  ⟨flags.failFast || other.failFast, flags.strict || other.strict, flags.verbose || other.verbose⟩

/-- Sets the flag with this name; none if there is no such flag or it is set already. -/
def raise? (flags : Flags) (name : String) : Option Flags :=
  match name with
  | "--fail-fast" => if flags.failFast then none else some { flags with failFast := true }
  | "--strict" => if flags.strict then none else some { flags with strict := true }
  | "--verbose" => if flags.verbose then none else some { flags with verbose := true }
  | _ => none

end Flags

/-- The modes by name. -/
inductive ModeName where
  | lines
  | assets
  | discover
  | opcodes
  deriving DecidableEq, Repr

def ModeName.ofWord? : String → Option ModeName
  | "lines" => some .lines
  | "assets" => some .assets
  | "discover" => some .discover
  | "opcodes" => some .opcodes
  | _ => none

/-- What has been read after a mode's name. -/
structure Gathered where
  flags : Flags := {}
  scripts : List Path := []
  names : Option Path := none
  format : Option Format := none
  summary : Bool := false

/-- The word starts with a dash and is more than that: it is no value and no path. -/
def isOption (word : String) : Bool :=
  word.startsWith "-" && word != "-"

/-- One dash and a letter, perhaps with more letters behind it. -/
def isShort (word : String) (letter : Char) : Bool :=
  match word.toList with
  | '-' :: first :: _ => first == letter
  | _ => false

/-- Separates a value that is attached to a long option by an equals sign. -/
def splitValue (word : String) : String × Option String :=
  match word.toList.span (· != '=') with
  | (name, []) => (String.ofList name, none)
  | (name, _ :: value) => (String.ofList name, some (String.ofList value))

namespace Gathered

def addScript? (gathered : Gathered) (mode : ModeName) (path : String) : Option Gathered :=
  if mode = .opcodes ∨ path.isEmpty then none
  else some { gathered with scripts := gathered.scripts ++ [path] }

/-- Sets an option that takes a value; each may be given once. -/
def setValue? (gathered : Gathered) (mode : ModeName) (name value : String) : Option Gathered :=
  if name = "--names" ∧ mode = .lines then
    if gathered.names.isSome ∨ value.isEmpty then none
    else some { gathered with names := some value }
  else if name = "--format" ∧ mode ≠ .opcodes then
    match gathered.format, value with
    | none, "text" => some { gathered with format := some .text }
    | none, "json" => some { gathered with format := some .json }
    | _, _ => none
  else none

/-- Sets an option that takes no value. -/
def setFlag? (gathered : Gathered) (mode : ModeName) (name : String) : Option Gathered :=
  if name = "--summary" ∧ mode = .discover then
    if gathered.summary then none else some { gathered with summary := true }
  else (gathered.flags.raise? name).map fun flags => { gathered with flags := flags }

/-- The invocation, once all words are read. A mode that reads scripts needs at least one. -/
def toInvocation? (gathered : Gathered) (mode : ModeName) (before : Flags) : Option Invocation :=
  let flags := before.either gathered.flags
  let format := gathered.format.getD .text
  if gathered.scripts.isEmpty && mode != .opcodes then none
  else match mode with
    | .lines => some ⟨.lines gathered.scripts gathered.names format, flags⟩
    | .assets => some ⟨.assets gathered.scripts format, flags⟩
    | .discover => some ⟨.discover gathered.scripts format gathered.summary, flags⟩
    | .opcodes => some ⟨.opcodes, flags⟩

end Gathered

/-- Reads the words after a mode's name. -/
def parseMode (mode : ModeName) (before : Flags) : Gathered → List String → Option Request
  | gathered, [] => (gathered.toInvocation? mode before).map .run
  | gathered, word :: rest =>
    if word = "--" then do
      let gathered ← rest.foldlM (fun gathered path => gathered.addScript? mode path) gathered
      return .run (← gathered.toInvocation? mode before)
    else if word = "--help" ∨ isShort word 'h' then some .help
    else if !isOption word then
      (gathered.addScript? mode word).bind (parseMode mode before · rest)
    else
      match splitValue word, rest with
      | (name, some value), rest =>
        (gathered.setValue? mode name value).bind (parseMode mode before · rest)
      | (name, none), [] => (gathered.setFlag? mode name).bind (parseMode mode before · [])
      | (name, none), next :: rest =>
        match gathered.setFlag? mode name with
        | some gathered => parseMode mode before gathered (next :: rest)
        | none =>
          if isOption next then none
          else (gathered.setValue? mode name next).bind (parseMode mode before · rest)

/-- Reads the words up to a mode's name, and then those of the mode. -/
def parseFrom : Flags → List String → Option Request
  | _, [] => none
  | flags, word :: rest =>
    match ModeName.ofWord? word with
    | some mode => parseMode mode flags {} rest
    | none =>
      if word = "--version" ∨ isShort word 'V' then some .version
      else if word = "--help" ∨ isShort word 'h' then some .help
      else if word = "help" then parseHelp rest
      else (flags.raise? word).bind (parseFrom · rest)
where
  /-- Help may be asked for about one mode, or about help itself. -/
  parseHelp : List String → Option Request
    | [] => some .help
    | [word] => if word = "help" ∨ (ModeName.ofWord? word).isSome then some .help else none
    | _ => none

/-- The request that the words make; none if they make none. -/
def parse (words : List String) : Option Request :=
  parseFrom {} words

end Scenario.CommandLine
