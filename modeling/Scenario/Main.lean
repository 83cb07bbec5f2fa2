import Scenario.Tool

/-! # The program

Reads the files that the words name, lets the tool work on them, and prints what
it says.
-/

namespace Scenario.Main

/-- The reason that a system error gives. Its number may be negated. -/
def reason (error : IO.Error) : ReadError :=
  let number? : Option UInt32 := match error with
    | .noFileOrDirectory _ number _ => some number
    | .inappropriateType _ number _ => some number
    | .invalidArgument _ number _ => some number
    | _ => none
  match number?.map fun number => min number (0 - number) with
  | some 2 => .missing
  | some 20 => .notDirectory
  | some 21 => .directory
  | some 36 => .nameTooLong
  | _ => .other (toString error)

/-- Reads a file from disk. -/
def readFile (path : Path) : IO (Except ReadError ByteArray) := do
  try
    return .ok (← IO.FS.readBinFile path)
  catch error =>
    return .error (reason error)

/-- The files that a request reads. -/
def paths : CommandLine.Request → List Path
  | .run ⟨.lines scripts names _, _⟩ => names.toList ++ scripts
  | .run ⟨.assets scripts _, _⟩ => scripts
  | .run ⟨.discover scripts _ _, _⟩ => scripts
  | _ => []

end Scenario.Main

open Scenario in
def main (words : List String) : IO UInt32 := do
  let named := ((CommandLine.parse words).map Main.paths).getD []
  let contents ← named.mapM fun path => return (path, ← Main.readFile path)
  let read : Reader := fun path => (contents.lookup path).getD (.error .missing)
  match Tool.run read words with
  | none =>
    IO.eprint Tool.usage
    return 2
  | some output =>
    IO.eprint (output.stderr true)
    IO.print output.stdout
    return output.code.toUInt32
