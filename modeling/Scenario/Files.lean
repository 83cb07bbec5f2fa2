/-! # Files

Reading files by path, from what lies below a working directory. A path is
walked component by component as a file system does.
-/

namespace Scenario

abbrev Path := String

/-- Why a file could not be read. -/
inductive ReadError where
  | missing
  | directory
  /-- A component before the last is a file. -/
  | notDirectory
  | nameTooLong
  | nulInName
  /-- The bytes were read, but are no text. -/
  | notText
  | other (text : String)
  deriving DecidableEq, Repr

def ReadError.message : ReadError → String
  | .missing => "No such file or directory (os error 2)"
  | .directory => "Is a directory (os error 21)"
  | .notDirectory => "Not a directory (os error 20)"
  | .nameTooLong => "File name too long (os error 36)"
  | .nulInName => "file name contained an unexpected NUL byte"
  | .notText => "stream did not contain valid UTF-8"
  | .other text => text

/-- A way to read files. -/
abbrev Reader := Path → Except ReadError ByteArray

/-- The text of a file, which must be UTF-8 throughout. -/
def Reader.text (read : Reader) (path : Path) : Except ReadError String := do
  let bytes ← read path
  match String.fromUTF8? bytes with
  | some text => return text
  | none => throw .notText

/-- What lies at a path. -/
inductive Entry where
  | file (bytes : ByteArray)
  | directory

/-- The files and directories below the working directory, by relative path. The directories on
    the way to an entry are there too. -/
structure Files where
  entries : List (Path × Entry)

namespace Files

/-- The components of a path that name something. -/
def components (path : Path) : List String :=
  (path.splitOn "/").filter fun name => name != "" && name != "."

/-- What lies at a place, given by its components from the working directory. -/
def at? (files : Files) (place : List String) : Option Entry :=
  match files.entries.find? fun (path, _) => components path == place with
  | some (_, entry) => some entry
  | none =>
    if place.isEmpty || files.entries.any fun (path, _) => place.isPrefixOf (components path) then
      some .directory
    else none

/-- Follows the components of a path from a directory above the working directory, or from the
    root. There, no name is known. -/
def walkOutside : List String → Except ReadError Entry
  | [] => .ok .directory
  | name :: rest =>
    if name = "" ∨ name = "." ∨ name = ".." then walkOutside rest
    else if 255 < name.utf8ByteSize then .error .nameTooLong
    else .error .missing

/-- Follows the components of a path from a place. Only from a directory does any component lead
    on, and a path that leaves the working directory does not come back. -/
def walk (files : Files) : List String → List String → Except ReadError Entry
  | place, [] =>
    match files.at? place with
    | some entry => .ok entry
    | none => .error .missing
  | place, name :: rest =>
    match files.at? place with
    | none => .error .missing
    | some (.file _) => .error .notDirectory
    | some .directory =>
      if name = "" ∨ name = "." then files.walk place rest
      else if name = ".." then
        if place.isEmpty then walkOutside rest else files.walk place.dropLast rest
      else if 255 < name.utf8ByteSize then .error .nameTooLong
      else files.walk (place ++ [name]) rest

/-- What a path leads to, from the root if it starts with a slash. -/
def locate (files : Files) (path : Path) : Except ReadError Entry :=
  if path.startsWith "/" then walkOutside (path.splitOn "/")
  else files.walk [] (path.splitOn "/")

/-- Reads one of the files. -/
def read (files : Files) : Reader := fun path =>
  if path.toList.contains '\x00' then .error .nulInName
  else if path.isEmpty then .error .missing
  else if 4095 < path.utf8ByteSize then .error .nameTooLong
  else match files.locate path with
    | .ok (.file bytes) => .ok bytes
    | .ok .directory => .error .directory
    | .error reason => .error reason

end Files
end Scenario
