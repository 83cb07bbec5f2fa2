import Scenario.Handler

/-! # Assets

The names of outfits, pictures, music, sounds and shaders that scripts refer to,
each once and in ascending order.
-/

namespace Scenario

/-- Names in ascending order of their UTF-8 bytes, which is that of their code points. -/
abbrev NameSet := List String

namespace NameSet

/-- Puts a name at its place, unless it is there already. -/
def insert (name : String) : NameSet → NameSet
  | [] => [name]
  | other :: rest =>
    if name = other then other :: rest
    else if name < other then name :: other :: rest
    else other :: insert name rest

@[simp] theorem mem_insert {name other : String} {names : NameSet} :
    other ∈ insert name names ↔ other = name ∨ other ∈ names := by
  induction names with
  | nil => simp [insert]
  | cons held rest ih =>
    unfold insert
    split
    · simp_all
    · split
      · simp
      · simp only [List.mem_cons, ih]
        exact or_left_comm

def union (names added : NameSet) : NameSet :=
  added.foldl (fun names name => insert name names) names

@[simp] theorem mem_union {name : String} {names added : NameSet} :
    name ∈ union names added ↔ name ∈ names ∨ name ∈ added := by
  unfold union
  induction added generalizing names with
  | nil => simp
  | cons first rest ih =>
    rw [List.foldl_cons, ih, mem_insert, List.mem_cons, or_assoc, or_left_comm]

end NameSet

/-- The names referred to, by what they stand for. -/
structure Catalog where
  outfits : NameSet
  backgrounds : NameSet
  music : NameSet
  soundEffects : NameSet
  shaders : NameSet

/-- What an asset name stands for. -/
inductive AssetKind where
  | outfit
  | background
  | music
  | soundEffect
  | shader
  deriving DecidableEq, Repr

/-- The asset that an operation refers to. -/
def Operation.asset? : Operation → Option (AssetKind × Arg)
  | .charaLoad who => some (.outfit, who)
  | .background filename => some (.background, filename)
  | .bgm filename _ => some (.music, filename)
  | .se2 filename _ => some (.soundEffect, filename)
  | .shader filename _ => some (.shader, filename)
  | _ => none

namespace Catalog

def empty : Catalog :=
  ⟨[], [], [], [], []⟩

def add (catalog : Catalog) (kind : AssetKind) (name : String) : Catalog :=
  match kind with
  | .outfit => { catalog with outfits := NameSet.insert name catalog.outfits }
  | .background => { catalog with backgrounds := NameSet.insert name catalog.backgrounds }
  | .music => { catalog with music := NameSet.insert name catalog.music }
  | .soundEffect => { catalog with soundEffects := NameSet.insert name catalog.soundEffects }
  | .shader => { catalog with shaders := NameSet.insert name catalog.shaders }

/-- Adds the name that an argument reads as; null names nothing. -/
def remember (catalog : Catalog) (kind : AssetKind) (arg : Arg) : Catalog :=
  if arg.isNull then catalog else catalog.add kind arg.text

/-- Keeps the asset names of the operations of a run. -/
def collector : Handler Catalog where
  operation := fun catalog _ operation =>
    match operation.asset? with
    | some (kind, arg) => catalog.remember kind arg
    | none => catalog

/-- The names in either catalogue. -/
def merge (catalog other : Catalog) : Catalog where
  outfits := NameSet.union catalog.outfits other.outfits
  backgrounds := NameSet.union catalog.backgrounds other.backgrounds
  music := NameSet.union catalog.music other.music
  soundEffects := NameSet.union catalog.soundEffects other.soundEffects
  shaders := NameSet.union catalog.shaders other.shaders

/-- Titles and names in the order in which they are written. -/
def sections (catalog : Catalog) : List (String × NameSet) :=
  [("Outfits", catalog.outfits), ("Backgrounds", catalog.backgrounds), ("Music", catalog.music),
    ("Sound Effects", catalog.soundEffects), ("Shaders", catalog.shaders)]

def isEmpty (catalog : Catalog) : Bool :=
  catalog.sections.all fun (_, names) => names.isEmpty

/-- A title with its names below it, one a line. -/
def sectionText : String × NameSet → String
  | (title, names) => title ++ ":\n" ++ String.join (names.map (· ++ "\n"))

/-- The sections with an empty line between them. -/
def text (catalog : Catalog) : String :=
  "\n".intercalate (catalog.sections.map sectionText)

def namesJson (names : NameSet) : Json :=
  .array (names.map .string)

def toJson (catalog : Catalog) : Json :=
  .object [("outfits", namesJson catalog.outfits), ("backgrounds", namesJson catalog.backgrounds),
    ("music", namesJson catalog.music), ("sound_effects", namesJson catalog.soundEffects),
    ("shaders", namesJson catalog.shaders)]

end Catalog

/-- The assets that a run refers to. -/
def Run.assets (run : Run) : Catalog :=
  Catalog.collector.watch .empty run.events

end Scenario
