import Scenario.Json

/-! # Speakers

A full-width colon in an opcode name marks it as a speaker: it joins the name to
an optional outfit, and alone it stands for the narrator.
-/

namespace Scenario

/-- Who speaks a line. -/
inductive Speaker where
  /-- An opcode name with the separator in it. -/
  | tagged (label : String)
  /-- An unregistered opcode name as it stands. -/
  | untagged (label : String)
  deriving DecidableEq, Repr

namespace Speaker

/-- Joins a speaker's name to an outfit. -/
def separator : Char := '：'

/-- The opcode name marks a speaker. -/
def isTag (label : String) : Bool :=
  label.toList.contains separator

/-- The mark of narration: the separator alone. -/
def isNarration (label : String) : Bool :=
  label == String.singleton separator

def label : Speaker → String
  | .tagged label => label
  | .untagged label => label

def toJson : Speaker → Json
  | .tagged label => .object [("kind", .string "tagged"), ("label", .string label)]
  | .untagged label => .object [("kind", .string "untagged"), ("label", .string label)]

end Speaker

/-- The two parts of a tagged label. -/
structure SpeakerTag where
  name : String
  /-- An outfit, never the empty text. -/
  qualifier : Option String
  deriving DecidableEq, Repr

/-- Splits a label at its first separator. An empty qualifier counts as none. -/
def SpeakerTag.ofLabel (label : String) : SpeakerTag :=
  let (name, rest) := label.toList.span (· != Speaker.separator)
  let qualifier := rest.drop 1
  ⟨String.ofList name, if qualifier.isEmpty then none else some (String.ofList qualifier)⟩

/-- A spoken line. Its text may be any value. -/
structure Line where
  speaker : Speaker
  text : Json

def Line.toJson (line : Line) : Json :=
  .object [("speaker", line.speaker.toJson), ("text", line.text)]

end Scenario
