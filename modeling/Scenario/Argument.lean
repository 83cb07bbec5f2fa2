import Scenario.Binary64.Layout
import Scenario.Json.Printer

/-! # Argument values

What a parameter of an operation holds once it is bound: a number of the kind
that it asks for, or the value as the script has it.
-/

namespace Scenario

/-- A whole number of 64 bits with a sign: from `-2 ^ 63` up to, but not including, `2 ^ 63`. -/
structure Word where
  value : Int
  bounded : -0x8000000000000000 ≤ value ∧ value < 0x8000000000000000
  deriving DecidableEq

namespace Word

/-- The number as a word, if it fits. -/
def ofInt? (value : Int) : Option Word :=
  if bounded : -0x8000000000000000 ≤ value ∧ value < 0x8000000000000000 then some ⟨value, bounded⟩
  else none

def toJson (word : Word) : Json :=
  .number (.whole word.value ⟨word.bounded.1, by have := word.bounded.2; omega⟩)

end Word

/-- The kind of value that a parameter asks for. -/
inductive Kind where
  | int
  | float
  /-- Whatever the script has. -/
  | any
  deriving DecidableEq, Repr

def Kind.name : Kind → String
  | .int => "int"
  | .float => "float"
  | .any => "any"

/-- A bound value. -/
inductive Arg where
  | int (value : Word)
  | float (value : Binary64)
  /-- The value of an untyped parameter, or one that did not convert. -/
  | raw (value : Json)

namespace Arg

def null : Arg :=
  .raw .null

instance : Inhabited Arg := ⟨null⟩

def isNull : Arg → Bool
  | .raw .null => true
  | _ => false

/-- The value for reading: numbers plainly, a text as itself, all else as JSON. -/
def text : Arg → String
  | .int word => toString word.value
  | .float x => Binary64.plain.text x
  | .raw (.string text) => text
  | .raw value => value.compact

/-- The value alone, without the kind it was bound as. -/
def toJson : Arg → Json
  | .int word => word.toJson
  | .float x => .ofDouble x
  | .raw value => value

end Arg
end Scenario
