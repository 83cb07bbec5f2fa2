import Scenario.Argument
import Scenario.Text.Numeral

/-! # Converting values

How a JSON value becomes a number of the kind that a parameter asks for. A value
that does not convert is left to the caller.
-/

namespace Scenario

/-- The whole part of a double, if its magnitude is below `2 ^ 63`. -/
def Binary64.Finite.toWord? (x : Binary64.Finite) : Option Word :=
  if x.truncate.natAbs < 0x8000000000000000 then Word.ofInt? x.truncate else none

namespace Json

/-- The number itself, if it is whole and in range. -/
def Number.word? : Number → Option Word
  | .whole value _ => Word.ofInt? value
  | .double _ => none

/-- A number that is no word itself is taken as the nearest double, which loses its fraction. -/
def Number.toWord? (n : Number) : Option Word :=
  n.word?.or (n.toDouble.finite?.bind Binary64.Finite.toWord?)

/-- Numbers, truth values as 1 and 0, and texts that are whole numerals. -/
def toWord? : Json → Option Word
  | .number n => n.toWord?
  | .bool true => Word.ofInt? 1
  | .bool false => Word.ofInt? 0
  | .string text => (Text.integer? (Text.numeral text)).bind Word.ofInt?
  | _ => none

/-- Numbers, truth values as 1 and 0, and texts that are numerals of any sort. -/
def toDouble? : Json → Option Binary64
  | .number n => some n.toDouble
  | .bool true => some (.ofNat 1)
  | .bool false => some (.ofNat 0)
  | .string text => Text.real? (Text.numeral text)
  | _ => none

end Json

/-- The value as a parameter of this kind holds it, if it converts. -/
def Kind.coerce? (kind : Kind) (value : Json) : Option Arg :=
  match kind with
  | .any => some (.raw value)
  | .int => value.toWord?.map .int
  | .float => value.toDouble?.map .float

end Scenario
