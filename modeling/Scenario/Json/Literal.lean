import Scenario.Json
import Scenario.Text.Numeral

/-! # Number literals

The grammar of JSON numbers and the value each literal stands for. A literal
without fraction and exponent is whole if it fits 64 bits. Every other one is a
double: its digits are gathered into a significand of 64 bits, which is then
scaled by a power of ten, each step rounded.
-/

namespace Scenario.Json

open Text (digitsValue)

/-- The parts of a number literal; the digit runs are not empty. -/
structure Literal where
  negative : Bool
  whole : List Char
  fraction : Option (List Char)
  exponent : Option Int

namespace Literal

/-- Separates a run of digits that is not empty. -/
def digits? (cs : List Char) : Option (List Char × List Char) :=
  match cs.span Char.isDigit with
  | ([], _) => none
  | run => some run

/-- Whole digits: a zero stands alone. -/
def whole? (cs : List Char) : Option (List Char × List Char) := do
  let (digits, rest) ← digits? cs
  if digits.head? = some '0' ∧ digits ≠ ['0'] then none else return (digits, rest)

def fraction? : List Char → Option (Option (List Char) × List Char)
  | '.' :: cs => (digits? cs).map fun (digits, rest) => (some digits, rest)
  | cs => some (none, cs)

/-- The exponent, which ends the literal. -/
def exponent? : List Char → Option (Option Int)
  | [] => some none
  | cs => (Text.exponent? cs).map some

/-- Reads a literal and nothing else. -/
def ofChars? (cs : List Char) : Option Literal := do
  let (negative, cs) := match cs with
    | '-' :: cs => (true, cs)
    | cs => (false, cs)
  let (whole, cs) ← whole? cs
  let (fraction, cs) ← fraction? cs
  let exponent ← exponent? cs
  return ⟨negative, whole, fraction, exponent⟩

/-- A significand of at most 64 bits and the power of ten it is scaled by. -/
structure Scaled where
  significand : Nat
  exponent : Int

/-- Significands are below `2 ^ 64`. -/
def significandLimit : Nat := 0x10000000000000000

/-- The digits before the point. From the first one on that does not fit, digits only count
    as places. -/
def gatherWhole (digits : List Char) : Scaled :=
  let (significand, places) := digits.foldl
    (fun (significand, places) c =>
      let next := 10 * significand + digitsValue [c]
      if places = 0 ∧ next < significandLimit then (next, 0) else (significand, places + 1))
    (0, 0)
  ⟨significand, (places : Nat)⟩

/-- The digits after the point, up to the first one that does not fit. -/
def gatherFraction : Scaled → List Char → Scaled
  | s, [] => s
  | s, c :: cs =>
    let next := 10 * s.significand + digitsValue [c]
    if next < significandLimit then gatherFraction ⟨next, s.exponent - 1⟩ cs else s

def scaled (literal : Literal) : Scaled :=
  gatherFraction (gatherWhole literal.whole) (literal.fraction.getD [])

/-- The nearest double to a power of ten. -/
def powerOfTen (k : Nat) : Binary64 :=
  .ofNat (Nat.pow 10 k)

/-- A double times a power of ten; past the largest double there is no value. -/
def scaleUp? (x : Binary64.Finite) (k : Nat) : Option Binary64.Finite := do
  if 308 < k then
    if x.isZero then return x else none
  else (x.mul (← (powerOfTen k).finite?)).finite?

/-- A double divided by a power of ten. One power reaches down to `10 ^ -308`; below that it
    takes two, and below `10 ^ -616` nothing is left. -/
def scaleDown? (x : Binary64.Finite) (k : Nat) : Option Binary64.Finite := do
  if 616 < k then return .zero x.negative
  let x ← if 308 < k then (x.div (← (powerOfTen 308).finite?)).finite? else some x
  let k := if 308 < k then k - 308 else k
  (x.div (← (powerOfTen k).finite?)).finite?

/-- An exponent past 31 bits is not added up: the literal is zero or has no value. -/
def exponentLimit : Nat := 0x7FFFFFFF

/-- The literal as a double without its sign. -/
def magnitude? (literal : Literal) : Option Binary64.Finite := do
  let s := literal.scaled
  let exponent := literal.exponent.getD 0
  if exponentLimit < exponent.natAbs then
    if s.significand ≠ 0 ∧ 0 < exponent then none else return .zero false
  let x ← (Binary64.ofNat s.significand).finite?
  let power := s.exponent + exponent
  if 0 ≤ power then scaleUp? x power.toNat else scaleDown? x (-power).toNat

/-- The literal as a double; one past the largest double has no value. -/
def double? (literal : Literal) : Option Number :=
  literal.magnitude?.map fun x => .double (if literal.negative then x.neg else x)

/-- The value of a literal. Minus zero is a double, which can hold its sign. -/
def number? (literal : Literal) : Option Number :=
  if literal.fraction.isSome ∨ literal.exponent.isSome then literal.double?
  else
    let magnitude := digitsValue literal.whole
    let value : Int := if literal.negative then -magnitude else magnitude
    if bounded : -0x8000000000000000 ≤ value ∧ value < 0x10000000000000000 then
      if literal.negative ∧ magnitude = 0 then literal.double? else some (.whole value bounded)
    else literal.double?

end Literal

/-- The number a literal stands for. -/
def Number.ofChars? (cs : List Char) : Option Number :=
  (Literal.ofChars? cs).bind Literal.number?

end Scenario.Json
