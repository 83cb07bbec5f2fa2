import Scenario.Binary64.Shortest

/-! # How doubles are written

A layout fixes what the shortest digits leave open: where positional writing
ends, whether whole values keep a fraction part, and the sign of an exponent.
-/

namespace Scenario.Binary64

/-- The decisions of one number format. -/
structure Layout where
  /-- Which decimal exponents of the leading digit are written positionally. -/
  positional : Int → Bool
  /-- Whole values written positionally end in a point and a zero. -/
  wholeFraction : Bool
  /-- Positive exponents carry a plus sign. -/
  exponentPlus : Bool
  tie : Tie

namespace Layout

def zeros (n : Int) : String :=
  String.ofList (List.replicate n.toNat '0')

/-- The digits with the point after the first `point` of them. -/
def position (layout : Layout) (digits : List Char) (point : Int) : String :=
  let count : Int := digits.length
  if point ≤ 0 then "0." ++ zeros (-point) ++ String.ofList digits
  else if count ≤ point then
    String.ofList digits ++ zeros (point - count) ++ (if layout.wholeFraction then ".0" else "")
  else String.ofList (digits.take point.toNat) ++ "." ++ String.ofList (digits.drop point.toNat)

/-- One digit before the point, and the exponent of ten. -/
def scientific (layout : Layout) (digits : List Char) (exponent : Int) : String :=
  let fraction := if digits.length ≤ 1 then "" else "." ++ String.ofList (digits.drop 1)
  let plus := if layout.exponentPlus ∧ 0 ≤ exponent then "+" else ""
  String.ofList (digits.take 1) ++ fraction ++ "e" ++ plus ++ toString exponent

def magnitude (layout : Layout) (d : Decimal) : String :=
  let digits := Nat.toDigits 10 d.digits
  let exponent := (digits.length : Int) + d.exponent - 1
  if layout.positional exponent then layout.position digits (exponent + 1)
  else layout.scientific digits exponent

/-- A finite double; zero keeps its sign. -/
def finite (layout : Layout) (x : Finite) : String :=
  (if x.negative then "-" else "") ++ layout.magnitude (x.shortest layout.tie)

/-- A double of any kind. -/
def text (layout : Layout) : Binary64 → String
  | .nan => "NaN"
  | .infinity negative => if negative then "-inf" else "inf"
  | .finite x => layout.finite x

end Layout

/-- Plain text: always positional, and whole values have no fraction part. -/
def plain : Layout where
  positional := fun _ => true
  wholeFraction := false
  exponentPlus := false
  tie := .up

/-- Exact text that shows the kind of number: whole values end in `.0`, and magnitudes
    outside `1e-4 .. 1e16` have an exponent. -/
def detailed : Layout where
  positional := fun exponent => decide (-4 ≤ exponent ∧ exponent ≤ 15)
  wholeFraction := true
  exponentPlus := false
  tie := .up

end Scenario.Binary64
