/-! # Binary64 numbers

A finite double is kept as the exact number it denotes: a sign, a whole
significand and a power of two. Every operation computes the exact result first
and rounds once, to the nearest double, a tie to the even significand.
-/

namespace Scenario

namespace Binary64

/-- The power of two of the smallest positive double. -/
def leastExponent : Int := -1074

/-- The power of two of the largest doubles. -/
def greatestExponent : Int := 971

/-- Significands have 53 bits: this is `2 ^ 53`. -/
def significandLimit : Nat := 0x20000000000000

/-- The least significand with all 53 bits: this is `2 ^ 52`. -/
def fullSignificand : Nat := 0x10000000000000

/-- Each magnitude has one form: 53 significant bits, or fewer at the least exponent. -/
def Canonical (significand : Nat) (exponent : Int) : Prop :=
  significand < significandLimit ∧ leastExponent ≤ exponent ∧ exponent ≤ greatestExponent ∧
    (fullSignificand ≤ significand ∨ exponent = leastExponent)

instance (significand : Nat) (exponent : Int) : Decidable (Canonical significand exponent) := by
  unfold Canonical; infer_instance

/-- A finite double, `significand * 2 ^ exponent` with a sign. Zero keeps its sign. -/
structure Finite where
  negative : Bool
  significand : Nat
  exponent : Int
  canonical : Canonical significand exponent
  deriving DecidableEq

namespace Finite

def zero (negative : Bool) : Finite :=
  ⟨negative, 0, leastExponent, by decide⟩

instance : Inhabited Finite := ⟨zero false⟩

def isZero (x : Finite) : Bool :=
  x.significand == 0

def neg (x : Finite) : Finite :=
  { x with negative := !x.negative }

/-- The magnitude as a numerator. -/
def numerator (x : Finite) : Nat :=
  x.significand * Nat.pow 2 x.exponent.toNat

/-- The magnitude's denominator, a power of two. -/
def denominator (x : Finite) : Nat :=
  Nat.pow 2 (-x.exponent).toNat

/-- The whole number next to `x` on the side of zero. -/
def truncate (x : Finite) : Int :=
  let magnitude : Int := (x.numerator / x.denominator : Nat)
  if x.negative then -magnitude else magnitude

end Finite
end Binary64

/-- A double: a finite number, an infinity, or no number at all. -/
inductive Binary64 where
  | nan
  | infinity (negative : Bool)
  | finite (value : Binary64.Finite)
  deriving DecidableEq

namespace Binary64

instance : Inhabited Binary64 := ⟨.nan⟩

/-- Division to the nearest whole number, a half to the even neighbour. -/
def divideToEven (numerator denominator : Nat) : Nat :=
  let quotient := numerator / denominator
  match compare (2 * (numerator % denominator)) denominator with
  | .lt => quotient
  | .gt => quotient + 1
  | .eq => quotient + quotient % 2

/-- The fraction `numerator / denominator` counted in units of `2 ^ exponent`. -/
def inUnits (numerator denominator : Nat) (exponent : Int) : Nat × Nat :=
  (numerator * Nat.pow 2 (-exponent).toNat, denominator * Nat.pow 2 exponent.toNat)

/-- The exponent at which the fraction has 53 bits before the point, or the least one. -/
def unitExponent (numerator denominator : Nat) : Int :=
  let low := max leastExponent ((numerator.log2 : Int) - denominator.log2 - 53)
  let (n, d) := inUnits numerator denominator low
  if n / d < significandLimit then low else low + 1

/-- The double nearest to a fraction; a magnitude past the largest double is infinite. -/
def ofRatio (negative : Bool) (numerator denominator : Nat) : Binary64 :=
  if numerator = 0 then .finite (.zero negative)
  else
    let exponent := unitExponent numerator denominator
    let (n, d) := inUnits numerator denominator exponent
    let rounded := divideToEven n d
    let (significand, exponent) :=
      if rounded = significandLimit then (fullSignificand, exponent + 1) else (rounded, exponent)
    if h : Canonical significand exponent then .finite ⟨negative, significand, exponent, h⟩
    else .infinity negative

/-- The double nearest to a natural number. -/
def ofNat (n : Nat) : Binary64 :=
  ofRatio false n 1

/-- The double nearest to an integer; zero is positive. -/
def ofInt (i : Int) : Binary64 :=
  ofRatio (decide (i < 0)) i.natAbs 1

/-- The finite value, if there is one. -/
def finite? : Binary64 → Option Finite
  | .finite x => some x
  | _ => none

/-- The nearest double to `digits * 10 ^ exponent`. -/
def ofDecimal (negative : Bool) (digits : Nat) (exponent : Int) : Binary64 :=
  ofRatio negative (digits * Nat.pow 10 exponent.toNat) (Nat.pow 10 (-exponent).toNat)

namespace Finite

def mul (x y : Finite) : Binary64 :=
  ofRatio (x.negative != y.negative) (x.numerator * y.numerator) (x.denominator * y.denominator)

/-- The quotient, for a divisor other than zero. -/
def div (x y : Finite) : Binary64 :=
  ofRatio (x.negative != y.negative) (x.numerator * y.denominator) (x.denominator * y.numerator)

end Finite
end Binary64
end Scenario
