import Scenario.Binary64

/-! # Shortest decimals

The decimal with the fewest digits that rounds back to a given double, and of
those the one nearest to it. Found by exact arithmetic: the reals that round to
the double form an interval, and each grid of powers of ten is tried in turn.
-/

namespace Scenario

/-- A magnitude `digits * 10 ^ exponent`. -/
structure Decimal where
  digits : Nat
  exponent : Int
  deriving DecidableEq, Repr

namespace Decimal

/-- The same magnitude with no zero at the end of its digits. -/
def stripZeros (d : Decimal) : Decimal :=
  go d.digits d
where
  go : Nat → Decimal → Decimal
    | 0, d => d
    | fuel + 1, d =>
      if d.digits ≠ 0 ∧ d.digits % 10 = 0 then go fuel ⟨d.digits / 10, d.exponent + 1⟩ else d

/-- Compares a decimal with `n * 2 ^ q`, exactly. -/
def compareBinary (d : Decimal) (n : Nat) (q : Int) : Ordering :=
  compare (d.digits * Nat.pow 10 d.exponent.toNat * Nat.pow 2 (-q).toNat)
    (n * Nat.pow 2 q.toNat * Nat.pow 10 (-d.exponent).toNat)

end Decimal

namespace Binary64

/-- Where a half goes that lies between two decimals of the same length. -/
inductive Tie where
  /-- To the even last digit. -/
  | toEven
  /-- Away from zero. -/
  | up
  deriving DecidableEq, Repr

namespace Finite

/-- The gap to the double below is half the gap to the double above. -/
def narrowBelow (x : Finite) : Bool :=
  x.significand == fullSignificand && decide (leastExponent < x.exponent)

/-- The reals that round to `x` lie between the midpoints to its neighbours; an even
    significand takes the midpoints too. -/
def readsBack (x : Finite) (d : Decimal) : Bool :=
  let low := if x.narrowBelow then 4 * x.significand - 1 else 4 * x.significand - 2
  let high := 4 * x.significand + 2
  let atEnds := x.significand % 2 == 0
  let fromLow := d.compareBinary low (x.exponent - 2)
  let fromHigh := d.compareBinary high (x.exponent - 2)
  (fromLow == .gt || (atEnds && fromLow == .eq)) &&
    (fromHigh == .lt || (atEnds && fromHigh == .eq))

/-- The magnitude of `x` counted in units of `10 ^ exponent`, as a fraction. -/
def inTens (x : Finite) (exponent : Int) : Nat × Nat :=
  (x.numerator * Nat.pow 10 (-exponent).toNat, x.denominator * Nat.pow 10 exponent.toNat)

/-- The number of digits before the point: the least `k` with `x < 10 ^ k`. The first guess
    comes from the binary logarithm and is low by at most a few. -/
def scale (x : Finite) : Int :=
  let bits : Int := (x.significand.log2 : Int) + x.exponent
  climb 4 (bits * 30103 / 100000 - 1)
where
  climb : Nat → Int → Int
    | 0, k => k
    | fuel + 1, k =>
      let (n, d) := x.inTens k
      if n < d then k else climb fuel (k + 1)

/-- The best decimal on the grid `10 ^ exponent` that rounds back to `x`, if there is one. -/
def onGrid? (x : Finite) (tie : Tie) (exponent : Int) : Option Decimal :=
  let (n, d) := x.inTens exponent
  let below : Decimal := ⟨n / d, exponent⟩
  let above : Decimal := ⟨n / d + 1, exponent⟩
  match x.readsBack below, x.readsBack above with
  | true, false => some below
  | false, true => some above
  | false, false => none
  | true, true =>
    match compare (2 * (n % d)) d, tie with
    | .lt, _ => some below
    | .gt, _ => some above
    | .eq, .up => some above
    | .eq, .toEven => some (if below.digits % 2 = 0 then below else above)

/-- The exact value of `x` as a decimal. -/
def exactDecimal (x : Finite) : Decimal :=
  ⟨x.numerator * Nat.pow 5 (-x.exponent).toNat, min x.exponent 0⟩

/-- The shortest decimal that rounds back to `x`; 17 digits always suffice. -/
def shortest (x : Finite) (tie : Tie) : Decimal :=
  if x.isZero then ⟨0, 0⟩
  else
    let k := x.scale
    let found := (List.range 17).findSome? fun (n : Nat) => x.onGrid? tie (k - 1 - n)
    (found.getD x.exactDecimal).stripZeros

end Finite
end Binary64
end Scenario
