import Mathlib.Algebra.Order.Field.Power
import Mathlib.Tactic.Linarith
import Scenario.Binary64.Shortest
import Scenario.Proofs.Truncation

/-! # Decimals that read back

The shortest decimal of a double lies between the midpoints to its neighbours. So
no other double is nearer to it, and rounding it to the nearest double gives the
double back.
-/

namespace Scenario

namespace Decimal

/-- The exact magnitude of a decimal. -/
def rational (d : Decimal) : ℚ :=
  d.digits * 10 ^ d.exponent

/-- A power, with the places that a negative exponent takes off put back. -/
theorem zpow_mul_places {b : ℚ} (nonzero : b ≠ 0) (e : ℤ) :
    b ^ e * b ^ (-e).toNat = b ^ e.toNat := by
  rw [← zpow_natCast, ← zpow_natCast, ← zpow_add₀ nonzero]
  congr 1
  omega

/-- The comparison is exact. -/
theorem compareBinary_eq (d : Decimal) (n : Nat) (q : Int) :
    d.compareBinary n q = compare d.rational (n * 2 ^ q) := by
  have scale : (0 : ℚ) < 10 ^ (-d.exponent).toNat * 2 ^ (-q).toNat := by positivity
  have decimal : ((d.digits * 10 ^ d.exponent.toNat * 2 ^ (-q).toNat : Nat) : ℚ) =
      d.rational * (10 ^ (-d.exponent).toNat * 2 ^ (-q).toNat) := by
    have places := zpow_mul_places (b := 10) (by norm_num) d.exponent
    push_cast [rational]
    rw [← places]
    ring
  have binary : ((n * 2 ^ q.toNat * 10 ^ (-d.exponent).toNat : Nat) : ℚ) =
      n * 2 ^ q * (10 ^ (-d.exponent).toNat * 2 ^ (-q).toNat) := by
    have places := zpow_mul_places (b := 2) (by norm_num) q
    push_cast
    rw [← places]
    ring
  have scaled : d.compareBinary n q =
      cmp (d.digits * 10 ^ d.exponent.toNat * 2 ^ (-q).toNat)
        (n * 2 ^ q.toNat * 10 ^ (-d.exponent).toNat) := (cmp_eq_compare _ _).symm
  rw [scaled, ← cmp_eq_compare, ← (Nat.strictMono_cast (α := ℚ)).cmp_map_eq, decimal, binary,
    cmp_mul_pos_right scale]

theorem rational_stripZeros (d : Decimal) : d.stripZeros.rational = d.rational := by
  have step (fuel : Nat) (d : Decimal) : (stripZeros.go fuel d).rational = d.rational := by
    induction fuel generalizing d with
    | zero => rfl
    | succ fuel ih =>
        unfold stripZeros.go
        split
        · next ends =>
            obtain ⟨n, whole⟩ := Nat.dvd_of_mod_eq_zero ends.2
            have tenth : d.digits / 10 = n := by omega
            rw [ih, rational, rational, tenth, whole, zpow_add_one₀ (by norm_num)]
            push_cast
            ring
        · rfl
  exact step d.digits d

end Decimal

namespace Binary64.Finite

/-! ## Neighbours -/

/-- The gap to the double below. -/
def gapBelow (x : Finite) : ℚ :=
  if x.narrowBelow then 2 ^ x.exponent / 2 else 2 ^ x.exponent

theorem narrowBelow_iff {x : Finite} :
    x.narrowBelow = true ↔ x.significand = fullSignificand ∧ leastExponent < x.exponent := by
  simp [narrowBelow]

theorem gapBelow_le (x : Finite) : x.gapBelow ≤ 2 ^ x.exponent := by
  have positive : (0 : ℚ) < 2 ^ x.exponent := by positivity
  unfold gapBelow
  split <;> linarith

theorem gapBelow_pos (x : Finite) : 0 < x.gapBelow := by
  unfold gapBelow
  split <;> positivity

theorem mul_le_magnitude {x : Finite} {n : Nat} (atMost : n ≤ x.significand) :
    (n : ℚ) * 2 ^ x.exponent ≤ x.magnitude := by
  unfold magnitude
  gcongr

/-- A double with no smaller exponent counts in the units of the other. -/
theorem magnitude_of_le {x y : Finite} (coarser : x.exponent ≤ y.exponent) :
    ∃ n : Nat, y.magnitude = n * 2 ^ x.exponent := by
  obtain ⟨k, above⟩ := Int.le.dest coarser
  refine ⟨y.significand * 2 ^ k, ?_⟩
  rw [magnitude, ← above, zpow_add₀ (by norm_num), zpow_natCast]
  push_cast
  ring

/-- A double with a smaller exponent falls short of `2 ^ 52` of the other's units by half a one. -/
theorem magnitude_of_gt {x y : Finite} (finer : y.exponent < x.exponent) :
    y.magnitude + 2 ^ x.exponent / 2 ≤ fullSignificand * 2 ^ x.exponent := by
  have unit : (2 : ℚ) ^ y.exponent ≤ 2 ^ x.exponent / 2 := by
    rw [div_eq_mul_inv, ← zpow_sub_one₀ (by norm_num)]
    exact zpow_le_zpow_right₀ (by norm_num) (by omega)
  have small : (y.significand : ℚ) + 1 ≤ 2 * fullSignificand := by
    have bound : y.significand < significandLimit := y.canonical.1
    exact_mod_cast (by unfold fullSignificand significandLimit at *; omega)
  calc y.magnitude + 2 ^ x.exponent / 2
      ≤ y.significand * (2 ^ x.exponent / 2) + 2 ^ x.exponent / 2 := by
        unfold magnitude
        gcongr
    _ = (y.significand + 1) * (2 ^ x.exponent / 2) := by ring
    _ ≤ 2 * fullSignificand * (2 ^ x.exponent / 2) := by gcongr
    _ = fullSignificand * 2 ^ x.exponent := by ring

theorem significand_of_finer {x y : Finite} (finer : y.exponent < x.exponent) :
    fullSignificand ≤ x.significand ∧ leastExponent < x.exponent := by
  have least : leastExponent < x.exponent := y.canonical.2.1.trans_lt finer
  exact ⟨x.canonical.2.2.2.resolve_right least.ne', least⟩

/-- The next double up is a unit away. -/
theorem magnitude_add_le {x y : Finite} (greater : x.magnitude < y.magnitude) :
    x.magnitude + 2 ^ x.exponent ≤ y.magnitude := by
  have positive : (0 : ℚ) < 2 ^ x.exponent := by positivity
  rcases le_or_gt x.exponent y.exponent with coarser | finer
  · obtain ⟨n, units⟩ := magnitude_of_le coarser
    rw [units, magnitude] at greater ⊢
    have above : x.significand + 1 ≤ n := by
      exact_mod_cast lt_of_mul_lt_mul_right greater positive.le
    calc x.significand * 2 ^ x.exponent + 2 ^ x.exponent
        = ((x.significand + 1 : Nat) : ℚ) * 2 ^ x.exponent := by push_cast; ring
      _ ≤ n * 2 ^ x.exponent := by gcongr
  · -- a double with a smaller exponent is no greater
    have full := mul_le_magnitude (significand_of_finer finer).1
    have small := magnitude_of_gt finer
    linarith

/-- The next double down is that gap away. -/
theorem add_gapBelow_le {x y : Finite} (less : y.magnitude < x.magnitude) :
    y.magnitude + x.gapBelow ≤ x.magnitude := by
  have positive : (0 : ℚ) < 2 ^ x.exponent := by positivity
  rcases le_or_gt x.exponent y.exponent with coarser | finer
  · have gap := x.gapBelow_le
    obtain ⟨n, units⟩ := magnitude_of_le coarser
    rw [units] at less ⊢
    have below : n + 1 ≤ x.significand := by
      exact_mod_cast lt_of_mul_lt_mul_right less positive.le
    have next := mul_le_magnitude below
    push_cast at next
    linarith
  · obtain ⟨full, least⟩ := significand_of_finer finer
    have small := magnitude_of_gt finer
    unfold gapBelow
    split
    · linarith [mul_le_magnitude full]
    · next wide =>
        have more : fullSignificand + 1 ≤ x.significand := by
          have other : x.significand ≠ fullSignificand := fun same =>
            wide (narrowBelow_iff.mpr ⟨same, least⟩)
          omega
        have next := mul_le_magnitude more
        push_cast at next
        linarith

/-! ## Rounding -/

/-- The magnitudes that round to that of `x` lie between the midpoints to its neighbours; an even
    significand takes the midpoints too. -/
structure Rounds (x : Finite) (q : ℚ) : Prop where
  low : x.magnitude - x.gapBelow / 2 < q ∨
    x.significand % 2 = 0 ∧ q = x.magnitude - x.gapBelow / 2
  high : q < x.magnitude + 2 ^ x.exponent / 2 ∨
    x.significand % 2 = 0 ∧ q = x.magnitude + 2 ^ x.exponent / 2

theorem readsBack_iff {x : Finite} (nonzero : x.significand ≠ 0) {d : Decimal} :
    x.readsBack d = true ↔ x.Rounds d.rational := by
  have quarter : (2 : ℚ) ^ (x.exponent - 2) = 2 ^ x.exponent / 4 := by
    rw [zpow_sub₀ (by norm_num)]
    norm_num
  have low : (((if x.narrowBelow then 4 * x.significand - 1 else 4 * x.significand - 2 : Nat) : ℚ) *
      2 ^ (x.exponent - 2)) = x.magnitude - x.gapBelow / 2 := by
    unfold gapBelow magnitude
    rw [quarter]
    split
    · rw [Nat.cast_sub (by omega)]
      push_cast
      ring
    · rw [Nat.cast_sub (by omega)]
      push_cast
      ring
  have high : ((4 * x.significand + 2 : Nat) : ℚ) * 2 ^ (x.exponent - 2) =
      x.magnitude + 2 ^ x.exponent / 2 := by
    unfold magnitude
    rw [quarter]
    push_cast
    ring
  have ends : x.readsBack d = true ↔
      (compare d.rational (x.magnitude - x.gapBelow / 2) = .gt ∨ x.significand % 2 = 0 ∧
        compare d.rational (x.magnitude - x.gapBelow / 2) = .eq) ∧
      (compare d.rational (x.magnitude + 2 ^ x.exponent / 2) = .lt ∨ x.significand % 2 = 0 ∧
        compare d.rational (x.magnitude + 2 ^ x.exponent / 2) = .eq) := by
    simp only [readsBack, Decimal.compareBinary_eq, low, high, Bool.and_eq_true, Bool.or_eq_true,
      beq_iff_eq]
  rw [ends, compare_gt_iff_gt, compare_eq_iff_eq, compare_lt_iff_lt, compare_eq_iff_eq]
  exact ⟨fun ⟨low, high⟩ => ⟨low, high⟩, fun ⟨low, high⟩ => ⟨low, high⟩⟩

/-- No other magnitude of a double is nearer to what rounds to `x`, and one is as near only if the
    significand of `x` is even. -/
theorem Rounds.nearest {x : Finite} {q : ℚ} (rounds : x.Rounds q) (y : Finite)
    (other : y.magnitude ≠ x.magnitude) :
    |q - x.magnitude| < |q - y.magnitude| ∨
      x.significand % 2 = 0 ∧ |q - x.magnitude| = |q - y.magnitude| := by
  obtain ⟨low, high⟩ := rounds
  have below := x.gapBelow_pos
  have unit : (0 : ℚ) < 2 ^ x.exponent := by positivity
  rcases lt_or_gt_of_ne other with less | greater
  · have gap := add_gapBelow_le less
    have above : y.magnitude ≤ q := by rcases low with low | ⟨-, low⟩ <;> linarith
    rw [abs_of_nonneg (sub_nonneg.mpr above)]
    rcases low with low | ⟨even, low⟩
    · exact .inl (abs_lt.mpr ⟨by linarith, by linarith⟩)
    · rcases gap.lt_or_eq with far | near
      · exact .inl (abs_lt.mpr ⟨by linarith, by linarith⟩)
      · exact .inr ⟨even, by rw [abs_of_nonpos (by linarith)]; linarith⟩
  · have gap := magnitude_add_le greater
    have under : q ≤ y.magnitude := by rcases high with high | ⟨-, high⟩ <;> linarith
    rw [abs_sub_comm q y.magnitude, abs_of_nonneg (sub_nonneg.mpr under)]
    rcases high with high | ⟨even, high⟩
    · exact .inl (abs_lt.mpr ⟨by linarith, by linarith⟩)
    · rcases gap.lt_or_eq with far | near
      · exact .inl (abs_lt.mpr ⟨by linarith, by linarith⟩)
      · exact .inr ⟨even, by rw [abs_of_nonneg (by linarith)]; linarith⟩

theorem rounds_magnitude (x : Finite) : x.Rounds x.magnitude := by
  have below := x.gapBelow_pos
  have unit : (0 : ℚ) < 2 ^ x.exponent := by positivity
  exact ⟨.inl (by linarith), .inl (by linarith)⟩

/-! ## The shortest decimal -/

theorem onGrid?_readsBack {x : Finite} {tie : Tie} {exponent : Int} {d : Decimal}
    (found : x.onGrid? tie exponent = some d) : x.readsBack d = true := by
  rcases units : x.inTens exponent with ⟨n, unit⟩
  simp only [onGrid?, units] at found
  cases below : x.readsBack ⟨n / unit, exponent⟩ <;>
    cases above : x.readsBack ⟨n / unit + 1, exponent⟩ <;> simp only [below, above] at found
  case false.false => cases found
  case false.true =>
    cases found
    exact above
  case true.false =>
    cases found
    exact below
  case true.true =>
    split at found <;> cases found
    · exact below
    · exact above
    · exact above
    · split
      · exact below
      · exact above

theorem rational_exactDecimal (x : Finite) : x.exactDecimal.rational = x.magnitude := by
  unfold exactDecimal Decimal.rational numerator magnitude
  simp only [Nat.pow_eq]
  rcases Int.eq_nat_or_neg x.exponent with ⟨k, whole | fractional⟩
  · simp [whole]
  · have tens : (5 : ℚ) ^ k * (10 ^ k)⁻¹ = (2 ^ k)⁻¹ := by
      rw [show (10 : ℚ) = 5 * 2 by norm_num, mul_pow, mul_inv, ← mul_assoc,
        mul_inv_cancel₀ (by positivity), one_mul]
    have least : min (-(k : ℤ)) 0 = -k := by omega
    rw [fractional, least]
    simp [mul_assoc, tens]

/-- The shortest decimal rounds to its double, whether or not a grid has been found for it. -/
theorem shortest_rounds {x : Finite} (nonzero : x.significand ≠ 0) (tie : Tie) :
    x.Rounds (x.shortest tie).rational := by
  have counts : x.isZero = false := by simpa [isZero] using nonzero
  simp only [shortest, counts, Bool.false_eq_true, if_false, Decimal.rational_stripZeros]
  cases found : (List.range 17).findSome? fun n : Nat => x.onGrid? tie (x.scale - 1 - n) with
  | none =>
      rw [Option.getD_none, rational_exactDecimal]
      exact x.rounds_magnitude
  | some d =>
      obtain ⟨n, -, found⟩ := List.exists_of_findSome?_eq_some found
      exact (readsBack_iff nonzero).mp (onGrid?_readsBack found)

/-- No double is nearer to `q` than `x`, and where another is as near the significand of `x` is
    even: `x` is what `q` rounds to. -/
structure Nearest (x : Finite) (q : ℚ) : Prop where
  least : ∀ y : Finite, |q - x.rational| ≤ |q - y.rational|
  even : ∀ y : Finite, |q - y.rational| = |q - x.rational| →
    y.rational = x.rational ∨ x.significand % 2 = 0

/-- The value with the sign of a double. -/
def signed (x : Finite) (q : ℚ) : ℚ :=
  if x.negative then -q else q

theorem abs_signed_sub_rational (x : Finite) (q : ℚ) :
    |x.signed q - x.rational| = |q - x.magnitude| := by
  unfold signed rational
  split
  · rw [neg_sub_neg, abs_sub_comm]
  · rfl

/-- Signs only take values apart. -/
theorem abs_sub_magnitude_le (x y : Finite) {q : ℚ} (nonneg : 0 ≤ q) :
    |q - y.magnitude| ≤ |x.signed q - y.rational| := by
  have positive := y.magnitude_nonneg
  unfold signed rational
  split <;> split
  · rw [neg_sub_neg, abs_sub_comm]
  · rw [abs_le, abs_of_nonpos (by linarith)]
    constructor <;> linarith
  · rw [abs_le, abs_of_nonneg (by linarith)]
    constructor <;> linarith
  · rfl

theorem Rounds.pos {x : Finite} {q : ℚ} (nonzero : x.significand ≠ 0) (rounds : x.Rounds q) :
    0 < q ∧ 0 < x.magnitude := by
  have gap := x.gapBelow_le
  have unit : (0 : ℚ) < 2 ^ x.exponent := by positivity
  have one := mul_le_magnitude (Nat.one_le_iff_ne_zero.mpr nonzero)
  push_cast at one
  constructor
  · rcases rounds.low with low | ⟨-, low⟩ <;> linarith
  · linarith

theorem Rounds.nearest_signed {x : Finite} {q : ℚ} (nonzero : x.significand ≠ 0)
    (rounds : x.Rounds q) : x.Nearest (x.signed q) := by
  obtain ⟨positive, ownPositive⟩ := rounds.pos nonzero
  constructor
  · intro y
    rw [abs_signed_sub_rational]
    refine le_trans ?_ (abs_sub_magnitude_le x y positive.le)
    by_cases same : y.magnitude = x.magnitude
    · rw [same]
    · exact (rounds.nearest y same).elim le_of_lt fun tied => tied.2.le
  · intro y near
    by_cases same : y.magnitude = x.magnitude
    · -- of the two signs, the other one is farther off
      left
      by_contra differ
      rw [abs_signed_sub_rational] at near
      have far : |x.signed q - y.rational| = q + x.magnitude := by
        simp only [signed, rational, same] at differ ⊢
        cases own : x.negative <;> cases its : y.negative <;>
          simp only [own, its, if_true, Bool.false_eq_true, if_false, not_true] at differ ⊢
        case false.true => rw [sub_neg_eq_add, abs_of_pos (by linarith)]
        case true.false =>
          rw [abs_of_neg (by linarith)]
          ring
      have closer : |q - x.magnitude| < q + x.magnitude :=
        abs_lt.mpr ⟨by linarith, by linarith⟩
      exact closer.ne (near.symm.trans far)
    · right
      rw [abs_signed_sub_rational] at near
      have apart := abs_sub_magnitude_le x y positive.le
      rcases rounds.nearest y same with strict | ⟨even, -⟩
      · exact absurd (near ▸ apart) (not_le.mpr strict)
      · exact even

/-- The shortest decimal of a double, with its sign, rounds to the double. -/
theorem nearest_shortest (x : Finite) (tie : Tie) :
    x.Nearest (x.signed (x.shortest tie).rational) := by
  by_cases zero : x.significand = 0
  · have none : (x.shortest tie).rational = 0 := by
      simp [shortest, isZero, zero, Decimal.rational]
    have own : x.magnitude = 0 := by simp [magnitude, zero]
    rw [none]
    refine ⟨fun y => ?_, fun y _ => .inr (by rw [zero])⟩
    rw [abs_signed_sub_rational, own, sub_zero, abs_zero]
    exact abs_nonneg _
  · exact (shortest_rounds zero tie).nearest_signed zero

end Binary64.Finite
end Scenario
