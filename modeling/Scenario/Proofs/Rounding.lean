import Mathlib.Data.Nat.Log
import Mathlib.Tactic.Ring
import Scenario.Argument.Coercion

/-! # Rounding whole numbers

A whole number that is not zero has its leading bit at a known place, so the
exponent that its nearest double gets is known too. No whole number of a JSON
text is large enough to round to an infinity, and rounding never takes one across
a power of two.
-/

namespace Scenario

namespace Binary64

theorem le_divideToEven (numerator denominator : Nat) :
    numerator / denominator ≤ divideToEven numerator denominator := by
  unfold divideToEven
  dsimp only
  split <;> omega

theorem divideToEven_le (numerator denominator : Nat) :
    divideToEven numerator denominator ≤ numerator / denominator + 1 := by
  unfold divideToEven
  dsimp only
  split <;> omega

/-- Counted in units of `2 ^ (n.log2 - bits)`, a whole number has `bits + 1` bits before the
    point. -/
theorem inUnits_bounds {n : Nat} (positive : n ≠ 0) (bits : Nat) :
    2 ^ bits ≤ (inUnits n 1 (n.log2 - bits)).1 / (inUnits n 1 (n.log2 - bits)).2 ∧
      (inUnits n 1 (n.log2 - bits)).1 / (inUnits n 1 (n.log2 - bits)).2 < 2 ^ (bits + 1) := by
  have low : 2 ^ n.log2 ≤ n := Nat.log2_self_le positive
  have high : n < 2 ^ (n.log2 + 1) := Nat.lt_log2_self
  simp only [inUnits, Nat.pow_eq, one_mul]
  have unit : 0 < 2 ^ ((n.log2 : Int) - bits).toNat := Nat.two_pow_pos _
  have places : bits + ((n.log2 : Int) - bits).toNat =
      n.log2 + (-((n.log2 : Int) - bits)).toNat := by omega
  constructor
  · rw [Nat.le_div_iff_mul_le unit]
    calc 2 ^ bits * 2 ^ ((n.log2 : Int) - bits).toNat
        = 2 ^ n.log2 * 2 ^ (-((n.log2 : Int) - bits)).toNat := by rw [← pow_add, places, pow_add]
      _ ≤ n * 2 ^ (-((n.log2 : Int) - bits)).toNat := Nat.mul_le_mul_right _ low
  · rw [Nat.div_lt_iff_lt_mul unit]
    calc n * 2 ^ (-((n.log2 : Int) - bits)).toNat
        < 2 ^ (n.log2 + 1) * 2 ^ (-((n.log2 : Int) - bits)).toNat :=
          Nat.mul_lt_mul_of_pos_right high (Nat.two_pow_pos _)
      _ = 2 ^ (bits + 1) * 2 ^ ((n.log2 : Int) - bits).toNat := by
          rw [← pow_add, ← pow_add, Nat.add_right_comm, ← places, Nat.add_right_comm]

theorem unitExponent_whole {n : Nat} (positive : n ≠ 0) : unitExponent n 1 = n.log2 - 52 := by
  -- the first guess is always one too low: it leaves 54 bits before the point
  have guess : max leastExponent ((n.log2 : Int) - (1 : Nat).log2 - 53) = n.log2 - (53 : Nat) := by
    have : (1 : Nat).log2 = 0 := by decide
    unfold leastExponent
    omega
  have wide := (inUnits_bounds positive 53).1
  have notBelow : ¬ (inUnits n 1 (n.log2 - (53 : Nat))).1 / (inUnits n 1 (n.log2 - (53 : Nat))).2 <
      significandLimit := Nat.not_lt.mpr wide
  simp only [unitExponent, guess, if_neg notBelow]
  omega

theorem divideToEven_bounds {n : Nat} (positive : n ≠ 0) :
    let units := inUnits n 1 (n.log2 - (52 : Nat))
    fullSignificand ≤ divideToEven units.1 units.2 ∧
      divideToEven units.1 units.2 ≤ significandLimit := by
  intro units
  obtain ⟨low, high⟩ : 2 ^ 52 ≤ units.1 / units.2 ∧ units.1 / units.2 < 2 ^ (52 + 1) :=
    inUnits_bounds positive 52
  exact ⟨low.trans (le_divideToEven units.1 units.2), (divideToEven_le units.1 units.2).trans high⟩

/-- The double nearest to a whole number that is not too large is finite, and its leading bit is
    not below that of the number. -/
theorem ofRatio_whole {n : Nat} (positive : n ≠ 0) (bounded : n.log2 ≤ 1022) (negative : Bool) :
    ∃ x : Finite, ofRatio negative n 1 = .finite x ∧ fullSignificand ≤ x.significand ∧
      (n.log2 : Int) - 52 ≤ x.exponent := by
  have exponent : unitExponent n 1 = n.log2 - (52 : Nat) := unitExponent_whole positive
  obtain ⟨low, high⟩ := divideToEven_bounds positive
  have least : leastExponent ≤ (n.log2 : Int) - (52 : Nat) := by unfold leastExponent; omega
  have greatest : (n.log2 : Int) - (52 : Nat) + 1 ≤ greatestExponent := by
    unfold greatestExponent; omega
  simp only [ofRatio, if_neg positive, exponent]
  split
  -- a carry leaves the leading bit alone, one exponent up
  · next carried =>
      have canonical : Canonical fullSignificand ((n.log2 : Int) - (52 : Nat) + 1) :=
        ⟨by decide, by omega, greatest, Or.inl le_rfl⟩
      rw [dif_pos canonical]
      exact ⟨_, rfl, le_rfl, by simp⟩
  · next fits =>
      rw [dif_pos ⟨lt_of_le_of_ne high fits, least, by omega, Or.inl low⟩]
      exact ⟨_, rfl, low, by simp⟩

end Binary64

/-- Every number of a JSON text has a finite double next to it. -/
theorem Json.Number.exists_toDouble (n : Json.Number) : ∃ x, n.toDouble = .finite x := by
  cases n with
  | double x => exact ⟨x, rfl⟩
  | whole value bounded =>
      by_cases zero : value.natAbs = 0
      · exact ⟨_, if_pos zero⟩
      · have small : value.natAbs.log2 < 64 := (Nat.log2_lt zero).mpr (by omega)
        obtain ⟨x, rounded, -⟩ := Binary64.ofRatio_whole zero (by omega) (decide (value < 0))
        exact ⟨x, rounded⟩

end Scenario
