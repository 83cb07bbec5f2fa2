import Mathlib.Data.Rat.Floor
import Mathlib.Tactic.NormNum
import Scenario.Proofs.Rounding

/-! # Whole parts of numbers

A number of a JSON text converts to the word that is its exact value less its
fraction, over the whole range of words and nowhere else. One number is left
out: the range test looks at magnitudes, and so it turns the double of the least
word away, which the whole number of the same value passes.
-/

namespace Scenario

/-- The whole number next to `q` on the side of zero. -/
def towardZero (q : ℚ) : ℤ :=
  if q < 0 then ⌈q⌉ else ⌊q⌋

theorem towardZero_of_nonneg {q : ℚ} (nonneg : 0 ≤ q) : towardZero q = ⌊q⌋ :=
  if_neg (not_lt.mpr nonneg)

theorem towardZero_neg (q : ℚ) : towardZero (-q) = -towardZero q := by
  unfold towardZero
  rcases lt_trichotomy q 0 with below | rfl | above
  · rw [if_neg (by linarith), if_pos below, Int.floor_neg]
  · simp
  · rw [if_pos (by linarith), if_neg (by linarith), Int.ceil_neg]

theorem towardZero_intCast (i : ℤ) : towardZero i = i := by
  unfold towardZero
  split
  · exact Int.ceil_intCast i
  · exact Int.floor_intCast i

theorem towardZero_least : towardZero (-2 ^ 63) = -2 ^ 63 := by
  have whole := towardZero_intCast (-2 ^ 63)
  push_cast at whole
  exact whole

theorem Word.ofInt?_eq_some_iff {value : Int} {word : Word} :
    Word.ofInt? value = some word ↔ word.value = value := by
  obtain ⟨held, bounded⟩ := word
  unfold Word.ofInt?
  split
  · simp [eq_comm]
  · next outside =>
      refine ⟨nofun, ?_⟩
      rintro rfl
      exact absurd bounded outside

namespace Binary64.Finite

/-- The exact magnitude of a finite double. -/
def magnitude (x : Finite) : ℚ :=
  x.significand * 2 ^ x.exponent

/-- The exact value of a finite double. -/
def rational (x : Finite) : ℚ :=
  if x.negative then -x.magnitude else x.magnitude

theorem numerator_div_denominator (x : Finite) :
    (x.numerator : ℚ) / x.denominator = x.magnitude := by
  unfold numerator denominator magnitude
  simp only [Nat.pow_eq, Nat.cast_mul, Nat.cast_pow, Nat.cast_ofNat]
  rcases Int.eq_nat_or_neg x.exponent with ⟨k, whole | fractional⟩
  · simp [whole]
  · rw [fractional]
    simp [div_eq_mul_inv]

theorem magnitude_nonneg (x : Finite) : 0 ≤ x.magnitude := by
  rw [← numerator_div_denominator]
  positivity

theorem towardZero_magnitude (x : Finite) :
    towardZero x.magnitude = (x.numerator / x.denominator : Nat) := by
  rw [towardZero_of_nonneg x.magnitude_nonneg, ← numerator_div_denominator,
    Rat.floor_natCast_div_natCast, Int.natCast_ediv]

theorem truncate_eq (x : Finite) : x.truncate = towardZero x.rational := by
  unfold truncate rational
  cases x.negative with
  | false => simp only [Bool.false_eq_true, if_false, towardZero_magnitude]
  | true => simp only [if_true, towardZero_neg, towardZero_magnitude]

theorem natAbs_truncate (x : Finite) : x.truncate.natAbs = x.numerator / x.denominator := by
  unfold truncate
  cases x.negative with
  | false => rfl
  | true => exact Int.natAbs_neg _

theorem natAbs_truncate_of_whole {x : Finite} (whole : 0 ≤ x.exponent) :
    x.truncate.natAbs = x.significand * 2 ^ x.exponent.toNat := by
  have denominator : x.denominator = 1 := by
    rw [Finite.denominator, show (-x.exponent).toNat = 0 by omega]
  rw [natAbs_truncate, denominator, Nat.div_one]
  rfl

/-- A double is less than its significand if it has places after the point. -/
theorem natAbs_truncate_le {x : Finite} (fractional : x.exponent < 0) :
    x.truncate.natAbs ≤ x.significand := by
  have shift : x.exponent.toNat = 0 := by omega
  have unshifted : x.numerator = x.significand := by
    unfold numerator
    rw [shift]
    exact Nat.mul_one x.significand
  rw [natAbs_truncate, unshifted]
  exact Nat.div_le_self x.significand x.denominator

/-- Large doubles are whole. -/
theorem exponent_nonneg {x : Finite} (large : significandLimit ≤ x.truncate.natAbs) :
    0 ≤ x.exponent := by
  by_contra fractional
  have less := natAbs_truncate_le (not_le.mp fractional)
  have bounded := x.canonical.1
  omega

theorem le_natAbs_truncate {x : Finite} {places : Nat} (full : fullSignificand ≤ x.significand)
    (raised : (places : Int) ≤ x.exponent) : 2 ^ (52 + places) ≤ x.truncate.natAbs := by
  rw [natAbs_truncate_of_whole (by omega), pow_add]
  exact Nat.mul_le_mul full (Nat.pow_le_pow_right two_pos (by omega))

/-- The leading bit of a large double is at the place that its exponent tells. -/
theorem log2_natAbs_truncate {x : Finite} (large : significandLimit ≤ x.truncate.natAbs) :
    x.truncate.natAbs.log2 = 52 + x.exponent.toNat := by
  have whole := exponent_nonneg large
  have full : fullSignificand ≤ x.significand := by
    rcases x.canonical.2.2.2 with full | least
    · exact full
    · unfold leastExponent at least
      omega
  have nonzero : x.truncate.natAbs ≠ 0 := Nat.ne_of_gt (lt_of_lt_of_le (by decide) large)
  apply (Nat.log2_eq_iff nonzero).mpr
  constructor
  · exact le_natAbs_truncate full (by omega)
  · rw [natAbs_truncate_of_whole whole, Nat.add_right_comm, pow_add]
    exact Nat.mul_lt_mul_of_pos_right x.canonical.1 (Nat.two_pow_pos _)

/-- The double of the least word. -/
def leastWord : Finite :=
  ⟨true, fullSignificand, 11, by decide⟩

/-- No other double has the least word for its whole part. -/
theorem truncate_eq_least_iff {x : Finite} : x.truncate = -2 ^ 63 ↔ x = leastWord := by
  constructor
  · intro least
    have magnitude : x.truncate.natAbs = 2 ^ 63 := by rw [least]; rfl
    have large : significandLimit ≤ x.truncate.natAbs := by rw [magnitude]; decide
    have whole := exponent_nonneg large
    have leading : (2 ^ 63).log2 = 52 + x.exponent.toNat := by
      rw [← magnitude, log2_natAbs_truncate large]
    have exponent : x.exponent = 11 := by
      rw [Nat.log2_two_pow] at leading
      omega
    have significand : x.significand = fullSignificand := by
      rw [natAbs_truncate_of_whole whole, exponent] at magnitude
      exact Nat.eq_of_mul_eq_mul_right (Nat.two_pow_pos 11) magnitude
    have negative : x.negative = true := by
      by_contra positive
      have nonneg : 0 ≤ x.truncate := by
        rw [truncate, if_neg positive]
        exact Int.natCast_nonneg _
      omega
    cases x
    cases negative
    cases significand
    cases exponent
    rfl
  · rintro rfl
    rfl

/-- The range test looks at magnitudes, so it leaves the least word out. -/
theorem toWord?_eq_some_iff {x : Finite} {word : Word} :
    x.toWord? = some word ↔ word.value = x.truncate ∧ x ≠ leastWord := by
  have bounded := word.bounded
  unfold toWord?
  rw [← truncate_eq_least_iff.ne]
  split
  · next small =>
      rw [Word.ofInt?_eq_some_iff]
      exact ⟨fun same => ⟨same, by omega⟩, And.left⟩
  · next large =>
      constructor
      · exact nofun
      · rintro ⟨same, differs⟩
        omega

end Binary64.Finite

namespace Json.Number

/-- The exact value of a number. -/
def rational : Number → ℚ
  | .whole value _ => value
  | .double x => x.rational

/-- A whole number past the words stays past them as a double. -/
theorem toWord?_of_large {value : Int} (positive : 2 ^ 63 ≤ value) (bounded : value < 2 ^ 64) :
    (Binary64.ofInt value).finite?.bind Binary64.Finite.toWord? = none := by
  have nonzero : value.natAbs ≠ 0 := by omega
  have leading : value.natAbs.log2 = 63 := (Nat.log2_eq_iff nonzero).mpr (by omega)
  obtain ⟨x, rounded, full, raised⟩ :=
    Binary64.ofRatio_whole nonzero (by omega) (decide (value < 0))
  have large : 2 ^ (52 + 11) ≤ x.truncate.natAbs :=
    Binary64.Finite.le_natAbs_truncate full (by omega)
  rw [Binary64.ofInt, rounded]
  exact if_neg (by omega)

theorem toWord?_whole {value : Int}
    (bounded : -0x8000000000000000 ≤ value ∧ value < 0x10000000000000000) :
    (whole value bounded).toWord? = Word.ofInt? value := by
  cases within : Word.ofInt? value with
  | some word => simp [toWord?, word?, within]
  | none =>
      have past : 2 ^ 63 ≤ value := by
        by_contra below
        have fits : Word.ofInt? value = some ⟨value, by omega⟩ := dif_pos _
        cases within.symm.trans fits
      simp only [toWord?, word?, within, Option.none_or]
      exact toWord?_of_large past bounded.2

theorem toWord?_eq_some_iff {n : Number} {word : Word} :
    n.toWord? = some word ↔
      word.value = towardZero n.rational ∧ n ≠ .double .leastWord := by
  cases n with
  | whole value bounded =>
      rw [toWord?_whole, Word.ofInt?_eq_some_iff, rational, towardZero_intCast]
      simp
  | double x =>
      have direct : (double x).toWord? = x.toWord? := rfl
      rw [direct, Binary64.Finite.toWord?_eq_some_iff, Binary64.Finite.truncate_eq, rational, Ne,
        Ne, Number.double.injEq]

end Json.Number

theorem Kind.coerce?_int_eq_some_iff {value : Json} {arg : Arg} :
    Kind.int.coerce? value = some arg ↔ ∃ word, value.toWord? = some word ∧ .int word = arg :=
  Option.map_eq_some_iff

/-- A number converts to the whole part of its exact value, if that is a word: never to a number
    beside it, and not at all if it is past the words. Only the double of the least word does not
    convert, although its whole part is a word. -/
theorem Json.Number.coerce_int_exact (n : Number) :
    (∀ arg, Kind.int.coerce? (.number n) = some arg ↔
      ∃ word : Word, arg = .int word ∧ word.value = towardZero n.rational ∧
        n ≠ .double .leastWord) ∧
    ((Kind.int.coerce? (.number n)).isSome ↔
      -2 ^ 63 ≤ towardZero n.rational ∧ towardZero n.rational ≤ 2 ^ 63 - 1 ∧
        n ≠ .double .leastWord) := by
  have converts (arg : Arg) : Kind.int.coerce? (.number n) = some arg ↔
      ∃ word : Word, arg = .int word ∧ word.value = towardZero n.rational ∧
        n ≠ .double .leastWord := by
    rw [Kind.coerce?_int_eq_some_iff]
    apply exists_congr
    intro word
    rw [Json.toWord?, toWord?_eq_some_iff, and_comm, eq_comm]
  refine ⟨converts, ?_⟩
  rw [Option.isSome_iff_exists]
  constructor
  · rintro ⟨arg, converted⟩
    obtain ⟨word, -, same, other⟩ := (converts arg).mp converted
    have bounded := word.bounded
    exact ⟨by omega, by omega, other⟩
  · rintro ⟨low, high, other⟩
    exact ⟨_, (converts _).mpr ⟨⟨towardZero n.rational, by omega⟩, rfl, rfl, other⟩⟩

/-- The least word converts as a whole number, and does not as a double. -/
theorem Json.Number.coerce_int_leastWord :
    towardZero (double .leastWord).rational = -2 ^ 63 ∧
      Kind.int.coerce? (.number (.double .leastWord)) = none ∧
      ∃ bounded, (whole (-2 ^ 63) bounded).rational = (double .leastWord).rational ∧
        Kind.int.coerce? (.number (whole (-2 ^ 63) bounded)) =
          some (.int ⟨-2 ^ 63, by decide⟩) := by
  have value : (double .leastWord).rational = -2 ^ 63 := by
    norm_num [rational, Binary64.Finite.rational, Binary64.Finite.magnitude,
      Binary64.Finite.leastWord, Binary64.fullSignificand]
  refine ⟨by rw [value, towardZero_least], rfl, by decide, ?_, rfl⟩
  rw [value]
  norm_num [rational]

end Scenario
