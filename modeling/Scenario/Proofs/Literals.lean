import Mathlib.Data.List.Induction
import Scenario.Json.Literal
import Scenario.Json.Printer
import Scenario.Proofs.Shortest

/-! # Literals of numbers

What a number is written as is a literal of it: the digits of a whole number, and
for a double a decimal that rounds to it.
-/

namespace Scenario

namespace Text

theorem digitsValue_toDigits (n : Nat) : digitsValue (Nat.toDigits 10 n) = n := by
  rw [digitsValue, ← Nat.ofDigitChars_eq_foldl, Nat.ofDigitChars_ten_toDigits]

/-- A zero more at the end is a factor of ten. -/
theorem digitsValue_append_zeros (cs : List Char) (n : Nat) :
    digitsValue (cs ++ List.replicate n '0') = digitsValue cs * 10 ^ n := by
  induction n with
  | zero => simp
  | succ n ih =>
      rw [List.replicate_succ', ← List.append_assoc, digitsValue, List.foldl_concat, ← digitsValue,
        ih, pow_succ]
      simp
      ring

/-- Zeros in front do not count. -/
theorem digitsValue_zeros_append (n : Nat) (cs : List Char) :
    digitsValue (List.replicate n '0' ++ cs) = digitsValue cs := by
  induction n with
  | zero => rfl
  | succ n ih =>
      rw [List.replicate_succ, List.cons_append, ← ih]
      simp [digitsValue]

theorem head_toDigits {n : Nat} (positive : n ≠ 0) : (Nat.toDigits 10 n).head? ≠ some '0' := by
  induction n using Nat.strongRecOn with
  | ind n ih =>
      by_cases small : n < 10
      · have digit : ∀ d < 10, d ≠ 0 → some (Nat.digitChar d) ≠ some '0' := by decide
        rw [Nat.toDigits_of_lt_base small]
        exact digit n small positive
      · rw [Nat.toDigits_of_base_le (by decide) (by omega),
          List.head?_append_of_ne_nil _ Nat.toDigits_ne_nil]
        exact ih (n / 10) (by omega) (by omega)

end Text

open Text (digitsValue)

namespace Json

namespace Literal

/-- The digits before the point: a zero stands in front only alone. -/
structure WholePart (run : List Char) : Prop where
  nonempty : run ≠ []
  digits : ∀ c ∈ run, c.isDigit = true
  leading : run.head? = some '0' → run = ['0']

theorem wholePart_toDigits (n : Nat) : WholePart (Nat.toDigits 10 n) := by
  refine ⟨Nat.toDigits_ne_nil,
    fun c member => Nat.isDigit_of_mem_toDigits (by decide) (by decide) member, ?_⟩
  by_cases zero : n = 0
  · rw [zero]
    exact fun _ => rfl
  · exact fun leading => absurd leading (Text.head_toDigits zero)

/-- A literal that is well formed, with the characters of its exponent. -/
structure Spelling where
  whole : List Char
  fraction : Option (List Char)
  /-- The characters of the exponent. -/
  tail : List Char
  exponent : Option Int
  wholePart : WholePart whole
  fractionPart : ∀ digits ∈ fraction, digits ≠ [] ∧ ∀ c ∈ digits, c.isDigit = true
  exponentPart : exponent? tail = some exponent
  tailStart : ∀ c ∈ tail.head?, c = 'e'

/-- The characters of a fraction. -/
def pointed : Option (List Char) → List Char
  | none => []
  | some digits => '.' :: digits

namespace Spelling

def chars (spelling : Spelling) : List Char :=
  spelling.whole ++ (pointed spelling.fraction ++ spelling.tail)

def literal (spelling : Spelling) (negative : Bool) : Literal :=
  ⟨negative, spelling.whole, spelling.fraction, spelling.exponent⟩

end Spelling

/-- A run of digits is taken up to what is no digit. -/
theorem digits?_append {run rest : List Char} (nonempty : run ≠ [])
    (digits : ∀ c ∈ run, c.isDigit = true) (ends : ∀ c ∈ rest.head?, c.isDigit = false) :
    digits? (run ++ rest) = some (run, rest) := by
  have stop : rest.takeWhile Char.isDigit = [] ∧ rest.dropWhile Char.isDigit = rest := by
    cases rest with
    | nil => exact ⟨rfl, rfl⟩
    | cons c rest =>
        have other : c.isDigit = false := ends c rfl
        simp [other]
  have split : (run ++ rest).span Char.isDigit = (run, rest) := by
    rw [List.span_eq_takeWhile_dropWhile, List.takeWhile_append_of_pos digits,
      List.dropWhile_append_of_pos digits, stop.1, stop.2, List.append_nil]
  rw [digits?, split]
  cases run with
  | nil => exact absurd rfl nonempty
  | cons c run => rfl

theorem whole?_append {run rest : List Char} (part : WholePart run)
    (ends : ∀ c ∈ rest.head?, c.isDigit = false) : whole? (run ++ rest) = some (run, rest) := by
  have leading : ¬ (run.head? = some '0' ∧ run ≠ ['0']) := fun ⟨zero, more⟩ =>
    more (part.leading zero)
  simp only [whole?, digits?_append part.nonempty part.digits ends, bind, Option.bind,
    if_neg leading, pure]

theorem fraction?_append {fraction : Option (List Char)} {rest : List Char}
    (part : ∀ digits ∈ fraction, digits ≠ [] ∧ ∀ c ∈ digits, c.isDigit = true)
    (ends : ∀ c ∈ rest.head?, c = 'e') :
    fraction? (pointed fraction ++ rest) = some (fraction, rest) := by
  cases fraction with
  | none =>
      cases rest with
      | nil => rfl
      | cons c rest =>
          cases ends c rfl
          rfl
  | some digits =>
      obtain ⟨nonempty, all⟩ := part digits rfl
      have noDigit : ∀ c ∈ rest.head?, c.isDigit = false := by
        intro c first
        rw [ends c first]
        rfl
      simp only [pointed, List.cons_append, fraction?, digits?_append nonempty all noDigit,
        Option.map_some]

/-- The parts of a literal after its sign, with the sign. -/
def unsigned? (negative : Bool) (cs : List Char) : Option Literal :=
  (whole? cs).bind fun whole =>
    (fraction? whole.2).bind fun fraction =>
      (exponent? fraction.2).map fun exponent => ⟨negative, whole.1, fraction.1, exponent⟩

theorem ofChars?_minus (cs : List Char) : ofChars? ('-' :: cs) = unsigned? true cs := by
  simp only [ofChars?, unsigned?, bind, pure, Option.map_eq_bind]
  rfl

theorem ofChars?_of_unsigned {cs : List Char} (unsigned : cs.head? ≠ some '-') :
    ofChars? cs = unsigned? false cs := by
  rw [ofChars?]
  · simp only [unsigned?, bind, pure, Option.map_eq_bind]
    rfl
  · rintro rest rfl
    exact unsigned rfl

namespace Spelling

/-- What is spelled is read. -/
theorem ofChars?_chars (spelling : Spelling) (negative : Bool) :
    ofChars? ((if negative then ['-'] else []) ++ spelling.chars) =
      some (spelling.literal negative) := by
  obtain ⟨run, fraction, tail, exponent, wholePart, fractionPart, exponentPart, tailStart⟩ :=
    spelling
  have ends : ∀ c ∈ (pointed fraction ++ tail).head?, c.isDigit = false := by
    cases fraction with
    | none =>
        intro c first
        rw [tailStart c first]
        rfl
    | some digits =>
        intro c first
        cases first
        rfl
  have unsigned : (run ++ (pointed fraction ++ tail)).head? ≠ some '-' := by
    obtain ⟨c, more, rfl⟩ := List.exists_cons_of_ne_nil wholePart.nonempty
    rintro ⟨⟩
    cases wholePart.digits '-' List.mem_cons_self
  have parts : unsigned? negative (run ++ (pointed fraction ++ tail)) =
      some ⟨negative, run, fraction, exponent⟩ := by
    simp only [unsigned?, whole?_append wholePart ends, fraction?_append fractionPart tailStart,
      exponentPart, Option.bind_some, Option.map_some]
  simp only [chars, literal]
  cases negative with
  | true => exact (ofChars?_minus _).trans parts
  | false => exact (ofChars?_of_unsigned unsigned).trans parts

end Spelling

/-- The decimal that a literal gives, its sign apart. -/
def decimal (literal : Literal) : Decimal :=
  let fraction := literal.fraction.getD []
  ⟨digitsValue (literal.whole ++ fraction), literal.exponent.getD 0 - fraction.length⟩

namespace Spelling

variable {whole : List Char} (part : WholePart whole) (fraction : Option (List Char))
  (fractionPart : ∀ digits ∈ fraction, digits ≠ [] ∧ ∀ c ∈ digits, c.isDigit = true)

/-- A spelling without an exponent. -/
def positional : Spelling :=
  ⟨whole, fraction, [], none, part, fractionPart, rfl, by simp⟩

@[simp] theorem positional_chars :
    (positional part fraction fractionPart).chars = whole ++ pointed fraction := by
  simp [positional, chars]

theorem positional_decimal (negative : Bool) :
    ((positional part fraction fractionPart).literal negative).decimal =
      ⟨digitsValue (whole ++ fraction.getD []), -(fraction.getD []).length⟩ := by
  simp [positional, literal, decimal]

end Spelling

/-- The literal is one of a number. A whole number has digits alone, and a sign if it is negative;
    a double has a point or an exponent, and the decimal with the sign rounds to it. -/
inductive Denotes : Literal → Number → Prop where
  | whole {negative : Bool} {run : List Char} {value : Int}
      {bounded : -0x8000000000000000 ≤ value ∧ value < 0x10000000000000000}
      (sign : negative = decide (value < 0)) (digits : digitsValue run = value.natAbs) :
      Denotes ⟨negative, run, none, none⟩ (.whole value bounded)
  | double {literal : Literal} {x : Binary64.Finite}
      (real : literal.fraction.isSome ∨ literal.exponent.isSome)
      (sign : literal.negative = x.negative)
      (nearest : x.Nearest (x.signed literal.decimal.rational)) : Denotes literal (.double x)

end Literal

/-- The characters are a literal of the number. -/
def Number.Written (n : Number) (cs : List Char) : Prop :=
  ∃ literal, Literal.ofChars? cs = some literal ∧ literal.Denotes n

theorem toList_toString_int (i : Int) :
    (toString i).toList =
      (if decide (i < 0) then ['-'] else []) ++ Nat.toDigits 10 i.natAbs := by
  cases i with
  | ofNat n =>
      have unsigned : toString (Int.ofNat n) = n.repr := rfl
      rw [unsigned, Nat.repr_eq_ofList_toDigits, String.toList_ofList]
      rfl
  | negSucc n =>
      have signed : toString (Int.negSucc n) = "-" ++ (n + 1).repr := rfl
      simp [signed, Nat.repr_eq_ofList_toDigits, Int.negSucc_lt_zero]

theorem Number.whole_written (value : Int)
    (bounded : -0x8000000000000000 ≤ value ∧ value < 0x10000000000000000) :
    (Number.whole value bounded).Written (numberChars (.whole value bounded)) := by
  let spelling : Literal.Spelling :=
    .positional (Literal.wholePart_toDigits value.natAbs) none (by simp)
  refine ⟨spelling.literal (decide (value < 0)), ?_, .whole rfl (Text.digitsValue_toDigits _)⟩
  rw [← spelling.ofChars?_chars, numberChars, Number.text, toList_toString_int]
  simp [spelling, Literal.pointed]

/-! ## Doubles -/

namespace Literal

theorem isDigit_of_mem_zeros {n : Nat} {c : Char} (member : c ∈ List.replicate n '0') :
    c.isDigit = true := by
  rw [(List.mem_replicate.mp member).2]
  rfl

/-- Zeros behind a run that is not itself zero. -/
theorem WholePart.append_zeros {run : List Char} (part : WholePart run) {n : Nat}
    (counts : run.head? ≠ some '0' ∨ n = 0) : WholePart (run ++ List.replicate n '0') := by
  rcases counts with counts | rfl
  · refine ⟨List.append_ne_nil_of_left_ne_nil part.nonempty _, ?_, ?_⟩
    · exact List.forall_mem_append.mpr ⟨part.digits, fun c member => isDigit_of_mem_zeros member⟩
    · rw [List.head?_append_of_ne_nil _ part.nonempty]
      exact fun zero => absurd zero counts
  · rwa [List.replicate_zero, List.append_nil]

theorem WholePart.take {run : List Char} (part : WholePart run) {n : Nat} (more : n ≠ 0) :
    WholePart (run.take n) := by
  refine ⟨?_, fun c member => part.digits c (List.mem_of_mem_take member), ?_⟩
  · rw [ne_eq, List.take_eq_nil_iff, not_or]
    exact ⟨more, part.nonempty⟩
  · rw [List.head?_take, if_neg more]
    intro zero
    rw [part.leading zero]
    exact List.take_of_length_le (Nat.one_le_iff_ne_zero.mpr more)

/-- Digits that all stand before the point are written out to it. -/
theorem exists_spelling_whole (layout : Binary64.Layout) {run : List Char} (part : WholePart run)
    {point : Int} (counts : run.head? ≠ some '0' ∨ point = 1) (whole : run.length ≤ point) :
    ∃ spelling : Spelling, run ++ (List.replicate (point - run.length).toNat '0' ++
        if layout.wholeFraction then ['.', '0'] else []) = spelling.chars ∧
      (layout.wholeFraction = true → spelling.fraction.isSome) ∧
      (spelling.literal false).decimal.rational = digitsValue run * 10 ^ (point - run.length) := by
  have counted : 0 < run.length := List.length_pos_of_ne_nil part.nonempty
  have places : point - run.length = (point - run.length).toNat := by omega
  have more : (point - run.length).toNat = 0 ∨ point ≠ 1 := by omega
  generalize (point - run.length).toNat = n at places more
  have filled : WholePart (run ++ List.replicate n '0') :=
    part.append_zeros (counts.imp_right fun one => more.resolve_right (not_not.mpr one))
  have value : digitsValue (run ++ List.replicate n '0') = digitsValue run * 10 ^ n :=
    Text.digitsValue_append_zeros run n
  rw [places, zpow_natCast]
  cases layout.wholeFraction with
  | true =>
      refine ⟨.positional filled (some ['0']) ?_, by simp [pointed], fun _ => rfl, ?_⟩
      · rintro digits ⟨⟩
        exact ⟨List.cons_ne_nil _ _, List.forall_mem_singleton.mpr rfl⟩
      · have longer : digitsValue (run ++ List.replicate n '0' ++ ['0']) =
            digitsValue (run ++ List.replicate n '0') * 10 :=
          Text.digitsValue_append_zeros (run ++ List.replicate n '0') 1
        rw [Spelling.positional_decimal, Option.getD_some, Decimal.rational, longer, value]
        simp
  | false =>
      refine ⟨.positional filled none (by simp), by simp [pointed], by simp, ?_⟩
      rw [Spelling.positional_decimal, Option.getD_none, List.append_nil, Decimal.rational, value]
      simp

/-- Digits are written with a point behind the first `point` of them, unless all stand before it
    and the layout leaves the fraction out. -/
theorem exists_spelling_position (layout : Binary64.Layout) {run : List Char}
    (part : WholePart run) {point : Int} (counts : run.head? ≠ some '0' ∨ point = 1) :
    ∃ spelling : Spelling, (layout.position run point).toList = spelling.chars ∧
      (layout.wholeFraction = true → spelling.fraction.isSome) ∧
      (spelling.literal false).decimal.rational = digitsValue run * 10 ^ (point - run.length) := by
  have counted : 0 < run.length := List.length_pos_of_ne_nil part.nonempty
  simp only [Binary64.Layout.position, Binary64.Layout.zeros]
  split
  · next small =>
      let zeros := List.replicate (-point).toNat '0'
      have zero : WholePart ['0'] := wholePart_toDigits 0
      refine ⟨.positional zero (some (zeros ++ run)) ?_, ?_, fun _ => rfl, ?_⟩
      · rintro digits ⟨⟩
        refine ⟨by simp [part.nonempty], List.forall_mem_append.mpr ⟨?_, part.digits⟩⟩
        exact fun c member => isDigit_of_mem_zeros member
      · simp [pointed, zeros]
      · have value : digitsValue (['0'] ++ (zeros ++ run)) = digitsValue run :=
          Text.digitsValue_zeros_append ((-point).toNat + 1) run
        have places : -((zeros ++ run).length : Int) = point - run.length := by
          simp only [zeros, List.length_append, List.length_replicate]
          omega
        rw [Spelling.positional_decimal, Option.getD_some, Decimal.rational, value, places]
  · next large =>
      split
      · next whole =>
          obtain ⟨spelling, chars, rest⟩ := exists_spelling_whole layout part counts whole
          refine ⟨spelling, ?_, rest⟩
          rw [← chars]
          cases layout.wholeFraction <;> simp
      · next inside =>
          have first : WholePart (run.take point.toNat) := part.take (by omega)
          refine ⟨.positional first (some (run.drop point.toNat)) ?_, ?_, fun _ => rfl, ?_⟩
          · rintro digits ⟨⟩
            refine ⟨?_, fun c member => part.digits c (List.mem_of_mem_drop member)⟩
            rw [ne_eq, List.drop_eq_nil_iff]
            omega
          · simp [pointed]
          · have places : -((run.drop point.toNat).length : Int) = point - run.length := by
              rw [List.length_drop]
              omega
            rw [Spelling.positional_decimal, Option.getD_some, Decimal.rational,
              List.take_append_drop, places]

theorem natural?_toDigits (n : Nat) : Text.natural? (Nat.toDigits 10 n) = some n := by
  have counted : (Nat.toDigits 10 n).isEmpty = false := by simp
  have digits : (Nat.toDigits 10 n).all Char.isDigit = true :=
    List.all_eq_true.mpr (wholePart_toDigits n).digits
  rw [Text.natural?, counted, digits, Text.digitsValue_toDigits]
  rfl

/-- An exponent is written with its sign. -/
theorem exponent?_signed (i : Int) :
    exponent? ('e' :: ((if 0 ≤ i then ['+'] else []) ++ (toString i).toList)) = some (some i) := by
  have read : Text.integer? ((if 0 ≤ i then ['+'] else []) ++ (toString i).toList) = some i := by
    rw [toList_toString_int]
    rcases Int.lt_or_le i 0 with negative | positive
    · rw [if_neg (by omega), decide_eq_true negative]
      simp only [Text.integer?, Text.splitSign, natural?_toDigits, if_true, List.nil_append,
        List.cons_append]
      exact congrArg some (show -(i.natAbs : Int) = i by omega)
    · rw [if_pos positive, decide_eq_false (by omega)]
      simp only [Text.integer?, Text.splitSign, natural?_toDigits, Bool.false_eq_true, if_false,
        List.nil_append, List.cons_append]
      exact congrArg some (show (i.natAbs : Int) = i by omega)
  rw [exponent?, Text.exponent?]
  · exact congrArg (Option.map some) read
  · exact List.cons_ne_nil _ _

theorem scientific_toList (run : List Char) (exponent : Int) :
    (numberLayout.scientific run exponent).toList =
      run.take 1 ++ ((if run.length ≤ 1 then [] else '.' :: run.drop 1) ++
        'e' :: ((if 0 ≤ exponent then ['+'] else []) ++ (toString exponent).toList)) := by
  by_cases short : run.length ≤ 1 <;> by_cases positive : 0 ≤ exponent <;>
    simp [Binary64.Layout.scientific, numberLayout, short, positive]

/-- Digits are written with a point behind the first, and an exponent. -/
theorem exists_spelling_scientific {run : List Char} (part : WholePart run) (exponent : Int) :
    ∃ spelling : Spelling, (numberLayout.scientific run exponent).toList = spelling.chars ∧
      spelling.exponent.isSome ∧
      (spelling.literal false).decimal.rational =
        digitsValue run * 10 ^ (exponent + 1 - run.length) := by
  have counted : 0 < run.length := List.length_pos_of_ne_nil part.nonempty
  let tail := 'e' :: ((if 0 ≤ exponent then ['+'] else []) ++ (toString exponent).toList)
  have start : ∀ c ∈ tail.head?, c = 'e' := by
    rintro c ⟨⟩
    rfl
  by_cases short : run.length ≤ 1
  · refine ⟨⟨run, none, tail, exponent, part, by simp, exponent?_signed exponent, start⟩, ?_, rfl,
      ?_⟩
    · rw [scientific_toList, if_pos short, List.take_of_length_le short]
      rfl
    · have places : exponent + 1 - run.length = exponent := by omega
      simp [Spelling.literal, decimal, Decimal.rational, places]
  · refine ⟨⟨run.take 1, some (run.drop 1), tail, exponent, part.take one_ne_zero, ?_,
      exponent?_signed exponent, start⟩, ?_, rfl, ?_⟩
    · rintro digits ⟨⟩
      refine ⟨?_, fun c member => part.digits c (List.mem_of_mem_drop member)⟩
      rw [ne_eq, List.drop_eq_nil_iff]
      omega
    · rw [scientific_toList, if_neg short]
      simp [Spelling.chars, pointed, tail]
    · have places : exponent - (run.drop 1).length = exponent + 1 - run.length := by
        rw [List.length_drop]
        omega
      simp only [Spelling.literal, decimal, Option.getD_some, Decimal.rational,
        List.take_append_drop, places]

/-- A decimal that is written positionally is written as a literal of its magnitude. -/
theorem exists_spelling_of_positional (layout : Binary64.Layout) {d : Decimal}
    (counts : d.digits ≠ 0 ∨ d = ⟨0, 0⟩)
    (positional : layout.positional ((Nat.toDigits 10 d.digits).length + d.exponent - 1) = true) :
    ∃ spelling : Spelling, (layout.magnitude d).toList = spelling.chars ∧
      (layout.wholeFraction = true → spelling.fraction.isSome) ∧
      (spelling.literal false).decimal.rational = d.rational := by
  have leading : (Nat.toDigits 10 d.digits).head? ≠ some '0' ∨
      ((Nat.toDigits 10 d.digits).length : Int) + d.exponent = 1 := by
    rcases counts with counts | rfl
    · exact .inl (Text.head_toDigits counts)
    · exact .inr rfl
  obtain ⟨spelling, chars, fraction, value⟩ :=
    exists_spelling_position layout (wholePart_toDigits d.digits) leading
  refine ⟨spelling, ?_, fraction, ?_⟩
  · simp only [Binary64.Layout.magnitude, positional, if_true, sub_add_cancel, chars]
  · rw [value, Text.digitsValue_toDigits, add_sub_cancel_left, Decimal.rational]

/-- A decimal is written as a literal of its magnitude that is not taken for a whole number. -/
theorem exists_spelling {d : Decimal} (counts : d.digits ≠ 0 ∨ d = ⟨0, 0⟩) :
    ∃ spelling : Spelling, (numberLayout.magnitude d).toList = spelling.chars ∧
      (spelling.fraction.isSome ∨ spelling.exponent.isSome) ∧
      (spelling.literal false).decimal.rational = d.rational := by
  cases positional :
      numberLayout.positional ((Nat.toDigits 10 d.digits).length + d.exponent - 1) with
  | true =>
      obtain ⟨spelling, chars, fraction, value⟩ :=
        exists_spelling_of_positional numberLayout counts positional
      exact ⟨spelling, chars, .inl (fraction rfl), value⟩
  | false =>
      obtain ⟨spelling, chars, exponent, value⟩ :=
        exists_spelling_scientific (wholePart_toDigits d.digits)
          ((Nat.toDigits 10 d.digits).length + d.exponent - 1)
      refine ⟨spelling, ?_, .inr exponent, ?_⟩
      · simp only [Binary64.Layout.magnitude, positional, Bool.false_eq_true, if_false, chars]
      · rw [value, Text.digitsValue_toDigits, sub_add_cancel, add_sub_cancel_left,
          Decimal.rational]

theorem shortest_counts (x : Binary64.Finite) (tie : Binary64.Tie) :
    (x.shortest tie).digits ≠ 0 ∨ x.shortest tie = ⟨0, 0⟩ := by
  by_cases zero : x.significand = 0
  · right
    simp [Binary64.Finite.shortest, Binary64.Finite.isZero, zero]
  · left
    intro none
    have positive := ((Binary64.Finite.shortest_rounds zero tie).pos zero).1
    simp [Decimal.rational, none] at positive

/-- A literal of the shortest digits of a double is one that rounds to it, whatever the layout. -/
theorem Spelling.reads {layout : Binary64.Layout} {x : Binary64.Finite} {spelling : Spelling}
    (chars : (layout.magnitude (x.shortest layout.tie)).toList = spelling.chars)
    (value : (spelling.literal false).decimal.rational = (x.shortest layout.tie).rational) :
    ofChars? (layout.finite x).toList = some (spelling.literal x.negative) ∧
      x.Nearest (x.signed (spelling.literal x.negative).decimal.rational) := by
  constructor
  · rw [← spelling.ofChars?_chars, ← chars, Binary64.Layout.finite]
    cases x.negative <;> simp
  · have same : (spelling.literal x.negative).decimal = (spelling.literal false).decimal := rfl
    rw [same, value]
    exact x.nearest_shortest layout.tie

end Literal

theorem Number.double_written (x : Binary64.Finite) :
    (Number.double x).Written (numberChars (.double x)) := by
  have counts := Literal.shortest_counts x .toEven
  obtain ⟨spelling, chars, real, value⟩ := Literal.exists_spelling counts
  obtain ⟨read, nearest⟩ := Literal.Spelling.reads chars value
  exact ⟨spelling.literal x.negative, read, .double real rfl nearest⟩

/-- What a number is written as is a literal of it. -/
theorem numberChars_written (n : Number) : n.Written (numberChars n) := by
  cases n with
  | whole value bounded => exact Number.whole_written value bounded
  | double x => exact Number.double_written x

end Json
end Scenario
