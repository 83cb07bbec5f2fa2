import Scenario.Binary64
import Scenario.Text.Blank

/-! # Numerals in text

Numbers that scenario authors type into texts, in ASCII or in full width. A
numeral is read after removing the blanks at its ends and folding full-width
digits, signs and points to ASCII.
-/

namespace Scenario.Text

/-- The ASCII counterpart of a full-width digit, sign or point; other characters stay. -/
def foldWidth (c : Char) : Char :=
  let n := c.toNat
  if 0xFF10 ≤ n ∧ n ≤ 0xFF19 then Char.ofNat (n - 0xFF10 + '0'.toNat)
  else if n = 0xFF0D ∨ n = 0x2212 then '-'
  else if n = 0xFF0B then '+'
  else if n = 0xFF0E then '.'
  else c

/-- The characters of a numeral, without blanks around them and in ASCII. -/
def numeral (text : String) : List Char :=
  (trim text.toList).map foldWidth

/-- The value of a run of decimal digits. -/
def digitsValue (cs : List Char) : Nat :=
  cs.foldl (fun value c => 10 * value + (c.toNat - '0'.toNat)) 0

/-- The value of a text that is one digit or more and nothing else. -/
def natural? (cs : List Char) : Option Nat :=
  if !cs.isEmpty && cs.all Char.isDigit then some (digitsValue cs) else none

/-- Separates one leading sign; true stands for minus. -/
def splitSign : List Char → Bool × List Char
  | '-' :: cs => (true, cs)
  | '+' :: cs => (false, cs)
  | cs => (false, cs)

/-- A whole number: at most one sign, then digits. -/
def integer? (cs : List Char) : Option Int :=
  let (negative, digits) := splitSign cs
  (natural? digits).map fun n => if negative then -(n : Int) else n

/-- An exponent: the letter, at most one sign, then digits. No letter counts as zero. -/
def exponent? : List Char → Option Int
  | [] => some 0
  | c :: cs => if c == 'e' || c == 'E' then integer? cs else none

/-- The nearest double to `digits * 10 ^ exponent`, where `count` digits are significant.
    Far outside the range of doubles the result is settled without computing the power. -/
def nearestDecimal (negative : Bool) (count digits : Nat) (exponent : Int) : Binary64 :=
  if digits = 0 ∨ (count : Int) + exponent < -400 then .finite (.zero negative)
  else if 400 < exponent + count then .infinity negative
  else Binary64.ofDecimal negative digits exponent

/-- Digits with at most one point among them, at least one digit, then an exponent. -/
def decimal? (negative : Bool) (cs : List Char) : Option Binary64 := do
  let (whole, rest) := cs.span Char.isDigit
  let (fraction, rest) := match rest with
    | '.' :: rest => rest.span Char.isDigit
    | rest => ([], rest)
  let digits := (whole ++ fraction).dropWhile (· == '0')
  if whole.isEmpty && fraction.isEmpty then none
  else
    let exponent ← exponent? rest
    return nearestDecimal negative digits.length (digitsValue digits) (exponent - fraction.length)

/-- A double: a decimal, an infinity or a NaN, with at most one sign. Names may be in any case. -/
def real? (cs : List Char) : Option Binary64 :=
  let (negative, rest) := splitSign cs
  let name := String.ofList (rest.map Char.toLower)
  if name = "inf" ∨ name = "infinity" then some (.infinity negative)
  else if name = "nan" then some .nan
  else decimal? negative rest

end Scenario.Text
