import Scenario.Json.Literal

/-! # JSON tokens

A text is cut into brackets, separators, strings and words by a machine that
takes one character at a time. Words are the runs of characters between the
others; each must be a name of a constant or a number literal.
-/

namespace Scenario.Json

inductive Token where
  | openArray
  | closeArray
  | openObject
  | closeObject
  | comma
  | colon
  | string (text : String)
  /-- A constant or a number. -/
  | word (value : Json)

namespace Token

/-- The value of a word. -/
def ofWord? (cs : List Char) : Option Json :=
  if cs = "null".toList then some .null
  else if cs = "true".toList then some (.bool true)
  else if cs = "false".toList then some (.bool false)
  else (Number.ofChars? cs).map .number

/-- The token that a single character is. -/
def ofMark? : Char → Option Token
  | '[' => some .openArray
  | ']' => some .closeArray
  | '\x7b' => some .openObject
  | '\x7d' => some .closeObject
  | ',' => some .comma
  | ':' => some .colon
  | _ => none

/-- The white space between tokens. -/
def isSpace (c : Char) : Bool :=
  c == ' ' || c == '\t' || c == '\n' || c == '\r'

/-- The character that a letter after a backslash stands for. -/
def escape? : Char → Option Char
  | '"' => some '"'
  | '\\' => some '\\'
  | '/' => some '/'
  | 'b' => some '\x08'
  | 'f' => some '\x0c'
  | 'n' => some '\n'
  | 'r' => some '\r'
  | 't' => some '\t'
  | _ => none

/-- The value of a digit in base 16. -/
def hexDigit? (c : Char) : Option Nat :=
  if c.isDigit then some (c.toNat - '0'.toNat)
  else if 'a' ≤ c ∧ c ≤ 'f' then some (c.toNat - 'a'.toNat + 10)
  else if 'A' ≤ c ∧ c ≤ 'F' then some (c.toNat - 'A'.toNat + 10)
  else none

/-- Where the machine stands; the characters of an unfinished token are newest first. -/
inductive State where
  /-- Between tokens. -/
  | between
  | inWord (cs : List Char)
  | inString (cs : List Char)
  /-- After a backslash. -/
  | escape (cs : List Char)
  /-- Inside the four digits of a 16-bit unit; `high` is the unit that it must complete. -/
  | unit (cs : List Char) (high : Option Nat) (count value : Nat)
  /-- After a unit that needs another: the backslash must follow. -/
  | pair (cs : List Char) (high : Nat)
  /-- After that backslash. -/
  | pairEscape (cs : List Char) (high : Nat)

/-- Takes a complete 16-bit unit. The units of a pair make one character, and stand alone
    nowhere. -/
def takeUnit? (cs : List Char) (high : Option Nat) (unit : Nat) : Option State :=
  let isHigh := 0xD800 ≤ unit ∧ unit < 0xDC00
  let isLow := 0xDC00 ≤ unit ∧ unit < 0xE000
  match high with
  | some high =>
    if isLow then
      some (.inString (.ofNat (0x10000 + (high - 0xD800) * 0x400 + (unit - 0xDC00)) :: cs))
    else none
  | none =>
    if isHigh then some (.pair cs unit)
    else if isLow then none
    else some (.inString (.ofNat unit :: cs))

/-- One character outside strings, after the tokens so far, newest first. -/
def outside (tokens : List Token) (c : Char) : State × List Token :=
  if c = '"' then (.inString [], tokens)
  else match ofMark? c with
    | some token => (.between, token :: tokens)
    | none => if isSpace c then (.between, tokens) else (.inWord [c], tokens)

/-- One step of the machine; none if the text is no JSON. -/
def step? : State × List Token → Char → Option (State × List Token)
  | (.between, tokens), c => some (outside tokens c)
  | (.inWord cs, tokens), c =>
    if c = '"' ∨ (ofMark? c).isSome ∨ isSpace c then
      (ofWord? cs.reverse).map fun value => outside (.word value :: tokens) c
    else some (.inWord (c :: cs), tokens)
  | (.inString cs, tokens), c =>
    if c = '"' then some (.between, .string (String.ofList cs.reverse) :: tokens)
    else if c = '\\' then some (.escape cs, tokens)
    else if c < ' ' then none
    else some (.inString (c :: cs), tokens)
  | (.escape cs, tokens), c =>
    if c = 'u' then some (.unit cs none 0 0, tokens)
    else (escape? c).map fun meant => (.inString (meant :: cs), tokens)
  | (.unit cs high count value, tokens), c => do
    let value := 16 * value + (← hexDigit? c)
    if count < 3 then return (.unit cs high (count + 1) value, tokens)
    else return (← takeUnit? cs high value, tokens)
  | (.pair cs high, tokens), c => if c = '\\' then some (.pairEscape cs high, tokens) else none
  | (.pairEscape cs high, tokens), c =>
    if c = 'u' then some (.unit cs (some high) 0 0, tokens) else none

/-- The tokens once the text has ended, oldest first. -/
def finish? : State × List Token → Option (List Token)
  | (.between, tokens) => some tokens.reverse
  | (.inWord cs, tokens) => (ofWord? cs.reverse).map fun value => (.word value :: tokens).reverse
  | _ => none

/-- Cuts a text into tokens. -/
def ofChars? (cs : List Char) : Option (List Token) :=
  (cs.foldlM step? (.between, [])).bind finish?

end Token
end Scenario.Json
