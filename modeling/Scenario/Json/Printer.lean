import Scenario.Binary64.Layout
import Scenario.Json

/-! # Writing JSON

The compact form, without a blank outside strings, and the indented form, with
every item and field on a line of its own.
-/

namespace Scenario.Json

/-- Doubles end in `.0` when whole, and have an exponent outside `1e-5 .. 1e16`. -/
def numberLayout : Binary64.Layout where
  positional := fun exponent => decide (-5 ≤ exponent ∧ exponent ≤ 15)
  wholeFraction := true
  exponentPlus := true
  tie := .toEven

def Number.text : Number → String
  | .whole value _ => toString value
  | .double value => numberLayout.finite value

/-- One of the sixteen digits, in lower case. -/
def hexDigit (n : Nat) : Char :=
  Nat.digitChar n

/-- Quotes, backslashes and control characters are escaped, all else stands for itself. -/
def escapedChar (c : Char) : List Char :=
  match c with
  | '"' => ['\\', '"']
  | '\\' => ['\\', '\\']
  | '\x08' => ['\\', 'b']
  | '\x0c' => ['\\', 'f']
  | '\n' => ['\\', 'n']
  | '\r' => ['\\', 'r']
  | '\t' => ['\\', 't']
  | _ =>
    if c < ' ' then ['\\', 'u', '0', '0', hexDigit (c.toNat / 16), hexDigit (c.toNat % 16)]
    else [c]

/-- A string in quotes. -/
def stringChars (text : String) : List Char :=
  '"' :: text.toList.flatMap escapedChar ++ ['"']

def numberChars (n : Number) : List Char :=
  n.text.toList

mutual

/-- The characters of the compact form. -/
def compactChars : Json → List Char
  | .null => "null".toList
  | .bool true => "true".toList
  | .bool false => "false".toList
  | .number n => numberChars n
  | .string text => stringChars text
  | .array items => '[' :: compactItems items ++ [']']
  | .object fields => '\x7b' :: compactFields fields ++ ['\x7d']

def compactItems : List Json → List Char
  | [] => []
  | [item] => compactChars item
  | item :: rest => compactChars item ++ ',' :: compactItems rest

def compactFields : List (String × Json) → List Char
  | [] => []
  | [(key, value)] => stringChars key ++ ':' :: compactChars value
  | (key, value) :: rest => stringChars key ++ ':' :: compactChars value ++ ',' :: compactFields rest

end

/-- The value on one line. -/
def compact (value : Json) : String :=
  String.ofList (compactChars value)

/-- A line end and the indentation at a depth, two blanks for each level. -/
def lineAt (depth : Nat) : List Char :=
  '\n' :: List.replicate (2 * depth) ' '

mutual

/-- The characters of the indented form of a value at a depth. -/
def indentedChars (depth : Nat) : Json → List Char
  | .array (item :: rest) =>
    '[' :: lineAt (depth + 1) ++ indentedItems (depth + 1) (item :: rest) ++ lineAt depth ++ [']']
  | .object (field :: rest) =>
    '\x7b' :: lineAt (depth + 1) ++ indentedFields (depth + 1) (field :: rest) ++ lineAt depth ++
      ['\x7d']
  | value => compactChars value

def indentedItems (depth : Nat) : List Json → List Char
  | [] => []
  | [item] => indentedChars depth item
  | item :: rest => indentedChars depth item ++ ',' :: lineAt depth ++ indentedItems depth rest

def indentedFields (depth : Nat) : List (String × Json) → List Char
  | [] => []
  | [(key, value)] => stringChars key ++ [':', ' '] ++ indentedChars depth value
  | (key, value) :: rest =>
    stringChars key ++ [':', ' '] ++ indentedChars depth value ++ ',' :: lineAt depth ++
      indentedFields depth rest

end

/-- The value with every item and field on its own line; empty containers stay closed. -/
def indented (value : Json) : String :=
  String.ofList (indentedChars 0 value)

end Scenario.Json
