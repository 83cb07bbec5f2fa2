import Scenario.Text.Printable
import Scenario.Text.Extending

/-! # Quoted text

A text between quotation marks in which every character can be told from its
neighbours: marks, line ends and characters that do not show are spelled out.
-/

namespace Scenario.Text

/-- The digits of `n` in base 16, in lower case and without leading zeros. -/
def hex (n : Nat) : List Char :=
  Nat.toDigits 16 n

/-- A character by its code point in braces. -/
def spelledOut (c : Char) : List Char :=
  ['\\', 'u', '\x7b'] ++ hex c.toNat ++ ['\x7d']

def quotedChar (c : Char) : List Char :=
  match c with
  | '\x00' => ['\\', '0']
  | '\t' => ['\\', 't']
  | '\r' => ['\\', 'r']
  | '\n' => ['\\', 'n']
  | '"' => ['\\', '"']
  | '\\' => ['\\', '\\']
  | _ => if isPrintable c && !isExtending c then [c] else spelledOut c

/-- The text in quotation marks. -/
def quoted (text : String) : String :=
  String.ofList ('"' :: text.toList.flatMap quotedChar ++ ['"'])

end Scenario.Text
