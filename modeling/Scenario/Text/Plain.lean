/-! # Plain text

What a text says once everything is gone that steers a terminal: control
sequences, and control characters other than those that part words and lines.
-/

namespace Scenario.Text

/-- A control sequence that has been read in part. -/
inductive Sequence where
  /-- The escape character alone. -/
  | escape
  /-- The escape character and marks. -/
  | marked
  /-- A control function, with its parameters so far. -/
  | control
  /-- The introduction of a device string, with neither parameters nor marks. -/
  | device
  /-- The introduction of a device string, with parameters. -/
  | deviceParameters
  /-- The introduction of a device string, with marks. -/
  | deviceMarks
  /-- A string for the terminal, up to a string terminator. -/
  | terminalString
  /-- A string for the operating system, up to a bell. -/
  | systemString
  deriving DecidableEq, Repr

/-- The control characters that part words and lines. -/
def isGap (c : Char) : Bool :=
  c == '\t' || c == '\n' || c == '\x0c' || c == '\r'

/-- The characters that show between sequences. -/
def isPlain (c : Char) : Bool :=
  (' ' ≤ c && c != '\x7f') || isGap c

/-- The byte of the one-character string terminator is among the bytes of the character. -/
def isTerminator (c : Char) : Bool :=
  (String.utf8EncodeChar c).contains 0x9C

namespace Sequence

/-- White space inside the sequence shows. Inside strings it is part of them. -/
def isOpen : Sequence → Bool
  | .escape | .marked | .control => true
  | _ => false

/-- The kind of sequence that a character after the escape character starts; none if that
    character completes one. -/
def ofIntroducer? : Char → Option Sequence
  | '[' => some .control
  | ']' => some .systemString
  | 'P' => some .device
  | 'X' | '^' | '_' => some .terminalString
  | _ => none

/-- The sequence after one character more; none if that ends it. A new escape character starts
    over, and two control characters cancel every sequence. What has no meaning in a sequence
    changes nothing. -/
def next? (sequence : Sequence) (c : Char) : Option Sequence :=
  if c = '\x1b' then some .escape
  else if c = '\x18' ∨ c = '\x1a' then none
  else
    let isMark := ' ' ≤ c ∧ c ≤ '/'
    let isParameter := '0' ≤ c ∧ c ≤ '?'
    let isFinal := '@' ≤ c ∧ c ≤ '~'
    match sequence with
    | .escape =>
      if isMark then some .marked
      else if isParameter ∨ isFinal then ofIntroducer? c
      else some sequence
    | .marked => if isParameter ∨ isFinal then none else some sequence
    | .control => if isFinal then none else some sequence
    | .device =>
      if isMark then some .deviceMarks
      else if isParameter then some .deviceParameters
      else if isFinal then some .terminalString
      else some sequence
    | .deviceParameters =>
      if isMark then some .deviceMarks
      else if '<' ≤ c ∧ c ≤ '~' then some .terminalString
      else some sequence
    | .deviceMarks => if isParameter ∨ isFinal then some .terminalString else some sequence
    | .terminalString => if isTerminator c then none else some sequence
    | .systemString => if c = '\x07' then none else some sequence

end Sequence

/-- What becomes of the next character. -/
inductive Display where
  /-- It shows if it is plain. -/
  | shown
  /-- It belongs to a sequence. -/
  | within (sequence : Sequence)
  /-- It shows if it is plain, but the sequence before is not over: white space interrupted it. -/
  | interrupted (sequence : Sequence)
  deriving DecidableEq, Repr

namespace Display

/-- Where a sequence leaves the display. -/
def ofSequence? : Option Sequence → Display
  | none => .shown
  | some sequence => .within sequence

/-- The display after a character. The first character that does not show takes an interrupted
    sequence up again; a character beyond ASCII drops it. -/
def next (display : Display) (c : Char) : Display :=
  match display with
  | .shown => if c = '\x1b' then .within .escape else .shown
  | .within sequence =>
    if sequence.isOpen && isGap c then .interrupted sequence else ofSequence? (sequence.next? c)
  | .interrupted sequence =>
    if !isPlain c then ofSequence? (sequence.next? c)
    else if '\x7f' < c then .shown
    else display

/-- The character shows. -/
def shows (display : Display) (c : Char) : Bool :=
  match display with
  | .shown | .interrupted _ => isPlain c
  | .within sequence => sequence.isOpen && isGap c

/-- The characters of a text that show. -/
def filter (display : Display) : List Char → List Char
  | [] => []
  | c :: rest =>
    if display.shows c then c :: (display.next c).filter rest else (display.next c).filter rest

end Display

/-- The text without control sequences and without control characters that do not part words or
    lines. -/
def plain (text : String) : String :=
  String.ofList (Display.shown.filter text.toList)

end Scenario.Text
