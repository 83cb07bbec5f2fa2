import Scenario.Json.Token
import Scenario.Proofs.Literals

/-! # JSON texts

What a JSON text of a value is: its tokens in their order, in any of their
spellings and with any white space between them. Both forms in which values are
written are such texts.
-/

namespace Scenario.Json

/-- White space, as it may stand around a token. -/
def Blank (cs : List Char) : Prop :=
  ∀ c ∈ cs, Token.isSpace c = true

/-- A character inside a string: itself, a letter after a backslash, or its code in four digits of
    base 16. -/
inductive CharWritten : Char → List Char → Prop where
  | plain {c : Char} (shows : ' ' ≤ c) (noMark : c ≠ '"') (noSlash : c ≠ '\\') : CharWritten c [c]
  | escape {c letter : Char} (stands : Token.escape? letter = some c) :
      CharWritten c ['\\', letter]
  | code {c : Char} {digits : List Char} {values : List Nat} (four : digits.length = 4)
      (read : digits.mapM Token.hexDigit? = some values)
      (code : values.foldl (fun code value => 16 * code + value) 0 = c.toNat) :
      CharWritten c ('\\' :: 'u' :: digits)

/-- A string in quotes. -/
def StringWritten (text : String) (cs : List Char) : Prop :=
  ∃ parts, List.Forall₂ CharWritten text.toList parts ∧ cs = '"' :: parts.flatten ++ ['"']

/-- Parts with a comma between any two; where there is none, white space may stand. -/
inductive Listed {α : Type} (Part : α → List Char → Prop) : List α → List Char → Prop where
  | none {space : List Char} (blank : Blank space) : Listed Part [] space
  | last {part : α} {cs : List Char} (written : Part part cs) : Listed Part [part] cs
  | more {part next : α} {rest : List α} {cs inside : List Char} (written : Part part cs)
      (others : Listed Part (next :: rest) inside) :
      Listed Part (part :: next :: rest) (cs ++ ',' :: inside)

mutual

/-- The characters are a JSON text of the value. -/
inductive Written : Json → List Char → Prop where
  | null : Written .null ['n', 'u', 'l', 'l']
  | true : Written (.bool true) ['t', 'r', 'u', 'e']
  | false : Written (.bool false) ['f', 'a', 'l', 's', 'e']
  | number {n : Number} {cs : List Char} (literal : n.Written cs) : Written (.number n) cs
  | string {text : String} {cs : List Char} (quoted : StringWritten text cs) :
      Written (.string text) cs
  | array {items : List Json} {inside : List Char} (listed : Listed Spaced items inside) :
      Written (.array items) ('[' :: inside ++ [']'])
  | object {fields : List (String × Json)} {inside : List Char}
      (listed : Listed FieldWritten fields inside) :
      Written (.object fields) ('\x7b' :: inside ++ ['\x7d'])

/-- A value with white space around it. -/
inductive Spaced : Json → List Char → Prop where
  | intro {value : Json} {before cs after : List Char} (blank : Blank before)
      (written : Written value cs) (blankAfter : Blank after) : Spaced value (before ++ cs ++ after)

/-- A key, a colon and a value, with white space around each. -/
inductive FieldWritten : String × Json → List Char → Prop where
  | intro {key : String} {value : Json} {before name after cs : List Char} (blank : Blank before)
      (named : StringWritten key name) (blankAfter : Blank after) (spaced : Spaced value cs) :
      FieldWritten (key, value) (before ++ name ++ after ++ ':' :: cs)

end

@[simp] theorem blank_nil : Blank [] := nofun

@[simp] theorem blank_cons {c : Char} {cs : List Char} :
    Blank (c :: cs) ↔ Token.isSpace c = true ∧ Blank cs :=
  List.forall_mem_cons

@[simp] theorem blank_append {before later : List Char} :
    Blank (before ++ later) ↔ Blank before ∧ Blank later :=
  List.forall_mem_append

/-! ## Strings -/

theorem hexDigit?_hexDigit {n : Nat} (small : n < 16) : Token.hexDigit? (hexDigit n) = some n := by
  revert n
  decide

theorem charWritten_escapedChar (c : Char) : CharWritten c (escapedChar c) := by
  unfold escapedChar
  split
  case h_8 mark slash _ _ _ _ _ =>
    split
    · next control =>
        have code : c.toNat < 0x20 := control
        have high := hexDigit?_hexDigit (show c.toNat / 16 < 16 by omega)
        have low := hexDigit?_hexDigit (show c.toNat % 16 < 16 by omega)
        have zero : Token.hexDigit? '0' = some 0 := rfl
        have read : ['0', '0', hexDigit (c.toNat / 16), hexDigit (c.toNat % 16)].mapM
            Token.hexDigit? = some [0, 0, c.toNat / 16, c.toNat % 16] := by
          simp [List.mapM_cons, zero, high, low]
        refine .code rfl read ?_
        simp only [List.foldl_cons, List.foldl_nil]
        omega
    · next shows => exact .plain (Char.not_lt.mp shows) mark slash
  all_goals exact .escape rfl

theorem stringChars_written (text : String) : StringWritten text (stringChars text) := by
  refine ⟨text.toList.map escapedChar, ?_, rfl⟩
  rw [List.forall₂_map_right_iff, List.forall₂_same]
  exact fun c _ => charWritten_escapedChar c

/-! ## Values -/

theorem Written.spaced {value : Json} {cs : List Char} (written : Written value cs) :
    Spaced value cs := by
  have bare := Spaced.intro blank_nil written blank_nil
  rwa [List.nil_append, List.append_nil] at bare

theorem FieldWritten.bare {key : String} {value : Json} {cs : List Char}
    (spaced : Spaced value cs) : FieldWritten (key, value) (stringChars key ++ ':' :: cs) := by
  have bare := FieldWritten.intro blank_nil (stringChars_written key) blank_nil spaced
  rwa [List.nil_append, List.append_nil] at bare

mutual

/-- The compact form is a JSON text of the value. -/
theorem compactChars_written (value : Json) : Written value (compactChars value) := by
  cases value with
  | null => exact .null
  | bool value => cases value <;> constructor
  | number n => exact .number (numberChars_written n)
  | string text => exact .string (stringChars_written text)
  | array items => exact .array (compactItems_listed items)
  | object fields => exact .object (compactFields_listed fields)

theorem compactItems_listed (items : List Json) : Listed Spaced items (compactItems items) := by
  cases items with
  | nil => exact .none blank_nil
  | cons item rest =>
      cases rest with
      | nil => exact .last (compactChars_written item).spaced
      | cons next later =>
          exact .more (compactChars_written item).spaced (compactItems_listed (next :: later))

theorem compactFields_listed (fields : List (String × Json)) :
    Listed FieldWritten fields (compactFields fields) := by
  cases fields with
  | nil => exact .none blank_nil
  | cons field rest =>
      obtain ⟨key, value⟩ := field
      have written : FieldWritten (key, value) (stringChars key ++ ':' :: compactChars value) :=
        .bare (compactChars_written value).spaced
      cases rest with
      | nil => exact .last written
      | cons next later =>
          have others := Listed.more written (compactFields_listed (next :: later))
          simpa [compactFields] using others

end

theorem blank_lineAt (depth : Nat) : Blank (lineAt depth) := by
  rw [lineAt, blank_cons]
  refine ⟨rfl, fun c member => ?_⟩
  rw [(List.mem_replicate.mp member).2]
  rfl

mutual

/-- The indented form is a JSON text of the value, at any depth. -/
theorem indentedChars_written (depth : Nat) (value : Json) :
    Written value (indentedChars depth value) := by
  cases value with
  | array items =>
      cases items with
      | nil => exact compactChars_written (.array [])
      | cons item rest =>
          have listed := indentedItems_listed (depth + 1) (item :: rest) (List.cons_ne_nil _ _)
            (blank_lineAt (depth + 1)) (blank_lineAt depth)
          simpa [indentedChars] using Written.array listed
  | object fields =>
      cases fields with
      | nil => exact compactChars_written (.object [])
      | cons field rest =>
          have listed := indentedFields_listed (depth + 1) (field :: rest) (List.cons_ne_nil _ _)
            (blank_lineAt (depth + 1)) (blank_lineAt depth)
          simpa [indentedChars] using Written.object listed
  | null | bool value | number n | string text => exact compactChars_written _

theorem indentedItems_listed (depth : Nat) (items : List Json) (some : items ≠ [])
    {before after : List Char} (blank : Blank before) (blankAfter : Blank after) :
    Listed Spaced items (before ++ indentedItems depth items ++ after) := by
  cases items with
  | nil => exact absurd rfl some
  | cons item rest =>
      have written := indentedChars_written depth item
      cases rest with
      | nil => exact .last (.intro blank written blankAfter)
      | cons next later =>
          have others := indentedItems_listed depth (next :: later) (List.cons_ne_nil _ _)
            (blank_lineAt depth) blankAfter
          simpa [indentedItems] using Listed.more (.intro blank written blank_nil) others

theorem indentedFields_listed (depth : Nat) (fields : List (String × Json)) (some : fields ≠ [])
    {before after : List Char} (blank : Blank before) (blankAfter : Blank after) :
    Listed FieldWritten fields (before ++ indentedFields depth fields ++ after) := by
  cases fields with
  | nil => exact absurd rfl some
  | cons field rest =>
      obtain ⟨key, value⟩ := field
      have name := stringChars_written key
      have written := indentedChars_written depth value
      have space : Blank [' '] := by simp [Token.isSpace]
      cases rest with
      | nil =>
          have last := FieldWritten.intro blank name blank_nil (.intro space written blankAfter)
          simpa [indentedFields] using Listed.last last
      | cons next later =>
          have first := FieldWritten.intro blank name blank_nil (.intro space written blank_nil)
          have others := indentedFields_listed depth (next :: later) (List.cons_ne_nil _ _)
            (blank_lineAt depth) blankAfter
          simpa [indentedFields] using Listed.more first others

end

end Scenario.Json
