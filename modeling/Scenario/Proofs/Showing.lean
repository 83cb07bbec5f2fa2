import Scenario.Proofs.Catalogs
import Scenario.Proofs.Written

/-! # Arguments as text

What an argument is shown as, and so listed under in a catalogue: a text as itself, a
number in digits that read back as it, and everything else as JSON.
-/

namespace Scenario

open Json (Literal)

namespace Arg

/-- The ways in which an argument may be shown. -/
inductive Shown : Arg → String → Prop where
  | text {text : String} : Shown (.raw (.string text)) text
  | json {value : Json} {cs : List Char} (noText : ∀ text, value ≠ .string text)
      (written : Json.Written value cs) : Shown (.raw value) (String.ofList cs)
  | int {word : Word} {cs : List Char} (written : Json.Written word.toJson cs) :
      Shown (.int word) (String.ofList cs)
  | float {x : Binary64.Finite} {cs : List Char} {literal : Literal}
      (read : Literal.ofChars? cs = some literal) (sign : literal.negative = x.negative)
      (nearest : x.Nearest (x.signed literal.decimal.rational)) :
      Shown (.float (.finite x)) (String.ofList cs)
  | infinity {negative : Bool} :
      Shown (.float (.infinity negative)) (if negative then "-inf" else "inf")
  | nan : Shown (.float .nan) "NaN"

theorem shown_json {value : Json} (noText : ∀ text, value ≠ .string text) :
    (raw value).Shown (raw value).text := by
  have compact : (raw value).text = String.ofList value.compactChars := by
    cases value with
    | string text => exact absurd rfl (noText text)
    | null | bool | number | array | object => rfl
  rw [compact]
  exact .json noText (Json.compactChars_written value)

/-- An argument is shown in one of these ways. -/
theorem shown_text (arg : Arg) : arg.Shown arg.text := by
  cases arg with
  | raw value =>
      cases value with
      | string text => exact .text
      | null | bool | number | array | object => exact shown_json nofun
  | int word =>
      have digits : (int word).text = String.ofList word.toJson.compactChars :=
        String.ofList_toList.symm
      rw [digits]
      exact .int (Json.compactChars_written word.toJson)
  | float x =>
      cases x with
      | nan => exact .nan
      | infinity negative => exact .infinity
      | finite x =>
          obtain ⟨spelling, chars, -, value⟩ := Literal.exists_spelling_of_positional
            Binary64.plain (Literal.shortest_counts x .up) rfl
          obtain ⟨read, nearest⟩ := Literal.Spelling.reads chars value
          have shown := Shown.float read rfl nearest
          rwa [String.ofList_toList] at shown

theorem isNull_eq_false_iff {arg : Arg} : arg.isNull = false ↔ arg ≠ .null := by
  constructor
  · rintro notNull rfl
    cases notNull
  · intro other
    unfold isNull
    split
    · exact absurd rfl other
    · rfl

end Arg

/-- An asset that an operation refers to is named as its argument is shown. -/
theorem Operation.Names.shown {operation : Operation} {kind : AssetKind} {name : String}
    (names : operation.Names kind name) :
    ∃ arg, operation.Refers kind arg ∧ arg ≠ .null ∧ arg.Shown name := by
  obtain ⟨arg, refers, notNull, rfl⟩ := names
  exact ⟨arg, refers, Arg.isNull_eq_false_iff.mp notNull, arg.shown_text⟩

/-- Every name of a catalogue is some argument of a command, as it is shown. -/
theorem Catalog.collected_shown {commands : List Command} {kind : AssetKind} {name : String}
    (listed : name ∈ (collected commands).names kind) :
    ∃ command ∈ commands, ∃ operation fallbacks,
      (Discovery.empty.classify command).1 = .ok (.operation operation fallbacks) ∧
        ∃ arg, operation.Refers kind arg ∧ arg ≠ .null ∧ arg.Shown name := by
  obtain ⟨command, member, operation, fallbacks, dispatched, names⟩ :=
    ((collected_holds commands).exact kind name).mp listed
  exact ⟨command, member, operation, fallbacks, dispatched, names.shown⟩

end Scenario
