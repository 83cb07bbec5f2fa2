import Scenario.Json.Token

/-! # Reading JSON

A machine over tokens that keeps the containers still open on a stack. It reads
exactly one value, with at most 127 containers open at once.
-/

namespace Scenario.Json

/-- An open container; its parts are newest first. -/
inductive Frame where
  | array (items : List Json)
  /-- An object whose next value belongs to `key`. -/
  | object (key : String) (members : List (String × Json))

/-- What may come next, inside the containers in `outer`. -/
inductive Reading where
  /-- A value. -/
  | atValue (outer : List Frame)
  /-- The first item of an array, or its end. -/
  | atFirstItem (outer : List Frame)
  /-- A comma, or the end of the array. -/
  | afterItem (items : List Json) (outer : List Frame)
  /-- The first key of an object, or its end. -/
  | atFirstKey (outer : List Frame)
  | atKey (members : List (String × Json)) (outer : List Frame)
  | atColon (key : String) (members : List (String × Json)) (outer : List Frame)
  /-- A comma, or the end of the object. -/
  | afterMember (members : List (String × Json)) (outer : List Frame)
  /-- Nothing. -/
  | complete (value : Json)

namespace Reading

/-- How many containers may be open at once. -/
def depthLimit : Nat := 127

/-- Puts a finished value where it belongs. -/
def place (value : Json) : List Frame → Reading
  | [] => .complete value
  | .array items :: outer => .afterItem (value :: items) outer
  | .object key members :: outer => .afterMember ((key, value) :: members) outer

/-- The first token of a value. -/
def start? (outer : List Frame) : Token → Option Reading
  | .word value => some (place value outer)
  | .string text => some (place (.string text) outer)
  | .openArray => if outer.length < depthLimit then some (.atFirstItem outer) else none
  | .openObject => if outer.length < depthLimit then some (.atFirstKey outer) else none
  | _ => none

/-- One step of the machine; none if the tokens are no JSON. -/
def step? : Reading → Token → Option Reading
  | .atValue outer, token => start? outer token
  | .atFirstItem outer, .closeArray => some (place (.array []) outer)
  | .atFirstItem outer, token => start? (.array [] :: outer) token
  | .afterItem items outer, .comma => some (.atValue (.array items :: outer))
  | .afterItem items outer, .closeArray => some (place (.array items.reverse) outer)
  | .atFirstKey outer, .closeObject => some (place (.object []) outer)
  | .atFirstKey outer, .string key => some (.atColon key [] outer)
  | .atKey members outer, .string key => some (.atColon key members outer)
  | .atColon key members outer, .colon => some (.atValue (.object key members :: outer))
  | .afterMember members outer, .comma => some (.atKey members outer)
  | .afterMember members outer, .closeObject => some (place (.object members.reverse) outer)
  | _, _ => none

/-- The value, if it is complete. -/
def complete? : Reading → Option Json
  | .complete value => some value
  | _ => none

end Reading

/-- Reads one value with the members of its objects as written, repeats included. -/
def ofTextAsWritten? (text : String) : Option Json := do
  let tokens ← Token.ofChars? text.toList
  let reading ← tokens.foldlM Reading.step? (.atValue [])
  reading.complete?

/-- Reads one value; of the members with one key the last counts. -/
def ofText? (text : String) : Option Json :=
  (ofTextAsWritten? text).map canonical

/-- Reads one value from bytes, which must be UTF-8 throughout. -/
def ofBytes? (bytes : ByteArray) : Option Json :=
  (String.fromUTF8? bytes).bind ofText?

end Scenario.Json
