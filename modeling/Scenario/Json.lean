import Scenario.Binary64

/-! # JSON values

The values a script document is made of, and the look-up of an object's fields.
An object read from a text has ascending keys; one built to be written keeps the
order in which its fields are listed.
-/

namespace Scenario

/-- Where no key repeats, what is found under a key is what is listed under it. -/
theorem lookup_eq_some_iff_mem {α β : Type} [BEq α] [LawfulBEq α] {entries : List (α × β)}
    {key : α} {value : β} (distinct : (entries.map Prod.fst).Nodup) :
    entries.lookup key = some value ↔ (key, value) ∈ entries := by
  constructor
  · intro found
    obtain ⟨before, later, split, -⟩ := List.lookup_eq_some_iff.mp found
    rw [split]
    exact List.mem_append_right before List.mem_cons_self
  · intro listed
    induction entries with
    | nil => cases listed
    | cons entry rest ih =>
        obtain ⟨other, held⟩ := entry
        obtain ⟨fresh, distinct⟩ := List.nodup_cons.mp distinct
        rcases List.mem_cons.mp listed with same | later
        · cases same
          exact List.lookup_cons_self
        · have differs : key ≠ other := by
            intro same
            exact fresh (List.mem_map.mpr ⟨(key, value), later, same⟩)
          rw [List.lookup_cons, beq_false_of_ne differs]
          exact ih distinct later

namespace Json

/-- A number: a whole one from `-2 ^ 63` up to, but not including, `2 ^ 64`, or else a finite
    double. -/
inductive Number where
  | whole (value : Int) (bounded : -0x8000000000000000 ≤ value ∧ value < 0x10000000000000000)
  | double (value : Binary64.Finite)
  deriving DecidableEq

/-- The nearest double; whole numbers past 53 bits lose their last digits. -/
def Number.toDouble : Number → Binary64
  | .whole value _ => .ofInt value
  | .double value => .finite value

end Json

/-- A JSON value. -/
inductive Json where
  | null
  | bool (value : Bool)
  | number (value : Json.Number)
  | string (value : String)
  | array (items : List Json)
  | object (fields : List (String × Json))

namespace Json

instance : Inhabited Json := ⟨.null⟩

/-- The fields of an object, each key with its value. -/
abbrev Fields := List (String × Json)

namespace Fields

/-- The value under `key`. -/
def get? (fields : Fields) (key : String) : Option Json :=
  fields.lookup key

def contains (fields : Fields) (key : String) : Bool :=
  (fields.get? key).isSome

/-- Puts a field at its place in ascending order; a field of the same key gives way. -/
def insert (key : String) (value : Json) : Fields → Fields
  | [] => [(key, value)]
  | (other, held) :: rest =>
    if key < other then (key, value) :: (other, held) :: rest
    else if key = other then (key, value) :: rest
    else (other, held) :: insert key value rest

/-- An inserted field is found under its key, and every other field as before. -/
theorem get?_insert (fields : Fields) (key wanted : String) (value : Json) :
    (insert key value fields).get? wanted =
      if wanted = key then some value else fields.get? wanted := by
  unfold get?
  induction fields with
  | nil => grind [insert]
  | cons field rest ih =>
    obtain ⟨other, held⟩ := field
    simp only [insert, List.lookup_cons]
    split
    · grind
    · split
      · next same => subst same; simp only [List.lookup_cons]; grind
      · next differ => simp only [List.lookup_cons, ih]; grind

/-- Where no key repeats, every field is found under its key. -/
theorem get?_of_mem {fields : Fields} {key : String} {value : Json}
    (distinct : (fields.map Prod.fst).Nodup) (listed : (key, value) ∈ fields) :
    fields.get? key = some value :=
  (lookup_eq_some_iff_mem distinct).mpr listed

/-- Ascending keys, each once; of the members with one key the last counts. -/
def ofMembers (members : List (String × Json)) : Fields :=
  members.foldl (fun fields (key, value) => fields.insert key value) []

end Fields

mutual

/-- The value with every object in it brought to ascending keys without repeats. -/
def canonical : Json → Json
  | .array items => .array (canonicalItems items)
  | .object members => .object (Fields.ofMembers (canonicalMembers members))
  | value => value

def canonicalItems : List Json → List Json
  | [] => []
  | item :: rest => canonical item :: canonicalItems rest

def canonicalMembers : List (String × Json) → List (String × Json)
  | [] => []
  | (key, value) :: rest => (key, canonical value) :: canonicalMembers rest

end

/-- The fields, if the value is an object. -/
def fields? : Json → Option Fields
  | .object fields => some fields
  | _ => none

/-- The text, if the value is a string. -/
def string? : Json → Option String
  | .string text => some text
  | _ => none

/-- A whole number as a value; one that needs more than 64 bits is given as a double. -/
def ofInt (i : Int) : Json :=
  if bounded : -0x8000000000000000 ≤ i ∧ i < 0x10000000000000000 then .number (.whole i bounded)
  else match Binary64.ofInt i with
    | .finite x => .number (.double x)
    | _ => .null

def ofNat (n : Nat) : Json :=
  ofInt n

/-- A double as a value. JSON has no infinity and no NaN: they become null. -/
def ofDouble : Binary64 → Json
  | .finite x => .number (.double x)
  | _ => .null

end Json
end Scenario
