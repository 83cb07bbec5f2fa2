import Scenario.Proofs.Labels
import Scenario.Proofs.Reread
import Scenario.Tool

/-! # Loading names

The names that an invocation goes by, in terms of the file that it is told of: an
object of texts, or else nothing that can be used.
-/

namespace Scenario

namespace NameTable

/-- Tables with the same overrides show the same names. -/
theorem render_congr {table other : NameTable}
    (same : ∀ source, table.overrides.lookup source = other.overrides.lookup source) :
    table.render = other.render := by
  have translate (source : String) : table.translate source = other.translate source := by
    rw [NameTable.translate, NameTable.translate, same]
  funext speaker
  cases speaker with
  | untagged label => rfl
  | tagged label => simp only [render, translate]

theorem fields_of_texts {fields : Json.Fields} {names : List String}
    (texts : (fields.mapM fun (_, value) => value.string?) = some names) :
    ∃ entries, fields = NameTable.fields entries := by
  induction fields generalizing names with
  | nil => exact ⟨[], rfl⟩
  | cons field rest ih =>
      obtain ⟨key, value⟩ := field
      rw [List.mapM_cons] at texts
      obtain ⟨name, isText, texts⟩ := Option.bind_eq_some_iff.mp texts
      obtain ⟨later, others, -⟩ := Option.bind_eq_some_iff.mp texts
      obtain ⟨entries, rfl⟩ := ih others
      cases value <;> cases isText
      exact ⟨(key, name) :: entries, rfl⟩

/-- Overrides can be read from nothing but an object of texts. -/
theorem entries_of_ofText? {text : String} {table : NameTable}
    (read : ofText? text = some table) :
    ∃ entries, Json.ofTextAsWritten? text = some (.object (fields entries)) := by
  obtain ⟨value, written, read⟩ := Option.bind_eq_some_iff.mp read
  obtain ⟨members, object, read⟩ := Option.bind_eq_some_iff.mp read
  obtain ⟨names, texts, -⟩ := Option.bind_eq_some_iff.mp read
  obtain ⟨entries, rfl⟩ := fields_of_texts texts
  cases value <;> cases object
  exact ⟨entries, written⟩

end NameTable

open NameTable (fields)

/-- The overrides that an invocation goes by, as they are written: none if it is told of no file,
    and else the members of the object of texts that the file holds. -/
inductive Reader.Overrides (read : Reader) : Option Path → List (String × String) → Prop where
  | unnamed : read.Overrides none []
  | named {path : Path} {text : String} {entries : List (String × String)}
      (readable : Reader.text read path = .ok text)
      (object : Json.ofTextAsWritten? text = some (.object (fields entries))) :
      read.Overrides (some path) entries

/-- Any JSON text of an object of texts holds overrides, however it is spelled and spaced. -/
theorem Reader.Overrides.of_spaced {read : Reader} {path : Path} {entries : List (String × String)}
    {cs : List Char} (readable : Reader.text read path = .ok (String.ofList cs))
    (spaced : Json.Spaced (.object (fields entries)) cs) : read.Overrides (some path) entries := by
  have texts : ∀ field ∈ fields entries,
      Json.Readable (Json.Reading.depthLimit - 1) field.2 := by
    intro field member
    obtain ⟨entry, -, rfl⟩ := List.mem_map.mp member
    exact .string
  exact .named readable (Json.ofTextAsWritten?_of_spaced (.object texts) spaced)

namespace Tool

variable {read : Reader} {path : Path}

theorem loadNames_of_unreadable {reason : ReadError}
    (unreadable : Reader.text read path = .error reason) :
    loadNames read (some path) = .error (.unreadable path reason) := by
  simp only [loadNames, unreadable]

theorem loadNames_of_malformed {text : String} (readable : Reader.text read path = .ok text)
    (malformed : NameTable.ofText? text = none) :
    loadNames read (some path) = .error (.malformed path) := by
  simp only [loadNames, readable, malformed]

theorem loadNames_of_table {text : String} {table : NameTable}
    (readable : Reader.text read path = .ok text) (parsed : NameTable.ofText? text = some table) :
    loadNames read (some path) =
      .ok (table, [.debug s!"loaded {table.overrides.length} name override(s) from {path}"]) := by
  simp only [loadNames, readable, parsed]

/-- The names of a file are loaded exactly if the file is a text that overrides can be read from,
    and then are these. -/
theorem loadNames_eq_ok_iff {table : NameTable} {log : List LogEntry} :
    loadNames read (some path) = .ok (table, log) ↔
      ∃ text, Reader.text read path = .ok text ∧ NameTable.ofText? text = some table ∧
        log = [.debug s!"loaded {table.overrides.length} name override(s) from {path}"] := by
  constructor
  · intro loaded
    cases readable : Reader.text read path with
    | error reason => cases (loadNames_of_unreadable readable).symm.trans loaded
    | ok text =>
        cases parsed : NameTable.ofText? text with
        | none => cases (loadNames_of_malformed readable parsed).symm.trans loaded
        | some found =>
            cases (loadNames_of_table readable parsed).symm.trans loaded
            exact ⟨text, rfl, parsed, rfl⟩
  · rintro ⟨text, readable, parsed, rfl⟩
    exact loadNames_of_table readable parsed

/-- With overrides, the names that are loaded are shown as the last entry for each says. -/
theorem loadNames_of_overrides {names : Option Path} {entries : List (String × String)}
    (overrides : read.Overrides names entries) :
    ∃ table log, loadNames read names = .ok (table, log) ∧
      table.render = (⟨entries.reverse⟩ : NameTable).render := by
  cases overrides with
  | unnamed => exact ⟨.standard, [], rfl, rfl⟩
  | named readable object =>
      obtain ⟨table, parsed, last⟩ := NameTable.ofText?_of_entries object
      exact ⟨table, _, loadNames_eq_ok_iff.mpr ⟨_, readable, parsed, rfl⟩,
        NameTable.render_congr last⟩

end Tool
end Scenario
