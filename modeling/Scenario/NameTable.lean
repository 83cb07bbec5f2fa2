import Scenario.Json.Reader
import Scenario.Speaker

/-! # Names for display

Speaker and outfit names of a script and the names shown for them. A table of
its own entries is laid over the built-in one.
-/

namespace Scenario

/-- Entries that come before the built-in ones. -/
structure NameTable where
  overrides : List (String × String)

namespace NameTable

/-- The built-in entries. -/
def builtin : List (String × String) :=
  [("千雨", "Chisame"), ("一穂", "Kazuho"), ("梨花", "Rika"), ("羽入", "Hanyuu"), ("魅音", "Mion"),
    ("美雪", "Miyuki"), ("沙都子", "Satoko"), ("悟史", "Satoshi"), ("夏美", "Natsumi"),
    ("レナ", "Rena"), ("菜央", "Nao"), ("私服", "Casual")]

/-- The built-in entries alone. -/
def standard : NameTable :=
  ⟨[]⟩

/-- Reads overrides from the text of a JSON object whose members are all strings; of the members
    with one key the last counts. -/
def ofText? (text : String) : Option NameTable := do
  let members ← (← Json.ofTextAsWritten? text).fields?
  let _ ← members.mapM fun (_, value) => value.string?
  return ⟨(Json.Fields.ofMembers members).filterMap fun (key, value) =>
    value.string?.map fun name => (key, name)⟩

/-- The name shown for `source`, or `source` itself if the tables do not have it. -/
def translate (table : NameTable) (source : String) : String :=
  ((table.overrides.lookup source).or (builtin.lookup source)).getD source

/-- The heading of narrated lines. -/
def narration : String := "System:"

/-- The heading of a speaker's lines. Only tagged labels are translated, each part on its own. -/
def render (table : NameTable) : Speaker → String
  | .tagged label =>
    if Speaker.isNarration label then narration
    else
      let tag := SpeakerTag.ofLabel label
      let name := table.translate tag.name
      match tag.qualifier with
      | some outfit => s!"= {name} ({table.translate outfit}) ="
      | none => s!"= {name} ="
  | .untagged label => s!"= {label} ="

end NameTable
end Scenario
