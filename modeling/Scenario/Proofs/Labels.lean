import Mathlib.Data.List.Induction
import Mathlib.Data.List.TakeDrop
import Mathlib.Data.List.TakeWhile
import Scenario.NameTable

/-! # Speaker labels

A label splits at its first separator, and its parts give it back. Each part is
shown by the first of two tables that has it, overrides before built-in entries,
or else as it is; only the bare separator is narration.
-/

namespace Scenario

namespace Speaker

theorem all_ne_separator {chars : List Char} (untagged : '：' ∉ chars) :
    ∀ c ∈ chars, (c != separator) = true := by
  intro c member
  rw [bne_iff_ne]
  rintro rfl
  exact untagged member

/-- Three bytes and the separator at the start leave room for nothing else. -/
theorem isNarration_iff_bytes {label : String} :
    isNarration label = true ↔
      label.utf8ByteSize = separator.utf8Size ∧ label.toList.head? = some separator := by
  rw [isNarration, beq_iff_eq]
  constructor
  · rintro rfl
    exact ⟨String.utf8ByteSize_singleton, rfl⟩
  · rintro ⟨size, first⟩
    obtain ⟨rest, split⟩ := List.head?_eq_some_iff.mp first
    have parts : label = String.singleton separator ++ String.ofList rest := by
      apply String.toList_inj.mp
      simp [split]
    rw [parts, String.utf8ByteSize_append, String.utf8ByteSize_singleton,
      Nat.add_eq_left, String.utf8ByteSize_eq_zero_iff] at size
    rw [parts, size, String.append_empty]

end Speaker

namespace SpeakerTag

/-- The parts of a label with the separator in it: the first separator ends the name, and an outfit
    is not empty. -/
structure Proper (tag : SpeakerTag) : Prop where
  plain : '：' ∉ tag.name.toList
  filled : tag.qualifier ≠ some ""

/-- The label that has these parts. -/
def label (tag : SpeakerTag) : String :=
  tag.name ++ "：" ++ tag.qualifier.getD ""

theorem ofLabel_of_untagged {label : String} (untagged : '：' ∉ label.toList) :
    ofLabel label = ⟨label, none⟩ := by
  have all := Speaker.all_ne_separator untagged
  simp [ofLabel, List.span_eq_takeWhile_dropWhile, List.takeWhile_eq_self_iff.mpr all,
    List.dropWhile_eq_nil_iff.mpr all]

theorem ofLabel_of_split {label : String} {name rest : List Char}
    (split : label.toList = name ++ '：' :: rest) (plain : '：' ∉ name) :
    ofLabel label =
      ⟨String.ofList name, if rest.isEmpty then none else some (String.ofList rest)⟩ := by
  have all := Speaker.all_ne_separator plain
  simp only [ofLabel, List.span_eq_takeWhile_dropWhile, split, List.takeWhile_append_of_pos all,
    List.dropWhile_append_of_pos all]
  simp [Speaker.separator]

/-- What stands after the first separator is the outfit, further separators included. -/
theorem ofLabel_of_tagged {label : String} (tag : '：' ∈ label.toList) :
    (ofLabel label).Proper ∧ (ofLabel label).label = label := by
  obtain ⟨name, rest, split, plain⟩ := List.eq_append_cons_of_mem tag
  rw [ofLabel_of_split split plain]
  refine ⟨⟨by simpa using plain, ?_⟩, ?_⟩
  · cases rest <;> simp
  · apply String.toList_inj.mp
    rw [split]
    cases rest <;> simp [SpeakerTag.label]

theorem ofLabel_label {tag : SpeakerTag} (proper : tag.Proper) : ofLabel tag.label = tag := by
  obtain ⟨name, qualifier⟩ := tag
  have split : (SpeakerTag.label ⟨name, qualifier⟩).toList =
      name.toList ++ '：' :: (qualifier.getD "").toList := by
    simp [SpeakerTag.label]
  rw [ofLabel_of_split split proper.plain]
  cases qualifier with
  | none => simp
  | some outfit =>
      have filled : outfit ≠ "" := fun empty => proper.filled (congrArg some empty)
      simp [filled]

end SpeakerTag

namespace Json.Fields

theorem ofMembers_concat (members : List (String × Json)) (key : String) (value : Json) :
    ofMembers (members ++ [(key, value)]) = (ofMembers members).insert key value :=
  List.foldl_append

/-- Of the members with one key the last one is found. -/
theorem get?_ofMembers (members : List (String × Json)) (key : String) :
    (ofMembers members).get? key = members.reverse.lookup key := by
  -- from the last member back, for it is the one that all others give way to
  induction members using List.reverseRecOn with
  | nil => rfl
  | append_singleton earlier last ih =>
      obtain ⟨other, value⟩ := last
      rw [ofMembers_concat, get?_insert, ih, List.reverse_append, List.reverse_singleton,
        List.singleton_append, List.lookup_cons]
      by_cases same : key = other
      · simp [same]
      · simp [same, beq_false_of_ne same]

theorem mem_insert {key : String} {value : Json} {fields : Fields} {field : String × Json}
    (listed : field ∈ fields.insert key value) : field = (key, value) ∨ field ∈ fields := by
  induction fields with
  | nil => exact .inl (List.mem_singleton.mp listed)
  | cons first rest ih =>
      obtain ⟨other, held⟩ := first
      simp only [insert] at listed
      split at listed
      · exact List.mem_cons.mp listed
      · split at listed
        · exact (List.mem_cons.mp listed).imp_right (List.mem_cons_of_mem _)
        · rcases List.mem_cons.mp listed with rfl | later
          · exact .inr List.mem_cons_self
          · exact (ih later).imp_right (List.mem_cons_of_mem _)

theorem mem_of_mem_ofMembers {members : List (String × Json)} {field : String × Json}
    (listed : field ∈ ofMembers members) : field ∈ members := by
  induction members using List.reverseRecOn with
  | nil => cases listed
  | append_singleton earlier last ih =>
      rw [ofMembers_concat] at listed
      rcases mem_insert listed with rfl | before
      · exact List.mem_append_right earlier List.mem_cons_self
      · exact List.mem_append_left _ (ih before)

end Json.Fields

namespace NameTable

/-- The fields of an object of texts. -/
def fields (entries : List (String × String)) : Json.Fields :=
  entries.map fun (source, name) => (source, .string name)

theorem lookup_fields (entries : List (String × String)) (source : String) :
    (fields entries).lookup source = (entries.lookup source).map Json.string := by
  induction entries with
  | nil => rfl
  | cons entry rest ih =>
      obtain ⟨other, name⟩ := entry
      rw [fields, List.map_cons, List.lookup_cons, List.lookup_cons, ← fields, ih]
      cases source == other <;> rfl

theorem lookup_texts {fields : Json.Fields}
    (texts : ∀ field ∈ fields, ∃ text, field.2 = .string text) (source : String) :
    (fields.filterMap fun (key, value) => value.string?.map fun text => (key, text)).lookup source =
      (fields.lookup source).bind Json.string? := by
  induction fields with
  | nil => rfl
  | cons field rest ih =>
      obtain ⟨⟨text, isText⟩, later⟩ := List.forall_mem_cons.mp texts
      obtain ⟨other, value⟩ := field
      cases isText
      have first : (Json.string text).string? = some text := rfl
      simp only [List.filterMap_cons, first, Option.map_some, List.lookup_cons, ih later]
      cases source == other <;> rfl

theorem mapM_fields (entries : List (String × String)) :
    ((fields entries).mapM fun (_, value) => value.string?) = some (entries.map Prod.snd) := by
  induction entries with
  | nil => rfl
  | cons entry rest ih =>
      rw [fields, List.map_cons, List.mapM_cons, ← fields, ih]
      rfl

/-- A file that holds an object of texts is a table, in which the last entry for a name counts. -/
theorem ofText?_of_entries {text : String} {entries : List (String × String)}
    (written : Json.ofTextAsWritten? text = some (.object (fields entries))) :
    ∃ table, ofText? text = some table ∧
      ∀ source, table.overrides.lookup source = entries.reverse.lookup source := by
  have read : ofText? text =
      some ⟨(Json.Fields.ofMembers (fields entries)).filterMap fun (key, value) =>
        value.string?.map fun name => (key, name)⟩ := by
    simp only [ofText?, written, Json.fields?, mapM_fields, bind, Option.bind, pure]
  refine ⟨_, read, fun source => ?_⟩
  have texts : ∀ field ∈ Json.Fields.ofMembers (fields entries),
      ∃ text, field.2 = .string text := by
    intro field listed
    obtain ⟨entry, -, rfl⟩ := List.mem_map.mp (Json.Fields.mem_of_mem_ofMembers listed)
    exact ⟨entry.2, rfl⟩
  have reversed : (fields entries).reverse = fields entries.reverse := List.map_reverse.symm
  have last := Json.Fields.get?_ofMembers (fields entries) source
  rw [Json.Fields.get?, reversed, lookup_fields] at last
  rw [lookup_texts texts, last]
  cases entries.reverse.lookup source <;> rfl

theorem lookup_builtin_iff {source name : String} :
    builtin.lookup source = some name ↔ (source, name) ∈ builtin :=
  lookup_eq_some_iff_mem (by decide)

/-- Overrides come before built-in entries; a name that neither has stays as it is. -/
theorem translate_layers (table : NameTable) (source : String) :
    (∀ name, table.overrides.lookup source = some name → table.translate source = name) ∧
      (∀ name, table.overrides.lookup source = none → (source, name) ∈ builtin →
        table.translate source = name) ∧
      (table.overrides.lookup source = none → (∀ name, (source, name) ∉ builtin) →
        table.translate source = source) := by
  refine ⟨fun name own => ?_, fun name absent listed => ?_, fun absent unlisted => ?_⟩
  · rw [translate, own]
    rfl
  · rw [translate, absent, lookup_builtin_iff.mpr listed]
    rfl
  · have missing : builtin.lookup source = none := by
      apply Option.eq_none_iff_forall_ne_some.mpr
      intro name found
      exact unlisted name (lookup_builtin_iff.mp found)
    rw [translate, absent, missing]
    rfl

theorem heading_ne_narration (shown : String) : "= " ++ shown ≠ narration := by
  intro same
  have first := congrArg (fun text => text.toList.head?) same
  simp [narration] at first

theorem render_tagged (table : NameTable) {label : String} (speaks : label ≠ "：") :
    table.render (.tagged label) =
      "= " ++ (table.translate (SpeakerTag.ofLabel label).name ++
        match (SpeakerTag.ofLabel label).qualifier with
        | some outfit => " (" ++ table.translate outfit ++ ") ="
        | none => " =") := by
  have told : Speaker.isNarration label = false := beq_false_of_ne speaks
  simp only [render, told]
  cases (SpeakerTag.ofLabel label).qualifier with
  | none => simp [String.append_assoc, toString]
  | some outfit => simp [String.append_assoc, toString]

theorem render_untagged (table : NameTable) (label : String) :
    table.render (.untagged label) = "= " ++ (label ++ " =") := by
  simp [render, String.append_assoc, toString]

/-- Headings of other speakers start with a mark that the heading of narration does not have. -/
theorem render_eq_narration_iff (table : NameTable) (speaker : Speaker) :
    table.render speaker = narration ↔ speaker = .tagged "：" := by
  constructor
  · intro narrated
    cases speaker with
    | tagged label =>
        by_contra other
        have speaks : label ≠ "：" := fun same => other (congrArg Speaker.tagged same)
        rw [render_tagged table speaks] at narrated
        exact heading_ne_narration _ narrated
    | untagged label =>
        rw [render_untagged] at narrated
        exact absurd narrated (heading_ne_narration _)
  · rintro rfl
    rfl

/-- Labels split without loss and are shown by the layered table. A label with a separator is a
    proper tag, of which it is the label, and the tag of a proper tag's label is that tag; so other
    labels with a separator have other tags. A label without one is a name. A file of overrides is a
    table in which the last entry for a name counts; in any table overrides come before built-in
    entries. Narration is the bare separator, which its size in bytes and its first character tell,
    and has a heading that no other speaker has, whatever the table; of other tagged labels each
    part is shown by the table, and untagged ones are shown as they are. -/
theorem labels_split_and_render :
    ((∀ label : String, '：' ∈ label.toList →
          (SpeakerTag.ofLabel label).Proper ∧ (SpeakerTag.ofLabel label).label = label) ∧
        (∀ label : String, '：' ∉ label.toList → SpeakerTag.ofLabel label = ⟨label, none⟩) ∧
        (∀ tag : SpeakerTag, tag.Proper → SpeakerTag.ofLabel tag.label = tag) ∧
        ∀ label other : String, '：' ∈ label.toList → '：' ∈ other.toList → label ≠ other →
          SpeakerTag.ofLabel label ≠ SpeakerTag.ofLabel other) ∧
      (∀ (text : String) (entries : List (String × String)),
        Json.ofTextAsWritten? text = some (.object (fields entries)) →
        ∃ table, ofText? text = some table ∧
          ∀ source, table.overrides.lookup source = entries.reverse.lookup source) ∧
      (∀ label : String, Speaker.isNarration label = true ↔
        label.utf8ByteSize = Speaker.separator.utf8Size ∧
          label.toList.head? = some Speaker.separator) ∧
      ∀ table : NameTable,
        (∀ source : String,
          (∀ name, table.overrides.lookup source = some name → table.translate source = name) ∧
            (∀ name, table.overrides.lookup source = none → (source, name) ∈ builtin →
              table.translate source = name) ∧
            (table.overrides.lookup source = none → (∀ name, (source, name) ∉ builtin) →
              table.translate source = source)) ∧
          (∀ speaker, table.render speaker = "System:" ↔ speaker = .tagged "：") ∧
          (∀ label : String, label ≠ "：" →
            let tag := SpeakerTag.ofLabel label
            (tag.qualifier = none →
                table.render (.tagged label) = "= " ++ table.translate tag.name ++ " =") ∧
              ∀ outfit, tag.qualifier = some outfit →
                table.render (.tagged label) =
                  "= " ++ table.translate tag.name ++ " (" ++ table.translate outfit ++ ") =") ∧
          ∀ label : String, table.render (.untagged label) = "= " ++ label ++ " =" := by
  refine ⟨⟨?_, ?_, ?_, ?_⟩, ?_, ?_, fun table => ⟨table.translate_layers, ?_, ?_, ?_⟩⟩
  · intro label tag
    exact SpeakerTag.ofLabel_of_tagged tag
  · intro label untagged
    exact SpeakerTag.ofLabel_of_untagged untagged
  · intro tag proper
    exact SpeakerTag.ofLabel_label proper
  · intro label other tag otherTag differ same
    apply differ
    rw [← (SpeakerTag.ofLabel_of_tagged tag).2, same, (SpeakerTag.ofLabel_of_tagged otherTag).2]
  · intro text entries written
    exact ofText?_of_entries written
  · intro label
    exact Speaker.isNarration_iff_bytes
  · exact table.render_eq_narration_iff
  · intro label speaks tag
    constructor
    · intro plain
      rw [render_tagged table speaks, plain, String.append_assoc]
    · intro outfit worn
      rw [render_tagged table speaks, worn]
      simp only [String.append_assoc, tag]
  · intro label
    rw [render_untagged, String.append_assoc]

/-- The outfit keeps its separator, and the empty name can be shown as another. -/
example : (⟨[("", "Nobody"), ("私服", "Dress")]⟩ : NameTable).render (.tagged "：私服：") =
    "= Nobody (私服：) =" := by decide

end NameTable
end Scenario
