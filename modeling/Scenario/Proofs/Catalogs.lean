import Mathlib.Data.List.Sort
import Mathlib.Data.String.Basic
import Scenario.Assets
import Scenario.Proofs.Binding
import Scenario.Proofs.ByteOrder
import Scenario.Proofs.Trace

/-! # Catalogues

A catalogue is the set of the assets that commands refer to. How the commands
are split into scripts, in what order the scripts are taken and how often one of
them is makes no difference, for names are kept once and in order.
-/

namespace Scenario

namespace NameSet

theorem insert_ascending {name : String} {names : NameSet} (ascending : names.Pairwise (· < ·)) :
    (insert name names).Pairwise (· < ·) := by
  induction names with
  | nil => exact List.pairwise_singleton _ name
  | cons other rest ih =>
      obtain ⟨first, later⟩ := List.pairwise_cons.mp ascending
      unfold insert
      split_ifs with same before
      · exact ascending
      · apply List.pairwise_cons.mpr
        refine ⟨fun held member => ?_, ascending⟩
        rcases List.mem_cons.mp member with rfl | behind
        · exact before
        · exact before.trans (first held behind)
      · apply List.pairwise_cons.mpr
        refine ⟨fun held member => ?_, ih later⟩
        rcases mem_insert.mp member with rfl | behind
        · exact lt_of_le_of_ne (not_lt.mp before) (Ne.symm same)
        · exact first held behind

theorem union_ascending {names added : NameSet} (ascending : names.Pairwise (· < ·)) :
    (union names added).Pairwise (· < ·) := by
  unfold union
  induction added generalizing names with
  | nil => exact ascending
  | cons first rest ih => exact ih (insert_ascending ascending)

end NameSet

namespace AssetKind

/-- The kinds in the order of their sections. -/
def all : List AssetKind :=
  [.outfit, .background, .music, .soundEffect, .shader]

def title : AssetKind → String
  | .outfit => "Outfits"
  | .background => "Backgrounds"
  | .music => "Music"
  | .soundEffect => "Sound Effects"
  | .shader => "Shaders"

/-- The names of the commands that refer to assets of a kind. -/
def commands : AssetKind → List String
  | .outfit => ["charaload"]
  | .background => ["背景"]
  | .music => ["bgm2", "bgm"]
  | .soundEffect => ["se2"]
  | .shader => ["shader"]

end AssetKind

namespace Operation

/-- The operation refers to an asset by one of its arguments. -/
inductive Refers : Operation → AssetKind → Arg → Prop where
  | charaLoad {chara : Arg} : Refers (.charaLoad chara) .outfit chara
  | background {filename : Arg} : Refers (.background filename) .background filename
  | bgm {filename time : Arg} : Refers (.bgm filename time) .music filename
  | se2 {filename t : Arg} : Refers (.se2 filename t) .soundEffect filename
  | shader {filename a : Arg} : Refers (.shader filename a) .shader filename

theorem asset?_eq_some_iff {operation : Operation} {kind : AssetKind} {arg : Arg} :
    operation.asset? = some (kind, arg) ↔ operation.Refers kind arg := by
  constructor
  · intro found
    cases operation <;> cases found <;> constructor
  · intro refers
    cases refers <;> rfl

/-- The operation refers to an asset of this name; null names nothing. -/
def Names (operation : Operation) (kind : AssetKind) (name : String) : Prop :=
  ∃ arg, operation.Refers kind arg ∧ arg.isNull = false ∧ arg.text = name

theorem names_iff {operation : Operation} {kind : AssetKind} {name : String} :
    operation.Names kind name ↔
      ∃ arg, operation.asset? = some (kind, arg) ∧ arg.isNull = false ∧ arg.text = name := by
  simp only [Names, asset?_eq_some_iff]

end Operation

namespace Command

/-- The command is dispatched to an operation that refers to an asset of this name. -/
def Names (command : Command) (kind : AssetKind) (name : String) : Prop :=
  ∃ operation fallbacks,
    (Discovery.empty.classify command).1 = .ok (.operation operation fallbacks) ∧
      operation.Names kind name

/-- Only the commands of a kind name its assets, and none that speaks a line. -/
theorem Names.opcode_mem {command : Command} {kind : AssetKind} {name : String}
    (names : command.Names kind name) :
    command.opcode ∈ kind.commands ∧ '：' ∉ command.opcode.toList := by
  obtain ⟨operation, fallbacks, dispatched, arg, refers, -⟩ := names
  obtain ⟨untagged, opcode, binding, registered, bound, made, -⟩ :=
    settled?_operation (Discovery.classify_operation_iff.mp dispatched)
  refine ⟨?_, untagged⟩
  have isOpcode : operation.opcode = opcode := by
    rw [made, Operation.ofBinding, Operation.ofArgs_opcode, (Opcode.bind_full bound).1]
  have listed := Opcode.lookup?_eq_some_iff.mp registered
  rw [← isOpcode] at listed
  cases refers <;> simpa [Opcode.names, Operation.opcode, AssetKind.commands] using listed

end Command

namespace Catalog

/-- The section of a kind. -/
def names (catalog : Catalog) : AssetKind → NameSet
  | .outfit => catalog.outfits
  | .background => catalog.backgrounds
  | .music => catalog.music
  | .soundEffect => catalog.soundEffects
  | .shader => catalog.shaders

@[simp] theorem names_empty (kind : AssetKind) : empty.names kind = [] := by
  cases kind <;> rfl

@[simp] theorem names_add (catalog : Catalog) (kind other : AssetKind) (name : String) :
    (catalog.add kind name).names other =
      if other = kind then NameSet.insert name (catalog.names other) else catalog.names other := by
  cases kind <;> cases other <;> rfl

@[simp] theorem names_merge (catalog other : Catalog) (kind : AssetKind) :
    (catalog.merge other).names kind = NameSet.union (catalog.names kind) (other.names kind) := by
  cases kind <;> rfl

/-- The catalogue is the set of these names, each section in strictly ascending order. -/
structure Holds (catalog : Catalog) (found : AssetKind → String → Prop) : Prop where
  ascending : ∀ kind, (catalog.names kind).Pairwise (· < ·)
  exact : ∀ kind name, name ∈ catalog.names kind ↔ found kind name

theorem Holds.congr {catalog : Catalog} {found other : AssetKind → String → Prop}
    (holds : catalog.Holds found) (same : ∀ kind name, found kind name ↔ other kind name) :
    catalog.Holds other :=
  ⟨holds.ascending, fun kind name => (holds.exact kind name).trans (same kind name)⟩

/-- A set of names is one catalogue only. -/
theorem Holds.eq {catalog other : Catalog} {found : AssetKind → String → Prop}
    (holds : catalog.Holds found) (otherHolds : other.Holds found) : catalog = other := by
  have sections (kind : AssetKind) : catalog.names kind = other.names kind := by
    apply (holds.ascending kind).eq_of_mem_iff (otherHolds.ascending kind)
    intro name
    rw [holds.exact, otherHolds.exact]
  obtain ⟨outfits, backgrounds, music, soundEffects, shaders⟩ := catalog
  obtain rfl : outfits = _ := sections .outfit
  obtain rfl : backgrounds = _ := sections .background
  obtain rfl : music = _ := sections .music
  obtain rfl : soundEffects = _ := sections .soundEffect
  obtain rfl : shaders = _ := sections .shader
  rfl

theorem holds_empty : empty.Holds fun _ _ => False := by
  constructor
  · intro kind
    rw [names_empty]
    exact .nil
  · simp

theorem Holds.add {catalog : Catalog} {found : AssetKind → String → Prop}
    (holds : catalog.Holds found) (kind : AssetKind) (name : String) :
    (catalog.add kind name).Holds fun other held =>
      found other held ∨ kind = other ∧ name = held := by
  constructor
  · intro other
    rw [names_add]
    split
    · exact NameSet.insert_ascending (holds.ascending other)
    · exact holds.ascending other
  · intro other held
    rw [names_add]
    split
    · next same =>
        rw [NameSet.mem_insert, holds.exact, or_comm]
        simp only [same, true_and, eq_comm]
    · next different =>
        rw [holds.exact]
        simp only [Ne.symm different, false_and, or_false]

theorem Holds.merge {catalog : Catalog} {found : AssetKind → String → Prop}
    (holds : catalog.Holds found) (other : Catalog) :
    (catalog.merge other).Holds fun kind name => found kind name ∨ name ∈ other.names kind := by
  constructor
  · intro kind
    rw [names_merge]
    exact NameSet.union_ascending (holds.ascending kind)
  · intro kind name
    rw [names_merge, NameSet.mem_union, holds.exact]

theorem Holds.foldl_merge {catalog : Catalog} {found : AssetKind → String → Prop}
    (holds : catalog.Holds found) (catalogs : List Catalog) :
    (catalogs.foldl Catalog.merge catalog).Holds fun kind name =>
      found kind name ∨ ∃ other ∈ catalogs, name ∈ other.names kind := by
  induction catalogs generalizing catalog found with
  | nil => exact holds.congr fun kind name => by simp
  | cons first rest ih => exact (ih (holds.merge first)).congr fun kind name => by simp [or_assoc]

/-- Catalogues merged into one. -/
def merged (catalogs : List Catalog) : Catalog :=
  catalogs.foldl merge empty

/-- The names in any of the catalogues, in whatever order they are merged. -/
theorem merged_holds (catalogs : List Catalog) :
    (merged catalogs).Holds fun kind name => ∃ other ∈ catalogs, name ∈ other.names kind :=
  (holds_empty.foldl_merge catalogs).congr fun kind name => by simp

/-! ## Collecting -/

theorem Holds.operation {catalog : Catalog} {found : AssetKind → String → Prop}
    (holds : catalog.Holds found) (command : Command) (operation : Operation) :
    (collector.operation catalog command operation).Holds fun kind name =>
      found kind name ∨ operation.Names kind name := by
  cases referred : operation.asset? with
  | none =>
      have same : collector.operation catalog command operation = catalog := by
        simp [collector, referred]
      rw [same]
      exact holds.congr fun kind name => by simp [Operation.names_iff, referred]
  | some asset =>
      obtain ⟨kind, arg⟩ := asset
      have same : collector.operation catalog command operation = catalog.remember kind arg := by
        simp [collector, referred]
      rw [same, remember]
      split
      · next isNull =>
          exact holds.congr fun other name => by
            simp +contextual [Operation.names_iff, referred, isNull]
      · next notNull =>
          exact (holds.add kind arg.text).congr fun other name => by
            simp [Operation.names_iff, referred, notNull]

theorem Holds.step {catalog : Catalog} {found : AssetKind → String → Prop}
    (holds : catalog.Holds found) (event : Event) :
    (collector.step catalog event).Holds fun kind name =>
      found kind name ∨ ∃ operation ∈ event.operation?, operation.Names kind name := by
  obtain ⟨command, outcome⟩ := event
  rcases outcome with error | (line | ⟨operation, fallbacks⟩ | report | -)
  case ok.operation =>
    exact (holds.operation command operation).congr fun kind name => by simp [Event.operation?]
  all_goals exact holds.congr fun kind name => by simp [Event.operation?]

/-- What is collected in a run is what its operations name. -/
theorem Holds.watch {catalog : Catalog} {found : AssetKind → String → Prop}
    (holds : catalog.Holds found) (events : List Event) :
    (collector.watch catalog events).Holds fun kind name =>
      found kind name ∨
        ∃ event ∈ events, ∃ operation ∈ event.operation?, operation.Names kind name := by
  induction events generalizing catalog found with
  | nil => exact holds.congr fun kind name => by simp
  | cons event rest ih => exact (ih (holds.step event)).congr fun kind name => by simp [or_assoc]

end Catalog

namespace Event

theorem operation?_eq_some_iff {event : Event} {operation : Operation} :
    event.operation? = some operation ↔
      ∃ fallbacks, event.outcome = .ok (.operation operation fallbacks) := by
  obtain ⟨command, outcome⟩ := event
  rcases outcome with error | (line | ⟨other, fallbacks⟩ | report | -) <;> simp [operation?]

end Event

namespace Discovery

/-- The names in a trace are those of its commands, each by itself. -/
theorem trace_names_iff {discovery : Discovery} {commands : List Command} {kind : AssetKind}
    {name : String} :
    (∃ event ∈ discovery.trace commands, ∃ operation ∈ event.operation?,
        operation.Names kind name) ↔
      ∃ command ∈ commands, command.Names kind name := by
  induction commands generalizing discovery with
  | nil => simp
  | cons command rest ih =>
      have first : (∃ operation ∈ Event.operation? ⟨command, (discovery.classify command).1⟩,
          operation.Names kind name) ↔ command.Names kind name := by
        simp only [Command.Names, Option.mem_def, Event.operation?_eq_some_iff,
          classify_operation_iff, exists_and_right]
      rw [trace_cons]
      simp only [List.mem_cons, exists_eq_or_imp, ih, first]

end Discovery

namespace Catalog

/-- The catalogue of one handler that is fed commands. -/
def collected (commands : List Command) : Catalog :=
  ((Processor.start empty).feed collector commands).state

theorem collected_holds (commands : List Command) :
    (collected commands).Holds fun kind name => ∃ command ∈ commands, command.Names kind name := by
  have state : collected commands = collector.watch empty (Discovery.empty.trace commands) := by
    rw [collected, Processor.feed_start, ← Run.start_feed_events]
    rfl
  rw [state]
  refine (holds_empty.watch _).congr fun kind name => ?_
  rw [false_or]
  exact Discovery.trace_names_iff

theorem collected_flatMap (scripts : List Script) :
    (collected (scripts.flatMap Script.commands)).Holds fun kind name =>
      ∃ script ∈ scripts, ∃ command ∈ script.commands, command.Names kind name := by
  refine (collected_holds _).congr fun kind name => ?_
  constructor
  · rintro ⟨command, member, names⟩
    obtain ⟨script, taken, inScript⟩ := List.mem_flatMap.mp member
    exact ⟨script, taken, command, inScript, names⟩
  · rintro ⟨script, taken, command, inScript, names⟩
    exact ⟨command, List.mem_flatMap.mpr ⟨script, taken, inScript⟩, names⟩

/-- The catalogue is the set of references, however the work is split. Scripts that are run each
    into a catalogue of its own, in any order and any of them more than once, and then merged, give
    what one handler collects from all their commands. That is, in the section of a kind, the names
    which some command refers to by an operation of that kind; a command that is no operation might
    as well not be there. Written out, each section has its title and its names, every name once
    and in ascending order of its bytes. -/
theorem merged_eq_collected (scripts : List Script) :
    let catalog := collected (scripts.flatMap Script.commands)
    (∀ order : List Script, (∀ script, script ∈ order ↔ script ∈ scripts) →
        merged (order.map fun script => (script.runFor collector empty).state) = catalog) ∧
      (∀ kind name, name ∈ catalog.names kind ↔
        ∃ script ∈ scripts, ∃ command ∈ script.commands, command.Names kind name) ∧
      (∀ (command : Command) kind name, command.Names kind name →
        command.opcode ∈ kind.commands ∧ '：' ∉ command.opcode.toList) ∧
      (∀ before command later, (∀ operation fallbacks,
          (Discovery.empty.classify command).1 ≠ .ok (.operation operation fallbacks)) →
        collected (before ++ command :: later) = collected (before ++ later)) ∧
      catalog.text = "\n".intercalate (AssetKind.all.map fun kind =>
        kind.title ++ ":\n" ++ String.join ((catalog.names kind).map (· ++ "\n"))) ∧
      ∀ kind, (catalog.names kind).Nodup ∧
        (catalog.names kind).Pairwise fun name later => Text.bytes name < Text.bytes later := by
  intro catalog
  have holds := collected_flatMap scripts
  refine ⟨?_, holds.exact, fun _ _ _ names => names.opcode_mem, ?_, rfl, fun kind => ⟨?_, ?_⟩⟩
  · intro order same
    refine (merged_holds _).congr (fun kind name => ?_) |>.eq holds
    have own (script : Script) : name ∈ (script.runFor collector empty).state.names kind ↔
        ∃ command ∈ script.commands, command.Names kind name :=
      (collected_holds script.commands).exact kind name
    simp only [List.mem_map, exists_exists_and_eq_and, own, same]
  · intro before command later noOperation
    refine (collected_holds _).congr (fun kind name => ?_) |>.eq (collected_holds (before ++ later))
    have unnamed : ¬ command.Names kind name := by
      rintro ⟨operation, fallbacks, dispatched, -⟩
      exact noOperation operation fallbacks dispatched
    simp only [List.mem_append, List.mem_cons, or_and_right, exists_or, exists_eq_left, unnamed,
      false_or]
  · exact (holds.ascending kind).imp ne_of_lt
  · exact (holds.ascending kind).imp Text.bytes_lt_bytes

-- Null names nothing, and neither does a line that is spoken or a name that is unknown.
example :
    let command (opcode : String) (arg : Json) : Command :=
      ⟨0, opcode, .primary, fun slot => if slot.val = 0 then some arg else none, []⟩
    (collected [command "bgm" (.string "theme"), command "bgm2" (.ofNat 2), command "bgm" .null,
      command "shader" (.array [.bool true]), command "背景：" (.string "sea"),
      command "foo" (.string "bar"), command "bgm" (.string "theme")]).text =
      "Outfits:\n\nBackgrounds:\n\nMusic:\n2\ntheme\n\nSound Effects:\n\nShaders:\n[true]\n" := by
  decide +kernel

end Catalog
end Scenario
