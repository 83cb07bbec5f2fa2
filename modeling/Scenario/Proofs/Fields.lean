import Scenario.Proofs.Binding

/-! # Fields of operations

The tables of operations agree with the registry: an operation has the
parameters of its opcode's signature as its fields, in the order in which values
are bound, and is written under the name of its opcode's handler.
-/

namespace Scenario

namespace Operation

theorem ofArgs_congr {opcode : Opcode} {first second : Nat → Arg}
    (agree : ∀ place < opcode.params.length, first place = second place) :
    ofArgs opcode first = ofArgs opcode second := by
  -- the fields are taken from the places of the parameters only
  refine eq_of_fields ?_ ?_
  · rw [ofArgs_opcode, ofArgs_opcode]
  · rw [ofArgs_fields, ofArgs_fields]
    congr 1
    exact List.map_congr_left fun place inside => agree place (List.mem_range.mp inside)

/-- The written form of an operation lists its name, then each value under its parameter's name. -/
theorem exists_written {operation : Operation} {values : List Arg}
    (full : values.length = operation.opcode.params.length)
    (fields : operation.fields = (operation.opcode.params.map Param.name).zip values) :
    ∃ entries : Json.Fields, operation.toJson = .object entries ∧
      entries.map Prod.fst = "op" :: operation.opcode.params.map Param.name ∧
      ("op", .string operation.opcode.handler) ∈ entries ∧
      ∀ (place : Nat) (param : Param) (value : Arg), operation.opcode.params[place]? = some param →
        values[place]? = some value → (param.name, value.toJson) ∈ entries := by
  have written : operation.toJson =
      .object (("op", .string operation.opcode.handler) ::
        (operation.opcode.params.map Param.name).zip (values.map Arg.toJson)) := by
    rw [toJson, tag_eq_handler, fields, List.zip_map_right]
    rfl
  refine ⟨_, written, ?_, List.mem_cons_self, ?_⟩
  · rw [List.map_cons, List.map_fst_zip (by simp [full])]
  · intro place param value declared held
    refine List.mem_cons_of_mem _ (List.mem_of_getElem? (i := place) ?_)
    exact List.getElem?_zip_eq_some.mpr ⟨by simp [declared], by simp [held]⟩

end Operation

namespace Opcode

/-- No parameter has the name under which operations are told apart. -/
theorem keys_nodup (opcode : Opcode) : ("op" :: opcode.params.map Param.name).Nodup := by
  cases opcode <;> decide

theorem values_of_ofBinding_eq {opcode : Opcode} {args others : List Json} {binding other : Binding}
    (bound : opcode.bind args = .ok binding) (otherBound : opcode.bind others = .ok other)
    (same : Operation.ofBinding other = Operation.ofBinding binding) :
    other.values = binding.values := by
  obtain ⟨rfl, full⟩ := bind_full bound
  obtain ⟨sameOpcode, otherFull⟩ := bind_full otherBound
  have fields := (Operation.ofBinding_fields binding full).2
  have otherFields := (Operation.ofBinding_fields other (by rw [sameOpcode, otherFull])).2
  rw [same, fields, sameOpcode] at otherFields
  have values := congrArg (List.map Prod.snd) otherFields
  rwa [List.map_snd_zip (by simp [full]), List.map_snd_zip (by simp [otherFull]), eq_comm] at values

/-- Operations agree with the registry. The written form of a bound operation has exactly `op` and
    the names of the opcode's parameters as its keys, each once: under `op` is the handler's name,
    and under each parameter's name the value bound in its place. The operation is one of the
    opcode it was bound for, nothing is filled in for a missing value, whatever the filler were,
    and other values make another operation. -/
theorem bind_operation {opcode : Opcode} {args : List Json} {binding : Binding}
    (bound : opcode.bind args = .ok binding) :
    let operation := Operation.ofBinding binding
    (∃ fields : Json.Fields, operation.toJson = .object fields ∧
        fields.map Prod.fst = "op" :: opcode.params.map Param.name ∧ (fields.map Prod.fst).Nodup ∧
        fields.get? "op" = some (.string opcode.handler) ∧
        binding.values.length = opcode.params.length ∧
        ∀ (place : Nat) (param : Param) (value : Arg), opcode.params[place]? = some param →
          binding.values[place]? = some value → fields.get? param.name = some value.toJson) ∧
      operation.opcode = opcode ∧
      (∀ filler : Nat → Arg,
        operation = .ofArgs opcode fun place => binding.values.getD place (filler place)) ∧
      ∀ (others : List Json) (other : Binding), opcode.bind others = .ok other →
        other.values ≠ binding.values →
        Operation.ofBinding other ≠ operation := by
  intro operation
  obtain ⟨rfl, full⟩ := bind_full bound
  obtain ⟨sameOpcode, fields⟩ := Operation.ofBinding_fields binding full
  obtain ⟨entries, written, keys, name, values⟩ :=
    Operation.exists_written (by rw [sameOpcode, full]) (by rw [fields, sameOpcode])
  rw [sameOpcode] at keys name values
  have distinct : (entries.map Prod.fst).Nodup := keys ▸ binding.opcode.keys_nodup
  refine ⟨⟨entries, written, keys, distinct, Json.Fields.get?_of_mem distinct name, full, ?_⟩,
    sameOpcode, ?_, ?_⟩
  · intro place param value declared held
    exact Json.Fields.get?_of_mem distinct (values place param value declared held)
  · intro filler
    refine Operation.ofArgs_congr fun place inside => ?_
    rw [← full] at inside
    simp [inside]
  · intro others other otherBound differ same
    exact differ (values_of_ofBinding_eq bound otherBound same)

/-- A zoom of which the last value is a default, and the one before it was kept as it is. -/
theorem bind_zoom_operation :
    ∃ binding, Opcode.zoom.bind [.string "1.5", .null, .string "left"] = .ok binding ∧
      ∃ fields : Json.Fields, (Operation.ofBinding binding).toJson = .object fields ∧
        fields.map Prod.fst = ["op", "zoom", "position", "x", "y"] ∧
        fields.get? "op" = some (.string "zoom") ∧ fields.get? "position" = some .null ∧
        fields.get? "x" = some (.string "left") ∧
        fields.get? "y" = some (.number (.whole 0 (by decide))) := by
  have bound : Opcode.zoom.bind [.string "1.5", .null, .string "left"] = .ok _ := rfl
  refine ⟨_, bound, ?_⟩
  obtain ⟨⟨fields, written, keys, -, op, -, held⟩, -⟩ := bind_operation bound
  exact ⟨fields, written, keys, op, held 1 _ _ rfl rfl, held 2 _ _ rfl rfl, held 3 _ _ rfl rfl⟩

end Opcode
end Scenario
