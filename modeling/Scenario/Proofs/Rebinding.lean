import Scenario.Proofs.Fields
import Scenario.Proofs.Truncation

/-! # Binding written values again

The values of a binding, as they are written, bind to themselves again: numbers
convert to what they are, values that did not convert still do not, and defaults
have become arguments of the kind their parameters ask for. An infinity or a NaN
is lost, since it is written as null.
-/

namespace Scenario

/-- The value is an infinity or no number at all. -/
def Arg.NonFinite : Arg → Prop
  | .float x => x.finite? = none
  | _ => False

theorem Word.toWord?_toJson (word : Word) : word.toJson.toWord? = some word :=
  (Json.Number.toWord?_whole _).trans (Word.ofInt?_eq_some_iff.mpr rfl)

namespace Kind

theorem hold_eq (kind : Kind) (value : Json) :
    kind.hold value = (kind.coerce? value).getD (.raw value) := by
  cases kind <;> rfl

theorem keeps_iff {kind : Kind} {value : Json} : kind.Keeps value ↔ kind.coerce? value = none := by
  cases kind <;> simp [Keeps, coerce?]

theorem hold_of_converts {kind : Kind} {value : Json} {arg : Arg}
    (converts : kind.coerce? value = some arg) : kind.hold value = arg := by
  rw [hold_eq, converts, Option.getD_some]

theorem not_keeps_of_converts {kind : Kind} {value : Json} {arg : Arg}
    (converts : kind.coerce? value = some arg) : ¬ kind.Keeps value := by
  rw [keeps_iff, converts]
  exact nofun

/-- A number as it is written converts to itself. -/
theorem coerce?_toJson {kind : Kind} {value : Json} {arg : Arg}
    (converted : kind.coerce? value = some arg) (finite : ¬ arg.NonFinite) :
    kind.coerce? arg.toJson = some arg := by
  cases kind with
  | any =>
      cases converted
      rfl
  | int =>
      obtain ⟨word, -, rfl⟩ := coerce?_int_eq_some_iff.mp converted
      exact coerce?_int_eq_some_iff.mpr ⟨word, word.toWord?_toJson, rfl⟩
  | float =>
      obtain ⟨x, -, rfl⟩ := Option.map_eq_some_iff.mp converted
      cases x with
      | finite x => rfl
      | nan => exact absurd rfl finite
      | infinity negative => exact absurd rfl finite

/-- Only a text converts to an infinity or to a NaN. -/
theorem eq_string_of_nonFinite {kind : Kind} {value : Json} {arg : Arg}
    (converted : kind.coerce? value = some arg) (nonFinite : arg.NonFinite) :
    kind = .float ∧ ∃ text, value = .string text := by
  cases kind with
  | any =>
      cases converted
      cases nonFinite
  | int =>
      obtain ⟨word, -, rfl⟩ := coerce?_int_eq_some_iff.mp converted
      cases nonFinite
  | float =>
      obtain ⟨x, double, rfl⟩ := Option.map_eq_some_iff.mp converted
      cases value with
      | string text => exact ⟨rfl, text, rfl⟩
      | number n =>
          obtain ⟨y, finite⟩ := n.exists_toDouble
          cases (congrArg some finite).symm.trans double
          cases nonFinite
      | bool flag =>
          cases flag <;> cases double <;> cases nonFinite
      | null | array | object => cases double

end Kind

/-- The kind of parameter that the value suits. -/
def Default.kind : Default → Kind
  | .int _ => .int
  | .null => .any

theorem Default.coerce?_toJson (default : Default) :
    default.kind.coerce? default.toArg.toJson = some default.toArg := by
  cases default with
  | int word => exact Kind.coerce?_int_eq_some_iff.mpr ⟨word, word.toWord?_toJson, rfl⟩
  | null => rfl

theorem Opcode.params_default_kind (opcode : Opcode) :
    ∀ param ∈ opcode.params, ∀ default ∈ param.default, default.kind = param.kind := by
  cases opcode <;> decide

namespace Param

theorem place_eq_of_name_eq {params : List Param} (distinct : (params.map Param.name).Nodup)
    {place other : Nat} {param found : Param} (declared : params[place]? = some param)
    (otherDeclared : params[other]? = some found) (sameName : found.name = param.name) :
    other = place := by
  have bound : other < (params.map Param.name).length := by
    simpa using (List.getElem?_eq_some_iff.mp otherDeclared).1
  apply (List.getElem?_inj bound distinct).mp
  rw [List.getElem?_map, List.getElem?_map, declared, otherDeclared, Option.map_some,
    Option.map_some, sameName]

/-- A parameter is among the fallbacks if it keeps the argument in its own place. -/
theorem mem_kept_iff {opcode : Opcode} {params : List Param} {args : List Json}
    (distinct : (params.map Param.name).Nodup) {place : Nat} {param : Param}
    (declared : params[place]? = some param) {value : Json} :
    ⟨opcode, param.name, param.kind, value⟩ ∈ kept opcode params args ↔
      args[place]? = some value ∧ param.kind.Keeps value := by
  rw [kept, List.mem_filterMap]
  constructor
  · rintro ⟨⟨found, arg⟩, paired, fallback⟩
    obtain ⟨other, paired⟩ := List.mem_iff_getElem?.mp paired
    obtain ⟨otherDeclared, supplied⟩ := List.getElem?_zip_eq_some.mp paired
    obtain ⟨keeps, same⟩ := Option.ite_none_right_eq_some.mp fallback
    simp only [Option.some.injEq, Fallback.mk.injEq, true_and] at same
    obtain ⟨sameName, sameKind, rfl⟩ := same
    obtain rfl := place_eq_of_name_eq distinct declared otherDeclared sameName
    exact ⟨supplied, sameKind ▸ keeps⟩
  · rintro ⟨supplied, keeps⟩
    refine ⟨(param, value), ?_, if_pos keeps⟩
    exact List.mem_of_getElem? (List.getElem?_zip_eq_some.mpr ⟨declared, supplied⟩)

theorem kept_cons (opcode : Opcode) (param : Param) (params : List Param) (args : List Json) :
    kept opcode (param :: params) args =
      ((args.head?.filter fun value => param.kind.Keeps value).map fun value =>
        ⟨opcode, param.name, param.kind, value⟩).toList ++ kept opcode params args.tail := by
  cases args with
  | nil => simp [kept]
  | cons value args => by_cases keeps : param.kind.Keeps value <;> simp [kept, Option.filter, keeps]

/-- Fallbacks depend on the arguments that parameters keep, and on no others. -/
theorem kept_congr {opcode : Opcode} {params : List Param} {args others : List Json}
    (same : ∀ (place : Nat) (param : Param), params[place]? = some param → ∀ value,
      others[place]? = some value ∧ param.kind.Keeps value ↔
        args[place]? = some value ∧ param.kind.Keeps value) :
    kept opcode params others = kept opcode params args := by
  induction params generalizing args others with
  | nil => rfl
  | cons param rest ih =>
      -- the first place decides the first fallback, the later places those after it
      have first : (others.head?.filter fun value => param.kind.Keeps value) =
          args.head?.filter fun value => param.kind.Keeps value := by
        apply Option.ext
        intro value
        simpa [Option.filter_eq_some_iff, List.head?_eq_getElem?] using same 0 param rfl value
      rw [kept_cons, kept_cons, first, ih]
      intro place param declared value
      rw [List.getElem?_tail, List.getElem?_tail]
      exact same (place + 1) param declared value

end Param

/-- How a parameter comes by its value, from an argument or without one. -/
inductive Param.Takes (param : Param) : Option Json → Arg → Prop where
  | kept {arg : Json} (fails : param.kind.coerce? arg = none) : Takes param (some arg) (.raw arg)
  | converted {arg : Json} {value : Arg} (converts : param.kind.coerce? arg = some value) :
      Takes param (some arg) value
  | default {default : Default} (given : param.default = some default) :
      Takes param none default.toArg

theorem Opcode.takes_of_bind {opcode : Opcode} {args : List Json} {binding : Binding}
    (bound : opcode.bind args = .ok binding) {place : Nat} {param : Param} {value : Arg}
    (declared : opcode.params[place]? = some param) (held : binding.values[place]? = some value) :
    param.Takes args[place]? value := by
  obtain ⟨enough, fits, rfl⟩ := Opcode.bind_eq_ok_iff.mp bound
  obtain ⟨given, defaults⟩ := Param.held_getElem? fits (Opcode.default_of_fits enough) declared
  cases supplied : args[place]? with
  | some arg =>
      obtain rfl := Option.some.inj (held.symm.trans (given arg supplied))
      rw [Kind.hold_eq]
      cases converts : param.kind.coerce? arg with
      | none => exact .kept converts
      | some value => exact .converted converts
  | none =>
      rw [defaults (List.getElem?_eq_none_iff.mp supplied)] at held
      obtain ⟨default, given, rfl⟩ := Option.map_eq_some_iff.mp held
      exact .default given

namespace Param.Takes

variable {param : Param} {arg? : Option Json} {value : Arg}

/-- A finite value is held again as it is written, and is kept if it was kept before. -/
theorem rebound (takes : param.Takes arg? value)
    (suits : ∀ default ∈ param.default, default.kind = param.kind) (finite : ¬ value.NonFinite) :
    param.kind.hold value.toJson = value ∧
      ∀ kept, value.toJson = kept ∧ param.kind.Keeps kept ↔
        arg? = some kept ∧ param.kind.Keeps kept := by
  cases takes with
  | kept fails =>
      refine ⟨?_, fun kept => ?_⟩
      · rw [Arg.toJson, Kind.hold_eq, fails, Option.getD_none]
      · rw [Arg.toJson, Option.some.injEq]
  | converted converts =>
      have again := Kind.coerce?_toJson converts finite
      refine ⟨Kind.hold_of_converts again, fun kept => ?_⟩
      constructor
      · rintro ⟨rfl, keeps⟩
        exact absurd keeps (Kind.not_keeps_of_converts again)
      · rintro ⟨⟨⟩, keeps⟩
        exact absurd keeps (Kind.not_keeps_of_converts converts)
  | @default default given =>
      have again := suits default given ▸ default.coerce?_toJson
      refine ⟨Kind.hold_of_converts again, fun kept => ?_⟩
      constructor
      · rintro ⟨rfl, keeps⟩
        exact absurd keeps (Kind.not_keeps_of_converts again)
      · rintro ⟨⟨⟩, -⟩

/-- An infinity or a NaN came from a text, and is null as it is written. -/
theorem of_nonFinite (takes : param.Takes arg? value) (nonFinite : value.NonFinite) :
    value.toJson = .null ∧ param.kind = .float ∧ ∃ text, arg? = some (.string text) := by
  cases takes with
  | kept => cases nonFinite
  | @default default given =>
      cases default with
      | int | null => cases nonFinite
  | converted converts =>
      obtain ⟨float, text, rfl⟩ := Kind.eq_string_of_nonFinite converts nonFinite
      refine ⟨?_, float, text, rfl⟩
      cases value with
      | int | raw => cases nonFinite
      | float x =>
          cases x with
          | finite => cases nonFinite
          | nan | infinity => rfl

end Param.Takes

namespace Opcode

variable {opcode : Opcode} {args : List Json} {binding : Binding}

theorem mem_fallbacks_iff (bound : opcode.bind args = .ok binding) {place : Nat} {param : Param}
    (declared : opcode.params[place]? = some param) {kept : Json} :
    (⟨opcode, param.name, param.kind, kept⟩ : Fallback) ∈ binding.fallbacks ↔
      args[place]? = some kept ∧ param.kind.Keeps kept := by
  obtain ⟨-, -, rfl⟩ := bind_eq_ok_iff.mp bound
  exact Param.mem_kept_iff opcode.params_names_nodup declared

theorem values_of_bind (bound : opcode.bind args = .ok binding) {place : Nat} {param : Param}
    {arg : Json} (declared : opcode.params[place]? = some param)
    (supplied : args[place]? = some arg) :
    binding.values[place]? = some (param.kind.hold arg) := by
  obtain ⟨enough, fits, rfl⟩ := bind_eq_ok_iff.mp bound
  exact (Param.held_getElem? fits (default_of_fits enough) declared).1 arg supplied

theorem exists_bind (complete : args.length = opcode.params.length) :
    ∃ binding, opcode.bind args = .ok binding := by
  have enough : opcode.requiredCount ≤ args.length := complete ▸ List.countP_le_length
  exact ⟨_, bind_eq_ok_iff.mpr ⟨enough, complete.le, rfl⟩⟩

theorem exists_param (bound : opcode.bind args = .ok binding) {place : Nat} {value : Arg}
    (held : binding.values[place]? = some value) :
    ∃ param, opcode.params[place]? = some param := by
  have inside := (List.getElem?_eq_some_iff.mp held).1
  rw [(bind_full bound).2] at inside
  exact ⟨_, List.getElem?_eq_getElem inside⟩

section Again

variable {again : Binding} {place : Nat} {param : Param} {value : Arg}

theorem written_getElem? (held : binding.values[place]? = some value) :
    (binding.values.map Arg.toJson)[place]? = some value.toJson := by
  rw [List.getElem?_map, held, Option.map_some]

theorem rebound_finite (bound : opcode.bind args = .ok binding)
    (boundAgain : opcode.bind (binding.values.map Arg.toJson) = .ok again)
    (declared : opcode.params[place]? = some param) (held : binding.values[place]? = some value)
    (finite : ¬ value.NonFinite) :
    again.values[place]? = some value ∧
      ∀ kept, (binding.values.map Arg.toJson)[place]? = some kept ∧ param.kind.Keeps kept ↔
        args[place]? = some kept ∧ param.kind.Keeps kept := by
  have suits := opcode.params_default_kind param (List.mem_of_getElem? declared)
  obtain ⟨same, keeps⟩ := (takes_of_bind bound declared held).rebound suits finite
  have written := written_getElem? held
  rw [values_of_bind boundAgain declared written, same, written]
  refine ⟨rfl, fun kept => ?_⟩
  rw [Option.some.injEq, keeps]

theorem rebound_nonFinite (bound : opcode.bind args = .ok binding)
    (boundAgain : opcode.bind (binding.values.map Arg.toJson) = .ok again)
    (declared : opcode.params[place]? = some param) (held : binding.values[place]? = some value)
    (nonFinite : value.NonFinite) :
    value.toJson = .null ∧ again.values[place]? = some (.raw .null) ∧
      (∀ kept, (binding.values.map Arg.toJson)[place]? = some kept ∧ param.kind.Keeps kept ↔
        kept = .null) ∧
      ∃ text, args[place]? = some (.string text) := by
  obtain ⟨null, float, text⟩ := (takes_of_bind bound declared held).of_nonFinite nonFinite
  have written := written_getElem? held
  rw [values_of_bind boundAgain declared written, written, null, float]
  refine ⟨rfl, rfl, fun kept => ?_, text⟩
  constructor
  · rintro ⟨⟨⟩, -⟩
    rfl
  · rintro rfl
    exact ⟨rfl, .inr ⟨rfl, rfl⟩⟩

/-- Where all values are finite, nothing changes. -/
theorem rebound_eq (bound : opcode.bind args = .ok binding)
    (boundAgain : opcode.bind (binding.values.map Arg.toJson) = .ok again)
    (finite : ∀ value ∈ binding.values, ¬ value.NonFinite) : again = binding := by
  obtain ⟨sameOpcode, full⟩ := bind_full bound
  obtain ⟨sameOpcodeAgain, fullAgain⟩ := bind_full boundAgain
  have values : again.values = binding.values := by
    apply List.ext_getElem?
    intro place
    cases held : binding.values[place]? with
    | some value =>
        obtain ⟨param, declared⟩ := exists_param bound held
        exact (rebound_finite bound boundAgain declared held
          (finite value (List.mem_of_getElem? held))).1
    | none =>
        rw [List.getElem?_eq_none_iff, full, ← fullAgain] at held
        exact List.getElem?_eq_none_iff.mpr held
  have fallbacks : again.fallbacks = binding.fallbacks := by
    have kept := (bind_eq_ok_iff.mp bound).2.2
    have keptAgain := (bind_eq_ok_iff.mp boundAgain).2.2
    rw [congrArg Binding.fallbacks kept, congrArg Binding.fallbacks keptAgain]
    apply Param.kept_congr
    intro place param declared
    have inside := (List.getElem?_eq_some_iff.mp declared).1
    have held := List.getElem?_eq_getElem (full ▸ inside)
    exact (rebound_finite bound boundAgain declared held (finite _ (List.getElem_mem _))).2
  cases again
  cases binding
  rw [Binding.mk.injEq]
  exact ⟨sameOpcodeAgain.trans sameOpcode.symm, values, fallbacks⟩

end Again

/-- Binding the values of a binding again, as they are written, succeeds. A finite value is bound to
    its parameter again, which keeps it as it is if, and only if, it kept it before. An infinity or
    a NaN is written as null, and null is what its parameter then keeps; it can only have come from
    a text. So the operation and the fallbacks are the same exactly if all values are finite. -/
theorem bind_written (bound : opcode.bind args = .ok binding) :
    ∃ again, opcode.bind (binding.values.map Arg.toJson) = .ok again ∧
      (∀ (place : Nat) (param : Param) (value : Arg), opcode.params[place]? = some param →
        binding.values[place]? = some value →
        (¬ value.NonFinite → again.values[place]? = some value ∧
          ∀ kept, (⟨opcode, param.name, param.kind, kept⟩ : Fallback) ∈ again.fallbacks ↔
            ⟨opcode, param.name, param.kind, kept⟩ ∈ binding.fallbacks) ∧
        (value.NonFinite → value.toJson = .null ∧ again.values[place]? = some (.raw .null) ∧
          (∀ kept, (⟨opcode, param.name, param.kind, kept⟩ : Fallback) ∈ again.fallbacks ↔
            kept = .null) ∧
          ∃ text, args[place]? = some (.string text))) ∧
      (Operation.ofBinding again = Operation.ofBinding binding ∧
          again.fallbacks = binding.fallbacks ↔
        ∀ value ∈ binding.values, ¬ value.NonFinite) := by
  have complete : (binding.values.map Arg.toJson).length = opcode.params.length := by
    rw [List.length_map, (bind_full bound).2]
  obtain ⟨again, boundAgain⟩ := exists_bind complete
  refine ⟨again, boundAgain, ?_, ?_, ?_⟩
  · intro place param value declared held
    refine ⟨fun finite => ?_, fun nonFinite => ?_⟩
    · obtain ⟨same, keeps⟩ := rebound_finite bound boundAgain declared held finite
      refine ⟨same, fun kept => ?_⟩
      rw [mem_fallbacks_iff bound declared, mem_fallbacks_iff boundAgain declared, keeps]
    · obtain ⟨null, same, keeps, text⟩ := rebound_nonFinite bound boundAgain declared held nonFinite
      refine ⟨null, same, fun kept => ?_, text⟩
      rw [mem_fallbacks_iff boundAgain declared, keeps]
  · -- one that is not finite would be null in the operation that is the same
    rintro ⟨sameOperation, -⟩ value listed nonFinite
    obtain ⟨place, held⟩ := List.mem_iff_getElem?.mp listed
    obtain ⟨param, declared⟩ := exists_param bound held
    obtain ⟨-, null, -⟩ := rebound_nonFinite bound boundAgain declared held nonFinite
    rw [values_of_ofBinding_eq bound boundAgain sameOperation, held] at null
    cases null
    cases nonFinite
  · intro finite
    rw [rebound_eq bound boundAgain finite]
    exact ⟨rfl, rfl⟩

/-- A zoom by an infinity, a value that was kept, and a default. -/
theorem bind_written_infinite_zoom :
    ∃ binding again, Opcode.zoom.bind [.string "-inf", .null, .string "left"] = .ok binding ∧
      Opcode.zoom.bind (binding.values.map Arg.toJson) = .ok again ∧
      again.values[0]? = some (.raw .null) ∧
      (⟨.zoom, "zoom", .float, .null⟩ : Fallback) ∈ again.fallbacks ∧
      again.values[2]? = some (.raw (.string "left")) ∧
      (⟨.zoom, "x", .int, .string "left"⟩ : Fallback) ∈ again.fallbacks ∧
      again.values[3]? = some (.int ⟨0, by decide⟩) := by
  have bound : Opcode.zoom.bind [.string "-inf", .null, .string "left"] = .ok _ := rfl
  obtain ⟨again, boundAgain, places, -⟩ := bind_written bound
  obtain ⟨-, zoom, zoomKept, -⟩ := (places 0 _ _ rfl rfl).2 rfl
  obtain ⟨x, xKept⟩ := (places 2 _ _ rfl rfl).1 nofun
  obtain ⟨y, -⟩ := (places 3 _ _ rfl rfl).1 nofun
  refine ⟨_, again, bound, boundAgain, zoom, (zoomKept _).mpr rfl, x, (xKept _).mpr ?_, y⟩
  exact List.mem_singleton.mpr rfl

end Opcode
end Scenario
