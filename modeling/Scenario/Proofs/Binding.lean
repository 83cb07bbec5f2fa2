import Mathlib.Data.List.FinRange
import Scenario.Proofs.Routing

/-! # Binding by the signature

What becomes of a registered command is settled by how many argument slots are
filled, by the values in them from the lowest slot up, and by the signature of
its opcode. Defaults only come after all parameters that need an argument, so
enough arguments are those that fill the first places.
-/

namespace Scenario

namespace Kind

/-- What a parameter of this kind holds for an argument: the number that the argument converts to,
    or else the argument as it is. -/
def hold (kind : Kind) (value : Json) : Arg :=
  match kind with
  | .any => .raw value
  | .int => (value.toWord?.map .int).getD (.raw value)
  | .float => (value.toDouble?.map .float).getD (.raw value)

/-- The kind asks for a number, and the value does not convert to one. -/
def Keeps (kind : Kind) (value : Json) : Prop :=
  kind = .int ∧ value.toWord? = none ∨ kind = .float ∧ value.toDouble? = none

instance (kind : Kind) (value : Json) : Decidable (kind.Keeps value) := by
  unfold Keeps; infer_instance

end Kind

theorem Param.take_eq (param : Param) (opcode : Opcode) (value : Json) :
    param.take opcode value =
      (param.kind.hold value,
        if param.kind.Keeps value then [⟨opcode, param.name, param.kind, value⟩] else []) := by
  obtain ⟨name, kind, default⟩ := param
  cases kind with
  | any => simp [take, Kind.coerce?, Kind.hold, Kind.Keeps]
  | int => cases word : value.toWord? <;> simp [take, Kind.coerce?, Kind.hold, Kind.Keeps, word]
  | float =>
      cases double : value.toDouble? <;> simp [take, Kind.coerce?, Kind.hold, Kind.Keeps, double]

/-- What parameters hold: arguments as far as there are any, then defaults. -/
def Param.held (params : List Param) (args : List Json) : List Arg :=
  (params.zip args).map (fun (param, value) => param.kind.hold value) ++
    (params.drop args.length).filterMap fun param => param.default.map Default.toArg

/-- The parameters that keep an argument which does not convert, in order. -/
def Param.kept (opcode : Opcode) (params : List Param) (args : List Json) : List Fallback :=
  (params.zip args).filterMap fun (param, value) =>
    if param.kind.Keeps value then some ⟨opcode, param.name, param.kind, value⟩ else none

namespace Opcode

theorem bindParams_default {opcode : Opcode} {param : Param} {value : Default}
    (default : param.default = some value) (params : List Param) :
    opcode.bindParams (param :: params) [] =
      (opcode.bindParams params []).map fun rest =>
        { rest with values := value.toArg :: rest.values } := by
  simp only [bindParams, default]
  cases opcode.bindParams params [] <;> rfl

theorem bindParams_cons (opcode : Opcode) (param : Param) (params : List Param) (value : Json)
    (args : List Json) :
    opcode.bindParams (param :: params) (value :: args) =
      (opcode.bindParams params args).map fun rest =>
        { rest with
          values := (param.take opcode value).1 :: rest.values
          fallbacks := (param.take opcode value).2 ++ rest.fallbacks } := by
  simp only [bindParams]
  cases opcode.bindParams params args <;> rfl

/-- Binding fails at the first parameter past the arguments that has no default. -/
theorem bindParams_eq (opcode : Opcode) (params : List Param) (args : List Json) :
    opcode.bindParams params args =
      match (params.drop args.length).find? Param.isRequired with
      | some param => .error (.missingArgument opcode param.name)
      | none => .ok ⟨opcode, Param.held params args, Param.kept opcode params args⟩ := by
  induction params generalizing args with
  | nil => simp [bindParams, Param.held, Param.kept]
  | cons param rest ih =>
      cases args with
      | nil =>
          cases default : param.default with
          | none => simp [bindParams, Param.isRequired, default]
          | some value =>
              -- the default is lost with the binding if a later parameter is missing
              have given : param.isRequired = false := by simp [Param.isRequired, default]
              rw [bindParams_default default, ih, List.length_nil, List.drop_zero, List.drop_zero,
                List.find?_cons_of_neg (by simp [given])]
              cases rest.find? Param.isRequired with
              | some missing => rfl
              | none => simp [Except.map, Param.held, Param.kept, default]
      | cons value args =>
          rw [bindParams_cons, ih, Param.take_eq, List.length_cons, List.drop_succ_cons]
          cases (rest.drop args.length).find? Param.isRequired with
          | some missing => rfl
          | none =>
              by_cases keeps : param.kind.Keeps value <;>
                simp [Except.map, Param.held, Param.kept, keeps]

/-- No parameter that needs an argument comes after one with a default. -/
theorem params_required_first (opcode : Opcode) :
    opcode.params.Pairwise fun earlier later => later.isRequired → earlier.isRequired := by
  cases opcode <;> decide

/-- The parameters of an opcode have different names. -/
theorem params_names_nodup (opcode : Opcode) : (opcode.params.map Param.name).Nodup := by
  cases opcode <;> decide

/-- Enough arguments are those that leave no required parameter without one: where required
    parameters come first, their number alone decides it. -/
theorem countP_isRequired_le_iff {params : List Param}
    (ordered : params.Pairwise fun earlier later => later.isRequired → earlier.isRequired)
    {supplied : Nat} :
    params.countP Param.isRequired ≤ supplied ↔
      (params.drop supplied).find? Param.isRequired = none := by
  induction params generalizing supplied with
  | nil => simp
  | cons param rest ih =>
      obtain ⟨first, ordered⟩ := List.pairwise_cons.mp ordered
      cases supplied with
      | zero =>
          rw [Nat.le_zero, List.drop_zero, List.countP_eq_zero, List.find?_eq_none]
      | succ supplied =>
          rw [List.drop_succ_cons, ← ih ordered, List.countP_cons]
          by_cases required : param.isRequired
          · simp [required]
          · have noneLater : rest.countP Param.isRequired = 0 :=
              List.countP_eq_zero.mpr fun later member needed =>
                required (first later member needed)
            simp [required, noneLater]

/-- The parameter at `place` is the first past the supplied arguments that has no default. -/
structure Lacks (opcode : Opcode) (supplied place : Nat) (param : Param) : Prop where
  declared : opcode.params[place]? = some param
  past : supplied ≤ place
  required : param.default = none
  least : ∀ earlier, supplied ≤ earlier → earlier < place →
    ∀ other, opcode.params[earlier]? = some other → other.default ≠ none

theorem find?_isRequired_iff {opcode : Opcode} {supplied : Nat} {param : Param} :
    (opcode.params.drop supplied).find? Param.isRequired = some param ↔
      ∃ place, opcode.Lacks supplied place param := by
  rw [List.find?_eq_some_iff_getElem]
  simp only [Param.isRequired, Option.isNone_iff_eq_none, List.getElem_drop, List.length_drop]
  constructor
  · rintro ⟨required, offset, inside, found, least⟩
    refine ⟨supplied + offset, ⟨?_, Nat.le_add_right .., required, ?_⟩⟩
    · rw [List.getElem?_eq_getElem (by omega), found]
    · intro earlier past before other declared
      obtain ⟨bound, same⟩ := List.getElem?_eq_some_iff.mp declared
      have given := least (earlier - supplied) (by omega)
      simp only [Nat.add_sub_cancel' past, same, Option.not_isNone] at given
      exact Option.isSome_iff_ne_none.mp given
  · rintro ⟨place, declared, past, required, least⟩
    obtain ⟨bound, same⟩ := List.getElem?_eq_some_iff.mp declared
    refine ⟨required, place - supplied, by omega, ?_, ?_⟩
    · simp only [Nat.add_sub_cancel' past, same]
    · intro offset before
      have given := least (supplied + offset) (Nat.le_add_right ..) (by omega) _
        (List.getElem?_eq_getElem (by omega))
      rw [Option.not_isNone]
      exact Option.isSome_iff_ne_none.mpr given

/-- A place past the arguments lacks its parameter if a parameter of that name is reported. -/
theorem lacks_of_name_eq {opcode : Opcode} {supplied place other : Nat} {param found : Param}
    (declared : opcode.params[place]? = some param) (lacks : opcode.Lacks supplied other found)
    (sameName : found.name = param.name) : opcode.Lacks supplied place param := by
  have names := opcode.params_names_nodup
  have same : (opcode.params.map Param.name)[other]? = (opcode.params.map Param.name)[place]? := by
    simp [List.getElem?_map, lacks.declared, declared, sameName]
  have bound : other < (opcode.params.map Param.name).length := by
    simpa using (List.getElem?_eq_some_iff.mp lacks.declared).1
  obtain rfl := (List.getElem?_inj bound names).mp same
  obtain rfl := Option.some.inj (declared.symm.trans lacks.declared)
  exact lacks

end Opcode

namespace Param

theorem filterMap_default_getElem? {params : List Param}
    (given : ∀ param ∈ params, param.default ≠ none) (place : Nat) :
    (params.filterMap fun param => param.default.map Default.toArg)[place]? =
      params[place]?.bind fun param => param.default.map Default.toArg := by
  induction params generalizing place with
  | nil => rfl
  | cons param rest ih =>
      cases default : param.default with
      | none => exact absurd default (given param List.mem_cons_self)
      | some value =>
          have later := ih fun other member => given other (List.mem_cons_of_mem _ member)
          cases place with
          | zero => simp [default]
          | succ place => simpa [default] using later place

/-- Where all parameters past the arguments have defaults, each parameter holds a value. -/
theorem held_getElem? {params : List Param} {args : List Json}
    (fits : args.length ≤ params.length)
    (given : ∀ param ∈ params.drop args.length, param.default ≠ none) {place : Nat} {param : Param}
    (declared : params[place]? = some param) :
    (∀ value, args[place]? = some value →
        (held params args)[place]? = some (param.kind.hold value)) ∧
      (args.length ≤ place → (held params args)[place]? = param.default.map Default.toArg) := by
  have zipped : ((params.zip args).map fun (param, value) => param.kind.hold value).length =
      args.length := by
    simp [fits]
  constructor
  · intro value supplied
    have inside := (List.getElem?_eq_some_iff.mp supplied).1
    have paired : (params.zip args)[place]? = some (param, value) :=
      List.getElem?_zip_eq_some.mpr ⟨declared, supplied⟩
    rw [held, List.getElem?_append_left (by omega), List.getElem?_map, paired, Option.map_some]
  · intro past
    rw [held, List.getElem?_append_right (by omega), zipped, filterMap_default_getElem? given,
      List.getElem?_drop, Nat.add_sub_cancel' past, declared]
    rfl

theorem held_length {params : List Param} {args : List Json} (fits : args.length ≤ params.length)
    (given : ∀ param ∈ params.drop args.length, param.default ≠ none) :
    (held params args).length = params.length := by
  have defaults : ((params.drop args.length).filterMap fun param =>
      param.default.map Default.toArg).length = (params.drop args.length).length :=
    List.filterMap_length_eq_length.mpr fun param member => by
      simpa [Option.isSome_iff_ne_none] using given param member
  rw [held, List.length_append, defaults]
  simp [fits]

end Param

namespace Opcode

theorem bind_eq (opcode : Opcode) (args : List Json) :
    opcode.bind args =
      if opcode.params.length < args.length then
        .error (.tooManyArguments opcode opcode.params.length args.length)
      else
        match (opcode.params.drop args.length).find? Param.isRequired with
        | some param => .error (.missingArgument opcode param.name)
        | none =>
          .ok ⟨opcode, Param.held opcode.params args, Param.kept opcode opcode.params args⟩ := by
  rw [bind, bindParams_eq]

end Opcode

/-- The operation of a binding with a value for each parameter has the values as its fields, under
    the names of the parameters. -/
theorem Operation.ofBinding_fields (binding : Binding)
    (full : binding.values.length = binding.opcode.params.length) :
    (Operation.ofBinding binding).opcode = binding.opcode ∧
      (Operation.ofBinding binding).fields =
        (binding.opcode.params.map Param.name).zip binding.values := by
  refine ⟨ofArgs_opcode _ _, ?_⟩
  rw [ofBinding, ofArgs_fields, ← full]
  congr 1
  exact List.ext_getElem (by simp) (by simp +contextual)

namespace Command

/-- The values in the slots of a command that are filled, from the lowest slot up. -/
def filled (command : Command) : List Json :=
  (List.range slotCount).filterMap command.arg?

theorem present_eq_filled (command : Command) : command.present = command.filled := by
  rw [present, positioned, filled, List.map_filterMap, ← List.map_coe_finRange_eq_range,
    List.filterMap_map]
  refine List.filterMap_congr fun slot _ => ?_
  simp [arg?, Option.map_map, Function.comp_def]

end Command

theorem Discovery.classify_of_registered (discovery : Discovery) {command : Command}
    {opcode : Opcode} (untagged : '：' ∉ command.opcode.toList)
    (registered : Opcode.lookup? command.opcode = some opcode) :
    (discovery.classify command).1 = opcode.dispatch command.filled := by
  rw [classify_of_settled discovery (Command.settled?_of_registered untagged registered),
    Command.present_eq_filled]

namespace Opcode

theorem dispatch_tooMany_iff {opcode : Opcode} {args : List Json} :
    opcode.dispatch args =
        .error (.unbound (.tooManyArguments opcode opcode.params.length args.length)) ↔
      opcode.params.length < args.length := by
  rw [dispatch, bind_eq]
  constructor
  · intro failed
    by_contra fits
    rw [if_neg fits] at failed
    cases found : (opcode.params.drop args.length).find? Param.isRequired with
    | some param => simp [found] at failed
    | none => simp [found] at failed
  · intro tooMany
    rw [if_pos tooMany]

theorem dispatch_missing_iff {opcode : Opcode} {args : List Json} {place : Nat} {param : Param}
    (declared : opcode.params[place]? = some param) :
    opcode.dispatch args = .error (.unbound (.missingArgument opcode param.name)) ↔
      args.length ≤ opcode.params.length ∧ opcode.Lacks args.length place param := by
  rw [dispatch, bind_eq]
  constructor
  · intro failed
    by_cases tooMany : opcode.params.length < args.length
    · simp [tooMany] at failed
    · rw [if_neg tooMany] at failed
      cases found : (opcode.params.drop args.length).find? Param.isRequired with
      | none => simp [found] at failed
      | some first =>
          obtain ⟨other, lacks⟩ := find?_isRequired_iff.mp found
          simp only [found, Except.error.injEq, DispatchError.unbound.injEq,
            BindError.missingArgument.injEq, true_and] at failed
          exact ⟨Nat.le_of_not_lt tooMany, lacks_of_name_eq declared lacks failed⟩
  · rintro ⟨fits, lacks⟩
    rw [if_neg (Nat.not_lt.mpr fits), find?_isRequired_iff.mpr ⟨place, lacks⟩]

/-- Arguments fit exactly if they are neither too many nor too few. -/
theorem fits_iff (opcode : Opcode) (supplied : Nat) :
    (¬ opcode.params.length < supplied ∧
        ¬ ∃ place param, supplied ≤ opcode.params.length ∧ opcode.Lacks supplied place param) ↔
      opcode.requiredCount ≤ supplied ∧ supplied ≤ opcode.params.length := by
  rw [requiredCount, countP_isRequired_le_iff opcode.params_required_first, Nat.not_lt]
  constructor
  · rintro ⟨fits, complete⟩
    refine ⟨?_, fits⟩
    cases found : (opcode.params.drop supplied).find? Param.isRequired with
    | none => rfl
    | some param =>
        obtain ⟨place, lacks⟩ := find?_isRequired_iff.mp found
        exact absurd ⟨place, param, fits, lacks⟩ complete
  · rintro ⟨complete, fits⟩
    refine ⟨fits, ?_⟩
    rintro ⟨place, param, -, lacks⟩
    have found := find?_isRequired_iff.mpr ⟨place, lacks⟩
    rw [complete] at found
    cases found

/-- Binding succeeds exactly for arguments that fit, with what the parameters hold of them. -/
theorem bind_eq_ok_iff {opcode : Opcode} {args : List Json} {binding : Binding} :
    opcode.bind args = .ok binding ↔
      opcode.requiredCount ≤ args.length ∧ args.length ≤ opcode.params.length ∧
        binding = ⟨opcode, Param.held opcode.params args, Param.kept opcode opcode.params args⟩ := by
  rw [bind_eq, requiredCount, countP_isRequired_le_iff opcode.params_required_first]
  by_cases tooMany : opcode.params.length < args.length
  · simp [tooMany, Nat.not_le_of_lt tooMany]
  · rw [if_neg tooMany]
    cases (opcode.params.drop args.length).find? Param.isRequired with
    | some missing => simp
    | none => simp [Nat.le_of_not_lt tooMany, eq_comm]

/-- Arguments that fit make an operation of what the parameters hold. -/
theorem dispatch_of_fits {opcode : Opcode} {args : List Json}
    (enough : opcode.requiredCount ≤ args.length) (fits : args.length ≤ opcode.params.length) :
    opcode.dispatch args =
      .ok (.operation
        (.ofBinding ⟨opcode, Param.held opcode.params args, Param.kept opcode opcode.params args⟩)
        (Param.kept opcode opcode.params args)) := by
  rw [dispatch, bind_eq_ok_iff.mpr ⟨enough, fits, rfl⟩]

/-- With enough arguments every parameter past them has a default. -/
theorem default_of_fits {opcode : Opcode} {supplied : Nat}
    (enough : opcode.requiredCount ≤ supplied) :
    ∀ param ∈ opcode.params.drop supplied, param.default ≠ none := by
  have complete := (countP_isRequired_le_iff opcode.params_required_first).mp enough
  intro param past absent
  exact List.find?_eq_none.mp complete param past (by simp [Param.isRequired, absent])

/-- A binding has a value for each parameter. -/
theorem bind_full {opcode : Opcode} {args : List Json} {binding : Binding}
    (bound : opcode.bind args = .ok binding) :
    binding.opcode = opcode ∧ binding.values.length = opcode.params.length := by
  obtain ⟨enough, fits, rfl⟩ := bind_eq_ok_iff.mp bound
  exact ⟨rfl, Param.held_length fits (default_of_fits enough)⟩

end Opcode

/-- A registered command binds exactly by the signature of its opcode. With more arguments than
    parameters they are too many; else the first parameter past them without a default is missing;
    else, and just if the arguments are at least as many as the required parameters, the command is
    an operation. Its fields are a value for each parameter: what the parameter holds of the
    argument in its place, or the default. The fallbacks are the typed parameters whose argument
    does not convert, in order. Which slots are filled does not matter. -/
theorem Discovery.classify_binds_by_signature (discovery : Discovery) {command : Command}
    {opcode : Opcode} (untagged : '：' ∉ command.opcode.toList)
    (registered : Opcode.lookup? command.opcode = some opcode) :
    ((discovery.classify command).1 =
        .error (.unbound
          (.tooManyArguments opcode opcode.params.length command.filled.length)) ↔
      opcode.params.length < command.filled.length) ∧
    (∀ place param, opcode.params[place]? = some param →
      ((discovery.classify command).1 =
          .error (.unbound (.missingArgument opcode param.name)) ↔
        command.filled.length ≤ opcode.params.length ∧
          opcode.Lacks command.filled.length place param)) ∧
    ((¬ opcode.params.length < command.filled.length ∧
        ¬ ∃ place param, command.filled.length ≤ opcode.params.length ∧
          opcode.Lacks command.filled.length place param) ↔
      opcode.requiredCount ≤ command.filled.length ∧
        command.filled.length ≤ opcode.params.length) ∧
    (opcode.requiredCount ≤ command.filled.length →
      command.filled.length ≤ opcode.params.length →
      ∃ operation values,
        (discovery.classify command).1 =
          .ok (.operation operation (Param.kept opcode opcode.params command.filled)) ∧
        operation.opcode = opcode ∧
        operation.fields = (opcode.params.map Param.name).zip values ∧
        values.length = opcode.params.length ∧
        ∀ place param, opcode.params[place]? = some param →
          (∀ value, command.filled[place]? = some value →
            values[place]? = some (param.kind.hold value)) ∧
          (command.filled.length ≤ place →
            values[place]? = param.default.map Default.toArg)) ∧
    (∀ (state : Discovery) (other : Command), other.opcode = command.opcode →
      other.filled = command.filled →
      (state.classify other).1 = (discovery.classify command).1) := by
  have outcome := discovery.classify_of_registered untagged registered
  refine ⟨?_, ?_, opcode.fits_iff _, ?_, ?_⟩
  · rw [outcome]
    exact Opcode.dispatch_tooMany_iff
  · intro place param declared
    rw [outcome]
    exact Opcode.dispatch_missing_iff declared
  · intro enough fits
    have given := Opcode.default_of_fits enough
    have full := Param.held_length fits given
    obtain ⟨sameOpcode, fields⟩ := Operation.ofBinding_fields
      ⟨opcode, Param.held opcode.params command.filled,
        Param.kept opcode opcode.params command.filled⟩ full
    refine ⟨_, _, outcome.trans (Opcode.dispatch_of_fits enough fits), sameOpcode, fields, full, ?_⟩
    intro place param declared
    exact Param.held_getElem? fits given declared
  · intro state other sameName sameValues
    rw [outcome, ← sameValues]
    exact state.classify_of_registered (by rwa [sameName]) (by rwa [sameName])

/-- A zoom with gaps between its arguments: a number as text, a null, a text that is no number. -/
def Command.sparseZoom : Command :=
  let fields : Json.Fields :=
    [("arg1", .string "1.5"), ("arg4", .null), ("arg8", .string "left"), ("cmd0", .string "zoom")]
  ⟨0, "zoom", .primary, fun position => fields.get? (argKey position), fields⟩

theorem Discovery.classify_sparse_zoom :
    '：' ∉ Command.sparseZoom.opcode.toList ∧
      Opcode.lookup? Command.sparseZoom.opcode = some .zoom ∧
      ∃ operation values,
        (Discovery.empty.classify Command.sparseZoom).1 =
          .ok (.operation operation [⟨.zoom, "x", .int, .string "left"⟩]) ∧
        operation.fields = ["zoom", "position", "x", "y"].zip values ∧
        values.length = 4 ∧
        values[0]? = some (.float (.finite ⟨false, 0x18000000000000, -52, by decide⟩)) ∧
        values[1]? = some (.raw .null) ∧
        values[2]? = some (.raw (.string "left")) ∧
        values[3]? = some (.int ⟨0, by decide⟩) := by
  have untagged : '：' ∉ Command.sparseZoom.opcode.toList := by decide
  have registered : Opcode.lookup? Command.sparseZoom.opcode = some .zoom := by decide
  obtain ⟨-, -, -, succeeds, -⟩ :=
    Discovery.empty.classify_binds_by_signature untagged registered
  obtain ⟨operation, values, outcome, -, fields, full, held⟩ := succeeds (by decide) (by decide)
  refine ⟨untagged, registered, operation, values, outcome, fields, full, ?_, ?_, ?_, ?_⟩
  · exact (held 0 _ rfl).1 (.string "1.5") rfl
  · exact (held 1 _ rfl).1 .null rfl
  · exact (held 2 _ rfl).1 (.string "left") rfl
  · exact (held 3 _ rfl).2 (by decide)

end Scenario
