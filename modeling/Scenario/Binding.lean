import Scenario.Argument.Coercion
import Scenario.Opcode.Signature

/-! # Binding arguments

Arguments are bound to parameters by position. Parameters without an argument
take their defaults; a typed parameter whose argument does not convert keeps the
value as it is, and the binding says so.
-/

namespace Scenario

/-- A typed parameter that kept a value which did not convert. -/
structure Fallback where
  opcode : Opcode
  param : String
  expected : Kind
  value : Json

def Fallback.toJson (fallback : Fallback) : Json :=
  .object [("opcode", .string fallback.opcode.handler), ("param", .string fallback.param),
    ("expected", .string fallback.expected.name), ("value", fallback.value)]

/-- Why arguments do not fit a signature. -/
inductive BindError where
  | tooManyArguments (opcode : Opcode) (expected supplied : Nat)
  | missingArgument (opcode : Opcode) (param : String)
  deriving DecidableEq, Repr

def BindError.message : BindError → String
  | .tooManyArguments opcode expected supplied =>
    s!"{opcode.handler} takes at most {expected} argument(s) but {supplied} were supplied"
  | .missingArgument opcode param => s!"{opcode.handler} is missing required argument `{param}`"

/-- One value for each parameter, in their order, and the values that were kept. -/
structure Binding where
  opcode : Opcode
  values : List Arg
  fallbacks : List Fallback

/-- The value a parameter takes from an argument, and the fallback if it keeps it as it is. -/
def Param.take (param : Param) (opcode : Opcode) (value : Json) : Arg × List Fallback :=
  match param.kind.coerce? value with
  | some arg => (arg, [])
  | none => (.raw value, [⟨opcode, param.name, param.kind, value⟩])

namespace Opcode

/-- Binds arguments to parameters from left to right. Arguments past the last parameter are
    not looked at. -/
def bindParams (opcode : Opcode) : List Param → List Json → Except BindError Binding
  | [], _ => .ok ⟨opcode, [], []⟩
  | param :: params, [] =>
    match param.default with
    | none => .error (.missingArgument opcode param.name)
    | some default => do
      let rest ← bindParams opcode params []
      return { rest with values := default.toArg :: rest.values }
  | param :: params, value :: args => do
    let (arg, kept) := param.take opcode value
    let rest ← bindParams opcode params args
    return { rest with values := arg :: rest.values, fallbacks := kept ++ rest.fallbacks }

/-- Binds arguments to the parameters of an opcode. Too many arguments are reported before a
    missing one. -/
def bind (opcode : Opcode) (args : List Json) : Except BindError Binding :=
  if opcode.params.length < args.length then
    .error (.tooManyArguments opcode opcode.params.length args.length)
  else opcode.bindParams opcode.params args

end Opcode
end Scenario
