import Scenario.Argument
import Scenario.Opcode

/-! # Signatures

The parameters of each registered opcode, in the order in which arguments are
bound to them. Parameters with a default come last.
-/

namespace Scenario

/-- What a parameter holds when no argument is left for it. -/
inductive Default where
  | int (value : Word)
  | null

def Default.toArg : Default → Arg
  | .int value => .int value
  | .null => .null

def Default.text : Default → String
  | .int value => toString value.value
  | .null => "null"

structure Param where
  name : String
  kind : Kind
  default : Option Default

namespace Param

/-- An argument must be supplied. -/
def isRequired (param : Param) : Bool :=
  param.default.isNone

/-- The name, the kind unless any will do, and the default if there is one. -/
def text (param : Param) : String :=
  let kind := if param.kind = .any then "" else ": " ++ param.kind.name
  let default := match param.default with
    | some value => " = " ++ value.text
    | none => ""
  param.name ++ kind ++ default

def any (name : String) : Param :=
  ⟨name, .any, none⟩

def int (name : String) : Param :=
  ⟨name, .int, none⟩

def float (name : String) : Param :=
  ⟨name, .float, none⟩

/-- The parameter with a whole number as its default. -/
def orInt (param : Param) (value : Int)
    (bounded : -0x8000000000000000 ≤ value ∧ value < 0x8000000000000000 := by decide) : Param :=
  { param with default := some (.int ⟨value, bounded⟩) }

/-- The parameter with null as its default. -/
def orNull (param : Param) : Param :=
  { param with default := some .null }

end Param

namespace Opcode

/-- The parameters of an opcode. -/
def params : Opcode → List Param
  | .shakeSet => [.any "motion", .int "a", .int "b", .int "c", .int "d"]
  | .zoom => [.float "zoom", .any "position", .int "x", (Param.int "y").orInt 0]
  | .charaLoad => [.any "chara"]
  | .setVar => [.any "name", .any "value", (Param.int "shift").orInt 0]
  | .background => [.any "filename"]
  | .bgm => [.any "filename", (Param.int "time").orInt (-1)]
  | .fadeIn => [.int "speed"]
  | .motion => [.any "chara", .any "motion", (Param.any "position").orNull, (Param.int "a").orInt 0]
  | .hide => [.any "chara", (Param.int "speed").orInt 0]
  | .chara => [.any "chara", .any "motion", .any "position", .int "x", .int "y"]
  | .fadeOut => [.any "color", .int "speed"]
  | .shakeDisp => [.any "motion"]
  | .shakeChara => [.any "chara", .any "motion"]
  | .se2 => [.any "filename", (Param.any "t").orNull]
  | .wait => [.int "time"]
  | .serifClose => []
  | .move => [.any "chara", .any "position", .any "x", .any "y"]
  | .bgmStop => [(Param.int "a").orInt 0]
  | .wipeOut => []
  | .wipeIn => []
  | .shader => [.any "filename", (Param.int "a").orInt 0]
  | .setDispName => [.any "name", .any "chara"]
  | .removeDispName => [.any "name"]
  | .effect => [.any "filename"]
  | .voice => [.any "filename"]

/-- How many arguments must be supplied at least. -/
def requiredCount (opcode : Opcode) : Nat :=
  opcode.params.countP Param.isRequired

/-- The handler's name with its parameters in parentheses. -/
def signature (opcode : Opcode) : String :=
  opcode.handler ++ "(" ++ ", ".intercalate (opcode.params.map Param.text) ++ ")"

end Opcode
end Scenario
