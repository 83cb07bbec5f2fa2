import Scenario.Binding

/-! # Operations

A registered command with its arguments under the names of its parameters.
-/

namespace Scenario

inductive Operation where
  | shakeSet (motion a b c d : Arg)
  | zoom (zoom position x y : Arg)
  | charaLoad (chara : Arg)
  | setVar (name value shift : Arg)
  | background (filename : Arg)
  | bgm (filename time : Arg)
  | fadeIn (speed : Arg)
  | motion (chara motion position a : Arg)
  | hide (chara speed : Arg)
  | chara (chara motion position x y : Arg)
  | fadeOut (color speed : Arg)
  | shakeDisp (motion : Arg)
  | shakeChara (chara motion : Arg)
  | se2 (filename t : Arg)
  | wait (time : Arg)
  | serifClose
  | move (chara position x y : Arg)
  | bgmStop (a : Arg)
  | wipeOut
  | wipeIn
  | shader (filename a : Arg)
  | setDispName (name chara : Arg)
  | removeDispName (name : Arg)
  | effect (filename : Arg)
  | voice (filename : Arg)

namespace Operation

/-- The operation of an opcode whose fields, in their order, are the arguments by position. -/
def ofArgs (opcode : Opcode) (arg : Nat → Arg) : Operation :=
  match opcode with
  | .shakeSet => .shakeSet (arg 0) (arg 1) (arg 2) (arg 3) (arg 4)
  | .zoom => .zoom (arg 0) (arg 1) (arg 2) (arg 3)
  | .charaLoad => .charaLoad (arg 0)
  | .setVar => .setVar (arg 0) (arg 1) (arg 2)
  | .background => .background (arg 0)
  | .bgm => .bgm (arg 0) (arg 1)
  | .fadeIn => .fadeIn (arg 0)
  | .motion => .motion (arg 0) (arg 1) (arg 2) (arg 3)
  | .hide => .hide (arg 0) (arg 1)
  | .chara => .chara (arg 0) (arg 1) (arg 2) (arg 3) (arg 4)
  | .fadeOut => .fadeOut (arg 0) (arg 1)
  | .shakeDisp => .shakeDisp (arg 0)
  | .shakeChara => .shakeChara (arg 0) (arg 1)
  | .se2 => .se2 (arg 0) (arg 1)
  | .wait => .wait (arg 0)
  | .serifClose => .serifClose
  | .move => .move (arg 0) (arg 1) (arg 2) (arg 3)
  | .bgmStop => .bgmStop (arg 0)
  | .wipeOut => .wipeOut
  | .wipeIn => .wipeIn
  | .shader => .shader (arg 0) (arg 1)
  | .setDispName => .setDispName (arg 0) (arg 1)
  | .removeDispName => .removeDispName (arg 0)
  | .effect => .effect (arg 0)
  | .voice => .voice (arg 0)

/-- The operation of a binding, with null for a value that the binding does not have. A binding
    made by `Opcode.bind` has one for each field. -/
def ofBinding (binding : Binding) : Operation :=
  ofArgs binding.opcode fun position => binding.values.getD position .null

def opcode : Operation → Opcode
  | .shakeSet .. => .shakeSet
  | .zoom .. => .zoom
  | .charaLoad .. => .charaLoad
  | .setVar .. => .setVar
  | .background .. => .background
  | .bgm .. => .bgm
  | .fadeIn .. => .fadeIn
  | .motion .. => .motion
  | .hide .. => .hide
  | .chara .. => .chara
  | .fadeOut .. => .fadeOut
  | .shakeDisp .. => .shakeDisp
  | .shakeChara .. => .shakeChara
  | .se2 .. => .se2
  | .wait .. => .wait
  | .serifClose => .serifClose
  | .move .. => .move
  | .bgmStop .. => .bgmStop
  | .wipeOut => .wipeOut
  | .wipeIn => .wipeIn
  | .shader .. => .shader
  | .setDispName .. => .setDispName
  | .removeDispName .. => .removeDispName
  | .effect .. => .effect
  | .voice .. => .voice

/-- The fields of an operation by name. -/
def fields : Operation → List (String × Arg)
  | .shakeSet gesture a b c d => [("motion", gesture), ("a", a), ("b", b), ("c", c), ("d", d)]
  | .zoom factor position x y => [("zoom", factor), ("position", position), ("x", x), ("y", y)]
  | .charaLoad who => [("chara", who)]
  | .setVar name value shift => [("name", name), ("value", value), ("shift", shift)]
  | .background filename => [("filename", filename)]
  | .bgm filename time => [("filename", filename), ("time", time)]
  | .fadeIn speed => [("speed", speed)]
  | .motion who gesture position a =>
    [("chara", who), ("motion", gesture), ("position", position), ("a", a)]
  | .hide who speed => [("chara", who), ("speed", speed)]
  | .chara who gesture position x y =>
    [("chara", who), ("motion", gesture), ("position", position), ("x", x), ("y", y)]
  | .fadeOut color speed => [("color", color), ("speed", speed)]
  | .shakeDisp gesture => [("motion", gesture)]
  | .shakeChara who gesture => [("chara", who), ("motion", gesture)]
  | .se2 filename t => [("filename", filename), ("t", t)]
  | .wait time => [("time", time)]
  | .serifClose => []
  | .move who position x y => [("chara", who), ("position", position), ("x", x), ("y", y)]
  | .bgmStop a => [("a", a)]
  | .wipeOut => []
  | .wipeIn => []
  | .shader filename a => [("filename", filename), ("a", a)]
  | .setDispName name who => [("name", name), ("chara", who)]
  | .removeDispName name => [("name", name)]
  | .effect filename => [("filename", filename)]
  | .voice filename => [("filename", filename)]

/-- The name that an operation is written under. -/
def tag : Operation → String
  | .shakeSet .. => "shakeset"
  | .zoom .. => "zoom"
  | .charaLoad .. => "charaload"
  | .setVar .. => "set_var"
  | .background .. => "background"
  | .bgm .. => "bgm"
  | .fadeIn .. => "fadein"
  | .motion .. => "motion"
  | .hide .. => "hide"
  | .chara .. => "chara"
  | .fadeOut .. => "fadeout"
  | .shakeDisp .. => "shakedisp"
  | .shakeChara .. => "shakechara"
  | .se2 .. => "se2"
  | .wait .. => "wait"
  | .serifClose => "serifclose"
  | .move .. => "move"
  | .bgmStop .. => "bgmstop"
  | .wipeOut => "wipeout"
  | .wipeIn => "wipein"
  | .shader .. => "shader"
  | .setDispName .. => "setdispname"
  | .removeDispName .. => "removedispname"
  | .effect .. => "effect"
  | .voice .. => "voice"

/-- The arguments are taken in the order of the parameters, one for each. -/
theorem ofArgs_fields (opcode : Opcode) (arg : Nat → Arg) :
    (ofArgs opcode arg).fields =
      (opcode.params.map Param.name).zip ((List.range opcode.params.length).map arg) := by
  cases opcode <;> rfl

theorem ofArgs_opcode (opcode : Opcode) (arg : Nat → Arg) : (ofArgs opcode arg).opcode = opcode := by
  cases opcode <;> rfl

/-- Opcode and fields are all there is to an operation. -/
theorem eq_of_fields {left right : Operation} (sameOpcode : left.opcode = right.opcode)
    (sameFields : left.fields = right.fields) : left = right := by
  have rebuilt (operation : Operation) :
      operation = ofArgs operation.opcode fun place =>
        (operation.fields.map Prod.snd).getD place .null := by
    cases operation <;> rfl
  rw [rebuilt left, rebuilt right, sameOpcode, sameFields]

theorem tag_eq_handler (operation : Operation) : operation.tag = operation.opcode.handler := by
  cases operation <;> rfl

/-- The operation's name under `op`, then the fields. -/
def toJson (operation : Operation) : Json :=
  .object (("op", .string operation.tag) ::
    operation.fields.map fun (name, arg) => (name, arg.toJson))

end Operation
end Scenario
