/-! # Registered opcodes

The operations that an interpreter knows, the name that each is handled under,
and the names that scripts call it by.
-/

namespace Scenario

inductive Opcode where
  | shakeSet
  | zoom
  | charaLoad
  | setVar
  | background
  | bgm
  | fadeIn
  | motion
  | hide
  | chara
  | fadeOut
  | shakeDisp
  | shakeChara
  | se2
  | wait
  | serifClose
  | move
  | bgmStop
  | wipeOut
  | wipeIn
  | shader
  | setDispName
  | removeDispName
  | effect
  | voice
  deriving DecidableEq, Repr

namespace Opcode

def all : List Opcode :=
  [.shakeSet, .zoom, .charaLoad, .setVar, .background, .bgm, .fadeIn, .motion, .hide, .chara,
    .fadeOut, .shakeDisp, .shakeChara, .se2, .wait, .serifClose, .move, .bgmStop, .wipeOut,
    .wipeIn, .shader, .setDispName, .removeDispName, .effect, .voice]

/-- The name of the operation's handler, the same for every script name. -/
def handler : Opcode → String
  | .shakeSet => "shakeset"
  | .zoom => "zoom"
  | .charaLoad => "charaload"
  | .setVar => "set_var"
  | .background => "background"
  | .bgm => "bgm"
  | .fadeIn => "fadein"
  | .motion => "motion"
  | .hide => "hide"
  | .chara => "chara"
  | .fadeOut => "fadeout"
  | .shakeDisp => "shakedisp"
  | .shakeChara => "shakechara"
  | .se2 => "se2"
  | .wait => "wait"
  | .serifClose => "serifclose"
  | .move => "move"
  | .bgmStop => "bgmstop"
  | .wipeOut => "wipeout"
  | .wipeIn => "wipein"
  | .shader => "shader"
  | .setDispName => "setdispname"
  | .removeDispName => "removedispname"
  | .effect => "effect"
  | .voice => "voice"

/-- The names that scripts use, in the order of the registry. -/
def names : List (String × Opcode) :=
  [("charaload", .charaLoad), ("変数", .setVar), ("shakeset", .shakeSet), ("背景", .background),
    ("bgm2", .bgm), ("bgm", .bgm), ("fadein", .fadeIn), ("motion", .motion), ("hide", .hide),
    ("chara", .chara), ("fadeout", .fadeOut), ("zoom", .zoom), ("shakedisp", .shakeDisp),
    ("shakechara", .shakeChara), ("se2", .se2), ("wait", .wait), ("serifclose", .serifClose),
    ("move", .move), ("bgmstop", .bgmStop), ("wipeout", .wipeOut), ("wipein", .wipeIn),
    ("shader", .shader), ("setdispname", .setDispName), ("removedispname", .removeDispName),
    ("effect", .effect), ("voice", .voice)]

/-- The opcode registered under exactly this name. -/
def lookup? (name : String) : Option Opcode :=
  names.lookup name

/-- The script names of an opcode, in the order of the registry. -/
def aliases (opcode : Opcode) : List String :=
  names.filterMap fun (name, registered) => if registered = opcode then some name else none

end Opcode
end Scenario
