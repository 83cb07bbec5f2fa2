/-! # Log entries

What the library has to say about its work, beside its results.
-/

namespace Scenario

inductive Level where
  /-- Something was skipped or kept as it was. -/
  | warn
  /-- For those who follow the work closely. -/
  | debug
  deriving DecidableEq, Repr

def Level.name : Level → String
  | .warn => "WARN"
  | .debug => "DEBUG"

structure LogEntry where
  level : Level
  text : String
  deriving DecidableEq, Repr

namespace LogEntry

def warn (text : String) : LogEntry :=
  ⟨.warn, text⟩

def debug (text : String) : LogEntry :=
  ⟨.debug, text⟩

end LogEntry
end Scenario
