import Possession.Failure
import Possession.Text.Character

/-!
# Logging

The log keeps messages up to a level. A level is named in settings, in any case. The logger of the
program is installed once; another attempt is refused, but only after the level has been read.
-/

namespace Possession

inductive LogLevel
  | off
  | error
  | warn
  | info
  | debug
  | trace
  deriving DecidableEq, Repr

namespace LogLevel

def all : List LogLevel := [off, error, warn, info, debug, trace]

def name : LogLevel → String
  | off => "OFF"
  | error => "ERROR"
  | warn => "WARN"
  | info => "INFO"
  | debug => "DEBUG"
  | trace => "TRACE"

/-- The level with the given name, in any case. -/
def ofName? (name : String) : Option LogLevel :=
  all.find? fun level => Text.asciiLower level.name.toList == Text.asciiLower name.toList

def parse (name : String) : Outcome LogLevel :=
  match ofName? name with
  | some level => .ok level
  | none => .refuse (.configuration ("Invalid log level '" ++ name ++ "'"))

/-- The name of a level names it. -/
@[simp] theorem ofName?_name (level : LogLevel) : ofName? level.name = some level := by
  cases level <;> decide

end LogLevel

inductive Logger
  /-- No logger is installed yet. -/
  | absent
  /-- A logger that keeps messages up to a level. -/
  | installed (level : LogLevel)
  deriving DecidableEq, Repr

/-- Installs a logger for the level with the given name, unless there is one. -/
def Logger.install (logger : Logger) (level : String) : Outcome Logger :=
  match LogLevel.parse level, logger with
  | .error refusal, _ => .error refusal
  | .ok level, .absent => .ok (.installed level)
  | .ok _, .installed _ => .refuse (.configuration "Failed to initialize logger")

end Possession
