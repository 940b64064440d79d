/-
# Settings

Two settings govern the log: the level from which events are written, and whether they are
written as JSON.  Both are checked when settings are made (`Settings/Resolution.lean`) and can be
overwritten freely afterwards, so an object in use holds arbitrary plain data.
-/
import Holdings.Value

namespace Holdings

/-- The names of the levels that may be set. -/
inductive LogLevel where
  | debug
  | info
  | warning
  | error
  | critical
  deriving DecidableEq, Repr, Inhabited

namespace LogLevel

/-- The name of a level. -/
def name : LogLevel → String
  | debug => "DEBUG"
  | info => "INFO"
  | warning => "WARNING"
  | error => "ERROR"
  | critical => "CRITICAL"

/-- Every level, from the lowest. -/
def all : List LogLevel := [debug, info, warning, error, critical]

/-- The level of a name; the case of the letters counts. -/
def ofName? (s : String) : Option LogLevel := all.find? fun l => l.name = s

theorem ofName?_name (l : LogLevel) : ofName? l.name = some l := by
  cases l <;> decide

end LogLevel

/-- The settings in use. -/
structure Settings where
  logLevel : Plain
  logJson : Plain
  deriving Inhabited

namespace Settings

/-- Settings with a known level. -/
def ofLevel (level : LogLevel) (json : Bool) : Settings := ⟨.text level.name, .bool json⟩

/-- What holds where nothing is set. -/
def default : Settings := ofLevel .warning false

end Settings

end Holdings
