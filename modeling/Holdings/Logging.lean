/-
# The log

Where events go.  At first they go nowhere.  Once configured, the log writes each event from its
level on, as a line or as a record.  The level is an integer or the name of one; level zero
stands for the level of the surroundings, which is that of warnings.

Configuring replaces the output first and then sets the level.  So a level that is not known leaves
the new output in place, with the level and the propagation as they were.
-/
import Holdings.Fault
import Holdings.Journal

namespace Holdings

/-! ## 1. Levels -/

/-- A level as it was given: an integer, or a truth value that counts as one. -/
inductive Threshold where
  | number (n : Int)
  | truth (b : Bool)
  deriving DecidableEq, Repr, Inhabited

namespace Threshold

/-- The level of warnings. -/
def warning : Int := 30

/-- The integer of a level. -/
def rank : Threshold → Int
  | number n => n
  | truth b => if b then 1 else 0

/-- The level from which events are written. -/
def effective (t : Threshold) : Int := if t.rank = 0 then warning else t.rank

/-- The levels that have a name. -/
def named : List (String × Int) :=
  [("CRITICAL", 50), ("FATAL", 50), ("ERROR", 40), ("WARN", 30), ("WARNING", 30), ("INFO", 20),
    ("DEBUG", 10), ("NOTSET", 0)]

/-- The level that a value denotes. -/
def ofDatum : Datum → Except Fault Threshold
  | .int n => .ok (number n)
  | .bool b => .ok (truth b)
  | .text s =>
    match named.lookup s with
    | some n => .ok (number n)
    | none => .error (.refused (.unknownLevel s))
  | _ => .error .wrongKind

end Threshold

/-! ## 2. The state of the log -/

/-- Where events are written. -/
inductive LogOutput where
  | silent
  | stream (json : Bool)
  deriving DecidableEq, Repr, Inhabited

/-- The name of an output. -/
def LogOutput.label : LogOutput → String
  | silent => "NullHandler"
  | stream _ => "StreamHandler"

/-- The state of the log. -/
structure Logging where
  output : LogOutput
  level : Threshold
  propagate : Bool
  deriving DecidableEq, Repr, Inhabited

namespace Logging

/-- The log before it is configured. -/
def initial : Logging := ⟨.silent, .number 0, true⟩

/-- Sets output, level and propagation, in this order, up to the first that fails. -/
def configure (l : Logging) (level : Datum) (json : Bool) : Except Fault Unit × Logging :=
  let l := { l with output := .stream json }
  match Threshold.ofDatum level with
  | .ok t => (.ok (), { l with level := t, propagate := false })
  | .error e => (.error e, l)

/-- Whether an event is written. -/
def writes (l : Logging) (e : Event) : Bool :=
  l.output != .silent && l.level.effective ≤ e.severity.rank

/-- The form in which an event is written. -/
def written (l : Logging) (e : Event) : Plain :=
  match l.output with
  | .stream true => e.toSourcedRecord
  | _ => .text e.toLine

/-- What is written for a row of events. -/
def lines (l : Logging) (events : List Event) : List Plain :=
  (events.filter l.writes).map l.written

/-- The state as plain data. -/
def toValue {ω : Type} (l : Logging) : Value ω :=
  .dict [
    ("level", match l.level with | .number n => .int n | .truth b => .bool b),
    ("handlers", .list [.text l.output.label]),
    ("propagate", .bool l.propagate)]

end Logging

end Holdings
