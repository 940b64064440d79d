/-
# The journal

What the library reports while it works: a failed check with its kind and reason, bytes that were
read as an entity, and entities that are shown on request.  An event has a severity, a name, named
fields in the order of their names, and the name of the part of the library that reports it.

An event is written as a line for a reader, or as a record for a program.
-/
import Holdings.Abort

namespace Holdings

/-! ## 1. Events -/

/-- What is reported. -/
inductive Event where
  | checkFailed (reason : Abort)
  | decoded (kind : EntityKind) (size : Int)
  | quantityShown (text : String)
  | holdingShown (text : String)
  deriving DecidableEq, Repr, Inhabited

/-- How much an event matters. -/
inductive Severity where
  | debug
  | info
  deriving DecidableEq, Repr, Inhabited

/-- The name of a severity. -/
def Severity.label : Severity → String
  | debug => "debug"
  | info => "info"

/-- The rank of a severity among the levels of a log. -/
def Severity.rank : Severity → Int
  | debug => 10
  | info => 20

namespace Event

/-- The severity of an event. -/
def severity : Event → Severity
  | checkFailed _ => .debug
  | decoded .. => .debug
  | quantityShown _ => .info
  | holdingShown _ => .info

/-- The name of an event. -/
def name : Event → String
  | checkFailed _ => "asset_check_failed"
  | decoded .. => "decoded"
  | quantityShown _ => "quantity"
  | holdingShown _ => "owned_quantity"

/-- The fields of an event, in the order of their names. -/
def fields : Event → List (String × Plain)
  | checkFailed a => [("kind", .text a.kind.label), ("reason", .text a.reason)]
  | decoded kind size => [("model", .text kind.label), ("size", .int size)]
  | quantityShown text => [("value", .text text)]
  | holdingShown text => [("value", .text text)]

/-- The part of the library that reports an event. -/
def source : Event → String
  | checkFailed _ => "ledger_assets.core.errors"
  | decoded .. => "ledger_assets.core.codec"
  | quantityShown _ => "ledger_assets.core.domain.quantity"
  | holdingShown _ => "ledger_assets.core.domain.owned_quantity"

/-! ## 2. Written forms -/

/-- The event as a record of its fields, its name and its severity. -/
def toRecord (e : Event) : Plain :=
  .dict (e.fields ++ [("event", .text e.name), ("log_level", .text e.severity.label)])

/-- The event as a record that also names its source. -/
def toSourcedRecord (e : Event) : Plain :=
  .dict (e.fields ++ [("event", .text e.name), ("level", .text e.severity.label),
    ("logger", .text e.source)])

/-- Characters that a text must not hold to stand in a line without quotes. -/
def needsQuotes (c : Char) : Bool :=
  [' ', '\t', '=', '\r', '\n', '"', '\''].contains c

/-- The value of a field in a line. -/
def fieldText : Plain → String
  | .text s => if s.toList.any needsQuotes then Text.quote s else s
  | v => Entity.shownPlain v

/-- The event as a line: severity and name in columns, the source, then the fields. -/
def toLine (e : Event) : String :=
  "[" ++ String.ofList (Text.padRight 9 ' ' e.severity.label.toList) ++ "] " ++
    String.ofList (Text.padRight 30 ' ' e.name.toList) ++ " [" ++ e.source ++ "] " ++
    Value.joinWith " " (e.fields.map fun f => f.1 ++ "=" ++ fieldText f.2)

end Event

example : (Event.decoded .quantity 16).toLine =
    "[debug    ] decoded                        [ledger_assets.core.codec] model=Quantity size=16" := by
  decide +kernel

end Holdings
