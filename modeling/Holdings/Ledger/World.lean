/-
# The state of a script

A world holds the objects, the variables, what settings are read from, the settings in use, the log,
and the events and notices of the current step.  Events are what the library reports, notices what is
told about files that were read; they do not depend on the log.

An act reads and changes a world and either gives a result or fails; what it did to the world before
it failed stays done.  So every act is written with its checks first and its change last: a step
that fails leaves all objects and variables as they were, because nothing follows a change that
could fail.

`perform` is the one way from a pure operation to an act, and the one place where failed
checks are reported.
-/
import Holdings.Ledger.Heap
import Holdings.Logging
import Holdings.Settings.Resolution

namespace Holdings.Ledger

/-- All that a step can see and change. -/
structure World where
  heap : Heap
  bindings : List (String × Binding)
  environment : Environment
  /-- The settings in use, once they have been asked for. -/
  current : Option Nat
  logging : Logging
  /-- The events of the current step, in order. -/
  journal : List Event
  /-- The notices of the current step, in order. -/
  notices : List String
  deriving Inhabited

/-- The world in which a script starts. -/
def World.initial : World := ⟨Heap.empty, [], Environment.empty, none, Logging.initial, [], []⟩

/-- What reads and changes a world. -/
abbrev Act := EStateM Fault World

namespace Act

/-! ## 1. Results and reports -/

/-- Adds an event to the journal. -/
def report (e : Event) : Act Unit := modify fun w => { w with journal := w.journal ++ [e] }

/-- Adds notices to those of the step. -/
def notify (notices : List String) : Act Unit :=
  modify fun w => { w with notices := w.notices ++ notices }

/-- The result of a pure operation; a failed check is reported. -/
def perform : Except Fault α → Act α
  | .ok a => pure a
  | .error (.aborted a) => do
    if a.isAudited then report (.checkFailed a)
    throw (.aborted a)
  | .error e => throw e

/-- The result of a pure operation that fails by aborting only. -/
def performAbort (r : Except Abort α) : Act α := perform (liftAbort r)

/-- The content of the objects in a value. -/
def datum (v : Item) : Act Datum := do return (← get).heap.datum v

/-! ## 2. New objects -/

/-- An object that never changes, with a number of its own. -/
def newTagged (a : α) : Act (Tagged α) := do
  let w ← get
  set { w with heap := { w.heap with nextTag := w.heap.nextTag + 1 } }
  return ⟨w.heap.nextTag, a⟩

/-- A quantity in a new cell. -/
def newQuantity (c : QuantityCell) : Act Nat := do
  let w ← get
  set { w with heap := { w.heap with quantities := w.heap.quantities.add c } }
  return w.heap.quantities.next

/-- A holding in a new cell. -/
def newHolding (c : HoldingCell) : Act Nat := do
  let w ← get
  set { w with heap := { w.heap with holdings := w.heap.holdings.add c } }
  return w.heap.holdings.next

/-- Settings in a new cell. -/
def newSettings (s : Settings) : Act Nat := do
  let w ← get
  set { w with heap := { w.heap with settings := w.heap.settings.add s } }
  return w.heap.settings.next

/-- The cell of a quantity. -/
def quantityCell (r : Nat) : Act QuantityCell := do return (← get).heap.quantities.get r

/-- The cell of a holding. -/
def holdingCell (r : Nat) : Act HoldingCell := do return (← get).heap.holdings.get r

/-- The content of a quantity. -/
def quantity (r : Nat) : Act Quantity := do return (← get).heap.quantity r

/-- The content of a holding. -/
def holding (r : Nat) : Act Holding := do return (← get).heap.holding r

/-! ## 3. Changes -/

/-- Changes the amount of a quantity. -/
def writeAmount (r : Nat) (a : Int) : Act Unit :=
  modify fun w => { w with heap := w.heap.setAmount r a }

/-- Changes the quantity of a holding. -/
def writeQuantity (r : Nat) (q : Nat) : Act Unit :=
  modify fun w => { w with heap := w.heap.setQuantity r q }

/-- Changes settings. -/
def writeSettings (r : Nat) (s : Settings) : Act Unit :=
  modify fun w => { w with heap := { w.heap with settings := w.heap.settings.put r s } }

/-- Binds a variable. -/
def bindVariable (name : String) (v : Item) (origin : Origin) : Act Unit :=
  modify fun w => { w with bindings := Value.putEntry name ⟨v, origin⟩ w.bindings }

/-- Changes the value of all variables that have one origin. -/
def rebindOrigin (origin : Origin) (v : Item) : Act Unit :=
  modify fun w => { w with
    bindings := w.bindings.map fun b => if b.2.origin = origin then (b.1, ⟨v, origin⟩) else b }

/-- A variable. -/
def readBinding (name : String) : Act Binding := do
  match (← get).bindings.lookup name with
  | some b => return b
  | none => throw .unbound

/-- The value of a variable. -/
def readVariable (name : String) : Act Item := do return (← readBinding name).value

/-- The origin of a value that has just been made. -/
def newOrigin : Act Origin := do return .made (← newTagged ()).tag

end Act

end Holdings.Ledger
