/-
# Attributes

Reading an attribute gives the live object: the quantity of a holding can be changed through
it.  Setting one checks the new value as building the object would.  The amount of a quantity and the
quantity of a holding may be set; the latter is copied.  Symbol and owner are fixed, and symbols,
identities and issued symbols are fixed as a whole.  Settings take any plain data.
-/
import Holdings.Ledger.Construction
import Holdings.Ledger.Operators

namespace Holdings.Ledger

open Act

/-! ## 1. Reading -/

/-- The value of an attribute of an object. -/
def attribute? (heap : Heap) : Ref → String → Option Item
  | .issuedSymbol _ s _, "symbol" => some (.object (.symbol s))
  | .issuedSymbol _ _ c, "contract" => some (.object (.identity c))
  | .quantity r, "symbol" => some (.object (.symbol (heap.quantities.get r).symbol))
  | .holding r, "quantity" => some (.object (.quantity (heap.holdings.get r).quantity))
  | .holding r, "owner" => some (.object (.identity (heap.holdings.get r).owner))
  | r, name => ((heap.entity r).attribute? name).map fun v => .ofPlain v.toPlain

/-- Reads an attribute. -/
def readAttribute (v : Item) (name : String) : Act Item := do
  match v with
  | .object r =>
    match attribute? (← get).heap r name with
    | some v => return v
    | none => throw .noAttribute
  | _ => throw .noAttribute

/-! ## 2. Setting -/

/-- The failure of setting an attribute. -/
def attributeDefect (name : String) (d : Defect) : Fault := .invalid [⟨d, [name]⟩]

/-- Sets an attribute. -/
def setAttribute (target : Item) (name : String) (v : Item) : Act Item := do
  match target with
  | .object (.quantity r) =>
    if name = "amount" then
      let a ← perform (((← datum v).checkAmount).under "amount").toExcept
      writeAmount r a
      return .null
    else if name = "symbol" then throw (attributeDefect name .frozenField)
    else throw (attributeDefect name (.unknownField name))
  | .object (.holding r) =>
    if name = "quantity" then
      let q ← perform (((← datum v).checkQuantity).under "quantity").toExcept
      let n ← copyQuantity v q
      writeQuantity r n
      return .null
    else if name = "owner" then throw (attributeDefect name .frozenField)
    else throw (attributeDefect name (.unknownField name))
  | .object (.settings r) =>
    let s := (← get).heap.settings.get r
    if name = "log_level" then
      writeSettings r { s with logLevel := v.toPlain }
      return .null
    else if name = "log_json" then
      writeSettings r { s with logJson := v.toPlain }
      return .null
    else throw (.refused (.unknownSetting name))
  | .object _ => throw (attributeDefect name .frozenInstance)
  | _ => throw .noAttribute

end Holdings.Ledger
