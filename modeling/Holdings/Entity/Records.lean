/-
# Entities as plain data

Quantities and holdings are written as nested dictionaries and read back from them.  Reading first
holds the data against its contract, and only data without a violation is turned into an entity.
-/
import Holdings.Contract.Forms
import Holdings.Entity.Fields

namespace Holdings

variable {ω : Type}

/-- A symbol as plain data. -/
def Symbol.toValue (s : Symbol) : Value ω :=
  .dict [("code", .text s.code), ("precision", .int s.precision.toNat)]

/-- An identity as plain data. -/
def Identity.toValue (i : Identity) : Value ω := .dict [("value", .int i.value.toNat)]

/-- A quantity as plain data. -/
def Quantity.toValue (q : Quantity) : Value ω :=
  .dict [("amount", .int q.amount), ("symbol", q.symbol.toValue)]

/-- A holding as plain data. -/
def Holding.toValue (h : Holding) : Value ω :=
  .dict [("quantity", h.quantity.toValue), ("owner", h.owner.toValue)]

/-- The quantity that plain data stands for. -/
def Quantity.ofValue (v : Datum) : Except Fault Quantity := do
  Contract.quantityForm.check v
  v.checkQuantity.toExcept

/-- A holding or the fields of one. -/
def Datum.checkHolding : Datum → Verdict Holding
  | .object (.holding h) => .valid h
  | .dict fields => Holding.ofCall [] fields
  | _ => .defect (.notEntity .holding)

/-- The holding that plain data stands for. -/
def Holding.ofValue (v : Datum) : Except Fault Holding := do
  Contract.holdingForm.check v
  v.checkHolding.toExcept

end Holdings
