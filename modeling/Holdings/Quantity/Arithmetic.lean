/-
# Arithmetic of quantities

Quantities of one symbol are added and subtracted; a quantity is multiplied and divided by a
scalar, or divided by a quantity of the same symbol, which leaves a plain number.  Results are exact
or refused.  The symbols are compared before the amounts are combined, except that a zero
divisor is refused before its symbol is looked at.

The new amount is checked once more when it is put into the quantity (`withAmount`), as every
amount is that is set on its own.
-/
import Holdings.Amount.Checked
import Holdings.Amount.Scalar
import Holdings.Amount.Text

namespace Holdings.Quantity

/-! ## 1. Setting the amount -/

/-- The quantity with another amount, which must be in range. -/
def withAmount (q : Quantity) (a : Int) : Except Abort Quantity :=
  (Amount.check a).map fun a => { q with amount := a }

theorem withAmount_eq (q : Quantity) (a : Int) :
    q.withAmount a = if Amount.inRange a then .ok { q with amount := a } else .error .outOfRange := by
  unfold withAmount
  rw [Amount.check_eq]
  split <;> rfl

/-- Stops unless two quantities have the same symbol. -/
def requireSame (q r : Quantity) (pairing : Pairing) : Except Abort Unit :=
  Abort.require (r.symbol == q.symbol) (.symbolMismatch pairing)

/-! ## 2. Operations -/

/-- The sum of two quantities of one symbol. -/
def add (q r : Quantity) : Except Abort Quantity := do
  q.requireSame r .add
  q.withAmount (← Amount.add q.amount r.amount)

/-- The difference of two quantities of one symbol. -/
def sub (q r : Quantity) : Except Abort Quantity := do
  q.requireSame r .subtract
  q.withAmount (← Amount.sub q.amount r.amount)

/-- A multiple of a quantity by a scalar. -/
def mul (q : Quantity) (k : Int) : Except Fault Quantity := do
  let k ← Scalar.check Scalar.defaultName k
  liftAbort (Amount.mul q.amount k >>= q.withAmount)

/-- A quantity divided by a scalar, rounded toward zero. -/
def div (q : Quantity) (k : Int) : Except Fault Quantity := do
  let k ← Scalar.check Scalar.defaultName k
  liftAbort (Amount.div q.amount k >>= q.withAmount)

/-- How often a quantity of the same symbol is contained, rounded toward zero. -/
def ratio (q r : Quantity) : Except Abort Int := do
  Abort.require (r.amount != 0) .divideByZero
  q.requireSame r .compare
  return Amount.truncDiv q.amount r.amount

/-- The quantity with the opposite sign. -/
def neg (q : Quantity) : Except Abort Quantity := q.withAmount (-q.amount)

/-! ## 3. Text -/

/-- The amount in decimal and the code of the symbol. -/
def text (q : Quantity) : Except Fault String :=
  Amount.text q.amount q.symbol.precision.toNat q.symbol.code

end Holdings.Quantity
