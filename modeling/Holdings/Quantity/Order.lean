/-
# Order of quantities

Quantities are compared by amount, and only with quantities of the same symbol: not even the
question whether two are equal has an answer when their symbols differ.
-/
import Holdings.Comparison
import Holdings.Quantity.Arithmetic

namespace Holdings

/-- Whether two quantities of one symbol compare so. -/
def Quantity.compare (c : Comparison) (q r : Quantity) : Except Abort Bool := do
  q.requireSame r .compare
  return c.holds q.amount r.amount

end Holdings
