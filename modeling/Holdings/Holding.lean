/-
# Holdings

A holding is a quantity together with its owner.  Amounts of different owners are never combined
or put in order, even when they are of one token.
-/
import Holdings.Quantity
import Holdings.Identity
import Holdings.IssuedSymbol

namespace Holdings

/-- A quantity and the identity that it belongs to. -/
structure Holding where
  quantity : Quantity
  owner : Identity
  deriving DecidableEq, Repr, Inhabited

namespace Holding

/-- The holding of an empty quantity by the identity zero. -/
def empty : Holding := ⟨Quantity.empty, ⟨0⟩⟩

/-- The symbol of the quantity, as issued by the owner. -/
def issuedSymbol (h : Holding) : IssuedSymbol := ⟨h.quantity.symbol, h.owner⟩

end Holding

end Holdings
