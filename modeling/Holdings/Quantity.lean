/-
# Quantities

A quantity is an amount of the smallest unit of a token, and the symbol of the token: 12345 of a
symbol with two fraction digits is 123.45.  Arithmetic is in `Quantity/Arithmetic.lean`, order in
`Quantity/Order.lean`.

The empty quantity has no valid symbol.  It can be held, shown and written to bytes, but not
combined with a quantity that has a symbol.
-/
import Holdings.Symbol

namespace Holdings

/-- An amount of a token. -/
structure Quantity where
  amount : Int
  symbol : Symbol
  deriving DecidableEq, Repr, Inhabited

namespace Quantity

/-- The quantity without a symbol. -/
def empty : Quantity := ⟨0, Symbol.null⟩

/-- Whether the amount is in range. -/
def inRange (q : Quantity) : Bool := Amount.inRange q.amount

/-- Whether the amount is in range and the symbol is valid. -/
def isValid (q : Quantity) : Bool := q.inRange && q.symbol.isValid

/-- What every quantity in use satisfies: its amount is in range, and its symbol is valid unless
it is the null symbol. -/
def Admissible (q : Quantity) : Prop :=
  Amount.inRange q.amount = true ∧ (q.symbol.isValid = true ∨ q.symbol = Symbol.null)

theorem admissible_empty : empty.Admissible := ⟨by decide, Or.inr rfl⟩

end Quantity

end Holdings
