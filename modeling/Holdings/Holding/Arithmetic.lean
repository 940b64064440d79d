/-
# Arithmetic and order of holdings

Holdings are added, subtracted and put in order as their quantities are, after their owners have
been found equal.  Equality is asked differently: the quantities are compared first, so different
symbols have no answer, and different owners merely make two holdings unequal.
-/
import Holdings.Quantity.Order

namespace Holdings.Holding

/-! ## 1. Operations -/

/-- Stops unless two holdings have the same owner. -/
def requireSame (h k : Holding) : Except Abort Unit :=
  Abort.require (h.owner == k.owner) .ownerMismatch

/-- The sum of two holdings of one owner. -/
def add (h k : Holding) : Except Abort Holding := do
  h.requireSame k
  return { h with quantity := ← h.quantity.add k.quantity }

/-- The difference of two holdings of one owner. -/
def sub (h k : Holding) : Except Abort Holding := do
  h.requireSame k
  return { h with quantity := ← h.quantity.sub k.quantity }

/-- The holding with the opposite sign. -/
def neg (h : Holding) : Except Abort Holding :=
  h.quantity.neg.map fun q => { h with quantity := q }

/-! ## 2. Order -/

/-- Whether two holdings have equal quantities of one symbol, and one owner. -/
def equal (h k : Holding) : Except Abort Bool := do
  return (← h.quantity.compare .eq k.quantity) && h.owner == k.owner

/-- Whether two holdings compare so. -/
def compare (c : Comparison) (h k : Holding) : Except Abort Bool :=
  match c with
  | .eq => h.equal k
  | .ne => (h.equal k).map (!·)
  | c => do
    h.requireSame k
    h.quantity.compare c k.quantity

/-! ## 3. Text -/

/-- The text of the quantity and the owner, with the separator between. -/
def text (h : Holding) : Except Fault String :=
  h.quantity.text.map fun s => s ++ IssuedSymbol.separator ++ h.owner.text

end Holdings.Holding
