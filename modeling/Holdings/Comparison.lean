/-
# Comparisons

The six ways to compare two amounts, and what each says about integers.
-/
namespace Holdings

/-- The six comparisons. -/
inductive Comparison where
  | eq
  | ne
  | lt
  | le
  | gt
  | ge
  deriving DecidableEq, Repr, Inhabited

namespace Comparison

/-- Whether two integers compare so. -/
def holds : Comparison → Int → Int → Bool
  | eq, a, b => a == b
  | ne, a, b => a != b
  | lt, a, b => a < b
  | le, a, b => a ≤ b
  | gt, a, b => b < a
  | ge, a, b => b ≤ a

/-- The comparison that holds with its operands exchanged. -/
def converse : Comparison → Comparison
  | eq => eq
  | ne => ne
  | lt => gt
  | le => ge
  | gt => lt
  | ge => le

/-- Whether two things whose order is known, or that have no order, compare so. -/
def ofOrdering (c : Comparison) : Option Ordering → Bool
  | some .lt => c.holds 0 1
  | some .eq => c.holds 0 0
  | some .gt => c.holds 1 0
  | none => false

theorem holds_converse (c : Comparison) (a b : Int) : c.converse.holds a b = c.holds b a := by
  cases c <;> simp [converse, holds, bne, BEq.comm (a := a)]

end Comparison

end Holdings
