/-
# Scalars

Multipliers and divisors are integers that fit a signed 64-bit word.  A truth value is no integer
here.  The refusal tells which of the two is wrong.
-/
import Holdings.Fault

namespace Holdings.Scalar

/-- The name of a scalar when the caller gives none. -/
def defaultName : String := "scalar"

/-- Passes an integer that fits a word. -/
def check (name : String) (k : Int) : Except Fault Int :=
  if Amount.isWord k then .ok k else .error (.refused (.wideScalar name k))

/-- The integer of a value that is one. -/
def ofDatum (name : String) : Datum → Except Fault Int
  | .int k => check name k
  | v => .error (.notScalar name v.kindName)

theorem check_eq_ok_iff {name : String} {k j : Int} :
    check name k = .ok j ↔ Amount.isWord k = true ∧ k = j := by
  unfold check
  split <;> simp [*]

end Holdings.Scalar
