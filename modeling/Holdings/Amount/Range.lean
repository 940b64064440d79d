/-
# The range of amounts

An amount is a whole number of the smallest unit of a token.  Amounts lie symmetrically around
zero, within `limit`, so negation never leaves the range, and the sum of two amounts fits a
signed 64-bit word.  Multipliers and divisors are such words.
-/
namespace Holdings.Amount

/-! ## 1. Bounds -/

/-- The largest magnitude of an amount. -/
def limit : Int := 4611686018427387903

/-- The smallest signed 64-bit word. -/
def wordMin : Int := -9223372036854775808

/-- The largest signed 64-bit word. -/
def wordMax : Int := 9223372036854775807

/-- The largest number of fraction digits that a valid symbol may have. -/
def maxPrecision : Nat := 18

example : limit = 2 ^ 62 - 1 ∧ wordMin = -2 ^ 63 ∧ wordMax = 2 ^ 63 - 1 := by decide

/-! ## 2. Membership -/

/-- Whether a number is an amount. -/
def inRange (a : Int) : Bool := -limit ≤ a && a ≤ limit

/-- Whether a number fits a signed 64-bit word. -/
def isWord (n : Int) : Bool := wordMin ≤ n && n ≤ wordMax

theorem inRange_iff {a : Int} : inRange a = true ↔ -limit ≤ a ∧ a ≤ limit := by
  simp [inRange]

theorem isWord_iff {n : Int} : isWord n = true ↔ wordMin ≤ n ∧ n ≤ wordMax := by
  simp [isWord]

theorem inRange_neg {a : Int} : inRange (-a) = inRange a := by
  rw [Bool.eq_iff_iff, inRange_iff, inRange_iff]
  omega

theorem isWord_of_inRange {a : Int} (h : inRange a = true) : isWord a = true := by
  rw [inRange_iff] at h
  rw [isWord_iff]
  unfold limit at h
  unfold wordMin wordMax
  omega

end Holdings.Amount
