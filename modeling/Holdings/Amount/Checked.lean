/-
# Checked arithmetic

The result of every operation is computed exactly and then compared with the range of amounts,
so it is either the exact result or refused, with the side on which it would lie.  Operands may
be any integers.  Division rounds toward zero and cannot leave the range of its dividend;
only the smallest word divided by minus one has no quotient among the words.
-/
import Holdings.Amount.Division
import Holdings.Fault

namespace Holdings.Amount

/-! ## 1. Checks -/

/-- Passes an amount and stops at a number out of range. -/
def check (a : Int) : Except Abort Int := do
  Abort.require (inRange a) .outOfRange
  return a

/-- Passes an exact result in range and tells on which side another one lies. -/
def checkResult (op : Operation) (x : Int) : Except Abort Int := do
  Abort.require (-limit ≤ x) (.underflow op)
  Abort.require (x ≤ limit) (.overflow op)
  return x

/-! ## 2. Operations -/

/-- The sum, if it is an amount. -/
def add (a b : Int) : Except Abort Int := checkResult .addition (a + b)

/-- The difference, if it is an amount. -/
def sub (a b : Int) : Except Abort Int := checkResult .subtraction (a - b)

/-- The product, if it is an amount. -/
def mul (a k : Int) : Except Abort Int := checkResult .multiplication (a * k)

/-- The quotient rounded toward zero; zero divides nothing. -/
def div (a k : Int) : Except Abort Int := do
  Abort.require (k != 0) .divideByZero
  Abort.require (!(a == wordMin && k == -1)) .quotientOverflow
  return truncDiv a k

/-! ## 3. When they succeed -/

theorem check_eq (a : Int) :
    check a = if inRange a then .ok a else .error .outOfRange := by
  unfold check Abort.require
  cases inRange a <;> rfl

theorem checkResult_eq (op : Operation) (x : Int) :
    checkResult op x =
      if x < -limit then .error (.underflow op)
      else if limit < x then .error (.overflow op)
      else .ok x := by
  unfold checkResult Abort.require
  by_cases h : x < -limit
  · have h' : ¬ -limit ≤ x := by omega
    simp only [h, h']
    rfl
  · have h' : -limit ≤ x := by omega
    by_cases g : limit < x
    · have g' : ¬ x ≤ limit := by omega
      simp only [h, h', g, g']
      rfl
    · have g' : x ≤ limit := by omega
      simp only [h, h', g, g']
      rfl

end Holdings.Amount
