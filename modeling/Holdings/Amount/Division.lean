/-
# Division toward zero

The quotient of two integers, its remainder dropped: the magnitudes are divided, and the quotient
is negative when exactly one of the two numbers is.  `truncDiv_eq_tdiv` ties it to the
quotient of the library, whose laws then apply.
-/
namespace Holdings.Amount

/-- The quotient rounded toward zero; zero when the divisor is zero. -/
def truncDiv (n d : Int) : Int :=
  let q : Int := (n.natAbs / d.natAbs : Nat)
  if decide (n < 0) != decide (d < 0) then -q else q

/-- The quotient rounded toward zero, if there is one. -/
def truncDiv? (n d : Int) : Option Int := if d = 0 then none else some (truncDiv n d)

theorem truncDiv_eq_tdiv (n d : Int) : truncDiv n d = n.tdiv d := by
  unfold truncDiv
  rcases Int.natAbs_eq n with hn | hn <;> rcases Int.natAbs_eq d with hd | hd <;>
    generalize n.natAbs = a at * <;> generalize d.natAbs = b at * <;> subst hn <;> subst hd
  · have ha : ¬ (a : Int) < 0 := by omega
    have hb : ¬ (b : Int) < 0 := by omega
    simp [ha, hb]
  · rcases Nat.eq_zero_or_pos b with rfl | hb
    · simp
    · have : ¬ (a : Int) < 0 := by omega
      simp [this, hb, Int.tdiv_neg]
  · rcases Nat.eq_zero_or_pos a with rfl | ha
    · simp
    · have : ¬ (b : Int) < 0 := by omega
      simp [this, ha, Int.neg_tdiv]
  · rcases Nat.eq_zero_or_pos b with rfl | hb
    · simp
    · rcases Nat.eq_zero_or_pos a with rfl | ha
      · simp
      · simp [ha, hb, Int.neg_tdiv, Int.tdiv_neg]

end Holdings.Amount
