/-
# Exact results or none

The outcome of each operation on quantities, written down without the operations: the exact integer,
or the first reason there is to refuse it (`exactSum`, `exactProduct`, `exactQuotient`, `exactRatio`).  The
operations of `Quantity/Arithmetic.lean` come to exactly that.

Two checks of the code never fire.  The amount is checked once more when it is put into the quantity, but a
checked result is in range already.  And a quotient of two words leaves the words only for the
smallest word, which is no amount; this is where the division needs that its dividend is in range.
-/
import Mathlib.Algebra.Group.Int.Defs
import Mathlib.Algebra.Group.Nat.Defs
import Holdings.Proofs.Outcome
import Holdings.Holding.Arithmetic

namespace Holdings

/-! ## 1. What should come out -/

/-- An exact result, if it is an amount, and else the side on which it lies. -/
def Amount.settle (op : Operation) (x : Int) : Except Fault Int :=
  if 2 ^ 62 - 1 < x then .error (.aborted (.overflow op))
  else if x < -(2 ^ 62 - 1) then .error (.aborted (.underflow op))
  else .ok x

theorem Amount.settle_eq_ok_iff {op : Operation} {x a : Int} :
    Amount.settle op x = .ok a ↔ Amount.inRange a = true ∧ a = x := by
  unfold Amount.settle
  rw [Amount.inRange_iff]
  unfold Amount.limit
  constructor
  · intro h
    split at h
    · cases h
    · split at h
      · cases h
      · cases h
        omega
  · rintro ⟨hr, rfl⟩
    rw [if_neg (by omega), if_neg (by omega)]

namespace Quantity

/-- Whether two quantities are of different symbols. -/
def Differs (q r : Quantity) : Prop :=
  q.symbol.code ≠ r.symbol.code ∨ q.symbol.precision ≠ r.symbol.precision

instance (q r : Quantity) : Decidable (q.Differs r) :=
  inferInstanceAs (Decidable (q.symbol.code ≠ r.symbol.code ∨ q.symbol.precision ≠ r.symbol.precision))

/-- The sum or the difference. -/
def exactSum (subtract : Bool) (q r : Quantity) : Except Fault Int :=
  if q.Differs r then .error (.aborted (.symbolMismatch (if subtract then .subtract else .add)))
  else if subtract then Amount.settle .subtraction (q.amount - r.amount)
  else Amount.settle .addition (q.amount + r.amount)

/-- The multiple by an integer, which must be a word. -/
def exactProduct (q : Quantity) (k : Int) : Except Fault Int :=
  if k < -2 ^ 63 ∨ 2 ^ 63 - 1 < k then .error (.refused (.wideScalar Scalar.defaultName k))
  else Amount.settle .multiplication (q.amount * k)

/-- The part by an integer, rounded toward zero. -/
def exactQuotient (q : Quantity) (k : Int) : Except Fault Int :=
  if k < -2 ^ 63 ∨ 2 ^ 63 - 1 < k then .error (.refused (.wideScalar Scalar.defaultName k))
  else if k = 0 then .error (.aborted .divideByZero)
  else .ok (q.amount.tdiv k)

/-- How often a quantity is contained in another, rounded toward zero; an empty divisor comes before a
wrong one. -/
def exactRatio (q r : Quantity) : Except Fault Int :=
  if r.amount = 0 then .error (.aborted .divideByZero)
  else if q.Differs r then .error (.aborted (.symbolMismatch .compare))
  else .ok (q.amount.tdiv r.amount)

/-- The quantity with an amount. -/
def withExact (q : Quantity) (a : Int) : Quantity := { q with amount := a }

end Quantity

/-! ## 2. The parts of an operation -/

/-- Quantities differ when their symbols do. -/
theorem Quantity.differs_iff {q r : Quantity} : q.Differs r ↔ r.symbol ≠ q.symbol := by
  unfold Quantity.Differs
  constructor
  · rintro hd hs
    rw [hs] at hd
    simp at hd
  · intro hs
    refine Decidable.by_contra fun hd => ?_
    obtain ⟨hc, hp⟩ := not_or.mp hd
    exact hs (congrArg₂ Symbol.mk (Decidable.not_not.mp hc).symm (Decidable.not_not.mp hp).symm)

theorem Quantity.requireSame_eq (q r : Quantity) (p : Pairing) :
    q.requireSame r p = if q.Differs r then .error (.symbolMismatch p) else .ok () := by
  unfold Quantity.requireSame Abort.require
  by_cases hd : q.Differs r
  · rw [if_pos hd, if_neg (by simpa using Quantity.differs_iff.mp hd)]
  · have hs : r.symbol = q.symbol := Decidable.not_not.mp (mt Quantity.differs_iff.mpr hd)
    rw [if_neg hd, if_pos (by simpa using hs)]

/-- A checked result that is put into a quantity is settled once; the second check lets it pass. -/
theorem Quantity.checkResult_withAmount (q : Quantity) (op : Operation) (x : Int) :
    liftAbort (Amount.checkResult op x >>= q.withAmount) = (Amount.settle op x).map q.withExact := by
  rw [Amount.checkResult_eq]
  unfold Amount.settle Amount.limit
  by_cases h₁ : x < -4611686018427387903
  · rw [if_pos h₁, if_neg (by omega), if_pos (by omega)]
    rfl
  · rw [if_neg h₁]
    by_cases h₂ : 4611686018427387903 < x
    · rw [if_pos h₂, if_pos (by omega)]
      rfl
    · rw [if_neg h₂, if_neg (by omega), if_neg (by omega)]
      have hr : Amount.inRange x = true := by
        rw [Amount.inRange_iff, Amount.limit]
        omega
      show liftAbort (q.withAmount x) = .ok (q.withExact x)
      rw [Quantity.withAmount_eq, if_pos hr]
      rfl

theorem Scalar.check_eq (name : String) (k : Int) :
    Scalar.check name k =
      if k < -2 ^ 63 ∨ 2 ^ 63 - 1 < k then .error (.refused (.wideScalar name k)) else .ok k := by
  unfold Scalar.check
  by_cases h : Amount.isWord k = true
  · have hw := Amount.isWord_iff.mp h
    unfold Amount.wordMin Amount.wordMax at hw
    rw [if_pos h, if_neg (by omega)]
  · have hw : ¬ (Amount.wordMin ≤ k ∧ k ≤ Amount.wordMax) := fun he => h (Amount.isWord_iff.mpr he)
    unfold Amount.wordMin Amount.wordMax at hw
    rw [if_neg h, if_pos (by omega)]

/-- What refuses an integer that is no word refuses it for the reason that the check gives. -/
theorem Scalar.refused_of_check {α : Type} {name : String} {k : Int} {f : Fault}
    (h : Scalar.check name k = .error f) (e : Except Fault α) :
    (if k < -2 ^ 63 ∨ 2 ^ 63 - 1 < k then .error (.refused (.wideScalar name k)) else e) =
      .error f := by
  rw [Scalar.check_eq] at h
  split at h
  · rename_i hw
    rw [if_pos hw]
    exact congrArg Except.error (Except.error.inj h)
  · cases h

theorem Amount.inRange_iff_natAbs {a : Int} : Amount.inRange a = true ↔ ¬ 2 ^ 62 - 1 < a.natAbs := by
  rw [Amount.inRange_iff]
  unfold Amount.limit
  omega

/-- A quotient is no larger than its dividend, so it is in range with it. -/
theorem Amount.inRange_tdiv {a : Int} (h : Amount.inRange a = true) (k : Int) :
    Amount.inRange (a.tdiv k) = true := by
  have hle := Int.natAbs_tdiv_le_natAbs a k
  rw [Amount.inRange_iff] at h ⊢
  omega

/-! ## 3. The operations -/

namespace Quantity

/-- **Sums** are exact or refused. -/
theorem add_eq_exactSum (q r : Quantity) :
    liftAbort (q.add r) = (exactSum false q r).map q.withExact := by
  unfold add exactSum
  rw [requireSame_eq]
  by_cases hd : q.Differs r
  · rw [if_pos hd, if_pos hd]
    rfl
  · rw [if_neg hd, if_neg hd, if_neg Bool.false_ne_true]
    exact checkResult_withAmount q .addition (q.amount + r.amount)

/-- **Differences** are exact or refused. -/
theorem sub_eq_exactSum (q r : Quantity) :
    liftAbort (q.sub r) = (exactSum true q r).map q.withExact := by
  unfold sub exactSum
  rw [requireSame_eq]
  by_cases hd : q.Differs r
  · rw [if_pos hd, if_pos hd]
    rfl
  · rw [if_neg hd, if_neg hd, if_pos rfl]
    exact checkResult_withAmount q .subtraction (q.amount - r.amount)

/-- **Multiples** are exact or refused. -/
theorem mul_eq_exactProduct (q : Quantity) (k : Int) :
    q.mul k = (exactProduct q k).map q.withExact := by
  unfold mul exactProduct
  rw [Scalar.check_eq]
  by_cases hk : k < -2 ^ 63 ∨ 2 ^ 63 - 1 < k
  · rw [if_pos hk, if_pos hk]
    rfl
  · rw [if_neg hk, if_neg hk]
    exact checkResult_withAmount q .multiplication (q.amount * k)

/-- **Parts** are exact or refused.  The dividend must be in range, or the smallest word divided by minus
one would be refused as well. -/
theorem div_eq_exactQuotient {q : Quantity} (h : Amount.inRange q.amount = true) (k : Int) :
    q.div k = (exactQuotient q k).map q.withExact := by
  unfold div exactQuotient
  rw [Scalar.check_eq]
  by_cases hk : k < -2 ^ 63 ∨ 2 ^ 63 - 1 < k
  · rw [if_pos hk, if_pos hk]
    rfl
  · rw [if_neg hk, if_neg hk]
    by_cases h₀ : k = 0
    · rw [if_pos h₀, h₀]
      rfl
    · have hmin : ¬ q.amount = Amount.wordMin := by
        intro he
        rw [he] at h
        exact absurd h (by decide)
      have hdiv : Amount.div q.amount k = .ok (q.amount.tdiv k) := by
        unfold Amount.div Abort.require
        rw [if_pos (by simpa using h₀), if_pos (by simp [hmin]), Amount.truncDiv_eq_tdiv]
        rfl
      rw [if_neg h₀]
      show liftAbort (Amount.div q.amount k >>= q.withAmount) = .ok (q.withExact (q.amount.tdiv k))
      rw [hdiv]
      show liftAbort (q.withAmount (q.amount.tdiv k)) = _
      rw [withAmount_eq, if_pos (Amount.inRange_tdiv h k)]
      rfl

/-- **Ratios** are exact or refused. -/
theorem ratio_eq_exactRatio (q r : Quantity) : liftAbort (q.ratio r) = exactRatio q r := by
  unfold ratio exactRatio
  rw [requireSame_eq]
  by_cases h₀ : r.amount = 0
  · rw [if_pos h₀, h₀]
    rfl
  · have hne : (r.amount != 0) = true := by simpa using h₀
    rw [if_neg h₀, hne]
    by_cases hd : q.Differs r
    · rw [if_pos hd, if_pos hd]
      rfl
    · rw [if_neg hd, if_neg hd, Amount.truncDiv_eq_tdiv]
      rfl

/-- **Negation** cannot fail: the range is symmetric. -/
theorem Admissible.neg {q : Quantity} (h : q.Admissible) : q.neg = .ok (q.withExact (-q.amount)) := by
  have hr : Amount.inRange (-q.amount) = true := by
    rw [Amount.inRange_neg]
    exact h.1
  unfold Quantity.neg
  rw [withAmount_eq, if_pos hr]
  rfl

/-- A sum that is not refused is exact, and of one symbol. -/
theorem exactSum_eq_ok_iff {subtract : Bool} {q r : Quantity} {a : Int} :
    exactSum subtract q r = .ok a ↔ r.symbol = q.symbol ∧ Amount.inRange a = true ∧
      a = if subtract then q.amount - r.amount else q.amount + r.amount := by
  unfold exactSum
  by_cases hd : q.Differs r
  · have hs := differs_iff.mp hd
    simp [if_pos hd, hs]
  · have hs : r.symbol = q.symbol := Decidable.not_not.mp (mt differs_iff.mpr hd)
    rw [if_neg hd]
    cases subtract with
    | false => simp [Amount.settle_eq_ok_iff, hs]
    | true => simp [Amount.settle_eq_ok_iff, hs]

/-- A multiple that is not refused is an amount. -/
theorem inRange_of_exactProduct {q : Quantity} {k a : Int} (h : exactProduct q k = .ok a) :
    Amount.inRange a = true := by
  unfold exactProduct at h
  split at h
  · cases h
  · exact (Amount.settle_eq_ok_iff.mp h).1

/-- A part of an amount is an amount. -/
theorem inRange_of_exactQuotient {q : Quantity} {k a : Int} (hq : Amount.inRange q.amount = true)
    (h : exactQuotient q k = .ok a) : Amount.inRange a = true := by
  unfold exactQuotient at h
  split at h
  · cases h
  · split at h
    · cases h
    · cases h
      exact Amount.inRange_tdiv hq k

end Quantity

/-! ## 4. Holdings

Holdings are added and subtracted as their quantities are, once their owners have been found equal. -/

namespace Holding

/-- The sum or the difference; different owners come before different symbols. -/
def exactSum (subtract : Bool) (h k : Holding) : Except Fault Int :=
  if h.owner = k.owner then h.quantity.exactSum subtract k.quantity
  else .error (.aborted .ownerMismatch)

/-- The holding with an amount. -/
def withExact (h : Holding) (a : Int) : Holding := { h with quantity := h.quantity.withExact a }

theorem exactSum_eq_ok_iff {subtract : Bool} {h k : Holding} {a : Int} :
    exactSum subtract h k = .ok a ↔ (h.owner = k.owner ∧ k.quantity.symbol = h.quantity.symbol) ∧
      Amount.inRange a = true ∧ a = if subtract then h.quantity.amount - k.quantity.amount
        else h.quantity.amount + k.quantity.amount := by
  unfold exactSum
  by_cases ho : h.owner = k.owner
  · rw [if_pos ho, Quantity.exactSum_eq_ok_iff]
    simp [ho]
  · simp [ho]

theorem requireSame_eq (h k : Holding) :
    h.requireSame k = if h.owner = k.owner then .ok () else .error .ownerMismatch := by
  unfold requireSame Abort.require
  by_cases ho : h.owner = k.owner
  · rw [if_pos (by simpa using ho), if_pos ho]
  · rw [if_neg (by simpa using ho), if_neg ho]

/-- A holding has the exact amount that its quantity has. -/
theorem map_withExact {h : Holding} {x : Except Abort Quantity} {e : Except Fault Int}
    (hx : liftAbort x = e.map h.quantity.withExact) :
    liftAbort (x >>= fun q => pure { h with quantity := q }) = e.map h.withExact := by
  cases e with
  | ok a =>
    rw [liftAbort_eq_ok_iff.mp hx]
    rfl
  | error f =>
    cases x with
    | ok q => cases hx
    | error g =>
      cases hx
      rfl

theorem add_eq_exactSum (h k : Holding) :
    liftAbort (h.add k) = (exactSum false h k).map h.withExact := by
  unfold add exactSum
  rw [requireSame_eq]
  by_cases ho : h.owner = k.owner
  · rw [if_pos ho, if_pos ho]
    exact map_withExact (h.quantity.add_eq_exactSum k.quantity)
  · rw [if_neg ho, if_neg ho]
    rfl

theorem sub_eq_exactSum (h k : Holding) :
    liftAbort (h.sub k) = (exactSum true h k).map h.withExact := by
  unfold sub exactSum
  rw [requireSame_eq]
  by_cases ho : h.owner = k.owner
  · rw [if_pos ho, if_pos ho]
    exact map_withExact (h.quantity.sub_eq_exactSum k.quantity)
  · rw [if_neg ho, if_neg ho]
    rfl

end Holding

end Holdings
