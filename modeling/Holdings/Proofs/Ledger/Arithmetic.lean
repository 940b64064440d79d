/-
# Arithmetic in a script

Every operation on quantities can be asked for in several forms: as a binary operator, in place, and by a
method.  Here each form is one equation for its run in a reachable world.  All forms of an operation
compute the same exact amount or refuse it for the same reason (`Proofs/Exact.lean`); they differ in
where the amount is put.

* A binary operator puts it into a new quantity with the symbol object of the left one (`newResult`).
* The forms in place put it into the left quantity itself and give that back (`sameResult`).
* The ratio of two quantities is a plain integer, also in place (`plainResult`).

A refusal is reported and changes nothing.  Both operands may be the same quantity, and either may be
empty.
-/
import Holdings.Proofs.Exact
import Holdings.Proofs.Ledger.Running

namespace Holdings.Ledger

open Act

/-! ## 1. Where the amount is put -/

/-- A run that is refused: the reason is reported, and that is all. -/
def refusal (w : World) (f : Fault) : EStateM.Result Fault World Item :=
  .error f (withEvents w (reports f))

/-- The amount as a new quantity with the symbol of another. -/
def newResult (w : World) (r : Nat) : Except Fault Int → EStateM.Result Fault World Item
  | .ok a => .ok (.object (.quantity w.heap.quantities.next)) (w.withHeap
      (w.heap.withQuantity { w.heap.quantities.get r with amount := a } w.heap.nextTag))
  | .error f => refusal w f

/-- The amount as that of a quantity that was there. -/
def sameResult (w : World) (r : Nat) : Except Fault Int → EStateM.Result Fault World Item
  | .ok a => .ok (.object (.quantity r)) (w.withHeap (w.heap.setAmount r a))
  | .error f => refusal w f

/-- The amount as a plain integer. -/
def plainResult (w : World) : Except Fault Int → EStateM.Result Fault World Item
  | .ok n => .ok (.int n) w
  | .error f => refusal w f

section Forms

variable {w : World} {r : Nat} {x : Except Fault Quantity} {e : Except Fault Int}

theorem perform_newLike (h : x = e.map (w.heap.quantity r).withExact) :
    (perform x >>= fun q => newLike r q) w = newResult w r e := by
  rw [h]
  cases e with
  | ok a => rfl
  | error f => exact bind_of_error (perform_error f w)

theorem perform_assign (h : x = e.map (w.heap.quantity r).withExact) :
    (perform x >>= fun q => assign r q) w = sameResult w r e := by
  rw [h]
  cases e with
  | ok a => rfl
  | error f => exact bind_of_error (perform_error f w)

theorem perform_int (e : Except Fault Int) (w : World) :
    (perform e >>= fun n => pure (.int n) : Act Item) w = plainResult w e := by
  cases e with
  | ok a => rfl
  | error f => exact bind_of_error (perform_error f w)

end Forms

/-! ## 2. Sums and differences -/

theorem combine_eq_exactSum (subtract : Bool) (q r : Quantity) :
    liftAbort (combine subtract q r) = (q.exactSum subtract r).map q.withExact := by
  cases subtract with
  | false => exact q.add_eq_exactSum r
  | true => exact q.sub_eq_exactSum r

theorem combineHoldings_eq_exactSum (subtract : Bool) (h k : Holding) :
    liftAbort (combineHoldings subtract h k) = (h.exactSum subtract k).map h.withExact := by
  cases subtract with
  | false => exact h.add_eq_exactSum k
  | true => exact h.sub_eq_exactSum k

/-- All forms of sum and difference have the exact outcome. -/
structure SumsExact (w : World) (r s : Nat) : Prop where
  add : operate .add (.object (.quantity r)) (.object (.quantity s)) w =
    newResult w r ((w.heap.quantity r).exactSum false (w.heap.quantity s))
  sub : operate .sub (.object (.quantity r)) (.object (.quantity s)) w =
    newResult w r ((w.heap.quantity r).exactSum true (w.heap.quantity s))
  addInPlace : operateInPlace .add (.object (.quantity r)) (.object (.quantity s)) w =
    sameResult w r ((w.heap.quantity r).exactSum false (w.heap.quantity s))
  subInPlace : operateInPlace .sub (.object (.quantity r)) (.object (.quantity s)) w =
    sameResult w r ((w.heap.quantity r).exactSum true (w.heap.quantity s))
  addAssign : callMethod (.object (.quantity r)) .addAssign [.object (.quantity s)] w =
    sameResult w r ((w.heap.quantity r).exactSum false (w.heap.quantity s))
  subAssign : callMethod (.object (.quantity r)) .subAssign [.object (.quantity s)] w =
    sameResult w r ((w.heap.quantity r).exactSum true (w.heap.quantity s))

theorem sumsExact (w : World) (r s : Nat) : SumsExact w r s := by
  have hadd := (w.heap.quantity r).add_eq_exactSum (w.heap.quantity s)
  have hsub := (w.heap.quantity r).sub_eq_exactSum (w.heap.quantity s)
  exact {
    add := perform_newLike hadd
    sub := perform_newLike hsub
    addInPlace := perform_assign hadd
    subInPlace := perform_assign hsub
    addAssign := perform_assign hadd
    subAssign := perform_assign hsub }

/-! ## 3. Multiples -/

/-- All forms of the multiple by an integer have the exact outcome.  In place the integer on the left has
no form of its own, so it gives a new quantity. -/
structure ProductsExact (w : World) (r : Nat) (k : Int) : Prop where
  mul : operate .mul (.object (.quantity r)) (.int k) w =
    newResult w r ((w.heap.quantity r).exactProduct k)
  mulLeft : operate .mul (.int k) (.object (.quantity r)) w =
    newResult w r ((w.heap.quantity r).exactProduct k)
  mulInPlace : operateInPlace .mul (.object (.quantity r)) (.int k) w =
    sameResult w r ((w.heap.quantity r).exactProduct k)
  mulLeftInPlace : operateInPlace .mul (.int k) (.object (.quantity r)) w =
    newResult w r ((w.heap.quantity r).exactProduct k)
  mulAssign : callMethod (.object (.quantity r)) .mulAssign [.int k] w =
    sameResult w r ((w.heap.quantity r).exactProduct k)

/-- The method checks the integer itself before the operation does, and refuses it for the same reason. -/
theorem rescaleAssign_run {w : World} {r : Nat} {divide : Bool} {k : Int} {e : Except Fault Int}
    (h : rescale divide (w.heap.quantity r) k = e.map (w.heap.quantity r).withExact)
    (hk : ∀ f, Scalar.check Scalar.defaultName k = .error f → e = .error f) :
    rescaleAssign divide r (.int k) w = sameResult w r e := by
  have hrun : rescaleAssign divide r (.int k) w =
      (perform (Scalar.check Scalar.defaultName k) >>= fun k => quantity r >>= fun q =>
        perform (rescale divide q k) >>= fun q => assign r q) w := rfl
  rw [hrun]
  cases hc : Scalar.check Scalar.defaultName k with
  | ok j =>
    obtain ⟨-, rfl⟩ := Scalar.check_eq_ok_iff.mp hc
    exact perform_assign h
  | error f =>
    rw [hk f hc]
    exact bind_of_error (perform_error f w)

theorem productsExact (w : World) (r : Nat) (k : Int) : ProductsExact w r k := by
  have hmul := (w.heap.quantity r).mul_eq_exactProduct k
  have hk : ∀ f, Scalar.check Scalar.defaultName k = .error f →
      (w.heap.quantity r).exactProduct k = .error f := fun _ hf => Scalar.refused_of_check hf _
  exact {
    mul := perform_newLike hmul
    mulLeft := perform_newLike hmul
    mulInPlace := perform_assign hmul
    mulLeftInPlace := perform_newLike hmul
    mulAssign := rescaleAssign_run hmul hk }

/-! ## 4. Parts -/

/-- All forms of the part by an integer have the exact outcome. -/
structure QuotientsExact (w : World) (r : Nat) (k : Int) : Prop where
  div : operate .div (.object (.quantity r)) (.int k) w =
    newResult w r ((w.heap.quantity r).exactQuotient k)
  floorDiv : operate .floorDiv (.object (.quantity r)) (.int k) w =
    newResult w r ((w.heap.quantity r).exactQuotient k)
  divInPlace : operateInPlace .div (.object (.quantity r)) (.int k) w =
    sameResult w r ((w.heap.quantity r).exactQuotient k)
  floorDivInPlace : operateInPlace .floorDiv (.object (.quantity r)) (.int k) w =
    sameResult w r ((w.heap.quantity r).exactQuotient k)
  divAssign : callMethod (.object (.quantity r)) .divAssign [.int k] w =
    sameResult w r ((w.heap.quantity r).exactQuotient k)

theorem quotientsExact {w : World} (hw : w.Sound) (r : Nat) (k : Int) : QuotientsExact w r k := by
  have hdiv := Quantity.div_eq_exactQuotient (hw.heap.quantity r).1 k
  have hk : ∀ f, Scalar.check Scalar.defaultName k = .error f →
      (w.heap.quantity r).exactQuotient k = .error f := fun _ hf => Scalar.refused_of_check hf _
  exact {
    div := perform_newLike hdiv
    floorDiv := perform_newLike hdiv
    divInPlace := perform_assign hdiv
    floorDivInPlace := perform_assign hdiv
    divAssign := rescaleAssign_run hdiv hk }

/-! ## 5. Ratios -/

/-- All forms of the ratio of two quantities have the exact outcome; there is none in place, and the
in-place operators give the plain integer too. -/
structure RatiosExact (w : World) (r s : Nat) : Prop where
  div : operate .div (.object (.quantity r)) (.object (.quantity s)) w =
    plainResult w ((w.heap.quantity r).exactRatio (w.heap.quantity s))
  floorDiv : operate .floorDiv (.object (.quantity r)) (.object (.quantity s)) w =
    plainResult w ((w.heap.quantity r).exactRatio (w.heap.quantity s))
  divInPlace : operateInPlace .div (.object (.quantity r)) (.object (.quantity s)) w =
    plainResult w ((w.heap.quantity r).exactRatio (w.heap.quantity s))
  floorDivInPlace : operateInPlace .floorDiv (.object (.quantity r)) (.object (.quantity s)) w =
    plainResult w ((w.heap.quantity r).exactRatio (w.heap.quantity s))
  divide : callMethod (.object (.quantity r)) .divide [.object (.quantity s)] w =
    plainResult w ((w.heap.quantity r).exactRatio (w.heap.quantity s))

theorem ratiosExact (w : World) (r s : Nat) : RatiosExact w r s := by
  have h : (performAbort ((w.heap.quantity r).ratio (w.heap.quantity s)) >>=
      fun n => pure (.int n) : Act Item) w =
        plainResult w ((w.heap.quantity r).exactRatio (w.heap.quantity s)) := by
    unfold performAbort
    rw [Quantity.ratio_eq_exactRatio]
    exact perform_int _ w
  exact { div := h, floorDiv := h, divInPlace := h, floorDivInPlace := h, divide := h }

/-! ## 6. Reachable worlds -/

/-- **Arithmetic is exact or refused**, in every reachable world, for all its quantities and every
integer, in every form. -/
theorem arithmetic_exact (steps : List Step) (r s : Nat) (k : Int) :
    SumsExact (World.initial.after steps) r s ∧ ProductsExact (World.initial.after steps) r k ∧
      QuotientsExact (World.initial.after steps) r k ∧
      RatiosExact (World.initial.after steps) r s :=
  ⟨sumsExact _ r s, productsExact _ r k, quotientsExact (World.sound_initial.after steps) r k,
    ratiosExact _ r s⟩

end Holdings.Ledger
