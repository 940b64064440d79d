/-
# Calculations

A calculation is an expression over quantities of a world: negation, sums, differences, and multiples and parts
by integers, in any depth.  As an act it makes a new quantity for every operation and runs each one in the
world that the ones before have left (`Calculation.act`).  As a value it needs no world: it is computed
from the contents of its quantities by the exact outcomes of the operations (`Calculation.value`).

Both come to the same (`Calculation.outcome_act`).  Operations only add objects, so the quantities that a
calculation starts from, and the results that wait for their other operand, keep their content; and
what is calculated is in range at every step, which is what a part needs of its dividend.
-/
import Holdings.Proofs.Ledger.Arithmetic

namespace Holdings

/-- The quantity with the opposite amount. -/
def Quantity.opposite (q : Quantity) : Quantity := q.withExact (-q.amount)

namespace Ledger

open Act

/-! ## 1. Expressions -/

/-- An expression over the quantities of a world. -/
inductive Calculation where
  | given (place : Nat)
  | neg (e : Calculation)
  | add (e f : Calculation)
  | sub (e f : Calculation)
  | mul (e : Calculation) (k : Int)
  | div (e : Calculation) (k : Int)

namespace Calculation

/-- The quantities that the expression starts from are among the first `n`. -/
def Within (n : Nat) : Calculation → Prop
  | given r => r < n
  | neg e | mul e _ | div e _ => e.Within n
  | add e f | sub e f => e.Within n ∧ f.Within n

/-- Carrying the calculation out, with the operators. -/
def act : Calculation → Act Item
  | given r => pure (.object (.quantity r))
  | neg e => e.act >>= fun x => negate x
  | add e f => e.act >>= fun x => f.act >>= fun y => operate .add x y
  | sub e f => e.act >>= fun x => f.act >>= fun y => operate .sub x y
  | mul e k => e.act >>= fun x => operate .mul x (.int k)
  | div e k => e.act >>= fun x => operate .div x (.int k)

/-- The value of the calculation for given contents. -/
def value (contents : Nat → Quantity) : Calculation → Except Fault Quantity
  | given r => .ok (contents r)
  | neg e => e.value contents >>= fun q => .ok q.opposite
  | add e f => e.value contents >>= fun q => f.value contents >>= fun r =>
      (q.exactSum false r).map q.withExact
  | sub e f => e.value contents >>= fun q => f.value contents >>= fun r =>
      (q.exactSum true r).map q.withExact
  | mul e k => e.value contents >>= fun q => (q.exactProduct k).map q.withExact
  | div e k => e.value contents >>= fun q => (q.exactQuotient k).map q.withExact

end Calculation

/-! ## 2. Runs that come to a quantity -/

section Growing

variable {w w' : World} {n : Nat}

/-- A quantity keeps its content in a world that has grown. -/
theorem World.Grown.quantity_eq (hg : w.Grown w') {r : Nat} (hr : r < w.heap.quantities.next) :
    w'.heap.quantity r = w.heap.quantity r := by
  unfold Heap.quantity
  rw [Store.get_eq_of_isPrefix hg.heap.quantities hr]

theorem World.Grown.next_le (hg : w.Grown w') : w.heap.quantities.next ≤ w'.heap.quantities.next :=
  Store.next_le_of_isPrefix hg.heap.quantities

theorem Calculation.Within.mono {m : Nat} {e : Calculation} (h : e.Within n) (hm : n ≤ m) :
    e.Within m := by
  induction e with
  | given r => exact Nat.lt_of_lt_of_le h hm
  | neg e ih | mul e k ih | div e k ih => exact ih h
  | add e f ihe ihf | sub e f ihe ihf => exact ⟨ihe h.1, ihf h.2⟩

/-- The value of a calculation stays what it is in a world that has grown. -/
theorem Calculation.value_of_grown (hg : w.Grown w') {e : Calculation}
    (h : e.Within w.heap.quantities.next) : e.value w'.heap.quantity = e.value w.heap.quantity := by
  induction e with
  | given r => exact congrArg Except.ok (hg.quantity_eq h)
  | neg e ih | mul e k ih | div e k ih => simp only [Calculation.value, ih h]
  | add e f ihe ihf | sub e f ihe ihf => simp only [Calculation.value, ihe h.1, ihf h.2]

end Growing

namespace Act

variable {w : World} {x : Act Item} {f : Item → Act Item}

/-- The run gives a quantity with this content, or fails with this fault; in both cases it has only added
objects. -/
def Yields (x : Act Item) (w : World) : Except Fault Quantity → Prop
  | .ok q => ∃ r w', x w = .ok (.object (.quantity r)) w' ∧ w.Grown w' ∧
      r < w'.heap.quantities.next ∧ w'.heap.quantity r = q
  | .error g => ∃ w', x w = .error g w' ∧ w.Grown w'

theorem Yields.outcome_eq {e : Except Fault Quantity} (h : x.Yields w e) :
    x.outcome w = e.map fun q => .object (.quantity q) := by
  cases e with
  | ok q =>
    obtain ⟨r, w', hx, -, -, rfl⟩ := h
    rw [outcome_of_ok hx, Heap.datum_object]
    rfl
  | error g =>
    obtain ⟨w', hx, -⟩ := h
    exact outcome_of_error hx

/-- **Sequences.**  What follows a quantity may use its content, in a world that has only grown. -/
theorem yields_bind {e : Except Fault Quantity} {g : Quantity → Except Fault Quantity}
    (hx : x.Yields w e)
    (hf : ∀ r w', w.Grown w' → r < w'.heap.quantities.next →
      (f (.object (.quantity r))).Yields w' (g (w'.heap.quantity r))) :
    (x >>= f).Yields w (e >>= g) := by
  cases e with
  | error f' =>
    obtain ⟨w', hx, hg⟩ := hx
    exact ⟨w', bind_of_error hx, hg⟩
  | ok q =>
    obtain ⟨r, w', hx, hg, hr, rfl⟩ := hx
    have hnext := hf r w' hg hr
    show (x >>= f).Yields w (g (w'.heap.quantity r))
    cases hv : g (w'.heap.quantity r) with
    | ok p =>
      rw [hv] at hnext
      obtain ⟨s, w'', hs, hg', hlt, hp⟩ := hnext
      exact ⟨s, w'', (bind_of_ok hx).trans hs, hg.trans hg', hlt, hp⟩
    | error f' =>
      rw [hv] at hnext
      obtain ⟨w'', hs, hg'⟩ := hnext
      exact ⟨w'', (bind_of_ok hx).trans hs, hg.trans hg'⟩

/-- An amount in range that is put into a new quantity. -/
theorem yields_of_newResult (hw : w.Sound) {r : Nat} {e : Except Fault Int}
    (he : ∀ a, e = .ok a → Amount.inRange a = true) (hx : x w = newResult w r e) :
    x.Yields w (e.map (w.heap.quantity r).withExact) := by
  cases e with
  | error f => exact ⟨_, hx, grown_withEvents hw _⟩
  | ok a =>
    have hc : QuantityCell.value { w.heap.quantities.get r with amount := a } =
        (w.heap.quantity r).withExact a := rfl
    refine ⟨_, _, hx, hw.grown_withQuantity ?_ _, ?_, ?_⟩
    · exact ⟨he a rfl, (hw.heap.quantityCell r).2⟩
    · simp [World.withHeap, Heap.withQuantity]
    · exact (Heap.quantity_withQuantity _ _ _).trans hc

end Act

/-! ## 3. Operations on quantities -/

section Operations

variable {w : World} (hw : w.Sound) (r s : Nat) (k : Int)
include hw

theorem yields_negate :
    (negate (.object (.quantity r))).Yields w (.ok (w.heap.quantity r).opposite) := by
  have hq : (w.heap.quantity r).Admissible := hw.heap.quantity r
  have hr : Amount.inRange (-(w.heap.quantity r).amount) = true := by
    rw [Amount.inRange_neg]
    exact hq.1
  have hneg : liftAbort (w.heap.quantity r).neg =
      (Except.ok (-(w.heap.quantity r).amount)).map (w.heap.quantity r).withExact :=
    liftAbort_eq_ok_iff.mpr hq.neg
  refine yields_of_newResult hw (e := .ok (-(w.heap.quantity r).amount)) ?_ (perform_newLike hneg)
  rintro a ⟨⟩
  exact hr

theorem yields_add : (operate .add (.object (.quantity r)) (.object (.quantity s))).Yields w
    (((w.heap.quantity r).exactSum false (w.heap.quantity s)).map (w.heap.quantity r).withExact) :=
  yields_of_newResult hw (fun _ ha => (Quantity.exactSum_eq_ok_iff.mp ha).2.1) (sumsExact w r s).add

theorem yields_sub : (operate .sub (.object (.quantity r)) (.object (.quantity s))).Yields w
    (((w.heap.quantity r).exactSum true (w.heap.quantity s)).map (w.heap.quantity r).withExact) :=
  yields_of_newResult hw (fun _ ha => (Quantity.exactSum_eq_ok_iff.mp ha).2.1) (sumsExact w r s).sub

theorem yields_mul : (operate .mul (.object (.quantity r)) (.int k)).Yields w
    (((w.heap.quantity r).exactProduct k).map (w.heap.quantity r).withExact) :=
  yields_of_newResult hw (fun _ ha => Quantity.inRange_of_exactProduct ha) (productsExact w r k).mul

theorem yields_div : (operate .div (.object (.quantity r)) (.int k)).Yields w
    (((w.heap.quantity r).exactQuotient k).map (w.heap.quantity r).withExact) :=
  yields_of_newResult hw (fun _ ha => Quantity.inRange_of_exactQuotient (hw.heap.quantity r).1 ha)
    (quotientsExact hw r k).div

end Operations

/-! ## 4. Calculations come to their value -/

namespace Calculation

/-- An operation on two calculations: the second runs in the world that the first has left, and the first
result keeps its content meanwhile. -/
theorem yields_binary {op : BinaryOp} {e f : Calculation}
    {g : Quantity → Quantity → Except Fault Quantity}
    (hop : ∀ w : World, w.Sound → ∀ r s : Nat,
      (operate op (.object (.quantity r)) (.object (.quantity s))).Yields w
        (g (w.heap.quantity r) (w.heap.quantity s)))
    {w : World} (he : e.act.Yields w (e.value w.heap.quantity))
    (hf : ∀ w' : World, w.Grown w' → f.act.Yields w' (f.value w.heap.quantity)) :
    (e.act >>= fun x => f.act >>= fun y => operate op x y).Yields w
      (e.value w.heap.quantity >>= fun q => f.value w.heap.quantity >>= fun r => g q r) := by
  refine yields_bind he fun r w' hg hr => ?_
  refine yields_bind (hf w' hg) fun s w'' hg' _ => ?_
  rw [← hg'.quantity_eq hr]
  exact hop w'' hg'.sound r s

/-- **A calculation that is carried out comes to its value**, and only adds objects. -/
theorem act_yields {e : Calculation} : ∀ {w : World}, w.Sound → e.Within w.heap.quantities.next →
    e.act.Yields w (e.value w.heap.quantity) := by
  induction e with
  | given r =>
    intro w hw h
    exact ⟨r, w, rfl, World.Grown.refl hw, h, rfl⟩
  | neg e ih =>
    intro w hw h
    exact yields_bind (ih hw h) fun r w' hg _ => yields_negate hg.sound r
  | add e f ihe ihf =>
    intro w hw h
    refine yields_binary (fun w hw r s => yields_add hw r s) (ihe hw h.1) fun w' hg => ?_
    rw [← value_of_grown hg h.2]
    exact ihf hg.sound (h.2.mono hg.next_le)
  | sub e f ihe ihf =>
    intro w hw h
    refine yields_binary (fun w hw r s => yields_sub hw r s) (ihe hw h.1) fun w' hg => ?_
    rw [← value_of_grown hg h.2]
    exact ihf hg.sound (h.2.mono hg.next_le)
  | mul e k ih =>
    intro w hw h
    exact yields_bind (ih hw h) fun r w' hg _ => yields_mul hg.sound r k
  | div e k ih =>
    intro w hw h
    exact yields_bind (ih hw h) fun r w' hg _ => yields_div hg.sound r k

/-- The outcome of a calculation is its value. -/
theorem outcome_act {w : World} (hw : w.Sound) {e : Calculation}
    (h : e.Within w.heap.quantities.next) :
    e.act.outcome w = (e.value w.heap.quantity).map fun q => .object (.quantity q) :=
  (act_yields hw h).outcome_eq

end Calculation

end Ledger

end Holdings
