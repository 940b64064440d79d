/-
# Negation is a symmetry

The range of amounts lies evenly about zero, and quotients are rounded toward zero.  So an operation on the
opposites of some quantities comes to the opposite result; and where it fails, it fails for the same kind of
reason, only that overflow and underflow change places (`Corresponds`).

This holds of every operation, and so of every calculation, in any depth: if all the quantities that it
starts from are replaced by their opposites, what it comes to is replaced by its opposite (`value_mirror`).
The laws of a single difference or sum, whose operands change places or sides, say how two different
calculations agree; they hold for the same reason.
-/
import Holdings.Proofs.Ledger.Calculation
import Holdings.Proofs.Ledger.Order

namespace Holdings

/-! ## 1. Outcomes that correspond -/

/-- The kind of failure on the other side of the range. -/
def AbortKind.mirrored : AbortKind → AbortKind
  | overflow => underflow
  | underflow => overflow
  | k => k

/-- Outcomes that correspond: results by `f`, and aborted operations by `g` on their kinds.  What is
refused before it is an operation is refused alike. -/
inductive Corresponds {α : Type} (f : α → α) (g : AbortKind → AbortKind) :
    Except Fault α → Except Fault α → Prop
  | ok {a b : α} (h : b = f a) : Corresponds f g (.ok a) (.ok b)
  | aborted {a b : Abort} (h : b.kind = g a.kind) :
      Corresponds f g (.error (.aborted a)) (.error (.aborted b))
  | refused (r : Refusal) : Corresponds f g (.error (.refused r)) (.error (.refused r))

namespace Corresponds

variable {f : Quantity → Quantity} {g : AbortKind → AbortKind}

/-- What follows two outcomes that correspond. -/
theorem bind {x y : Except Fault Quantity} {m n : Quantity → Except Fault Quantity}
    (h : Corresponds f g x y) (hm : ∀ q, Corresponds f g (m q) (n (f q))) :
    Corresponds f g (x >>= m) (y >>= n) := by
  cases h with
  | ok h =>
    subst h
    exact hm _
  | aborted h => exact .aborted h
  | refused r => exact .refused r

/-- Amounts that correspond, put into quantities that do. -/
theorem map {i : Int → Int} {x y : Except Fault Int} {m n : Int → Quantity}
    (h : Corresponds i g x y) (hm : ∀ a, x = .ok a → n (i a) = f (m a)) :
    Corresponds f g (x.map m) (y.map n) := by
  cases h with
  | ok h =>
    subst h
    exact .ok (hm _ rfl)
  | aborted h => exact .aborted h
  | refused r => exact .refused r

/-- Outcomes that are chosen by one question. -/
theorem ite {α : Type} {i : α → α} {c d : Prop} [Decidable c] [Decidable d] {x y x' y' : Except Fault α}
    (hcd : c ↔ d) (hx : c → Corresponds i g x x') (hy : ¬ c → Corresponds i g y y') :
    Corresponds i g (if c then x else y) (if d then x' else y') := by
  by_cases hc : c
  · rw [if_pos hc, if_pos (hcd.mp hc)]
    exact hx hc
  · rw [if_neg hc, if_neg (mt hcd.mpr hc)]
    exact hy hc

end Corresponds

/-! ## 2. Exact outcomes -/

/-- Opposite results are both amounts or lie on opposite sides. -/
theorem Amount.settle_mirrored (op op' : Operation) {x y : Int} (h : y = -x) :
    Corresponds (-·) AbortKind.mirrored (settle op x) (settle op' y) := by
  unfold settle
  by_cases hover : 2 ^ 62 - 1 < x
  · rw [if_pos hover, if_neg (by omega), if_pos (by omega)]
    exact .aborted rfl
  · rw [if_neg hover]
    by_cases hunder : x < -(2 ^ 62 - 1)
    · rw [if_pos hunder, if_pos (by omega)]
      exact .aborted rfl
    · rw [if_neg hunder, if_neg (by omega), if_neg (by omega)]
      exact .ok h

/-- One result is settled alike, whichever operation it is of. -/
theorem Amount.settle_alike (op op' : Operation) {x y : Int} (h : y = x) :
    Corresponds id id (settle op x) (settle op' y) := by
  subst h
  unfold settle
  refine .ite Iff.rfl (fun _ => .aborted rfl) fun _ => ?_
  refine .ite Iff.rfl (fun _ => .aborted rfl) fun _ => ?_
  exact .ok rfl

namespace Quantity

theorem opposite_opposite (q : Quantity) : q.opposite.opposite = q :=
  congrArg q.withExact (Int.neg_neg q.amount)

/-- The sum or the difference as an integer. -/
def total (subtract : Bool) (q r : Quantity) : Int :=
  if subtract then q.amount - r.amount else q.amount + r.amount

/-- Between quantities of one symbol the total is settled. -/
theorem exists_exactSum_eq_settle (subtract : Bool) {q r : Quantity} (hd : ¬ q.Differs r) :
    ∃ op, q.exactSum subtract r = Amount.settle op (q.total subtract r) := by
  unfold exactSum total
  rw [if_neg hd]
  cases subtract with
  | false =>
    rw [if_neg Bool.false_ne_true, if_neg Bool.false_ne_true]
    exact ⟨.addition, rfl⟩
  | true =>
    rw [if_pos rfl, if_pos rfl]
    exact ⟨.subtraction, rfl⟩

/-- Sums and differences correspond when their totals do and the same operands are paired. -/
theorem exactSum_corresponds {i : Int → Int} {g : AbortKind → AbortKind} {b c : Bool}
    {q r q' r' : Quantity} (hd : q.Differs r ↔ q'.Differs r') (hg : g .symbolMismatch = .symbolMismatch)
    (h : ∀ op op', Corresponds i g (Amount.settle op (q.total b r))
      (Amount.settle op' (q'.total c r'))) :
    Corresponds i g (q.exactSum b r) (q'.exactSum c r') := by
  by_cases hq : q.Differs r
  · unfold exactSum
    rw [if_pos hq, if_pos (hd.mp hq)]
    exact .aborted hg.symm
  · obtain ⟨op, hop⟩ := exists_exactSum_eq_settle b hq
    obtain ⟨op', hop'⟩ := exists_exactSum_eq_settle c (mt hd.mpr hq)
    rw [hop, hop']
    exact h op op'

/-- The sum of the opposites, and their difference. -/
theorem exactSum_opposite (b : Bool) (q r : Quantity) :
    Corresponds (-·) AbortKind.mirrored (q.exactSum b r) (q.opposite.exactSum b r.opposite) := by
  refine exactSum_corresponds Iff.rfl rfl fun op op' => Amount.settle_mirrored op op' ?_
  cases b with
  | false =>
    show -q.amount + -r.amount = -(q.amount + r.amount)
    omega
  | true =>
    show -q.amount - -r.amount = -(q.amount - r.amount)
    omega

/-- A multiple of the opposite; the integer must be a word on both sides. -/
theorem exactProduct_opposite (q : Quantity) (k : Int) :
    Corresponds (-·) AbortKind.mirrored (q.exactProduct k) (q.opposite.exactProduct k) := by
  unfold exactProduct
  refine .ite Iff.rfl (fun _ => .refused _) fun _ => ?_
  exact Amount.settle_mirrored _ _ (Int.neg_mul q.amount k)

/-- A part of the opposite, rounded toward zero. -/
theorem exactQuotient_opposite (q : Quantity) (k : Int) :
    Corresponds (-·) AbortKind.mirrored (q.exactQuotient k) (q.opposite.exactQuotient k) := by
  unfold exactQuotient
  refine .ite Iff.rfl (fun _ => .refused _) fun _ => ?_
  refine .ite Iff.rfl (fun _ => .aborted rfl) fun _ => ?_
  exact .ok (Int.neg_tdiv q.amount k)

/-- A difference is the sum with the opposite. -/
theorem exactSum_true_eq_false (q r : Quantity) :
    Corresponds id id (q.exactSum true r) (q.exactSum false r.opposite) :=
  exactSum_corresponds Iff.rfl rfl fun op op' =>
    Amount.settle_alike op op' (Int.sub_eq_add_neg (a := q.amount) (b := r.amount)).symm

/-- A difference and the one the other way round. -/
theorem exactSum_true_comm (q r : Quantity) :
    Corresponds (-·) AbortKind.mirrored (q.exactSum true r) (r.exactSum true q) :=
  exactSum_corresponds differs_comm rfl fun op op' =>
    Amount.settle_mirrored op op' (Int.neg_sub q.amount r.amount).symm

/-- A sum and the one the other way round. -/
theorem exactSum_false_comm (q r : Quantity) :
    Corresponds id id (q.exactSum false r) (r.exactSum false q) :=
  exactSum_corresponds differs_comm rfl fun op op' =>
    Amount.settle_alike op op' (Int.add_comm r.amount q.amount)

end Quantity

namespace Ledger

/-! ## 3. Calculations with the opposite quantities -/

namespace Calculation

/-- The calculation with the opposite of every quantity. -/
def mirror : Calculation → Calculation
  | given r => neg (given r)
  | neg e => neg e.mirror
  | add e f => add e.mirror f.mirror
  | sub e f => sub e.mirror f.mirror
  | mul e k => mul e.mirror k
  | div e k => div e.mirror k

theorem Within.mirror {n : Nat} {e : Calculation} (h : e.Within n) : e.mirror.Within n := by
  induction e with
  | given r => exact h
  | neg e ih | mul e k ih | div e k ih => exact ih h
  | add e f ihe ihf | sub e f ihe ihf => exact ⟨ihe h.1, ihf h.2⟩

/-- **The mirrored calculation comes to the opposite.** -/
theorem value_mirror (contents : Nat → Quantity) (e : Calculation) :
    Corresponds Quantity.opposite AbortKind.mirrored (e.value contents) (e.mirror.value contents) := by
  induction e with
  | given r => exact .ok rfl
  | neg e ih => exact ih.bind fun q => .ok rfl
  | add e f ihe ihf =>
    exact ihe.bind fun q => ihf.bind fun r => (q.exactSum_opposite false r).map fun _ _ => rfl
  | sub e f ihe ihf =>
    exact ihe.bind fun q => ihf.bind fun r => (q.exactSum_opposite true r).map fun _ _ => rfl
  | mul e k ih => exact ih.bind fun q => (q.exactProduct_opposite k).map fun _ _ => rfl
  | div e k ih => exact ih.bind fun q => (q.exactQuotient_opposite k).map fun _ _ => rfl

theorem value_neg_neg (contents : Nat → Quantity) (r : Nat) :
    (neg (neg (given r))).value contents = .ok (contents r) :=
  congrArg Except.ok (contents r).opposite_opposite

/-- Two differences that are mirrored have one symbol, if they have a result at all. -/
theorem value_sub_comm (contents : Nat → Quantity) (r s : Nat) :
    Corresponds Quantity.opposite AbortKind.mirrored ((sub (given r) (given s)).value contents)
      ((sub (given s) (given r)).value contents) := by
  refine ((contents r).exactSum_true_comm (contents s)).map fun a ha => ?_
  have hs : (contents s).symbol = (contents r).symbol := (Quantity.exactSum_eq_ok_iff.mp ha).1
  exact congrArg (Quantity.mk (-a)) hs

theorem value_add_comm (contents : Nat → Quantity) (r s : Nat) :
    Corresponds id id ((add (given r) (given s)).value contents)
      ((add (given s) (given r)).value contents) := by
  refine ((contents r).exactSum_false_comm (contents s)).map fun a ha => ?_
  have hs : (contents s).symbol = (contents r).symbol := (Quantity.exactSum_eq_ok_iff.mp ha).1
  exact congrArg (Quantity.mk a) hs

/-- The second operation is on amounts in range, because the first quantity is. -/
theorem value_sub_add {contents : Nat → Quantity} {r s : Nat} {q : Quantity}
    (hr : Amount.inRange (contents r).amount = true)
    (h : (add (given r) (given s)).value contents = .ok q) :
    (sub (add (given r) (given s)) (given s)).value contents = .ok (contents r) := by
  obtain ⟨a, ha, rfl⟩ := Except.map_eq_ok_iff.mp h
  obtain ⟨hs, -, hsum⟩ := Quantity.exactSum_eq_ok_iff.mp ha
  have hback : (contents r).amount = a - (contents s).amount := by
    rw [hsum, if_neg Bool.false_ne_true]
    omega
  have hsub : ((contents r).withExact a).exactSum true (contents s) = .ok (contents r).amount :=
    Quantity.exactSum_eq_ok_iff.mpr ⟨hs, hr, hback.trans (if_pos rfl).symm⟩
  show ((add (given r) (given s)).value contents >>= fun q =>
    (q.exactSum true (contents s)).map q.withExact) = _
  rw [h]
  show (((contents r).withExact a).exactSum true (contents s)).map _ = _
  rw [hsub]
  rfl

/-- What comes of carrying a calculation out: a quantity with some content, or a failure. -/
def ComesTo (w : World) (e : Calculation) (x : Except Fault Quantity) : Prop :=
  e.act.outcome w = x.map fun q => .object (.quantity q)

end Calculation

/-- Both calculations succeed, the second with the opposite result; or both fail, and where the one overflows
the other underflows. -/
def Mirrored (w : World) (e f : Calculation) : Prop :=
  ∃ x y, e.ComesTo w x ∧ f.ComesTo w y ∧ Corresponds Quantity.opposite AbortKind.mirrored x y

/-- Both calculations succeed with the same result, or both fail for the same kind of reason. -/
def Agreed (w : World) (e f : Calculation) : Prop :=
  ∃ x y, e.ComesTo w x ∧ f.ComesTo w y ∧ Corresponds id id x y

namespace World.Sound

variable {w : World} {e f : Calculation}

theorem mirrored (hw : w.Sound) (he : e.Within w.heap.quantities.next)
    (hf : f.Within w.heap.quantities.next)
    (h : Corresponds Quantity.opposite AbortKind.mirrored (e.value w.heap.quantity)
      (f.value w.heap.quantity)) : Mirrored w e f :=
  ⟨_, _, Calculation.outcome_act hw he, Calculation.outcome_act hw hf, h⟩

theorem agreed (hw : w.Sound) (he : e.Within w.heap.quantities.next)
    (hf : f.Within w.heap.quantities.next)
    (h : Corresponds id id (e.value w.heap.quantity) (f.value w.heap.quantity)) : Agreed w e f :=
  ⟨_, _, Calculation.outcome_act hw he, Calculation.outcome_act hw hf, h⟩

/-- Every calculation is mirrored by the one with the opposite quantities. -/
theorem mirrored_mirror (hw : w.Sound) (he : e.Within w.heap.quantities.next) :
    Mirrored w e e.mirror :=
  hw.mirrored he he.mirror (e.value_mirror w.heap.quantity)

end World.Sound

/-! ## 4. The laws -/

open Calculation in
/-- How negation goes together with the other operations, for two quantities and an integer. -/
structure NegationSymmetric (w : World) (r s : Nat) (k : Int) : Prop where
  /-- The opposite of the opposite has the content of the quantity itself. -/
  twice : (neg (neg (given r))).ComesTo w (.ok (w.heap.quantity r))
  sum : Mirrored w (add (given r) (given s)) (add (neg (given r)) (neg (given s)))
  difference : Mirrored w (sub (given r) (given s)) (sub (neg (given r)) (neg (given s)))
  multiple : Mirrored w (mul (given r) k) (mul (neg (given r)) k)
  part : Mirrored w (div (given r) k) (div (neg (given r)) k)
  /-- A difference is the sum with the opposite. -/
  opposite : Agreed w (sub (given r) (given s)) (add (given r) (neg (given s)))
  exchanged : Mirrored w (sub (given r) (given s)) (sub (given s) (given r))
  commuted : Agreed w (add (given r) (given s)) (add (given s) (given r))
  /-- What has been added can be taken away again. -/
  undone : (∃ q, (add (given r) (given s)).ComesTo w (.ok q)) →
    (sub (add (given r) (given s)) (given s)).ComesTo w (.ok (w.heap.quantity r))

section Laws

variable {w : World} {r s : Nat}

open Calculation

variable (hw : w.Sound) (hr : r < w.heap.quantities.next) (hs : s < w.heap.quantities.next)
include hw hr hs

theorem negationSymmetric (k : Int) : NegationSymmetric w r s k where
  twice := by
    rw [← value_neg_neg w.heap.quantity r]
    exact outcome_act hw hr
  sum := hw.mirrored_mirror (e := add (given r) (given s)) ⟨hr, hs⟩
  difference := hw.mirrored_mirror (e := sub (given r) (given s)) ⟨hr, hs⟩
  multiple := hw.mirrored_mirror (e := mul (given r) k) hr
  part := hw.mirrored_mirror (e := div (given r) k) hr
  opposite := hw.agreed ⟨hr, hs⟩ ⟨hr, hs⟩
    (((w.heap.quantity r).exactSum_true_eq_false (w.heap.quantity s)).map fun _ _ => rfl)
  exchanged := hw.mirrored ⟨hr, hs⟩ ⟨hs, hr⟩ (value_sub_comm w.heap.quantity r s)
  commuted := hw.agreed ⟨hr, hs⟩ ⟨hs, hr⟩ (value_add_comm w.heap.quantity r s)
  undone := by
    rintro ⟨q, hq⟩
    have hrun := (outcome_act hw (e := add (given r) (given s)) ⟨hr, hs⟩).symm.trans hq
    obtain ⟨p, hp, -⟩ := Except.map_eq_ok_iff.mp hrun
    rw [ComesTo, ← value_sub_add (hw.heap.quantity r).1 hp]
    exact outcome_act hw ⟨⟨hr, hs⟩, hs⟩

end Laws

/-- **Negation is a symmetry of the arithmetic** in every reachable world, for any two quantities, which may
be one object, and any integer. -/
theorem negation_symmetric (steps : List Step) (r s : Nat) (k : Int)
    (hr : r < (World.initial.after steps).heap.quantities.next)
    (hs : s < (World.initial.after steps).heap.quantities.next) :
    NegationSymmetric (World.initial.after steps) r s k :=
  negationSymmetric (World.sound_initial.after steps) hr hs k

/-- The laws for the quantities 5 and 7 of one symbol, and the integer -3. -/
theorem negation_symmetric_five_seven :
    NegationSymmetric (World.initial.after
      [⟨.eval (.quantity (.plain (.int 5)) (.plain (.text "A")) (.plain (.int 0))), some "q"⟩,
        ⟨.eval (.quantity (.plain (.int 7)) (.plain (.text "A")) (.plain (.int 0))), some "x"⟩])
      0 1 (-3) :=
  negation_symmetric
    [⟨.eval (.quantity (.plain (.int 5)) (.plain (.text "A")) (.plain (.int 0))), some "q"⟩,
      ⟨.eval (.quantity (.plain (.int 7)) (.plain (.text "A")) (.plain (.int 0))), some "x"⟩]
    0 1 (-3) (by decide +kernel) (by decide +kernel)

end Ledger

end Holdings
