/-
# All forms of an operation agree

A sum can be asked for by an operator, in place and by a method, and so can a difference, a multiple and a
part.  The operator gives a new object; the other forms change the left operand and give that back.  Here
they are compared with each other in one world: either all of them fail, for one reason, or the new
object has the content that the left operand has after each of the others (`FormsAgree`).

For quantities every form settles one exact outcome, so only the two places where it may be put are left
to look at.  For holdings the operator makes two objects, a quantity with the symbol of the left one and a
holding with its owner, while the method changes the amount of the quantity that is there; what the holding
then reads as is the same.

Nothing is asked of the operands but that they are there: they may be one object, and a quantity may be that
of a holding.
-/
import Holdings.Proofs.Ledger.Atomicity
import Holdings.Proofs.Ledger.Balance

namespace Holdings.Ledger

open Act

/-! ## 1. What a form may do -/

namespace Act

/-- The run fails with this fault and leaves all that was there. -/
def FailsWith (x : Act Item) (w : World) (f : Fault) : Prop :=
  ∃ w', x w = .error f w' ∧ w.Unchanged w'

/-- The run gives a new object with this content and leaves all that was there. -/
def Gives (x : Act Item) (w : World) (e : Entity) : Prop :=
  ∃ o w', x w = .ok (.object o) w' ∧ ¬ o.IsLive w.heap ∧ w'.heap.entity o = e ∧ w.Unchanged w'

/-- The run gives this very object and leaves it with this content. -/
def Leaves (x : Act Item) (w : World) (o : Ref) (e : Entity) : Prop :=
  ∃ w', x w = .ok (.object o) w' ∧ w'.heap.entity o = e

end Act

/-- **Forms of one operation agree**: all of them fail with one fault, or those that give a new object
give it the content that the others leave in the left operand. -/
def FormsAgree (w : World) (left : Ref) (fresh changing : List (Act Item)) : Prop :=
  (∃ f, ∀ x ∈ fresh ++ changing, x.FailsWith w f) ∨
    ∃ e, (∀ x ∈ fresh, x.Gives w e) ∧ ∀ x ∈ changing, x.Leaves w left e

section Results

variable {w : World} {x : Act Item} {r o : Nat} {a : Int} {f : Fault}

theorem failsWith_of_refusal (hw : w.Sound) (hx : x w = refusal w f) : x.FailsWith w f :=
  ⟨_, hx, hw.unchanged (grown_withEvents hw _)⟩

/-! ## 2. Quantities -/

/-- The new quantity has the exact amount and the symbol of the left one. -/
theorem gives_of_newResult (hw : w.Sound) (ha : Amount.inRange a = true)
    (hx : x w = newResult w r (.ok a)) : x.Gives w (.quantity ((w.heap.quantity r).withExact a)) := by
  have hc : QuantityCell.value { w.heap.quantities.get r with amount := a } =
      (w.heap.quantity r).withExact a := rfl
  refine ⟨_, _, hx, Nat.lt_irrefl _, ?_, hw.unchanged (hw.grown_withQuantity ?_ _)⟩
  · show Entity.quantity ((w.heap.withQuantity _ _).quantity w.heap.quantities.next) = _
    rw [Heap.quantity_withQuantity, hc]
  · exact ⟨ha, (hw.heap.quantityCell r).2⟩

/-- The left quantity has the exact amount and its own symbol. -/
theorem leaves_of_sameResult (hr : r < w.heap.quantities.next)
    (hx : x w = sameResult w r (.ok a)) :
    x.Leaves w (.quantity r) (.quantity ((w.heap.quantity r).withExact a)) := by
  refine ⟨_, hx, ?_⟩
  show Entity.quantity ((w.heap.setAmount r a).quantity r) = _
  rw [Heap.quantity_setAmount_self hr]

theorem formsAgree_of_results (hw : w.Sound) (hr : r < w.heap.quantities.next)
    {e : Except Fault Int} (he : ∀ a, e = .ok a → Amount.inRange a = true)
    {fresh changing : List (Act Item)} (hf : ∀ x ∈ fresh, x w = newResult w r e)
    (hc : ∀ x ∈ changing, x w = sameResult w r e) :
    FormsAgree w (.quantity r) fresh changing := by
  cases e with
  | error f =>
    refine Or.inl ⟨f, fun x hx => ?_⟩
    rcases List.mem_append.mp hx with hx | hx
    · exact failsWith_of_refusal hw (hf x hx)
    · exact failsWith_of_refusal hw (hc x hx)
  | ok a =>
    refine Or.inr ⟨.quantity ((w.heap.quantity r).withExact a), fun x hx => ?_, fun x hx => ?_⟩
    · exact gives_of_newResult hw (he a rfl) (hf x hx)
    · exact leaves_of_sameResult hr (hc x hx)

/-! ## 3. Holdings -/

/-- The exact amount as a new holding with the symbol and the owner of another. -/
def newHoldingResult (w : World) (o : Nat) : Except Fault Int → EStateM.Result Fault World Item
  | .ok a => .ok (.object (.holding w.heap.holdings.next)) (w.withHeap (w.heap.withHolding
      ⟨a, (w.heap.quantities.get (w.heap.holdings.get o).quantity).symbol⟩
      (w.heap.holdings.get o).owner w.heap.nextTag))
  | .error f => refusal w f

theorem performAbort_newHoldingLike (w : World) (subtract : Bool) (o p : Nat) :
    (performAbort (combineHoldings subtract (w.heap.holding o) (w.heap.holding p)) >>=
      fun k => newHoldingLike o k) w =
        newHoldingResult w o ((w.heap.holding o).exactSum subtract (w.heap.holding p)) := by
  unfold performAbort
  rw [combineHoldings_eq_exactSum]
  cases (w.heap.holding o).exactSum subtract (w.heap.holding p) with
  | ok a => exact newHoldingLike_run o _ w
  | error f => exact bind_of_error (perform_error f w)

/-- The new holding has the exact amount, and the symbol and the owner of the left one. -/
theorem gives_of_newHoldingResult (hw : w.Sound) (ha : Amount.inRange a = true)
    (hx : x w = newHoldingResult w o (.ok a)) :
    x.Gives w (.holding ((w.heap.holding o).withExact a)) := by
  have hc : Quantity.Admissible
      (QuantityCell.value ⟨a, (w.heap.quantities.get (w.heap.holdings.get o).quantity).symbol⟩) :=
    ⟨ha, (hw.heap.quantityCell _).2⟩
  have hg : w.Grown (w.withHeap (w.heap.withHolding
      ⟨a, (w.heap.quantities.get (w.heap.holdings.get o).quantity).symbol⟩
      (w.heap.holdings.get o).owner w.heap.nextTag)) :=
    hw.grown (w.heap.extends_withHolding _ _ _) (hw.heap.withHolding hc _ _) rfl rfl
  refine ⟨_, _, hx, Nat.lt_irrefl _, ?_, hw.unchanged hg⟩
  show Entity.holding ((w.heap.withHolding _ _ _).holding w.heap.holdings.next) = _
  rw [Heap.holding_withHolding]
  rfl

/-- The left holding has the exact amount, its own symbol and its own owner. -/
theorem leaves_of_settledResult (hw : w.Sound) (ho : o < w.heap.holdings.next)
    (hx : x w = settledResult w (.object (.holding o)) (w.heap.holdings.get o).quantity (.ok a)) :
    x.Leaves w (.holding o) (.holding ((w.heap.holding o).withExact a)) := by
  have hq := Heap.quantity_setAmount_self (a := a) (hw.heap.inner_isLive ho)
  refine ⟨_, hx, ?_⟩
  show Entity.holding ⟨(w.heap.setAmount _ a).quantity (w.heap.holdings.get o).quantity, _⟩ = _
  rw [hq]
  rfl

/-- The forms of a sum or a difference of two holdings. -/
theorem formsAgree_holdings (hw : w.Sound) (ho : o < w.heap.holdings.next) (subtract : Bool) (p : Nat)
    {fresh changing : List (Act Item)}
    (hf : ∀ x ∈ fresh, x w =
      newHoldingResult w o ((w.heap.holding o).exactSum subtract (w.heap.holding p)))
    (hc : ∀ x ∈ changing, x w = combineHoldingAssign subtract o (.object (.holding p)) w) :
    FormsAgree w (.holding o) fresh changing := by
  have hset : ∀ x ∈ changing, x w =
      settledResult w (.object (.holding o)) (w.heap.holdings.get o).quantity
        ((w.heap.holding o).exactSum subtract (w.heap.holding p)) :=
    fun x hx => (hc x hx).trans (combineHoldingAssign_run w subtract o _)
  cases he : (w.heap.holding o).exactSum subtract (w.heap.holding p) with
  | error f =>
    rw [he] at hf hset
    refine Or.inl ⟨f, fun x hx => ?_⟩
    rcases List.mem_append.mp hx with hx | hx
    · exact failsWith_of_refusal hw (hf x hx)
    · exact failsWith_of_refusal hw (hset x hx)
  | ok a =>
    rw [he] at hf hset
    have ha : Amount.inRange a = true := (Holding.exactSum_eq_ok_iff.mp he).2.1
    refine Or.inr ⟨.holding ((w.heap.holding o).withExact a), fun x hx => ?_, fun x hx => ?_⟩
    · exact gives_of_newHoldingResult hw ha (hf x hx)
    · exact leaves_of_settledResult hw ho (hset x hx)

end Results

/-! ## 4. Reachable worlds -/

/-- All forms of the operations on a quantity with another and with an integer agree. -/
structure QuantityFormsAgree (w : World) (r s : Nat) (k : Int) : Prop where
  sum : FormsAgree w (.quantity r)
    [operate .add (.object (.quantity r)) (.object (.quantity s))]
    [operateInPlace .add (.object (.quantity r)) (.object (.quantity s)),
      callMethod (.object (.quantity r)) .addAssign [.object (.quantity s)]]
  difference : FormsAgree w (.quantity r)
    [operate .sub (.object (.quantity r)) (.object (.quantity s))]
    [operateInPlace .sub (.object (.quantity r)) (.object (.quantity s)),
      callMethod (.object (.quantity r)) .subAssign [.object (.quantity s)]]
  multiple : FormsAgree w (.quantity r)
    [operate .mul (.object (.quantity r)) (.int k), operate .mul (.int k) (.object (.quantity r))]
    [operateInPlace .mul (.object (.quantity r)) (.int k),
      callMethod (.object (.quantity r)) .mulAssign [.int k]]
  part : FormsAgree w (.quantity r)
    [operate .div (.object (.quantity r)) (.int k),
      operate .floorDiv (.object (.quantity r)) (.int k)]
    [operateInPlace .div (.object (.quantity r)) (.int k),
      operateInPlace .floorDiv (.object (.quantity r)) (.int k),
      callMethod (.object (.quantity r)) .divAssign [.int k]]

/-- All forms of the operations on two holdings agree. -/
structure HoldingFormsAgree (w : World) (o p : Nat) : Prop where
  sum : FormsAgree w (.holding o)
    [operate .add (.object (.holding o)) (.object (.holding p))]
    [operateInPlace .add (.object (.holding o)) (.object (.holding p)),
      callMethod (.object (.holding o)) .addAssign [.object (.holding p)]]
  difference : FormsAgree w (.holding o)
    [operate .sub (.object (.holding o)) (.object (.holding p))]
    [operateInPlace .sub (.object (.holding o)) (.object (.holding p)),
      callMethod (.object (.holding o)) .subAssign [.object (.holding p)]]

theorem World.Sound.quantityFormsAgree {w : World} (hw : w.Sound) {r : Nat}
    (hr : r < w.heap.quantities.next) (s : Nat) (k : Int) : QuantityFormsAgree w r s k := by
  have hs := sumsExact w r s
  have hp := productsExact w r k
  have hq := quotientsExact hw r k
  have hsum : ∀ subtract a, (w.heap.quantity r).exactSum subtract (w.heap.quantity s) = .ok a →
      Amount.inRange a = true := fun _ _ he => (Quantity.exactSum_eq_ok_iff.mp he).2.1
  have hproduct : ∀ a, (w.heap.quantity r).exactProduct k = .ok a → Amount.inRange a = true :=
    fun _ he => Quantity.inRange_of_exactProduct he
  have hquotient : ∀ a, (w.heap.quantity r).exactQuotient k = .ok a → Amount.inRange a = true :=
    fun _ he => Quantity.inRange_of_exactQuotient (hw.heap.quantity r).1 he
  refine ⟨?_, ?_, ?_, ?_⟩
  · refine formsAgree_of_results hw hr (hsum false) ?_ ?_
    · simpa using hs.add
    · simpa using ⟨hs.addInPlace, hs.addAssign⟩
  · refine formsAgree_of_results hw hr (hsum true) ?_ ?_
    · simpa using hs.sub
    · simpa using ⟨hs.subInPlace, hs.subAssign⟩
  · refine formsAgree_of_results hw hr hproduct ?_ ?_
    · simpa using ⟨hp.mul, hp.mulLeft⟩
    · simpa using ⟨hp.mulInPlace, hp.mulAssign⟩
  · refine formsAgree_of_results hw hr hquotient ?_ ?_
    · simpa using ⟨hq.div, hq.floorDiv⟩
    · simpa using ⟨hq.divInPlace, hq.floorDivInPlace, hq.divAssign⟩

theorem World.Sound.holdingFormsAgree {w : World} (hw : w.Sound) {o : Nat}
    (ho : o < w.heap.holdings.next) (p : Nat) : HoldingFormsAgree w o p := by
  have hadd : operate .add (.object (.holding o)) (.object (.holding p)) w =
      newHoldingResult w o ((w.heap.holding o).exactSum false (w.heap.holding p)) :=
    performAbort_newHoldingLike w false o p
  have hsub : operate .sub (.object (.holding o)) (.object (.holding p)) w =
      newHoldingResult w o ((w.heap.holding o).exactSum true (w.heap.holding p)) :=
    performAbort_newHoldingLike w true o p
  refine ⟨?_, ?_⟩
  · refine formsAgree_holdings hw ho false p ?_ ?_
    · simpa using hadd
    · simpa using ⟨rfl, rfl⟩
  · refine formsAgree_holdings hw ho true p ?_ ?_
    · simpa using hsub
    · simpa using ⟨rfl, rfl⟩

/-- **All forms agree** in every reachable world, for any two quantities and any integer and for any two
holdings, whether they are one object or share a quantity or not. -/
theorem all_forms_agree (steps : List Step) :
    (∀ (r s : Nat) (k : Int), r < (World.initial.after steps).heap.quantities.next →
      s < (World.initial.after steps).heap.quantities.next →
        QuantityFormsAgree (World.initial.after steps) r s k) ∧
    ∀ o p : Nat, o < (World.initial.after steps).heap.holdings.next →
      p < (World.initial.after steps).heap.holdings.next →
        HoldingFormsAgree (World.initial.after steps) o p := by
  have hw : (World.initial.after steps).Sound := World.sound_initial.after steps
  exact ⟨fun r s k hr _ => hw.quantityFormsAgree hr s k, fun o p ho _ => hw.holdingFormsAgree ho p⟩

/-- The forms agree on the quantity of the empty holding with itself, and on that holding with itself. -/
theorem forms_agree_on_empty_holding :
    QuantityFormsAgree (World.initial.after [⟨.make (.empty .holding) [], some "h"⟩]) 0 0 3 ∧
      HoldingFormsAgree (World.initial.after [⟨.make (.empty .holding) [], some "h"⟩]) 0 0 :=
  ⟨(all_forms_agree [⟨.make (.empty .holding) [], some "h"⟩]).1 0 0 3 (by decide) (by decide),
    (all_forms_agree [⟨.make (.empty .holding) [], some "h"⟩]).2 0 0 (by decide) (by decide)⟩

end Holdings.Ledger
