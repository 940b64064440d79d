/-
# Operators, attributes and methods

What each of them may do to the objects that were there.  Binary operators, comparisons and everything
that only asks leave them alone.  An in-place operator and the methods that end in assign change at
most one amount: that of the left operand, or of its quantity when it is a holding
(`Effect.SetsAmountOf`).  Setting the quantity of a holding changes which quantity it has, and that one
is new.

In each case the new amount has passed the check of its range before, so the heap stays sound; and the
change comes last, so a failure changes nothing.
-/
import Holdings.Proofs.Ledger.Building
import Holdings.Ledger.Methods

namespace Holdings.Ledger

open Act

/-! ## 1. Results as objects -/

section Results

variable {w : World}

theorem newLike_run (r : Nat) (q : Quantity) (w : World) :
    newLike r q w = .ok (.object (.quantity w.heap.quantities.next)) (w.withHeap
      (w.heap.withQuantity { w.heap.quantities.get r with amount := q.amount } w.heap.nextTag)) :=
  rfl

theorem newHoldingLike_run (r : Nat) (k : Holding) (w : World) :
    newHoldingLike r k w = .ok (.object (.holding w.heap.holdings.next)) (w.withHeap
      (w.heap.withHolding ⟨k.quantity.amount,
          (w.heap.quantities.get (w.heap.holdings.get r).quantity).symbol⟩
        (w.heap.holdings.get r).owner w.heap.nextTag)) :=
  rfl

theorem assign_run (r : Nat) (q : Quantity) (w : World) :
    assign r q w = .ok (.object (.quantity r)) (w.withHeap (w.heap.after (.amount r q.amount))) :=
  rfl

theorem assignHolding_run (r : Nat) (k : Holding) (w : World) :
    assignHolding r k w = .ok (.object (.holding r)) (w.withHeap
      (w.heap.after (.amount (w.heap.holdings.get r).quantity k.quantity.amount))) :=
  rfl

/-- A quantity like one that is there is admissible when its amount is in range. -/
theorem grows_newLike (hw : w.Sound) {q : Quantity} (hq : Amount.inRange q.amount = true) (r : Nat) :
    (newLike r q).Grows w Value.objects := by
  refine grows_of_quantity hw ?_ (newLike_run r q w)
  exact ⟨hq, (hw.heap.quantityCell r).2⟩

theorem grows_newHoldingLike (hw : w.Sound) {k : Holding}
    (hk : Amount.inRange k.quantity.amount = true) (r : Nat) :
    (newHoldingLike r k).Grows w Value.objects := by
  refine grows_of_holding hw ?_ (newHoldingLike_run r k w)
  exact ⟨hk, (hw.heap.quantityCell _).2⟩

/-- The quantity whose amount changes when a value is changed in place. -/
def Heap.amountPlace? (h : Heap) : Item → Option Nat
  | .object (.quantity r) => some r
  | .object (.holding r) => some (h.holdings.get r).quantity
  | _ => none

theorem Heap.Extends.amountPlace?_eq {h h' : Heap} (x : h.Extends h') {v : Item}
    (hv : h.AllLive v.objects) : h'.amountPlace? v = h.amountPlace? v := by
  unfold Heap.amountPlace?
  split
  · rfl
  · rename_i r
    have hr : r < h.holdings.next := by simpa [Ref.IsLive] using hv
    rw [Store.get_eq_of_isPrefix x.holdings hr]
  · rfl

/-- The effect changes at most the amount of this value. -/
def Effect.SetsAmountOf (h : Heap) (v : Item) (e : Effect) : Prop :=
  e = .none ∨ ∃ r a, h.amountPlace? v = some r ∧ e = .amount r a

theorem Effect.SetsAmountOf.of_extends {h h' : Heap} (x : h.Extends h') {v : Item}
    (hv : h.AllLive v.objects) {e : Effect} (he : e.SetsAmountOf h' v) : e.SetsAmountOf h v := by
  unfold Effect.SetsAmountOf at he ⊢
  rw [x.amountPlace?_eq hv] at he
  exact he

/-- The effect changes at most the amount of this value, and nothing unless the condition holds. -/
def Effect.SetsAmountIf (p : Bool) (h : Heap) (v : Item) (e : Effect) : Prop :=
  e = .none ∨ p = true ∧ e.SetsAmountOf h v

/-- What only adds objects changes no amount. -/
theorem Act.Grows.setsAmountIf {x : Act Item} {made : Item → List Ref} (h : x.Grows w made)
    (p : Bool) (v : Item) : x.Confined w (Effect.SetsAmountIf p w.heap v) made :=
  h.mono fun _ he => Or.inl he

theorem Act.Confined.setsAmountIf {x : Act Item} {made : Item → List Ref} {v : Item}
    (h : x.Confined w (Effect.SetsAmountOf w.heap v) made) {p : Bool} (hp : p = true) :
    x.Confined w (Effect.SetsAmountIf p w.heap v) made :=
  h.mono fun _ he => Or.inr ⟨hp, he⟩

theorem confined_assign (hw : w.Sound) {q : Quantity} (hq : Amount.inRange q.amount = true)
    {r : Nat} (hr : r < w.heap.quantities.next) :
    (assign r q).Confined w (Effect.SetsAmountOf w.heap (.object (.quantity r))) Value.objects := by
  have hc : w.Changed (.amount r q.amount) (w.withHeap (w.heap.after (.amount r q.amount))) :=
    hw.changed hq
  refine confined_of_ok (assign_run r q w) (Or.inr ⟨r, q.amount, rfl, rfl⟩) hc ?_
  refine hc.allLive ?_
  simpa [Ref.IsLive] using hr

theorem confined_assignHolding (hw : w.Sound) {k : Holding}
    (hk : Amount.inRange k.quantity.amount = true) {r : Nat} (hr : r < w.heap.holdings.next) :
    (assignHolding r k).Confined w (Effect.SetsAmountOf w.heap (.object (.holding r)))
      Value.objects := by
  have hc : w.Changed (.amount (w.heap.holdings.get r).quantity k.quantity.amount) _ :=
    hw.changed (e := .amount (w.heap.holdings.get r).quantity k.quantity.amount) hk
  refine confined_of_ok (assignHolding_run r k w) (Or.inr ⟨_, _, rfl, rfl⟩) hc ?_
  refine hc.allLive ?_
  simpa [Ref.IsLive] using hr

end Results

/-! ## 2. Amounts that operators compute -/

theorem revalued_of_combine {subtract : Bool} {q r s : Quantity}
    (h : combine subtract q r = .ok s) : q.Revalued s := by
  cases subtract with
  | false => exact Quantity.revalued_of_add h
  | true => exact Quantity.revalued_of_sub h

theorem revalued_of_combineHoldings {subtract : Bool} {h k m : Holding}
    (hm : combineHoldings subtract h k = .ok m) : h.quantity.Revalued m.quantity := by
  cases subtract with
  | false => exact Holding.revalued_of_add hm
  | true => exact Holding.revalued_of_sub hm

theorem revalued_of_rescale {divide : Bool} {q s : Quantity} {k : Int}
    (h : rescale divide q k = .ok s) : q.Revalued s := by
  cases divide with
  | false => exact Quantity.revalued_of_mul h
  | true => exact Quantity.revalued_of_div h

/-! ## 3. Operators -/

section Operators

variable {w : World}

theorem grows_onQuantities (hw : w.Sound) (op : BinaryOp) (r s : Nat) :
    (onQuantities op r s).Grows w Value.objects := by
  unfold onQuantities
  refine confined_quantity (confined_quantity ?_)
  cases op with
  | add => exact confined_performAbort hw fun q hq => grows_newLike hw (revalued_of_combine hq).2 r
  | sub => exact confined_performAbort hw fun q hq => grows_newLike hw (revalued_of_combine hq).2 r
  | mul => exact confined_throw hw _
  | div => exact confined_performAbort hw fun n _ => grows_pure hw (by simp)
  | floorDiv => exact confined_performAbort hw fun n _ => grows_pure hw (by simp)
  | compare c => exact confined_performAbort hw fun b _ => grows_pure hw (by simp)

theorem grows_onHoldings (hw : w.Sound) (op : BinaryOp) (r s : Nat) :
    (onHoldings op r s).Grows w Value.objects := by
  unfold onHoldings
  refine confined_holding (confined_holding ?_)
  cases op with
  | add =>
    exact confined_performAbort hw fun k hk =>
      grows_newHoldingLike hw (revalued_of_combineHoldings hk).2 r
  | sub =>
    exact confined_performAbort hw fun k hk =>
      grows_newHoldingLike hw (revalued_of_combineHoldings hk).2 r
  | mul => exact confined_throw hw _
  | div => exact confined_throw hw _
  | floorDiv => exact confined_throw hw _
  | compare c => exact confined_performAbort hw fun b _ => grows_pure hw (by simp)

/-- Operators between values of other kinds make no object. -/
theorem objects_onOthers {op : BinaryOp} {h : Heap} {v u x : Item}
    (hx : onOthers op h v u = .ok x) : x.objects ⊆ v.objects ++ u.objects := by
  cases op with
  | add => exact Value.objects_add hx
  | sub =>
    rw [show x.objects = [] from Value.isLeaf_sub hx]
    exact List.nil_subset _
  | mul => exact Value.objects_mul hx
  | div =>
    rw [show x.objects = [] from Value.isLeaf_div hx]
    exact List.nil_subset _
  | floorDiv =>
    rw [show x.objects = [] from Value.isLeaf_floorDiv hx]
    exact List.nil_subset _
  | compare c =>
    obtain ⟨b, -, rfl⟩ := Except.map_eq_ok_iff.mp hx
    simp

theorem grows_onOthers (hw : w.Sound) (op : BinaryOp) {v u : Item}
    (hv : w.heap.AllLive (v.objects ++ u.objects)) :
    (do let s ← get; perform (onOthers op s.heap v u) : Act Item).Grows w Value.objects :=
  confined_get (grows_perform hw fun _ hx => hv.subset (objects_onOthers hx))

/-- **Binary operators only add objects**, also when both operands are one object. -/
theorem grows_operate (hw : w.Sound) (op : BinaryOp) {v u : Item}
    (hv : w.heap.AllLive (v.objects ++ u.objects)) :
    (operate op v u).Grows w Value.objects := by
  have scale : ∀ (divide : Bool) (r : Nat) (k : Int),
      (do newLike r (← perform (rescale divide (← quantity r) k)) : Act Item).Grows w
        Value.objects := fun divide r k =>
    confined_quantity (confined_perform hw fun q hq => grows_newLike hw (revalued_of_rescale hq).2 r)
  unfold operate
  split
  · exact grows_onQuantities hw op _ _
  · exact grows_onHoldings hw op _ _
  · split
    · exact scale false _ _
    · exact scale true _ _
    · exact scale true _ _
    · exact grows_onOthers hw _ hv
  · split
    · exact scale false _ _
    · exact grows_onOthers hw _ hv
  · exact grows_onOthers hw _ hv

theorem confined_combine (hw : w.Sound) (subtract : Bool) {r : Nat}
    (hr : r < w.heap.quantities.next) (s : Nat) :
    (do assign r (← performAbort (combine subtract (← quantity r) (← quantity s))) :
      Act Item).Confined w (Effect.SetsAmountOf w.heap (.object (.quantity r))) Value.objects := by
  refine confined_quantity (confined_quantity (confined_performAbort hw fun q hq => ?_))
  exact confined_assign hw (revalued_of_combine hq).2 hr

theorem confined_rescale (hw : w.Sound) (divide : Bool) {r : Nat}
    (hr : r < w.heap.quantities.next) (k : Int) :
    (do assign r (← perform (rescale divide (← quantity r) k)) : Act Item).Confined w
      (Effect.SetsAmountOf w.heap (.object (.quantity r))) Value.objects := by
  refine confined_quantity (confined_perform hw fun q hq => ?_)
  exact confined_assign hw (revalued_of_rescale hq).2 hr

theorem confined_combineHoldings (hw : w.Sound) (subtract : Bool) {r : Nat}
    (hr : r < w.heap.holdings.next) (s : Nat) :
    (do assignHolding r (← performAbort (combineHoldings subtract (← holding r) (← holding s))) :
      Act Item).Confined w (Effect.SetsAmountOf w.heap (.object (.holding r))) Value.objects := by
  refine confined_holding (confined_holding (confined_performAbort hw fun k hk => ?_))
  exact confined_assignHolding hw (revalued_of_combineHoldings hk).2 hr

/-- Whether an operator in place changes its left operand: adding and subtracting alike do, and so do
multiplying and dividing a quantity by an integer. -/
def BinaryOp.isAssigning : BinaryOp → Item → Item → Bool
  | .add, .object (.quantity _), .object (.quantity _) => true
  | .sub, .object (.quantity _), .object (.quantity _) => true
  | .mul, .object (.quantity _), .int _ => true
  | .div, .object (.quantity _), .int _ => true
  | .floorDiv, .object (.quantity _), .int _ => true
  | .add, .object (.holding _), .object (.holding _) => true
  | .sub, .object (.holding _), .object (.holding _) => true
  | _, _, _ => false

/-- **An operator in place changes at most the amount of its left operand**, and nothing where it has no
form of its own for its operands. -/
theorem confined_operateInPlace (hw : w.Sound) (op : BinaryOp) {v u : Item}
    (hv : w.heap.AllLive (v.objects ++ u.objects)) :
    (operateInPlace op v u).Confined w (Effect.SetsAmountIf (op.isAssigning v u) w.heap v)
      Value.objects := by
  have live : ∀ o, v = .object o → o.IsLive w.heap := fun o ho => by
    rw [ho] at hv
    simp only [Value.objects_object, Heap.allLive_append, Heap.allLive_cons] at hv
    exact hv.1.1
  unfold operateInPlace
  split
  · exact (confined_combine hw false (live _ rfl) _).setsAmountIf rfl
  · exact (confined_combine hw true (live _ rfl) _).setsAmountIf rfl
  · exact (confined_rescale hw false (live _ rfl) _).setsAmountIf rfl
  · exact (confined_rescale hw true (live _ rfl) _).setsAmountIf rfl
  · exact (confined_rescale hw true (live _ rfl) _).setsAmountIf rfl
  · exact (confined_combineHoldings hw false (live _ rfl) _).setsAmountIf rfl
  · exact (confined_combineHoldings hw true (live _ rfl) _).setsAmountIf rfl
  · exact (grows_operate hw op hv).setsAmountIf _ v

theorem grows_negate (hw : w.Sound) (v : Item) : (negate v).Grows w Value.objects := by
  unfold negate
  split
  · refine confined_quantity (confined_performAbort hw fun q hq => ?_)
    exact grows_newLike hw (Quantity.revalued_of_withAmount hq).2 _
  · refine confined_holding (confined_performAbort hw fun k hk => ?_)
    exact grows_newHoldingLike hw (Holding.revalued_of_neg hk).2 _
  · exact grows_pure hw (by simp)
  · split
    · exact grows_pure hw (by simp)
    · exact confined_throw hw _

end Operators

/-! ## 4. Attributes -/

section Attributes

variable {w : World}

/-- An attribute of an object that is there is there. -/
theorem allLive_attribute (hw : w.Sound) {o : Ref} (ho : o.IsLive w.heap) {name : String} {v : Item}
    (h : attribute? w.heap o name = some v) : w.heap.AllLive v.objects := by
  unfold attribute? at h
  split at h
  · obtain rfl := Option.some.inj h
    simp [Ref.IsLive]
  · obtain rfl := Option.some.inj h
    simp [Ref.IsLive]
  · obtain rfl := Option.some.inj h
    simp [Ref.IsLive]
  · obtain rfl := Option.some.inj h
    simpa [Ref.IsLive] using hw.heap.inner_isLive ho
  · obtain rfl := Option.some.inj h
    simp [Ref.IsLive]
  · obtain ⟨a, -, rfl⟩ := Option.map_eq_some_iff.mp h
    simp

theorem grows_readAttribute (hw : w.Sound) {v : Item} (hv : w.heap.AllLive v.objects)
    (name : String) : (readAttribute v name).Grows w Value.objects := by
  unfold readAttribute
  split
  · rename_i o
    rw [Value.objects_object, Heap.allLive_cons] at hv
    refine confined_get ?_
    split
    · rename_i x hx
      exact grows_pure hw (allLive_attribute hw hv.1 hx)
    · exact confined_throw hw _
  · exact confined_throw hw _

/-- What setting an attribute of a value may change: the amount of a quantity, which quantity a
holding has, settings. -/
def Effect.SetsPartOf (v : Item) (name : String) (e : Effect) : Prop :=
  e = .none ∨
  (∃ r a, v = .object (.quantity r) ∧ name = "amount" ∧ e = .amount r a) ∨
  (∃ r q, v = .object (.holding r) ∧ name = "quantity" ∧ e = .content r q) ∨
  ∃ r s, v = .object (.settings r) ∧ e = .settings r s

/-- A holding that is given a quantity gets a copy of it, which was not there before. -/
theorem confined_replaceQuantity (hw : w.Sound) {v : Item} {q : Quantity}
    (hq : (w.heap.datum v).checkQuantity = .valid q) (r : Nat) :
    (do
      let n ← copyQuantity v q
      writeQuantity r n
      return .null : Act Item).Confined w (Effect.SetsPartOf (.object (.holding r)) "quantity")
        Value.objects := by
  obtain ⟨t, n, ht, hrun⟩ := copyQuantity_run hq
  have hc : QuantityCell.value ⟨q.amount, t⟩ = q := by
    simp only [QuantityCell.value, ht]
  have hg : w.Grown (w.withHeap (w.heap.withQuantity ⟨q.amount, t⟩ n)) := by
    refine hw.grown_withQuantity ?_ n
    rw [hc]
    exact Quantity.admissible_of_checkQuantity (hw.heap.datum v) hq
  have hf : Effect.Fits w.heap (w.heap.withQuantity ⟨q.amount, t⟩ n)
      (.content r w.heap.quantities.next) := ⟨Nat.le_refl _, hw.heap.isSpare_next _ n⟩
  refine confined_of_ok (a := .null) ?_ (Or.inr (Or.inr (Or.inl ⟨r, _, rfl, rfl, rfl⟩)))
    (hg.changed hf) (by simp)
  rw [bind_of_ok hrun]
  rfl

/-- **Setting an attribute changes at most that one part of the target.** -/
theorem confined_setAttribute (hw : w.Sound) (target v : Item) (name : String) :
    (setAttribute target name v).Confined w (Effect.SetsPartOf target name) Value.objects := by
  unfold setAttribute
  split
  · rename_i r
    split
    · rename_i hn
      refine confined_datum (confined_perform hw fun a ha => ?_)
      have hr : Amount.inRange a = true := by
        rw [Verdict.toExcept_eq_ok_iff, Verdict.under_eq_valid_iff] at ha
        exact Datum.inRange_of_checkAmount ha
      exact confined_of_ok rfl (Or.inr (Or.inl ⟨r, a, rfl, hn, rfl⟩)) (hw.changed hr) (by simp)
    · split
      · exact confined_throw hw _
      · exact confined_throw hw _
  · rename_i r
    split
    · rename_i hn
      refine confined_datum (confined_perform hw fun q hq => ?_)
      rw [Verdict.toExcept_eq_ok_iff, Verdict.under_eq_valid_iff] at hq
      rw [hn]
      exact confined_replaceQuantity hw hq r
    · split
      · exact confined_throw hw _
      · exact confined_throw hw _
  · rename_i r
    refine confined_get ?_
    have hs : ∀ s, Effect.SetsPartOf (.object (.settings r)) name (.settings r s) := fun s =>
      Or.inr (Or.inr (Or.inr ⟨r, s, rfl, rfl⟩))
    split
    · exact confined_of_ok rfl (hs _) (hw.changed trivial) (by simp)
    · split
      · exact confined_of_ok rfl (hs _) (hw.changed trivial) (by simp)
      · exact confined_throw hw _
  · exact confined_throw hw _
  · exact confined_throw hw _

end Attributes

/-! ## 5. Methods -/

/-- Whether a method changes the amount of what it is called on. -/
def Method.isAssigning : Method → Bool
  | .setAmount | .addAssign | .subAssign | .mulAssign | .divAssign => true
  | _ => false

section Methods

variable {w : World}

theorem inRange_of_amountToSet {v : Datum} {a : Int} (h : amountToSet v = .ok a) :
    Amount.inRange a = true := by
  unfold amountToSet at h
  obtain ⟨b, -, h⟩ := Except.bind_eq_ok_iff.mp h
  obtain ⟨u, -, h⟩ := Except.bind_eq_ok_iff.mp h
  rw [Verdict.toExcept_eq_ok_iff, Verdict.under_eq_valid_iff] at h
  exact Datum.inRange_of_checkAmount h

theorem confined_combineAssign (hw : w.Sound) (subtract : Bool) {r : Nat}
    (hr : r < w.heap.quantities.next) (v : Item) :
    (combineAssign subtract r v).Confined w (Effect.SetsAmountOf w.heap (.object (.quantity r)))
      Value.objects := by
  unfold combineAssign
  split
  · exact confined_combine hw subtract hr _
  · exact confined_quantity (confined_performAbort hw fun _ _ => confined_throw hw _)
  · exact confined_throw hw _

theorem confined_rescaleAssign (hw : w.Sound) (divide : Bool) {r : Nat}
    (hr : r < w.heap.quantities.next) (v : Item) :
    (rescaleAssign divide r v).Confined w (Effect.SetsAmountOf w.heap (.object (.quantity r)))
      Value.objects := by
  unfold rescaleAssign
  exact confined_datum (confined_perform hw fun k _ => confined_rescale hw divide hr k)

/-- A method of a quantity changes at most its amount. -/
theorem confined_quantityMethod (hw : w.Sound) {r : Nat} (hr : r < w.heap.quantities.next)
    (m : Method) (args : List Item) :
    (quantityMethod r m args).Confined w
      (Effect.SetsAmountIf m.isAssigning w.heap (.object (.quantity r))) Value.objects := by
  have asks : ∀ {p : Bool} {x : Act Item}, x.Grows w Value.objects →
      x.Confined w (Effect.SetsAmountIf p w.heap (.object (.quantity r))) Value.objects :=
    fun h => h.setsAmountIf _ _
  unfold quantityMethod
  split
  · refine confined_datum (confined_perform hw fun a ha => ?_)
    exact confined_of_ok rfl (Or.inr ⟨rfl, Or.inr ⟨r, a, rfl, rfl⟩⟩)
      (hw.changed (inRange_of_amountToSet ha)) (by simp)
  · exact (confined_combineAssign hw false hr _).setsAmountIf rfl
  · exact (confined_combineAssign hw true hr _).setsAmountIf rfl
  · exact (confined_rescaleAssign hw false hr _).setsAmountIf rfl
  · exact (confined_rescaleAssign hw true hr _).setsAmountIf rfl
  · split
    · refine asks (confined_quantity (confined_quantity (confined_performAbort hw fun n _ => ?_)))
      exact grows_pure hw (by simp)
    · exact confined_throw hw _
  · exact asks (grows_negate hw _)
  · exact asks (confined_quantity (grows_newLike hw (hw.heap.quantity r).1 r))
  · exact asks (confined_quantity (grows_pure hw (by simp)))
  · exact asks (confined_quantity (grows_pure hw (by simp)))
  · refine asks (confined_quantity (confined_perform hw fun s _ => ?_))
    exact grows_pure hw (by simp)
  · refine asks (confined_quantity (confined_perform hw fun s _ => ?_))
    refine confined_bind (grows_report hw _) fun _ w' hg _ => ?_
    exact grows_pure hg.sound (by simp)
  · exact asks (confined_quantity (grows_pure hw (by simp)))
  · refine asks (confined_quantity (confined_perform hw fun s _ => ?_))
    exact grows_pure hw (by simp)
  all_goals exact confined_throw hw _

/-- A method of a holding changes at most the amount of its quantity. -/
theorem confined_holdingMethod (hw : w.Sound) {r : Nat} (hr : r < w.heap.holdings.next)
    (m : Method) (args : List Item) :
    (holdingMethod r m args).Confined w
      (Effect.SetsAmountIf m.isAssigning w.heap (.object (.holding r))) Value.objects := by
  have asks : ∀ {p : Bool} {x : Act Item}, x.Grows w Value.objects →
      x.Confined w (Effect.SetsAmountIf p w.heap (.object (.holding r))) Value.objects :=
    fun h => h.setsAmountIf _ _
  have assigns : ∀ (subtract : Bool) (v : Item), (combineHoldingAssign subtract r v).Confined w
      (Effect.SetsAmountOf w.heap (.object (.holding r))) Value.objects := by
    intro subtract v
    unfold combineHoldingAssign
    split
    · exact confined_combineHoldings hw subtract hr _
    · exact confined_throw hw _
  unfold holdingMethod
  split
  · exact (assigns false _).setsAmountIf rfl
  · exact (assigns true _).setsAmountIf rfl
  · exact asks (grows_negate hw _)
  · refine asks (confined_holding (confined_perform hw fun s _ => ?_))
    exact grows_pure hw (by simp)
  · refine asks (confined_holding (confined_perform hw fun s _ => ?_))
    refine confined_bind (grows_report hw _) fun _ w' hg _ => ?_
    exact grows_pure hg.sound (by simp)
  · exact asks (confined_holding (grows_pure hw (by simp)))
  · refine asks (confined_holding (confined_perform hw fun s _ => ?_))
    exact grows_pure hw (by simp)
  · exact asks (confined_holdingCell (confined_quantityCell (grows_placeIssuedSymbol hw _ _)))
  all_goals exact confined_throw hw _

/-- What is asked of a symbol is plain data. -/
theorem objects_symbolMethod {s : Symbol} {m : Method} {args : List Item} {v : Item}
    (h : symbolMethod s m args = .ok v) : v.objects = [] := by
  unfold symbolMethod at h
  split at h
  · obtain rfl := Except.ok.inj h
    simp
  · obtain rfl := Except.ok.inj h
    simp
  · obtain rfl := Except.ok.inj h
    simp
  · obtain ⟨n, -, rfl⟩ := Except.map_eq_ok_iff.mp h
    simp
  all_goals cases h

/-- **A method changes at most one amount**, that of what it is called on. -/
theorem confined_callMethod (hw : w.Sound) {v : Item} (hv : w.heap.AllLive v.objects) (m : Method)
    (args : List Item) :
    (callMethod v m args).Confined w (Effect.SetsAmountIf m.isAssigning w.heap v)
      Value.objects := by
  unfold callMethod
  split
  · exact confined_quantityMethod hw (by simpa [Ref.IsLive] using hv) m args
  · exact confined_holdingMethod hw (by simpa [Ref.IsLive] using hv) m args
  · refine (grows_perform hw fun x hx => ?_).setsAmountIf _ _
    rw [objects_symbolMethod hx]
    exact Heap.allLive_nil _
  · split
    · exact (grows_pure hw (by simp [Ref.IsLive])).setsAmountIf _ _
    · exact (grows_pure hw (by simp [Ref.IsLive])).setsAmountIf _ _
    all_goals exact confined_throw hw _
  · exact confined_throw hw _

/-! ## 6. Makers, text and round trips -/

theorem grows_make (hw : w.Sound) (m : Maker) (args : List Item) :
    (make m args).Grows w Value.objects := by
  unfold make
  split
  · exact grows_placeSymbol hw _
  · unfold symbolOfRaw
    split
    · exact confined_perform hw fun s _ => grows_placeSymbol hw s
    · exact confined_throw hw _
  · exact grows_placeQuantity hw Quantity.admissible_empty
  · exact grows_placeHolding hw Quantity.admissible_empty
  · exact confined_datum (grows_readQuantity hw (hw.heap.datum _))
  · exact confined_datum (grows_readHolding hw (hw.heap.datum _))
  · exact confined_datum (confined_perform hw fun d _ => grows_readBytes hw _ _ d)
  · exact confined_datum (confined_perform hw fun d _ => grows_readBytes hw _ _ d)
  · exact grows_buildIssued hw _ _
  · exact confined_throw hw _
  · exact confined_throw hw _

theorem grows_display (hw : w.Sound) (v : Item) : (display v).Grows w Value.objects := by
  unfold display
  split
  · refine confined_quantity (confined_perform hw fun s _ => ?_)
    exact grows_pure hw (by simp)
  · refine confined_holding (confined_perform hw fun s _ => ?_)
    exact grows_pure hw (by simp)
  · exact grows_pure hw (by simp)
  · exact grows_pure hw (by simp)
  · exact grows_pure hw (by simp)
  · exact confined_get (confined_perform hw fun s _ => grows_pure hw (by simp))
  · exact confined_datum (confined_perform hw fun s _ => grows_pure hw (by simp))

theorem grows_roundTrip (hw : w.Sound) (v : Item) : (roundTrip v).Grows w Value.objects := by
  unfold roundTrip
  split
  · rename_i r
    refine confined_quantity (confined_perform hw fun d _ => ?_)
    refine confined_bind (grows_readBytes hw _ _ d) fun a w₁ h₁ ha => ?_
    have hv : Datum.Admissible (w.heap.quantity r).toValue := Datum.admissible_of_isLeaf (by simp)
    refine confined_bind (grows_readQuantity h₁.sound hv) fun b w₂ h₂ hb => ?_
    exact grows_pure h₂.sound (by simpa using ⟨h₂.allLive ha, hb⟩)
  · rename_i r
    refine confined_holding (confined_perform hw fun d _ => ?_)
    refine confined_bind (grows_readBytes hw _ _ d) fun a w₁ h₁ ha => ?_
    have hv : Datum.Admissible (w.heap.holding r).toValue := Datum.admissible_of_isLeaf (by simp)
    refine confined_bind (grows_readHolding h₁.sound hv) fun b w₂ h₂ hb => ?_
    exact grows_pure h₂.sound (by simpa using ⟨h₂.allLive ha, hb⟩)
  · exact confined_throw hw _

end Methods

end Holdings.Ledger
