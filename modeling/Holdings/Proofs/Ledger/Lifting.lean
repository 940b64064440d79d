/-
# Holdings follow their quantities

A holding is a quantity with an owner, and its arithmetic is that of the quantity with the owner attached.
The owners are compared before anything else: where they differ, that is the failure, whatever else is wrong.
Where they are equal, a sum or a difference of holdings has the outcome that the same form has on the
two quantities, be it a result or a failure (`SumsLift`).

The two sides are run in one world, and each is reduced to the exact outcome of its operation first
(`Arithmetic.outcome_sum`, `Arithmetic.outcome_sum_holdings`).  A new holding builds its quantity anew, but it
takes it as it is: no check is made there that the operation on the quantities does not make.

A holding can also be taken apart into its amount and its issued symbol, and be put together from them again.
That way goes through the check of a new quantity, so it is closed to holdings without a symbol.
-/
import Holdings.Proofs.Ledger.Agreement
import Holdings.Proofs.Ledger.Gateways
import Holdings.Proofs.Ledger.Invariant
import Holdings.Proofs.Ledger.Sentinel

namespace Holdings

/-- An amount in range with a valid symbol is a quantity. -/
theorem Quantity.assess_of_valid {n : Int} {s : Symbol} (hn : Amount.inRange n = true)
    (hs : s.isValid = true) : Quantity.assess n s = .ok ⟨n, s⟩ :=
  Quantity.assess_eq_ok_iff.mpr ⟨Bool.and_eq_true_iff.mpr ⟨hn, hs⟩, rfl⟩

/-- With any other symbol it is refused for the symbol. -/
theorem Quantity.assess_of_invalid {n : Int} {s : Symbol} (hn : Amount.inRange n = true)
    (hs : s.isValid = false) : Quantity.assess n s = .error .invalidSymbol := by
  unfold Quantity.assess
  rw [if_pos hn, if_neg (by simp [hs])]

namespace Ledger

open Act

/-! ## 1. Outcomes of runs -/

section Outcomes

variable {w : World} {x : Act Item} {r o : Nat} {e : Except Fault Int}

theorem outcome_of_newResult (hx : x w = newResult w r e) :
    x.outcome w = e.map fun n => .object (.quantity ((w.heap.quantity r).withExact n)) := by
  cases e with
  | error f => exact outcome_of_error hx
  | ok n =>
    rw [outcome_of_ok hx, Heap.datum_object]
    show Except.ok (Value.object (Entity.quantity
      ((w.heap.withQuantity _ _).quantity w.heap.quantities.next))) = _
    rw [Heap.quantity_withQuantity]
    rfl

theorem outcome_of_sameResult (hr : r < w.heap.quantities.next) (hx : x w = sameResult w r e) :
    x.outcome w = e.map fun n => .object (.quantity ((w.heap.quantity r).withExact n)) := by
  cases e with
  | error f => exact outcome_of_error hx
  | ok n =>
    obtain ⟨w', hx, he⟩ := leaves_of_sameResult hr hx
    rw [outcome_of_ok hx, Heap.datum_object, he]
    rfl

theorem outcome_of_newHoldingResult (hx : x w = newHoldingResult w o e) :
    x.outcome w = e.map fun n => .object (.holding ((w.heap.holding o).withExact n)) := by
  cases e with
  | error f => exact outcome_of_error hx
  | ok n =>
    rw [outcome_of_ok hx, Heap.datum_object]
    show Except.ok (Value.object (Entity.holding
      ((w.heap.withHolding _ _ _).holding w.heap.holdings.next))) = _
    rw [Heap.holding_withHolding]
    rfl

theorem outcome_of_settledResult (hw : w.Sound) (ho : o < w.heap.holdings.next)
    (hx : x w = settledResult w (.object (.holding o)) (w.heap.holdings.get o).quantity e) :
    x.outcome w = e.map fun n => .object (.holding ((w.heap.holding o).withExact n)) := by
  cases e with
  | error f => exact outcome_of_error hx
  | ok n =>
    obtain ⟨w', hx, he⟩ := leaves_of_settledResult hw ho hx
    rw [outcome_of_ok hx, Heap.datum_object, he]
    rfl

end Outcomes

/-! ## 2. Sums and differences -/

namespace Arithmetic

variable {w : World} {a : Arithmetic} {r o : Nat}

/-- The forms that subtract. -/
def subtracts : Arithmetic → Bool
  | operator .sub | inPlace .sub | method .subAssign => true
  | _ => false

/-- **Every form of a sum of quantities** comes to the exact sum. -/
theorem outcome_sum (ha : a.isSum = true) (hr : r < w.heap.quantities.next) (s : Nat) :
    (a.run (.object (.quantity r)) (.object (.quantity s))).outcome w =
      ((w.heap.quantity r).exactSum a.subtracts (w.heap.quantity s)).map fun n =>
        .object (.quantity ((w.heap.quantity r).withExact n)) := by
  have hs := sumsExact w r s
  unfold isSum at ha
  split at ha
  · exact outcome_of_newResult hs.add
  · exact outcome_of_newResult hs.sub
  · exact outcome_of_sameResult hr hs.addInPlace
  · exact outcome_of_sameResult hr hs.subInPlace
  · exact outcome_of_sameResult hr hs.addAssign
  · exact outcome_of_sameResult hr hs.subAssign
  · cases ha

/-- **Every form of a sum of holdings** comes to the exact sum. -/
theorem outcome_sum_holdings (hw : w.Sound) (ha : a.isSum = true) (ho : o < w.heap.holdings.next)
    (p : Nat) :
    (a.run (.object (.holding o)) (.object (.holding p))).outcome w =
      ((w.heap.holding o).exactSum a.subtracts (w.heap.holding p)).map fun n =>
        .object (.holding ((w.heap.holding o).withExact n)) := by
  have changing : ∀ subtract, combineHoldingAssign subtract o (.object (.holding p)) w =
      settledResult w (.object (.holding o)) (w.heap.holdings.get o).quantity
        ((w.heap.holding o).exactSum subtract (w.heap.holding p)) :=
    fun subtract => combineHoldingAssign_run w subtract o _
  unfold isSum at ha
  split at ha
  · exact outcome_of_newHoldingResult (performAbort_newHoldingLike w false o p)
  · exact outcome_of_newHoldingResult (performAbort_newHoldingLike w true o p)
  · exact outcome_of_settledResult hw ho (changing false)
  · exact outcome_of_settledResult hw ho (changing true)
  · exact outcome_of_settledResult hw ho (changing false)
  · exact outcome_of_settledResult hw ho (changing true)
  · cases ha

end Arithmetic

/-- **Sums of holdings follow those of their quantities**, in every form. -/
structure SumsLift (w : World) (o p : Nat) : Prop where
  /-- Different owners are the failure, whatever the quantities are. -/
  owners : ∀ a : Arithmetic, a.isSum = true → (w.heap.holding o).owner ≠ (w.heap.holding p).owner →
    (a.run (.object (.holding o)) (.object (.holding p))).outcome w = .error (.aborted .ownerMismatch)
  /-- Under one owner the outcome is that of the same form on the quantities, with the owner. -/
  quantities : ∀ a : Arithmetic, a.isSum = true →
    (w.heap.holding o).owner = (w.heap.holding p).owner → ∃ x : Except Fault Quantity,
      (a.run (.object (.quantity (w.heap.holdings.get o).quantity))
        (.object (.quantity (w.heap.holdings.get p).quantity))).outcome w =
          x.map (fun q => .object (.quantity q)) ∧
      (a.run (.object (.holding o)) (.object (.holding p))).outcome w =
        x.map fun q => .object (.holding ⟨q, (w.heap.holding o).owner⟩)

theorem World.Sound.sumsLift {w : World} (hw : w.Sound) {o : Nat} (ho : o < w.heap.holdings.next)
    (p : Nat) : SumsLift w o p := by
  refine ⟨fun a ha hne => ?_, fun a ha he => ?_⟩
  · rw [Arithmetic.outcome_sum_holdings hw ha ho]
    unfold Holding.exactSum
    rw [if_neg hne]
    rfl
  · refine ⟨((w.heap.holding o).quantity.exactSum a.subtracts (w.heap.holding p).quantity).map
      (w.heap.holding o).quantity.withExact, ?_, ?_⟩
    · rw [Arithmetic.outcome_sum ha (hw.heap.inner_isLive ho)]
      show Except.map _ (((w.heap.holding o).quantity.exactSum _ (w.heap.holding p).quantity)) = _
      cases (w.heap.holding o).quantity.exactSum a.subtracts (w.heap.holding p).quantity <;> rfl
    · rw [Arithmetic.outcome_sum_holdings hw ha ho]
      unfold Holding.exactSum
      rw [if_pos he]
      cases (w.heap.holding o).quantity.exactSum a.subtracts (w.heap.holding p).quantity <;> rfl

/-! ## 3. Negation -/

/-- The negative of a holding has the opposite amount, and the symbol and the owner of the holding. -/
theorem outcome_negate_holding {w : World} (hw : w.Sound) (o : Nat) :
    (negate (.object (.holding o))).outcome w = .ok (.object (.holding
      ⟨⟨-(w.heap.holding o).quantity.amount, (w.heap.holding o).quantity.symbol⟩,
        (w.heap.holding o).owner⟩)) := by
  have hrun : negate (.object (.holding o)) w =
      (performAbort (w.heap.holding o).neg >>= fun k => newHoldingLike o k : Act Item) w := rfl
  rw [Holding.neg, (hw.heap.holding o).neg] at hrun
  have hx : negate (.object (.holding o)) w =
      newHoldingResult w o (.ok (-(w.heap.holding o).quantity.amount)) :=
    hrun.trans (newHoldingLike_run o _ w)
  exact outcome_of_newHoldingResult hx

/-! ## 4. Holdings of issued symbols -/

section Issued

variable {w : World} {x : Act Item} {n : Int} {t o : Nat} {s : Tagged Symbol} {c : Tagged Identity}

/-- **A holding of an issued symbol**: the check of a new quantity decides, and the contract is the
owner. -/
theorem outcome_make_holdingOfIssued :
    (make .holdingOfIssued [.int n, .object (.issuedSymbol t s c)]).outcome w =
      (liftAbort (Quantity.assess n s.val)).map fun q => .object (.holding ⟨q, c.val⟩) :=
  outcome_buildQuantity_bind fun _ r => outcome_buildHolding r

/-- A run that came to a holding has given one of this content. -/
theorem exists_of_outcome_eq_holding {k : Holding} (h : x.outcome w = .ok (.object (.holding k))) :
    ∃ o w', x w = .ok (.object (.holding o)) w' ∧ w'.heap.holding o = k := by
  unfold Act.outcome at h
  split at h
  · rename_i v w' hx
    have hv := Except.ok.inj h
    cases v with
    | object ref =>
      rw [Heap.datum_object] at hv
      cases ref with
      | holding o => exact ⟨o, w', hx, by simpa [Heap.entity] using hv⟩
      | _ => simp [Heap.entity] at hv
    | _ => simp [Heap.datum, Value.map, Value.replace] at hv
  · cases h

theorem callMethod_issuedSymbol_run (w : World) (o : Nat) :
    callMethod (.object (.holding o)) .issuedSymbol [] w =
      .ok (.object (.issuedSymbol w.heap.nextTag
        (w.heap.quantities.get (w.heap.holdings.get o).quantity).symbol (w.heap.holdings.get o).owner))
        (w.withTags (w.heap.nextTag + 1)) :=
  rfl

/-- The issued symbol of a holding that a run gives is that of its content. -/
theorem outcome_issuedSymbol_of_holding {k : Holding}
    (h : x.outcome w = .ok (.object (.holding k))) :
    (x >>= fun y => callMethod y .issuedSymbol []).outcome w =
      .ok (.object (.issuedSymbol k.issuedSymbol)) := by
  obtain ⟨o, w', hx, rfl⟩ := exists_of_outcome_eq_holding h
  rw [outcome_bind_of_ok hx, outcome_of_ok (callMethod_issuedSymbol_run w' o), Heap.datum_object]
  rfl

/-- What is put together from the issued symbol of a holding and any amount: the check of a new quantity
decides. -/
theorem outcome_reissue (o : Nat) (n : Int) :
    (callMethod (.object (.holding o)) .issuedSymbol [] >>= fun e =>
      make .holdingOfIssued [.int n, e]).outcome w =
        (liftAbort (Quantity.assess n (w.heap.holding o).quantity.symbol)).map fun q =>
          .object (.holding ⟨q, (w.heap.holding o).owner⟩) := by
  rw [outcome_bind_of_ok (callMethod_issuedSymbol_run w o), outcome_make_holdingOfIssued]
  rfl

end Issued

/-- How a holding is negated, and how it is put together from its amount and its issued symbol. -/
structure HoldingRemade (w : World) (o : Nat) : Prop where
  operator : (negate (.object (.holding o))).outcome w = .ok (.object (.holding
    ⟨⟨-(w.heap.holding o).quantity.amount, (w.heap.holding o).quantity.symbol⟩,
      (w.heap.holding o).owner⟩))
  method : (callMethod (.object (.holding o)) .negate []).outcome w = .ok (.object (.holding
    ⟨⟨-(w.heap.holding o).quantity.amount, (w.heap.holding o).quantity.symbol⟩,
      (w.heap.holding o).owner⟩))
  /-- With a valid symbol the holding is what is put together from its parts. -/
  valid : (w.heap.holding o).quantity.symbol.isValid = true →
    (callMethod (.object (.holding o)) .issuedSymbol [] >>= fun e =>
      make .holdingOfIssued [.int (w.heap.holding o).quantity.amount, e]).outcome w =
        .ok (.object (.holding (w.heap.holding o)))
  /-- Without one its parts are refused. -/
  empty : (w.heap.holding o).quantity.symbol.isValid = false →
    (callMethod (.object (.holding o)) .issuedSymbol [] >>= fun e =>
      make .holdingOfIssued [.int (w.heap.holding o).quantity.amount, e]).outcome w =
        .error (.aborted .invalidSymbol)

theorem World.Sound.holdingRemade {w : World} (hw : w.Sound) (o : Nat) : HoldingRemade w o := by
  have hneg := outcome_negate_holding hw o
  have hr : Amount.inRange (w.heap.holding o).quantity.amount = true := (hw.heap.holding o).1
  refine ⟨hneg, hneg, fun hs => ?_, fun hs => ?_⟩
  · rw [outcome_reissue, Quantity.assess_of_valid hr hs]
    rfl
  · rw [outcome_reissue, Quantity.assess_of_invalid hr hs]
    rfl

/-- How an issued symbol is made a holding of an amount, and read from it again. -/
structure IssuedRemade (w : World) (t : Nat) (s : Tagged Symbol) (c : Tagged Identity) (n : Int) :
    Prop where
  /-- The holding of a valid symbol has the issued symbol that it was made of. -/
  valid : s.val.isValid = true →
    (make .holdingOfIssued [.int n, .object (.issuedSymbol t s c)] >>= fun k =>
      callMethod k .issuedSymbol []).outcome w = .ok (.object (.issuedSymbol ⟨s.val, c.val⟩))
  /-- There is no holding of any other symbol. -/
  invalid : s.val.isValid = false →
    (make .holdingOfIssued [.int n, .object (.issuedSymbol t s c)]).outcome w =
      .error (.aborted .invalidSymbol)

theorem issuedRemade (w : World) (t : Nat) (s : Tagged Symbol) (c : Tagged Identity) {n : Int}
    (hn : Amount.inRange n = true) : IssuedRemade w t s c n := by
  refine ⟨fun hs => ?_, fun hs => ?_⟩
  · have hk : (make .holdingOfIssued [.int n, .object (.issuedSymbol t s c)]).outcome w =
        .ok (.object (.holding ⟨⟨n, s.val⟩, c.val⟩)) := by
      rw [outcome_make_holdingOfIssued, Quantity.assess_of_valid hn hs]
      rfl
    exact outcome_issuedSymbol_of_holding hk
  · rw [outcome_make_holdingOfIssued, Quantity.assess_of_invalid hn hs]
    rfl

/-! ## 5. Reachable worlds -/

/-- **Holdings follow their quantities** in every reachable world: sums and differences in every form,
negation, and the way to an amount with an issued symbol and back. -/
theorem holdings_follow_quantities (steps : List Step) :
    (∀ o p : Nat, o < (World.initial.after steps).heap.holdings.next →
      p < (World.initial.after steps).heap.holdings.next →
        SumsLift (World.initial.after steps) o p) ∧
    (∀ o : Nat, o < (World.initial.after steps).heap.holdings.next →
      HoldingRemade (World.initial.after steps) o) ∧
    ∀ (t : Nat) (s : Tagged Symbol) (c : Tagged Identity) (n : Int), Amount.inRange n = true →
      IssuedRemade (World.initial.after steps) t s c n := by
  have hw : (World.initial.after steps).Sound := World.sound_initial.after steps
  refine ⟨fun o p ho _ => hw.sumsLift ho p, fun o _ => hw.holdingRemade o, ?_⟩
  intro t s c n hn
  exact issuedRemade _ t s c hn

/-- The steps that make two holdings of one symbol, of different owners. -/
def twoOwners : List Step := [
  ⟨.eval (.holding (.plain (.int 7)) (.plain (.text "SYS")) (.plain (.int 4)) (.plain (.int 9))),
    some "a"⟩,
  ⟨.eval (.holding (.plain (.int 5)) (.plain (.text "SYS")) (.plain (.int 4)) (.plain (.int 8))),
    some "b"⟩]

/-- Two owners are not added up, and the holding of the first is put together from its parts. -/
theorem two_owners_apart :
    (operate .add (.object (.holding 0)) (.object (.holding 1))).outcome
      (World.initial.after twoOwners) = .error (.aborted .ownerMismatch) ∧
    (callMethod (.object (.holding 0)) .issuedSymbol [] >>= fun e =>
      make .holdingOfIssued [.int 7, e]).outcome (World.initial.after twoOwners) =
        .ok (.object (.holding ⟨⟨7, ⟨"SYS", 4⟩⟩, ⟨9⟩⟩)) ∧
    (make .holdingOfIssued [.int 7, .object (.issuedSymbol 0 ⟨1, Symbol.null⟩ ⟨2, ⟨9⟩⟩)]).outcome
      (World.initial.after twoOwners) = .error (.aborted .invalidSymbol) :=
  ⟨((holdings_follow_quantities twoOwners).1 0 1 (by decide +kernel) (by decide +kernel)).owners
      (.operator .add) rfl (by decide +kernel),
    ((holdings_follow_quantities twoOwners).2.1 0 (by decide +kernel)).valid (by decide +kernel),
    ((holdings_follow_quantities twoOwners).2.2 0 ⟨1, Symbol.null⟩ ⟨2, ⟨9⟩⟩ 7 (by decide)).invalid
      (by decide)⟩

end Ledger

end Holdings
