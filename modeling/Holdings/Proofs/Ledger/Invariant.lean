/-
# What every reachable object satisfies

A script may build, change, share and copy objects in any order, and its steps may fail; still every
quantity there ever is has an amount in range, and a symbol that is valid or null.  This is the soundness
of `World.Sound.after` read for one object, together with what follows for the caller: such a quantity
can always be shown, written to bytes, negated and copied (`QuantityRegular`), and a holding can be shown,
written and negated (`HoldingRegular`).

A holding cannot be copied or asked for its validity: it has no such methods, its quantity has.
-/
import Mathlib.Algebra.Group.Int.Defs
import Holdings.Proofs.Exact
import Holdings.Proofs.Text.Amounts
import Holdings.Proofs.Wire.Entities
import Holdings.Proofs.Ledger.Running

namespace Holdings

/-! ## 1. Operations that cannot fail -/

/-- An admissible symbol has no more fraction digits than an amount may have. -/
theorem Quantity.Admissible.precision_le {q : Quantity} (h : q.Admissible) :
    q.symbol.precision.toNat ≤ 18 := by
  rcases h.2 with hv | hn
  · exact (Symbol.isValid_iff.mp hv).2
  · rw [hn]
    decide

theorem Quantity.Admissible.natAbs_lt {q : Quantity} (h : q.Admissible) : q.amount.natAbs < 2 ^ 128 := by
  have hle := Amount.inRange_iff_natAbs.mp h.1
  omega

theorem Quantity.Admissible.text {q : Quantity} (h : q.Admissible) : ∃ s, q.text = .ok s := by
  have hp := h.precision_le
  have hshort := Amount.not_isLong_wholePart h.natAbs_lt q.symbol.precision.toNat
  exact ⟨_, Amount.text_of_not_isLong ⟨by omega, by omega⟩ hshort q.symbol.code⟩

/-- Of the admissible quantities exactly those with a symbol are valid. -/
theorem Quantity.Admissible.isValid_iff {q : Quantity} (h : q.Admissible) :
    q.isValid = true ↔ q.symbol ≠ Symbol.null := by
  have hq : q.isValid = q.symbol.isValid := by
    unfold Quantity.isValid Quantity.inRange
    rw [h.1, Bool.true_and]
  rw [hq]
  constructor
  · intro hv hn
    rw [hn, Symbol.isValid_null] at hv
    exact Bool.false_ne_true hv
  · intro hn
    exact h.2.resolve_right hn

/-- The word of an identity is the integer that was given: it was checked, so nothing is cut off. -/
theorem Identity.value_of_ofFields {fields : Fields} {i : Identity}
    (h : Identity.ofFields fields = .valid i) :
    ∃ n : Int, fields.lookup "value" = some (.int n) ∧ i.value.toNat = n := by
  unfold Identity.ofFields at h
  obtain ⟨n, hn, rfl⟩ := Verdict.map_eq_valid_iff.mp h
  unfold Fields.checkField Fields.check Fields.check at hn
  split at hn
  · rename_i v hv
    rw [Verdict.under_eq_valid_iff] at hn
    unfold Datum.checkIntBetween at hn
    split at hn
    · split at hn
      · cases hn
      · split at hn
        · cases hn
        · rename_i m h₀ h₁
          obtain rfl := Verdict.valid.inj hn
          refine ⟨m, hv, ?_⟩
          unfold maxValue at h₁
          rw [UInt64.toNat_ofNat']
          omega
    · cases hn
  · rw [Verdict.under_eq_valid_iff] at hn
    cases hn

namespace Ledger

open Act

/-! ## 2. Quantities and holdings of a world -/

/-- What holds of a quantity of a reachable world. -/
structure QuantityRegular (w : World) (r : Nat) : Prop where
  /-- The amount is a plain integer. -/
  amount_int : attribute? w.heap (.quantity r) "amount" = some (.int (w.heap.quantity r).amount)
  amount_range : -(2 ^ 62 - 1) ≤ (w.heap.quantity r).amount ∧
    (w.heap.quantity r).amount ≤ 2 ^ 62 - 1
  /-- The symbol has one to seven capital letters and at most eighteen fraction digits, or it is null. -/
  symbol : ((1 ≤ (w.heap.quantity r).symbol.code.toList.length ∧
      (w.heap.quantity r).symbol.code.toList.length ≤ 7 ∧
      ∀ c ∈ (w.heap.quantity r).symbol.code.toList, 'A'.toNat ≤ c.toNat ∧ c.toNat ≤ 'Z'.toNat) ∧
      (w.heap.quantity r).symbol.precision.toNat ≤ 18) ∨
    ((w.heap.quantity r).symbol.code = "" ∧ (w.heap.quantity r).symbol.precision = 0)
  isInRange : callMethod (.object (.quantity r)) .isInRange [] w = .ok (.bool true) w
  isValid : ∃ b, callMethod (.object (.quantity r)) .isValid [] w = .ok (.bool b) w ∧
    (b = true ↔ (w.heap.quantity r).symbol ≠ Symbol.null)
  toText : ∃ s, callMethod (.object (.quantity r)) .toText [] w = .ok (.text s) w
  pack : ∃ d, callMethod (.object (.quantity r)) .pack [] w = .ok (.bytes d) w
  negate : ∃ n w', callMethod (.object (.quantity r)) .negate [] w = .ok (.object (.quantity n)) w'
  copyValue : ∃ n w',
    callMethod (.object (.quantity r)) .copyValue [] w = .ok (.object (.quantity n)) w'

/-- What holds of a holding of a reachable world, besides what holds of its quantity. -/
structure HoldingRegular (w : World) (r : Nat) : Prop where
  /-- Its quantity is one of the quantities of the world. -/
  inner : ∃ q, attribute? w.heap (.holding r) "quantity" = some (.object (.quantity q)) ∧
    q < w.heap.quantities.next
  toText : ∃ s, callMethod (.object (.holding r)) .toText [] w = .ok (.text s) w
  pack : ∃ d, callMethod (.object (.holding r)) .pack [] w = .ok (.bytes d) w
  negate : ∃ n w', callMethod (.object (.holding r)) .negate [] w = .ok (.object (.holding n)) w'

theorem World.Sound.quantityRegular {w : World} (hw : w.Sound) (r : Nat) : QuantityRegular w r := by
  have hq : (w.heap.quantity r).Admissible := hw.heap.quantity r
  refine ⟨?_, ?_, ?_, ?_, ?_, ?_, ?_, ?_, ?_⟩
  · rfl
  · have hr := Amount.inRange_iff.mp hq.1
    unfold Amount.limit at hr
    omega
  · rcases hq.2 with hv | hn
    · exact Or.inl (Symbol.isValid_iff.mp hv)
    · refine Or.inr ?_
      rw [hn]
      exact ⟨rfl, rfl⟩
  · have hrun : callMethod (.object (.quantity r)) .isInRange [] w =
        .ok (.bool (w.heap.quantity r).inRange) w := rfl
    rw [hrun]
    unfold Quantity.inRange
    rw [hq.1]
  · exact ⟨(w.heap.quantity r).isValid, rfl, hq.isValid_iff⟩
  · obtain ⟨s, hs⟩ := hq.text
    have hrun : callMethod (.object (.quantity r)) .toText [] w =
        (perform (w.heap.quantity r).text >>= fun s => pure (.text s) : Act Item) w := rfl
    rw [hrun, hs]
    exact ⟨s, rfl⟩
  · have hrun : callMethod (.object (.quantity r)) .pack [] w =
        (perform (w.heap.quantity r).pack >>= fun d => pure (.bytes d) : Act Item) w := rfl
    rw [hrun, (Quantity.pack_of_admissible hq).1]
    exact ⟨_, rfl⟩
  · have hrun : callMethod (.object (.quantity r)) .negate [] w =
        (performAbort (w.heap.quantity r).neg >>= fun q => newLike r q : Act Item) w := rfl
    rw [hrun, hq.neg]
    exact ⟨_, _, rfl⟩
  · exact ⟨_, _, rfl⟩

theorem World.Sound.holdingRegular {w : World} (hw : w.Sound) {r : Nat}
    (hr : r < w.heap.holdings.next) : HoldingRegular w r := by
  have hq : (w.heap.holding r).quantity.Admissible := hw.heap.holding r
  refine ⟨⟨_, rfl, hw.heap.inner_isLive hr⟩, ?_, ?_, ?_⟩
  · obtain ⟨s, hs⟩ := hq.text
    have hrun : callMethod (.object (.holding r)) .toText [] w =
        (perform (w.heap.holding r).text >>= fun s => pure (.text s) : Act Item) w := rfl
    rw [hrun, Holding.text, hs]
    exact ⟨_, rfl⟩
  · have hrun : callMethod (.object (.holding r)) .pack [] w =
        (perform (w.heap.holding r).pack >>= fun d => pure (.bytes d) : Act Item) w := rfl
    rw [hrun, Holding.pack_eq, (Quantity.pack_of_admissible hq).1]
    exact ⟨_, rfl⟩
  · have hrun : callMethod (.object (.holding r)) .negate [] w =
        (performAbort (w.heap.holding r).neg >>= fun k => newHoldingLike r k : Act Item) w := rfl
    rw [hrun, Holding.neg, hq.neg]
    exact ⟨_, _, rfl⟩

/-! ## 3. Reachable worlds -/

/-- **The invariant of reachable worlds.**  After any steps, in any order and whether they succeeded
or failed, every quantity that is there is regular, so is every holding, and every identity is an integer
of sixty-four bits, the one that it was made from. -/
theorem reachable_regular (steps : List Step) :
    (∀ r, r < (World.initial.after steps).heap.quantities.next →
      QuantityRegular (World.initial.after steps) r) ∧
    (∀ r, r < (World.initial.after steps).heap.holdings.next →
      HoldingRegular (World.initial.after steps) r) ∧
    (∀ i : Tagged Identity, ∃ n : Int,
      attribute? (World.initial.after steps).heap (.identity i) "value" = some (.int n) ∧
        0 ≤ n ∧ n ≤ 2 ^ 64 - 1) ∧
    ∀ (fields : Fields) (i : Identity), Identity.ofFields fields = .valid i →
      ∃ n : Int, fields.lookup "value" = some (.int n) ∧ i.value.toNat = n := by
  have hw : (World.initial.after steps).Sound := World.sound_initial.after steps
  refine ⟨fun r _ => hw.quantityRegular r, fun r hr => hw.holdingRegular hr, ?_, ?_⟩
  · intro i
    have hi := i.val.value.toNat_lt
    exact ⟨i.val.value.toNat, rfl, by omega, by omega⟩
  · intro fields i hi
    exact Identity.value_of_ofFields hi

/-- The invariant at the holding that a script has just made. -/
theorem regular_empty_holding :
    HoldingRegular (World.initial.after [⟨.make (.empty .holding) [], some "h"⟩]) 0 :=
  (reachable_regular [⟨.make (.empty .holding) [], some "h"⟩]).2.1 0 (by decide)

/-- A holding has no method that copies it: the call fails in a reachable world. -/
theorem holding_copyValue_missing :
    ((Step.mk (.call (.var "h") .copyValue []) none).run
      (World.initial.after [⟨.make (.empty .holding) [], some "h"⟩])).1 = .error .noAttribute := by
  rfl

end Ledger

end Holdings
