/-
# The six comparisons

Two quantities are compared by their amounts, once their symbols have been found equal; so all six comparisons
have the answer that the integers give, or all six abort (`answer_quantities`).  That is why they fit each other:
one of less, equal and greater is true and the others are told from these (`Coherent`).

Two holdings have two things that may differ.  Where they are put in order the owners are looked at first, and
what follows is the question for the quantities (`answer_holdings_of_order`).  Where they are asked for equality
the quantities are looked at first, and the owners are part of the answer (`answer_holdings_eq`).
-/
import Holdings.Ledger.Operators
import Holdings.Proofs.Exact
import Holdings.Proofs.Ledger.Acts

namespace Holdings

/-! ## 1. Answers that fit each other -/

namespace Comparison

/-- Six answers that may be given together: exactly one of less, equal and greater is true, and the other three
are put together from these. -/
structure Coherent (f : Comparison → Bool) : Prop where
  one : [f .lt, f .eq, f .gt].count true = 1
  le : f .le = (f .lt || f .eq)
  ge : f .ge = !f .lt
  ne : f .ne = !f .eq

/-- The comparisons of two integers fit each other. -/
theorem coherent_holds (a b : Int) : Coherent fun c => c.holds a b := by
  rcases Int.lt_trichotomy a b with h | rfl | h
  · have hle : a ≤ b := by omega
    have hne : a ≠ b := by omega
    have hgt : ¬ b < a := by omega
    have hge : ¬ b ≤ a := by omega
    constructor <;> simp [holds, bne, h, hle, hne, hgt, hge]
  · constructor <;> simp [holds]
  · have hle : ¬ a ≤ b := by omega
    have hne : a ≠ b := by omega
    have hlt : ¬ a < b := by omega
    have hge : b ≤ a := by omega
    constructor <;> simp [holds, bne, h, hle, hne, hlt, hge]

/-- Every comparison but being unequal is transitive. -/
theorem holds_trans {c : Comparison} (hc : c ≠ .ne) {x y z : Int} (h : c.holds x y = true)
    (h' : c.holds y z = true) : c.holds x z = true := by
  cases c with
  | ne => exact absurd rfl hc
  | eq =>
    simp only [holds, beq_iff_eq] at *
    exact h.trans h'
  | lt | le | gt | ge =>
    simp only [holds, decide_eq_true_eq] at *
    omega

end Comparison

/-! ## 2. Comparisons of contents -/

theorem Quantity.Differs.symm {q r : Quantity} (h : q.Differs r) : r.Differs q :=
  Quantity.differs_iff.mpr (Ne.symm (Quantity.differs_iff.mp h))

theorem Quantity.differs_comm {q r : Quantity} : q.Differs r ↔ r.Differs q :=
  ⟨Differs.symm, Differs.symm⟩

/-- Quantities are compared by amount, if their symbols are the same. -/
theorem Quantity.compare_eq (c : Comparison) (q r : Quantity) :
    q.compare c r =
      if q.Differs r then .error (.symbolMismatch .compare) else .ok (c.holds q.amount r.amount) := by
  unfold Quantity.compare
  rw [requireSame_eq]
  split <;> rfl

/-- Holdings are equal in amount and owner; nothing is said of different symbols. -/
theorem Holding.equal_eq (h k : Holding) :
    h.equal k = if h.quantity.Differs k.quantity then .error (.symbolMismatch .compare)
      else .ok (h.quantity.amount == k.quantity.amount && h.owner == k.owner) := by
  unfold Holding.equal
  rw [Quantity.compare_eq]
  split <;> rfl

/-- Put in order, holdings of one owner are compared as their quantities. -/
theorem Holding.compare_of_order {c : Comparison} (hc : c ∈ [Comparison.lt, .le, .gt, .ge])
    (h k : Holding) :
    h.compare c k =
      if h.owner = k.owner then h.quantity.compare c k.quantity else .error .ownerMismatch := by
  have hrun : h.compare c k = h.requireSame k >>= fun _ => h.quantity.compare c k.quantity := by
    cases c with
    | eq | ne => simp at hc
    | lt | le | gt | ge => rfl
  rw [hrun, requireSame_eq]
  split <;> rfl

namespace Ledger

open Act

/-! ## 3. Comparisons of objects -/

/-- What comes of the question how two values compare. -/
def answer (w : World) (v x : Item) (c : Comparison) : Except Fault Datum :=
  (operate (.compare c) v x).outcome w

section Answers

variable (w : World) (c : Comparison)

/-- Two quantities answer as their contents do. -/
theorem answer_quantity_eq (r s : Nat) :
    answer w (.object (.quantity r)) (.object (.quantity s)) c =
      (liftAbort ((w.heap.quantity r).compare c (w.heap.quantity s))).map .bool := by
  have hrun : operate (.compare c) (.object (.quantity r)) (.object (.quantity s)) w =
      (performAbort ((w.heap.quantity r).compare c (w.heap.quantity s)) >>=
        fun b => pure (.bool b) : Act Item) w := rfl
  unfold answer Act.outcome
  rw [hrun]
  exact outcome_perform

/-- So do two holdings. -/
theorem answer_holding_eq (o p : Nat) :
    answer w (.object (.holding o)) (.object (.holding p)) c =
      (liftAbort ((w.heap.holding o).compare c (w.heap.holding p))).map .bool := by
  have hrun : operate (.compare c) (.object (.holding o)) (.object (.holding p)) w =
      (performAbort ((w.heap.holding o).compare c (w.heap.holding p)) >>=
        fun b => pure (.bool b) : Act Item) w := rfl
  unfold answer Act.outcome
  rw [hrun]
  exact outcome_perform

/-- **All six comparisons of two quantities** compare their amounts, or abort for their symbols. -/
theorem answer_quantities (r s : Nat) :
    answer w (.object (.quantity r)) (.object (.quantity s)) c =
      if (w.heap.quantity r).Differs (w.heap.quantity s) then
        .error (.aborted (.symbolMismatch .compare))
      else .ok (.bool (c.holds (w.heap.quantity r).amount (w.heap.quantity s).amount)) := by
  rw [answer_quantity_eq, Quantity.compare_eq]
  split <;> rfl

variable {c} in
/-- A comparison of two quantities is true when their symbols are the same and their amounts compare so. -/
theorem answer_quantities_eq_true_iff {r s : Nat} :
    answer w (.object (.quantity r)) (.object (.quantity s)) c = .ok (.bool true) ↔
      (w.heap.quantity s).symbol = (w.heap.quantity r).symbol ∧
        c.holds (w.heap.quantity r).amount (w.heap.quantity s).amount = true := by
  rw [answer_quantities]
  by_cases hd : (w.heap.quantity r).Differs (w.heap.quantity s)
  · have hs := Quantity.differs_iff.mp hd
    simp [if_pos hd, hs]
  · have hs := Decidable.not_not.mp (mt Quantity.differs_iff.mpr hd)
    simp [if_neg hd, hs]

variable {c} in
/-- **The order of holdings** is that of their quantities, between holdings of one owner. -/
theorem answer_holdings_of_order (hc : c ∈ [Comparison.lt, .le, .gt, .ge]) (o p : Nat) :
    answer w (.object (.holding o)) (.object (.holding p)) c =
      if (w.heap.holding o).owner = (w.heap.holding p).owner then
        answer w (.object (.quantity (w.heap.holdings.get o).quantity))
          (.object (.quantity (w.heap.holdings.get p).quantity)) c
      else .error (.aborted .ownerMismatch) := by
  rw [answer_holding_eq, Holding.compare_of_order hc]
  split
  · rw [answer_quantity_eq]
    rfl
  · rfl

/-- **Equality of holdings** is that of amount and owner, between holdings of one symbol. -/
theorem answer_holdings_eq (o p : Nat) :
    answer w (.object (.holding o)) (.object (.holding p)) .eq =
      if (w.heap.holding o).quantity.Differs (w.heap.holding p).quantity then
        .error (.aborted (.symbolMismatch .compare))
      else .ok (.bool ((w.heap.holding o).quantity.amount == (w.heap.holding p).quantity.amount &&
        (w.heap.holding o).owner == (w.heap.holding p).owner)) := by
  have hrun : (w.heap.holding o).compare .eq (w.heap.holding p) =
      (w.heap.holding o).equal (w.heap.holding p) := rfl
  rw [answer_holding_eq, hrun, Holding.equal_eq]
  split <;> rfl

/-- Being unequal is answered the other way round. -/
theorem answer_holdings_ne (o p : Nat) :
    answer w (.object (.holding o)) (.object (.holding p)) .ne =
      if (w.heap.holding o).quantity.Differs (w.heap.holding p).quantity then
        .error (.aborted (.symbolMismatch .compare))
      else .ok (.bool !((w.heap.holding o).quantity.amount == (w.heap.holding p).quantity.amount &&
        (w.heap.holding o).owner == (w.heap.holding p).owner)) := by
  have hrun : (w.heap.holding o).compare .ne (w.heap.holding p) =
      ((w.heap.holding o).equal (w.heap.holding p)).map (!·) := rfl
  rw [answer_holding_eq, hrun, Holding.equal_eq]
  split <;> rfl

end Answers

/-! ## 4. How comparisons fit each other -/

/-- What holds of the comparisons of one quantity with another, and with a third one. -/
structure QuantitiesCompare (w : World) (r s : Nat) : Prop where
  refused : (w.heap.quantity r).Differs (w.heap.quantity s) → ∀ c,
    answer w (.object (.quantity r)) (.object (.quantity s)) c =
      .error (.aborted (.symbolMismatch .compare))
  answered : ¬ (w.heap.quantity r).Differs (w.heap.quantity s) → ∃ f : Comparison → Bool,
    (∀ c, answer w (.object (.quantity r)) (.object (.quantity s)) c = .ok (.bool (f c))) ∧
      Comparison.Coherent f ∧
      (f .lt = true ↔ (w.heap.quantity r).amount < (w.heap.quantity s).amount) ∧
      (f .eq = true ↔ (w.heap.quantity r).amount = (w.heap.quantity s).amount)
  /-- The mirrored question has the same answer or the same failure. -/
  mirrored : ∀ c, answer w (.object (.quantity r)) (.object (.quantity s)) c =
    answer w (.object (.quantity s)) (.object (.quantity r)) c.converse
  transitive : ∀ (t : Nat) (c : Comparison), c ≠ .ne →
    answer w (.object (.quantity r)) (.object (.quantity s)) c = .ok (.bool true) →
    answer w (.object (.quantity s)) (.object (.quantity t)) c = .ok (.bool true) →
    answer w (.object (.quantity r)) (.object (.quantity t)) c = .ok (.bool true)

theorem quantitiesCompare (w : World) (r s : Nat) : QuantitiesCompare w r s := by
  refine ⟨fun hd c => ?_, fun hd => ?_, fun c => ?_, fun t c hc h h' => ?_⟩
  · rw [answer_quantities, if_pos hd]
  · refine ⟨fun c => c.holds (w.heap.quantity r).amount (w.heap.quantity s).amount, fun c => ?_,
      Comparison.coherent_holds _ _, ?_, ?_⟩
    · rw [answer_quantities, if_neg hd]
    · simp [Comparison.holds]
    · simp [Comparison.holds]
  · rw [answer_quantities, answer_quantities, Comparison.holds_converse,
      if_congr Quantity.differs_comm rfl rfl]
  · obtain ⟨hs, hrs⟩ := (answer_quantities_eq_true_iff w).mp h
    obtain ⟨ht, hst⟩ := (answer_quantities_eq_true_iff w).mp h'
    exact (answer_quantities_eq_true_iff w).mpr ⟨ht.trans hs, Comparison.holds_trans hc hrs hst⟩

/-- What holds of the comparisons of one holding with another. -/
structure HoldingsCompare (w : World) (o p : Nat) : Prop where
  /-- Holdings of two owners have no order, whatever their symbols are. -/
  owners : (w.heap.holding o).owner ≠ (w.heap.holding p).owner →
    ∀ c ∈ [Comparison.lt, .le, .gt, .ge],
      answer w (.object (.holding o)) (.object (.holding p)) c = .error (.aborted .ownerMismatch)
  /-- Holdings of one owner have the order of their quantities, failures included. -/
  ordered : (w.heap.holding o).owner = (w.heap.holding p).owner →
    ∀ c ∈ [Comparison.lt, .le, .gt, .ge],
      answer w (.object (.holding o)) (.object (.holding p)) c =
        answer w (.object (.quantity (w.heap.holdings.get o).quantity))
          (.object (.quantity (w.heap.holdings.get p).quantity)) c
  /-- Whether holdings of two symbols are equal has no answer, whatever their owners are. -/
  symbols : (w.heap.holding o).quantity.Differs (w.heap.holding p).quantity →
    ∀ c ∈ [Comparison.eq, .ne],
      answer w (.object (.holding o)) (.object (.holding p)) c =
        .error (.aborted (.symbolMismatch .compare))
  equality : ¬ (w.heap.holding o).quantity.Differs (w.heap.holding p).quantity → ∃ b : Bool,
    answer w (.object (.holding o)) (.object (.holding p)) .eq = .ok (.bool b) ∧
      answer w (.object (.holding o)) (.object (.holding p)) .ne = .ok (.bool !b) ∧
      (b = true ↔ (w.heap.holding o).quantity.amount = (w.heap.holding p).quantity.amount ∧
        (w.heap.holding o).owner = (w.heap.holding p).owner)

theorem holdingsCompare (w : World) (o p : Nat) : HoldingsCompare w o p := by
  refine ⟨fun ho c hc => ?_, fun ho c hc => ?_, fun hd c hc => ?_, fun hd => ?_⟩
  · rw [answer_holdings_of_order w hc, if_neg ho]
  · rw [answer_holdings_of_order w hc, if_pos ho]
  · rcases List.mem_pair.mp hc with rfl | rfl
    · rw [answer_holdings_eq, if_pos hd]
    · rw [answer_holdings_ne, if_pos hd]
  · refine ⟨(w.heap.holding o).quantity.amount == (w.heap.holding p).quantity.amount &&
      (w.heap.holding o).owner == (w.heap.holding p).owner, ?_, ?_, ?_⟩
    · rw [answer_holdings_eq, if_neg hd]
    · rw [answer_holdings_ne, if_neg hd]
    · simp

/-- **The six comparisons are coherent** in every world, so in every one that a script reaches, for any two
quantities and any two holdings, which may be one object. -/
theorem comparisons_coherent (w : World) :
    (∀ r s : Nat, QuantitiesCompare w r s) ∧ ∀ o p : Nat, HoldingsCompare w o p :=
  ⟨quantitiesCompare w, holdingsCompare w⟩

end Ledger

end Holdings
