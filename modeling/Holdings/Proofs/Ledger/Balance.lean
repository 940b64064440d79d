/-
# Running balances

A quantity or a holding to which others are added and from which others are subtracted, again and again;
some of these postings are refused, and the script goes on.

Each posting has one outcome (`Posting.outcome`): a new amount, or a reason to refuse it.  If it is
refused nothing changes.  If not, the amount changes by that of the operand and nothing else does
(`Posting.run_eq`).  So the amount at the end is the one at the start and the changes of the postings that
succeeded, also when the operand is the balance itself: then its change is the amount that it has by then.

The order of the postings does not matter if none of them is of the balance itself.  Then the changes
are known before the first posting, for no posting changes another operand; and a sum does not depend
on its order.  Whether all postings succeed does depend on it, unless the amounts are so small that no
partial sum leaves the range.
-/
import Mathlib.Algebra.BigOperators.Group.List.Basic
import Mathlib.Algebra.Ring.Int.Defs
import Mathlib.Algebra.Ring.Nat
import Holdings.Proofs.Ledger.Arithmetic

namespace Holdings.Ledger

open Act

/-! ## 1. The amount of a value -/

namespace Heap

variable {h : Heap} {v x : Item} {r : Nat} {a : Int} {subtract : Bool}

/-- The amount of a quantity or of the quantity of a holding; nothing else has one. -/
def amountOf (h : Heap) (v : Item) : Int :=
  match h.amountPlace? v with
  | some r => (h.quantity r).amount
  | none => 0

theorem amountOf_of_place (hr : h.amountPlace? v = some r) : h.amountOf v = (h.quantity r).amount := by
  unfold amountOf
  rw [hr]

theorem Sound.inRange_amountOf (s : h.Sound) (v : Item) : Amount.inRange (h.amountOf v) = true := by
  unfold amountOf
  split
  · exact (s.quantity _).1
  · rfl

/-- The two can be added and subtracted: two quantities of one symbol, or two holdings of one owner and
one symbol. -/
def Compatible (h : Heap) (v x : Item) : Prop :=
  match v with
  | .object (.quantity r) =>
    match x with
    | .object (.quantity s) => (h.quantity s).symbol = (h.quantity r).symbol
    | _ => False
  | .object (.holding o) =>
    match x with
    | .object (.holding p) => (h.holding o).owner = (h.holding p).owner ∧
        (h.holding p).quantity.symbol = (h.holding o).quantity.symbol
    | _ => False
  | _ => False

/-- What adding to a value in place, or subtracting from it, comes to. -/
def exactPosting (h : Heap) (subtract : Bool) (v x : Item) : Except Fault Int :=
  match v with
  | .object (.quantity r) =>
    match x with
    | .object (.quantity s) => (h.quantity r).exactSum subtract (h.quantity s)
    | .object (.issuedSymbol _ s _) =>
      if (h.quantity r).Differs ⟨0, s.val⟩ then
        .error (.aborted (.symbolMismatch (if subtract then .subtract else .add)))
      else .error .noAttribute
    | _ => .error .noAttribute
  | .object (.holding o) =>
    match x with
    | .object (.holding p) => (h.holding o).exactSum subtract (h.holding p)
    | _ => .error .noAttribute
  | _ => .error .noAttribute

/-- **A posting is accepted** if the two can be added and the result is an amount. -/
theorem exactPosting_eq_ok_iff : h.exactPosting subtract v x = .ok a ↔
    h.Compatible v x ∧ Amount.inRange a = true ∧
      a = if subtract then h.amountOf v - h.amountOf x else h.amountOf v + h.amountOf x := by
  have refused : ∀ {f : Fault} {p q : Prop}, ¬ p →
      ((.error f : Except Fault Int) = .ok a ↔ p ∧ q) :=
    fun hp => ⟨fun he => (nomatch he), fun hpq => absurd hpq.1 hp⟩
  unfold exactPosting Compatible
  split
  · split
    · exact Quantity.exactSum_eq_ok_iff
    · split
      · exact refused id
      · exact refused id
    · rename_i hq _
      refine refused ?_
      split
      · exact (hq _ rfl).elim
      · exact id
  · split
    · exact Holding.exactSum_eq_ok_iff
    · exact refused id
  · exact refused id

/-! ### Amounts and symbols after one amount was set -/

theorem amountPlace?_setAmount : (h.setAmount r a).amountPlace? v = h.amountPlace? v := rfl

theorem quantity_setAmount_self (hr : r < h.quantities.next) :
    (h.setAmount r a).quantity r = (h.quantity r).withExact a := by
  simp only [Heap.quantity, Heap.setAmount]
  rw [Store.get_put_self hr]
  rfl

theorem quantity_setAmount_ne {t : Nat} (ht : r ≠ t) :
    (h.setAmount r a).quantity t = h.quantity t := by
  simp only [Heap.quantity, Heap.setAmount]
  rw [Store.get_put_ne ht]

theorem symbol_setAmount (hr : r < h.quantities.next) (t : Nat) :
    ((h.setAmount r a).quantity t).symbol = (h.quantity t).symbol := by
  by_cases ht : r = t
  · rw [← ht, quantity_setAmount_self hr]
    rfl
  · rw [quantity_setAmount_ne ht]

theorem amountOf_setAmount_self (hv : h.amountPlace? v = some r) (hr : r < h.quantities.next) :
    (h.setAmount r a).amountOf v = a := by
  rw [amountOf_of_place (amountPlace?_setAmount.trans hv), quantity_setAmount_self hr]
  rfl

theorem amountOf_setAmount_ne (hx : h.amountPlace? x ≠ some r) :
    (h.setAmount r a).amountOf x = h.amountOf x := by
  unfold amountOf
  rw [amountPlace?_setAmount]
  cases ht : h.amountPlace? x with
  | none => rfl
  | some t =>
    have hne : r ≠ t := fun he => hx (by rw [ht, he])
    show ((h.setAmount r a).quantity t).amount = _
    rw [quantity_setAmount_ne hne]

/-- What can be added can still be added when an amount is another. -/
theorem compatible_setAmount (hr : r < h.quantities.next) :
    (h.setAmount r a).Compatible v x ↔ h.Compatible v x := by
  unfold Compatible
  split
  · split
    · rw [symbol_setAmount hr, symbol_setAmount hr]
    · rfl
  · split
    · simp only [Heap.holding, symbol_setAmount hr]
      rfl
    · rfl
  · rfl

end Heap

/-! ## 2. One posting -/

/-- The result of setting the amount of a value in place, or a refusal. -/
def settledResult (w : World) (v : Item) (r : Nat) :
    Except Fault Int → EStateM.Result Fault World Item
  | .ok a => .ok v (w.withHeap (w.heap.setAmount r a))
  | .error f => refusal w f

/-- The method that adds in place or subtracts in place. -/
def Method.ofPosting (subtract : Bool) : Method := if subtract then .subAssign else .addAssign

section Run

variable {w : World} {v x : Item} {r : Nat} {subtract : Bool}

/-- A refusal that is no failed check leaves no trace. -/
theorem refusal_of_reports_nil {f : Fault} (hf : reports f = []) (w : World) :
    refusal w f = .error f w := by
  unfold refusal
  rw [hf]
  simp only [withEvents, List.append_nil]

/-- A quantity that is added to or subtracted from has the exact amount, or it is refused.  An issued
symbol has a symbol to be compared, but no amount. -/
theorem combineAssign_run (w : World) (subtract : Bool) (r : Nat) (x : Item) :
    combineAssign subtract r x w = settledResult w (.object (.quantity r)) r
      (w.heap.exactPosting subtract (.object (.quantity r)) x) := by
  unfold combineAssign
  split
  · exact perform_assign (combine_eq_exactSum subtract _ _)
  · rename_i t s c
    show (performAbort ((w.heap.quantity r).requireSame ⟨0, s.val⟩ _) >>= fun _ => throw _) w = _
    rw [Quantity.requireSame_eq]
    unfold Heap.exactPosting
    dsimp only
    by_cases hd : (w.heap.quantity r).Differs ⟨0, s.val⟩
    · rw [if_pos hd, if_pos hd]
      exact bind_of_error (perform_error _ w)
    · rw [if_neg hd, if_neg hd]
      exact (refusal_of_reports_nil rfl w).symm
  · rename_i hq hs
    have he : w.heap.exactPosting subtract (.object (.quantity r)) x = .error .noAttribute := by
      unfold Heap.exactPosting
      dsimp only
      split
      · exact (hq _ rfl).elim
      · exact (hs _ _ _ rfl).elim
      · rfl
    rw [he]
    exact (refusal_of_reports_nil rfl w).symm

/-- A holding that is added to or subtracted from has the exact amount, or it is refused. -/
theorem combineHoldingAssign_run (w : World) (subtract : Bool) (o : Nat) (x : Item) :
    combineHoldingAssign subtract o x w = settledResult w (.object (.holding o))
      (w.heap.holdings.get o).quantity
        (w.heap.exactPosting subtract (.object (.holding o)) x) := by
  unfold combineHoldingAssign
  split
  · rename_i p
    show (perform (liftAbort (combineHoldings subtract (w.heap.holding o) (w.heap.holding p))) >>=
      fun k => assignHolding o k) w = settledResult w _ _ ((w.heap.holding o).exactSum subtract _)
    rw [combineHoldings_eq_exactSum]
    cases (w.heap.holding o).exactSum subtract (w.heap.holding p) with
    | ok a => rfl
    | error f => exact bind_of_error (perform_error f w)
  · rename_i hh
    have he : w.heap.exactPosting subtract (.object (.holding o)) x = .error .noAttribute := by
      unfold Heap.exactPosting
      dsimp only
      split
      · exact (hh _ rfl).elim
      · rfl
    rw [he]
    exact (refusal_of_reports_nil rfl w).symm

/-- **The methods that post** settle the exact outcome, whatever the operand is. -/
theorem callMethod_ofPosting (hv : w.heap.amountPlace? v = some r) :
    callMethod v (Method.ofPosting subtract) [x] w =
      settledResult w v r (w.heap.exactPosting subtract v x) := by
  unfold Heap.amountPlace? at hv
  split at hv
  · cases hv
    rw [← combineAssign_run]
    cases subtract <;> rfl
  · cases hv
    rw [← combineHoldingAssign_run]
    cases subtract <;> rfl
  · cases hv

end Run

/-! ## 3. Postings of a script -/

/-- A variable that is added to a balance or subtracted from it. -/
structure Posting where
  subtract : Bool
  operand : String
  deriving DecidableEq

namespace Posting

/-- The step that posts to the balance of this name. -/
def step (target : String) (p : Posting) : Step :=
  ⟨.call (.var target) (Method.ofPosting p.subtract) [.var p.operand], none⟩

/-- By how much a posting changes the balance if it succeeds. -/
def change (p : Posting) (w : World) : Int :=
  match w.bindings.lookup p.operand with
  | some x => if p.subtract then -w.heap.amountOf x.value else w.heap.amountOf x.value
  | none => 0

/-- The operand is there and can be added to the value. -/
def Matches (p : Posting) (w : World) (v : Item) : Prop :=
  ∃ x, w.bindings.lookup p.operand = some x ∧ w.heap.Compatible v x.value

/-- What a posting comes to: the new amount of the value, or the reason to refuse it. -/
def outcome (p : Posting) (w : World) (v : Item) : Except Fault Int :=
  match w.bindings.lookup p.operand with
  | some x => w.heap.exactPosting p.subtract v x.value
  | none => .error .unbound

/-- The change that a posting to the balance of this name made: none if it was refused. -/
def posted (p : Posting) (target : String) (w : World) : Int :=
  match ((p.step target).run w).1 with
  | .ok _ => p.change w
  | .error _ => 0

theorem outcome_eq_ok_iff {p : Posting} {w : World} {v : Item} {a : Int} :
    p.outcome w v = .ok a ↔ p.Matches w v ∧ Amount.inRange a = true ∧
      a = w.heap.amountOf v + p.change w := by
  unfold outcome Matches change
  cases hx : w.bindings.lookup p.operand with
  | none => simp
  | some x =>
    dsimp only
    rw [Heap.exactPosting_eq_ok_iff]
    have hsum : (if p.subtract = true then w.heap.amountOf v - w.heap.amountOf x.value
          else w.heap.amountOf v + w.heap.amountOf x.value) =
        w.heap.amountOf v +
          if p.subtract = true then -w.heap.amountOf x.value else w.heap.amountOf x.value := by
      split <;> omega
    rw [hsum]
    simp

end Posting

/-- The variable is bound to a quantity or a holding of a sound world; its amount is the one of this
place. -/
structure World.HasBalance (w : World) (target : String) (b : Binding) (r : Nat) : Prop where
  sound : w.Sound
  bound : w.bindings.lookup target = some b
  place : w.heap.amountPlace? b.value = some r

section Postings

variable {w : World} {target : String} {b : Binding} {r : Nat} {p q : Posting}

theorem eval_var_of_some {name : String} {x : Binding} (h : w.bindings.lookup name = some x) :
    (Term.var name).eval w = .ok x.value w := by
  rw [Term.eval]
  exact bind_of_ok (readBinding_of_some h)

theorem eval_var_of_none {name : String} (h : w.bindings.lookup name = none) :
    (Term.var name).eval w = .error .unbound w := by
  rw [Term.eval]
  exact bind_of_error (readBinding_of_none h)

/-- **A posting** puts the new amount in its place, or it is refused. -/
theorem World.HasBalance.run_eq (h : w.HasBalance target b r) (p : Posting) :
    (p.step target).run w = match p.outcome w b.value with
      | .ok a => (.ok b.value, w.cleared.withHeap (w.heap.setAmount r a))
      | .error f => (.error f, withEvents w.cleared (reports f)) := by
  have hrun : (p.step target).command.act w.cleared =
      (Term.evalAll [.var p.operand] >>= fun args =>
        callMethod b.value (Method.ofPosting p.subtract) args) w.cleared :=
    bind_of_ok (eval_var_of_some (w := w.cleared) h.bound)
  have hact : (p.step target).command.act w.cleared =
      settledResult w.cleared b.value r (p.outcome w b.value) := by
    rw [hrun]
    unfold Posting.outcome
    cases hx : w.bindings.lookup p.operand with
    | none =>
      have hargs : Term.evalAll [.var p.operand] w.cleared = .error .unbound w.cleared := by
        rw [Term.evalAll]
        exact bind_of_error (eval_var_of_none (w := w.cleared) hx)
      rw [bind_of_error hargs]
      exact (refusal_of_reports_nil rfl w.cleared).symm
    | some x =>
      have hargs : Term.evalAll [.var p.operand] w.cleared = .ok [x.value] w.cleared := by
        rw [Term.evalAll, bind_of_ok (eval_var_of_some (w := w.cleared) hx)]
        rfl
      rw [bind_of_ok hargs]
      exact callMethod_ofPosting (w := w.cleared) h.place
  cases he : p.outcome w b.value with
  | ok a =>
    rw [he] at hact
    exact Step.run_of_unnamed hact rfl
  | error f =>
    rw [he] at hact
    exact Step.run_of_error hact

theorem World.HasBalance.place_lt (h : w.HasBalance target b r) : r < w.heap.quantities.next := by
  have hl := h.sound.bound_of_lookup h.bound
  have hr := h.place
  unfold Heap.amountPlace? at hr
  split at hr
  · rename_i s hv
    cases hr
    rw [hv] at hl
    simpa [Ref.IsLive] using hl
  · rename_i o hv
    cases hr
    rw [hv] at hl
    exact h.sound.heap.inner_isLive (by simpa [Ref.IsLive] using hl)
  · cases hr

/-- What a posting leaves: the balance with its new amount, or all as it was. -/
theorem World.HasBalance.run_cases (h : w.HasBalance target b r) (p : Posting) :
    (∃ a, p.outcome w b.value = .ok a ∧ ((p.step target).run w).1 = .ok b.value ∧
      ((p.step target).run w).2.heap = w.heap.setAmount r a ∧
      ((p.step target).run w).2.bindings = w.bindings) ∨
    ∃ f, p.outcome w b.value = .error f ∧ ((p.step target).run w).1 = .error f ∧
      ((p.step target).run w).2.heap = w.heap ∧
      ((p.step target).run w).2.bindings = w.bindings := by
  rw [h.run_eq p]
  cases p.outcome w b.value with
  | ok a => exact Or.inl ⟨a, rfl, rfl, rfl, rfl⟩
  | error f => exact Or.inr ⟨f, rfl, rfl, rfl, rfl⟩

/-- The balance is still there after a posting. -/
theorem World.HasBalance.next (h : w.HasBalance target b r) (p : Posting) :
    ((p.step target).run w).2.HasBalance target b r := by
  refine ⟨h.sound.step _, ?_, ?_⟩
  · rcases h.run_cases p with ⟨a, -, -, -, hb⟩ | ⟨f, -, -, -, hb⟩
    · rw [hb]
      exact h.bound
    · rw [hb]
      exact h.bound
  · rcases h.run_cases p with ⟨a, -, -, hh, -⟩ | ⟨f, -, -, hh, -⟩
    · rw [hh]
      exact h.place
    · rw [hh]
      exact h.place

/-- **One posting** changes the amount by what it posted. -/
theorem World.HasBalance.amountOf_next (h : w.HasBalance target b r) (p : Posting) :
    ((p.step target).run w).2.heap.amountOf b.value =
      w.heap.amountOf b.value + p.posted target w := by
  unfold Posting.posted
  rcases h.run_cases p with ⟨a, ha, hv, hh, -⟩ | ⟨f, -, hv, hh, -⟩
  · rw [hh, hv, Heap.amountOf_setAmount_self h.place h.place_lt]
    exact (Posting.outcome_eq_ok_iff.mp ha).2.2
  · rw [hh, hv, Int.add_zero]

/-- What can be posted can still be posted later. -/
theorem World.HasBalance.matches_next (h : w.HasBalance target b r) (p q : Posting) :
    q.Matches ((p.step target).run w).2 b.value ↔ q.Matches w b.value := by
  unfold Posting.Matches
  rcases h.run_cases p with ⟨a, -, -, hh, hb⟩ | ⟨f, -, -, hh, hb⟩
  · rw [hh, hb]
    simp only [Heap.compatible_setAmount h.place_lt]
  · rw [hh, hb]

/-- None of these postings is of the value itself. -/
def World.Foreign (w : World) (v : Item) (ps : List Posting) : Prop :=
  ∀ p ∈ ps, ∀ x, w.bindings.lookup p.operand = some x → x.value ≠ v

/-- Another object that can be added to a balance has its amount in another place. -/
theorem World.HasBalance.place_ne (h : w.HasBalance target b r) {name : String} {x : Binding}
    (hx : w.bindings.lookup name = some x) (hc : w.heap.Compatible b.value x.value)
    (hne : x.value ≠ b.value) : w.heap.amountPlace? x.value ≠ some r := by
  have hb := h.sound.bound_of_lookup h.bound
  have hl := h.sound.bound_of_lookup hx
  have hr := h.place
  intro he
  unfold Heap.Compatible at hc
  split at hc
  · rename_i s hs
    split at hc
    · rename_i t ht
      rw [hs] at hr
      rw [ht] at he
      cases hr
      cases he
      exact hne (ht.trans hs.symm)
    · exact hc
  · rename_i o ho
    split at hc
    · rename_i o' ho'
      rw [ho] at hr hb
      rw [ho'] at he hl
      have hoo : o' = o := by
        refine h.sound.heap.eq_of_inner_eq (by simpa [Ref.IsLive] using hl)
          (by simpa [Ref.IsLive] using hb) ?_
        exact Option.some.inj (he.trans hr.symm)
      exact hne (by rw [ho', ho, hoo])
    · exact hc
  · exact hc

/-- A posting leaves alone what other postings would change the balance by. -/
theorem World.HasBalance.change_next (h : w.HasBalance target b r) (p : Posting)
    (hm : q.Matches w b.value) (hq : w.Foreign b.value [q]) :
    q.change ((p.step target).run w).2 = q.change w := by
  obtain ⟨x, hx, hc⟩ := hm
  have hne := h.place_ne hx hc (hq q (by simp) x hx)
  unfold Posting.change
  rcases h.run_cases p with ⟨a, -, -, hh, hb⟩ | ⟨f, -, -, hh, hb⟩
  · rw [hh, hb, hx]
    dsimp only
    rw [Heap.amountOf_setAmount_ne hne]
  · rw [hh, hb]

/-! ## 4. Rows of postings -/

/-- The world after postings to the balance of this name. -/
def World.post (w : World) (target : String) (ps : List Posting) : World :=
  w.after (ps.map (Posting.step target))

/-- The sum of the changes that the postings made, each taken right before its step. -/
def World.posted (w : World) (target : String) : List Posting → Int
  | [] => 0
  | p :: ps => p.posted target w + ((p.step target).run w).2.posted target ps

/-- All of the postings succeed. -/
def World.Accepts (w : World) (target : String) (ps : List Posting) : Prop :=
  ∀ r ∈ runSteps w (ps.map (Posting.step target)), ∃ v, r.1 = .ok v

theorem World.accepts_cons {ps : List Posting} : w.Accepts target (p :: ps) ↔
    (∃ v, ((p.step target).run w).1 = .ok v) ∧ ((p.step target).run w).2.Accepts target ps := by
  unfold World.Accepts
  rw [List.map_cons, runSteps, List.forall_mem_cons]

/-- **The running balance.**  The induction is on the postings, from the world in which they start. -/
theorem World.HasBalance.amountOf_post (h : w.HasBalance target b r) (ps : List Posting) :
    (w.post target ps).heap.amountOf b.value = w.heap.amountOf b.value + w.posted target ps := by
  induction ps generalizing w with
  | nil => exact (Int.add_zero _).symm
  | cons p ps ih =>
    calc (w.post target (p :: ps)).heap.amountOf b.value
        = (((p.step target).run w).2.post target ps).heap.amountOf b.value := rfl
      _ = ((p.step target).run w).2.heap.amountOf b.value +
            ((p.step target).run w).2.posted target ps := ih (h.next p)
      _ = w.heap.amountOf b.value + p.posted target w +
            ((p.step target).run w).2.posted target ps := by rw [h.amountOf_next p]
      _ = w.heap.amountOf b.value + w.posted target (p :: ps) := Int.add_assoc _ _ _

/-- A posting that succeeds is one that can be added. -/
theorem World.HasBalance.outcome_of_ok (h : w.HasBalance target b r) {v : Item}
    (hv : ((p.step target).run w).1 = .ok v) :
    p.Matches w b.value ∧ p.posted target w = p.change w := by
  rcases h.run_cases p with ⟨a, ha, -⟩ | ⟨f, -, hf, -⟩
  · refine ⟨(Posting.outcome_eq_ok_iff.mp ha).1, ?_⟩
    unfold Posting.posted
    rw [hv]
  · rw [hf] at hv
    cases hv

/-- Postings that all succeed are of values that can be added from the start. -/
theorem World.HasBalance.matches_of_accepts (h : w.HasBalance target b r) {ps : List Posting}
    (ha : w.Accepts target ps) : ∀ q ∈ ps, q.Matches w b.value := by
  induction ps generalizing w with
  | nil => simp
  | cons p ps ih =>
    obtain ⟨⟨v, hv⟩, hrest⟩ := World.accepts_cons.mp ha
    intro q hq
    rcases List.mem_cons.mp hq with rfl | hq
    · exact (h.outcome_of_ok hv).1
    · exact (h.matches_next p q).mp (ih (h.next p) hrest q hq)

/-- The changes of postings that may still come are the same after one of them. -/
theorem World.HasBalance.change_rest (h : w.HasBalance target b r) {ps : List Posting}
    (hm : ∀ q ∈ ps, q.Matches w b.value) (hf : w.Foreign b.value (p :: ps)) :
    ∀ q ∈ ps, q.change ((p.step target).run w).2 = q.change w := by
  intro q hq
  refine h.change_next p (hm q hq) ?_
  intro q' hq' x hx
  rw [List.mem_singleton] at hq'
  exact hf q' (hq' ▸ List.mem_cons_of_mem p hq) x hx

theorem World.HasBalance.foreign_next (h : w.HasBalance target b r) {ps : List Posting}
    (hf : w.Foreign b.value (p :: ps)) : ((p.step target).run w).2.Foreign b.value ps := by
  have hb : ((p.step target).run w).2.bindings = w.bindings := by
    rcases h.run_cases p with ⟨a, -, -, -, hb⟩ | ⟨f, -, -, -, hb⟩
    · exact hb
    · exact hb
  intro q hq x hx
  rw [hb] at hx
  exact hf q (List.mem_cons_of_mem p hq) x hx

/-- What is posted in all is known before, if all postings succeed and none is of the balance itself. -/
theorem World.HasBalance.posted_eq (h : w.HasBalance target b r) {ps : List Posting}
    (hf : w.Foreign b.value ps) (ha : w.Accepts target ps) :
    w.posted target ps = (ps.map fun p => p.change w).sum := by
  induction ps generalizing w with
  | nil => rfl
  | cons p ps ih =>
    obtain ⟨⟨v, hv⟩, hrest⟩ := World.accepts_cons.mp ha
    have hm : ∀ q ∈ ps, q.Matches w b.value := fun q hq =>
      h.matches_of_accepts ha q (List.mem_cons_of_mem p hq)
    have hsame : (ps.map fun q => q.change ((p.step target).run w).2) =
        ps.map fun q => q.change w := List.map_congr_left (h.change_rest hm hf)
    rw [List.map_cons, List.sum_cons, World.posted, (h.outcome_of_ok hv).2,
      ih (h.next p) (h.foreign_next hf) hrest, hsame]

/-- **Small amounts.**  No partial sum leaves the range, so nothing is refused. -/
theorem World.HasBalance.accepts_of_small (h : w.HasBalance target b r) {ps : List Posting}
    (hf : w.Foreign b.value ps) (hm : ∀ p ∈ ps, p.Matches w b.value)
    (hs : (w.heap.amountOf b.value).natAbs + (ps.map fun p => (p.change w).natAbs).sum ≤
      2 ^ 62 - 1) : w.Accepts target ps := by
  induction ps generalizing w with
  | nil => simp [World.Accepts, runSteps]
  | cons p ps ih =>
    rw [List.map_cons, List.sum_cons] at hs
    have ha : p.outcome w b.value = .ok (w.heap.amountOf b.value + p.change w) := by
      refine Posting.outcome_eq_ok_iff.mpr ⟨hm p (by simp), ?_, rfl⟩
      rw [Amount.inRange_iff]
      unfold Amount.limit
      omega
    have hv : ((p.step target).run w).1 = .ok b.value := by
      rw [h.run_eq p, ha]
    have hm' : ∀ q ∈ ps, q.Matches w b.value := fun q hq => hm q (List.mem_cons_of_mem p hq)
    have hsame : (ps.map fun q => (q.change ((p.step target).run w).2).natAbs) =
        ps.map fun q => (q.change w).natAbs :=
      List.map_congr_left fun q hq => by rw [h.change_rest hm' hf q hq]
    refine World.accepts_cons.mpr ⟨⟨_, hv⟩, ih (h.next p) (h.foreign_next hf) ?_ ?_⟩
    · exact fun q hq => (h.matches_next p q).mpr (hm' q hq)
    · rw [hsame, h.amountOf_next p, (h.outcome_of_ok hv).2]
      omega

end Postings

/-! ## 5. Reachable worlds -/

/-- What holds of all rows of postings to a quantity or a holding that a variable is bound to. -/
structure World.Balanced (w : World) (target : String) (v : Item) : Prop where
  /-- The amount is the one before and what was posted by the steps that succeeded. -/
  running : ∀ ps, (w.post target ps).heap.amountOf v =
    w.heap.amountOf v + w.posted target ps
  /-- The amount is in range, after all postings and after any first ones of them. -/
  bounded : ∀ ps, -(2 ^ 62 - 1) ≤ (w.post target ps).heap.amountOf v ∧
    (w.post target ps).heap.amountOf v ≤ 2 ^ 62 - 1
  /-- The order does not matter if all postings succeed in both, and none is of the balance itself. -/
  order : ∀ ps qs, ps.Perm qs → w.Foreign v ps → w.Accepts target ps → w.Accepts target qs →
    (w.post target ps).heap.amountOf v = (w.post target qs).heap.amountOf v
  /-- All postings succeed in every order if all amounts together are in range. -/
  small : ∀ ps, w.Foreign v ps → (∀ p ∈ ps, p.Matches w v) →
    (w.heap.amountOf v).natAbs + (ps.map fun p => (p.change w).natAbs).sum ≤ 2 ^ 62 - 1 →
    ∀ qs, qs.Perm ps → w.Accepts target qs

theorem World.HasBalance.balanced {w : World} {target : String} {b : Binding} {r : Nat}
    (h : w.HasBalance target b r) : w.Balanced target b.value := by
  refine ⟨h.amountOf_post, ?_, ?_, ?_⟩
  · intro ps
    have hs : (w.post target ps).Sound := h.sound.after _
    have hr := Amount.inRange_iff.mp (hs.heap.inRange_amountOf b.value)
    unfold Amount.limit at hr
    exact ⟨by omega, by omega⟩
  · intro ps qs hp hf hps hqs
    have hf' : w.Foreign b.value qs := fun q hq => hf q (hp.mem_iff.mpr hq)
    rw [h.amountOf_post, h.amountOf_post, h.posted_eq hf hps, h.posted_eq hf' hqs]
    rw [(hp.map fun p => p.change w).sum_eq]
  · intro ps hf hm hs qs hp
    refine h.accepts_of_small (fun q hq => hf q (hp.mem_iff.mp hq))
      (fun q hq => hm q (hp.mem_iff.mp hq)) ?_
    rw [(hp.map fun p => (p.change w).natAbs).sum_eq]
    exact hs

/-- **Balances run and do not depend on the order**, for every quantity and every holding that a variable
is bound to in a reachable world. -/
theorem balanced_of_bound {steps : List Step} {target : String} {b : Binding} {r : Nat}
    (hb : (World.initial.after steps).bindings.lookup target = some b)
    (hr : (World.initial.after steps).heap.amountPlace? b.value = some r) :
    (World.initial.after steps).Balanced target b.value :=
  World.HasBalance.balanced ⟨World.sound_initial.after steps, hb, hr⟩

/-- A quantity of five to which seven are added and from which it is then itself subtracted; another symbol
is refused in between. -/
theorem balanced_with_own_quantity : ∃ steps : List Step,
    (World.initial.after steps).Balanced "q" (.object (.quantity 0)) ∧
    (World.initial.after steps).heap.amountOf (.object (.quantity 0)) = 5 ∧
    (World.initial.after steps).posted "q" [⟨false, "x"⟩, ⟨false, "y"⟩, ⟨true, "q"⟩] = 7 + 0 - 12 :=
  ⟨[⟨.eval (.quantity (.plain (.int 5)) (.plain (.text "A")) (.plain (.int 0))), some "q"⟩,
      ⟨.eval (.quantity (.plain (.int 7)) (.plain (.text "A")) (.plain (.int 0))), some "x"⟩,
      ⟨.eval (.quantity (.plain (.int 1)) (.plain (.text "B")) (.plain (.int 0))), some "y"⟩],
    balanced_of_bound (b := ⟨.object (.quantity 0), .made 1⟩) (by rfl) (by rfl), by rfl, by rfl⟩

end Holdings.Ledger
