/-
# Failures that a check finds

An operation may be aborted for many reasons, and all but three of them are found by a check: a number does not
fit its format, a code does not fit its word, the bytes of a code go on behind its end.  Where these three can
come from is the subject of this module and of those under it: only from bytes (`Checks/Bytes.lean`).
Arithmetic, comparison, the fields of entities and their records abort by a check, and so do plain values,
settings and the log (`Checks/Values.lean`).

The lemmas follow the code from the checks of single values upwards, one for each function.  A function that is
put together from others fails only as they do, and that is all that most of the proofs say.
-/
import Holdings.Proofs.Outcome
import Holdings.Ledger.Operators

/-! ## 1. How an operation may fail -/

namespace Except

variable {ε α β : Type}

/-- Whatever the operation fails with satisfies the condition. -/
def FailsOnly (x : Except ε α) (P : ε → Prop) : Prop := ∀ e, x = .error e → P e

variable {x : Except ε α} {P Q : ε → Prop}

theorem failsOnly_ok (a : α) : (.ok a : Except ε α).FailsOnly P := by
  intro e he
  cases he

theorem failsOnly_error {e : ε} (h : P e) : (.error e : Except ε α).FailsOnly P := by
  intro e' he
  cases he
  exact h

theorem FailsOnly.mono (h : x.FailsOnly P) (hPQ : ∀ e, P e → Q e) : x.FailsOnly Q :=
  fun e he => hPQ e (h e he)

theorem FailsOnly.bind {f : α → Except ε β} (hx : x.FailsOnly P) (hf : ∀ a, (f a).FailsOnly P) :
    (x >>= f).FailsOnly P := by
  cases x with
  | ok a => exact hf a
  | error e => exact failsOnly_error (hx e rfl)

theorem FailsOnly.map {f : α → β} (hx : x.FailsOnly P) : (x.map f).FailsOnly P := by
  cases x with
  | ok a => exact failsOnly_ok (f a)
  | error e => exact failsOnly_error (hx e rfl)

/-- A row of operations fails only as its members do. -/
theorem failsOnly_mapM {f : α → Except ε β} (hf : ∀ a, (f a).FailsOnly P) :
    ∀ xs : List α, (xs.mapM f).FailsOnly P
  | [] => failsOnly_ok []
  | a :: xs => by
    rw [List.mapM_cons]
    exact (hf a).bind fun b => (failsOnly_mapM hf xs).bind fun bs => failsOnly_ok (b :: bs)

end Except

namespace Holdings

/-- Only a check aborts with this failure. -/
def Fault.IsChecked : Fault → Prop
  | .aborted a => a.isAudited = true
  | _ => True

/-- The operation aborts only by a check. -/
def Checked {α : Type} (x : Except Fault α) : Prop := x.FailsOnly Fault.IsChecked

/-- Every abort of the operation is that of a check. -/
def CheckedAbort {α : Type} (x : Except Abort α) : Prop := x.FailsOnly fun a => a.isAudited = true

variable {α β : Type}

theorem CheckedAbort.lift {x : Except Abort α} (h : CheckedAbort x) : Checked (liftAbort x) := by
  cases x with
  | ok a => exact Except.failsOnly_ok a
  | error a => exact Except.failsOnly_error (h a rfl)

theorem checkedAbort_require {a : Abort} (ha : a.isAudited = true) (condition : Bool) :
    CheckedAbort (Abort.require condition a) := by
  unfold Abort.require
  split
  · exact Except.failsOnly_ok ()
  · exact Except.failsOnly_error ha

theorem checked_require {a : Abort} (ha : a.isAudited = true) (condition : Bool) :
    Checked (liftAbort (Abort.require condition a)) :=
  (checkedAbort_require ha condition).lift

/-- A number that cannot be written stops the operation in one way. -/
theorem failsOnly_requireWritable {P : Fault → Prop} (h : P (.refused .longNumber))
    (isWritable : Bool) : (requireWritable isWritable).FailsOnly P := by
  cases isWritable with
  | true => exact Except.failsOnly_ok ()
  | false => exact Except.failsOnly_error h

theorem Value.Shown.checked_written (s : Value.Shown) : Checked s.written :=
  (failsOnly_requireWritable trivial _).map

/-! ## 2. Amounts, quantities and holdings -/

theorem Amount.checkedAbort_check (a : Int) : CheckedAbort (Amount.check a) :=
  (checkedAbort_require rfl _).bind fun _ => Except.failsOnly_ok a

theorem Amount.checkedAbort_checkResult (op : Operation) (x : Int) :
    CheckedAbort (Amount.checkResult op x) :=
  (checkedAbort_require rfl _).bind fun _ =>
    (checkedAbort_require rfl _).bind fun _ => Except.failsOnly_ok x

theorem Amount.checkedAbort_div (a k : Int) : CheckedAbort (Amount.div a k) :=
  (checkedAbort_require rfl _).bind fun _ =>
    (checkedAbort_require rfl _).bind fun _ => Except.failsOnly_ok _

namespace Quantity

variable (q r : Quantity)

theorem checkedAbort_withAmount (a : Int) : CheckedAbort (q.withAmount a) :=
  (Amount.checkedAbort_check a).map

theorem checkedAbort_requireSame (pairing : Pairing) : CheckedAbort (q.requireSame r pairing) :=
  checkedAbort_require rfl _

theorem checkedAbort_add : CheckedAbort (q.add r) :=
  (q.checkedAbort_requireSame r .add).bind fun _ =>
    (Amount.checkedAbort_checkResult .addition _).bind q.checkedAbort_withAmount

theorem checkedAbort_sub : CheckedAbort (q.sub r) :=
  (q.checkedAbort_requireSame r .subtract).bind fun _ =>
    (Amount.checkedAbort_checkResult .subtraction _).bind q.checkedAbort_withAmount

theorem checkedAbort_ratio : CheckedAbort (q.ratio r) :=
  (checkedAbort_require rfl _).bind fun _ =>
    (q.checkedAbort_requireSame r .compare).bind fun _ => Except.failsOnly_ok _

theorem checkedAbort_compare (c : Comparison) : CheckedAbort (q.compare c r) :=
  (q.checkedAbort_requireSame r .compare).bind fun _ => Except.failsOnly_ok _

theorem checked_text : Checked q.text := by
  unfold text Amount.text Amount.scale
  refine Except.FailsOnly.bind ?_ fun _ =>
    (failsOnly_requireWritable trivial _).bind fun _ => Except.failsOnly_ok _
  split
  · exact Except.failsOnly_ok _
  · exact Except.failsOnly_error trivial

end Quantity

theorem Scalar.checked_check (name : String) (k : Int) : Checked (Scalar.check name k) := by
  unfold Scalar.check
  split
  · exact Except.failsOnly_ok k
  · exact Except.failsOnly_error trivial

theorem Scalar.checked_ofDatum (name : String) (v : Datum) : Checked (Scalar.ofDatum name v) := by
  unfold Scalar.ofDatum
  split
  · exact Scalar.checked_check name _
  · exact Except.failsOnly_error trivial

/-- The multiple and the part by an integer. -/
theorem Ledger.checked_rescale (divide : Bool) (q : Quantity) (k : Int) :
    Checked (Ledger.rescale divide q k) := by
  unfold Ledger.rescale
  split
  · exact (Scalar.checked_check _ k).bind fun k =>
      CheckedAbort.lift ((Amount.checkedAbort_div q.amount k).bind q.checkedAbort_withAmount)
  · exact (Scalar.checked_check _ k).bind fun k =>
      CheckedAbort.lift
        ((Amount.checkedAbort_checkResult .multiplication _).bind q.checkedAbort_withAmount)

theorem Ledger.checkedAbort_combine (subtract : Bool) (q r : Quantity) :
    CheckedAbort (Ledger.combine subtract q r) := by
  cases subtract with
  | false => exact q.checkedAbort_add r
  | true => exact q.checkedAbort_sub r

namespace Holding

variable (h k : Holding)

theorem checkedAbort_requireSame : CheckedAbort (h.requireSame k) := checkedAbort_require rfl _

theorem checkedAbort_neg : CheckedAbort h.neg := (h.quantity.checkedAbort_withAmount _).map

theorem checkedAbort_compare (c : Comparison) : CheckedAbort (h.compare c k) := by
  have hequal : CheckedAbort (h.equal k) :=
    (h.quantity.checkedAbort_compare k.quantity .eq).bind fun _ => Except.failsOnly_ok _
  unfold compare
  split
  · exact hequal
  · exact hequal.map
  · exact (h.checkedAbort_requireSame k).bind fun _ => h.quantity.checkedAbort_compare k.quantity _

theorem checked_text : Checked h.text := h.quantity.checked_text.map

end Holding

theorem Ledger.checkedAbort_combineHoldings (subtract : Bool) (h k : Holding) :
    CheckedAbort (Ledger.combineHoldings subtract h k) := by
  cases subtract with
  | false =>
    exact (h.checkedAbort_requireSame k).bind fun _ =>
      (h.quantity.checkedAbort_add k.quantity).bind fun _ => Except.failsOnly_ok _
  | true =>
    exact (h.checkedAbort_requireSame k).bind fun _ =>
      (h.quantity.checkedAbort_sub k.quantity).bind fun _ => Except.failsOnly_ok _

/-! ## 3. Fields -/

/-- The check of a value stops only by a check. -/
def Verdict.IsChecked (v : Verdict α) : Prop := ∀ f, v = .stopped f → f.IsChecked

namespace Verdict

variable {v : Verdict α} {w : Verdict β}

theorem isChecked_valid (a : α) : (valid a).IsChecked := by
  intro f hf
  cases hf

theorem isChecked_defect (d : Defect) : (defect d : Verdict α).IsChecked := by
  intro f hf
  cases hf

theorem isChecked_stopped {f : Fault} (h : f.IsChecked) : (stopped f : Verdict α).IsChecked := by
  intro g hg
  cases hg
  exact h

theorem isChecked_ofAbort {x : Except Abort α} (h : CheckedAbort x) : (ofAbort x).IsChecked := by
  cases x with
  | ok a => exact isChecked_valid a
  | error a => exact isChecked_stopped (h a rfl)

theorem IsChecked.under (h : v.IsChecked) (field : String) : (v.under field).IsChecked := by
  intro f hf
  cases v with
  | stopped g =>
    cases hf
    exact h _ rfl
  | _ => cases hf

theorem IsChecked.map {g : α → β} (h : v.IsChecked) : (v.map g).IsChecked := by
  intro f hf
  cases v with
  | stopped e =>
    cases hf
    exact h _ rfl
  | _ => cases hf

theorem IsChecked.bind {g : α → Verdict β} (h : v.IsChecked) (hg : ∀ a, (g a).IsChecked) :
    (v.bind g).IsChecked := by
  cases v with
  | valid a => exact hg a
  | invalid ds =>
    intro f hf
    cases hf
  | stopped e => exact isChecked_stopped (h e rfl)

theorem IsChecked.both (hv : v.IsChecked) (hw : w.IsChecked) : (Verdict.both v w).IsChecked := by
  intro f hf
  cases v with
  | stopped e =>
    cases hf
    exact hv _ rfl
  | _ =>
    cases w with
    | stopped e =>
      cases hf
      exact hw _ rfl
    | _ => cases hf

theorem IsChecked.toExcept (h : v.IsChecked) : Checked v.toExcept := by
  cases v with
  | valid a => exact Except.failsOnly_ok a
  | invalid ds => exact Except.failsOnly_error trivial
  | stopped f => exact Except.failsOnly_error (h f rfl)

end Verdict

namespace Datum

theorem isChecked_checkText (v : Datum) : v.checkText.IsChecked := by
  unfold checkText
  split
  · exact Verdict.isChecked_valid _
  · split
    · exact Verdict.isChecked_valid _
    · exact Verdict.isChecked_defect _
  · exact Verdict.isChecked_defect _

theorem isChecked_checkIntBetween (low high : Int) (v : Datum) :
    (v.checkIntBetween low high).IsChecked := by
  unfold checkIntBetween
  split
  · split
    · exact Verdict.isChecked_defect _
    · split
      · exact Verdict.isChecked_defect _
      · exact Verdict.isChecked_valid _
  · exact Verdict.isChecked_defect _

theorem isChecked_checkAmount (v : Datum) : v.checkAmount.IsChecked := by
  unfold checkAmount
  split
  · exact Verdict.isChecked_ofAbort (Amount.checkedAbort_check _)
  · exact Verdict.isChecked_defect _

end Datum

/-- The check of a field stops only as that of its value does. -/
theorem Fields.isChecked_check (fields : Fields) (label : String) {f : Datum → Verdict α}
    (hf : ∀ v, (f v).IsChecked) : ∀ names, (fields.check label f names).IsChecked
  | [] => (Verdict.isChecked_defect .missing).under label
  | name :: names => by
    unfold Fields.check
    split
    · exact (hf _).under name
    · exact Fields.isChecked_check fields label hf names

theorem Fields.checked_bindTwo (first second : String) (args : List α) (named : List (String × α)) :
    Checked (Fields.bindTwo first second args named) := by
  unfold Fields.bindTwo
  split
  · exact Except.failsOnly_error trivial
  · split
    · exact Except.failsOnly_ok _
    · exact Except.failsOnly_ok _
    · exact Except.failsOnly_ok _
    · exact Except.failsOnly_error trivial

theorem Symbol.isChecked_ofFields (fields : Fields) : (Symbol.ofFields fields).IsChecked :=
  ((fields.isChecked_check "code" Datum.isChecked_checkText _).both
    (fields.isChecked_check "precision" (Datum.isChecked_checkIntBetween 0 255) _)).map

theorem Identity.isChecked_ofFields (fields : Fields) : (Identity.ofFields fields).IsChecked :=
  (fields.isChecked_check "value" (Datum.isChecked_checkIntBetween 0 _) _).map

theorem Datum.isChecked_checkSymbol (v : Datum) : v.checkSymbol.IsChecked := by
  unfold checkSymbol
  split
  · exact Verdict.isChecked_valid _
  · exact Symbol.isChecked_ofFields _
  · exact Verdict.isChecked_defect _

theorem Datum.isChecked_checkIdentity (v : Datum) : v.checkIdentity.IsChecked := by
  unfold checkIdentity
  split
  · exact Verdict.isChecked_valid _
  · exact Identity.isChecked_ofFields _
  · exact Verdict.isChecked_defect _

theorem Datum.isChecked_checkValidSymbol (v : Datum) : v.checkValidSymbol.IsChecked :=
  v.isChecked_checkSymbol.bind fun _ => Verdict.isChecked_ofAbort (checkedAbort_require rfl _).map

theorem IssuedSymbol.isChecked_ofFields (fields : Fields) : (IssuedSymbol.ofFields fields).IsChecked :=
  ((fields.isChecked_check "symbol" Datum.isChecked_checkSymbol _).both
    (fields.isChecked_check "contract" Datum.isChecked_checkIdentity _)).map

theorem Quantity.isChecked_check (amount symbol : Datum) : (Quantity.check amount symbol).IsChecked :=
  ((amount.isChecked_checkAmount.under "amount").both
    (symbol.isChecked_checkValidSymbol.under "symbol")).map

theorem Quantity.isChecked_ofCall (args : List Datum) (named : Fields) :
    (Quantity.ofCall args named).IsChecked := by
  unfold Quantity.ofCall
  split
  · exact Quantity.isChecked_check _ _
  · rename_i e he
    exact Verdict.isChecked_stopped (Fields.checked_bindTwo _ _ _ _ e he)

theorem Datum.isChecked_checkQuantity (v : Datum) : v.checkQuantity.IsChecked := by
  unfold checkQuantity
  split
  · exact Verdict.isChecked_valid _
  · exact Quantity.isChecked_ofCall _ _
  · exact Verdict.isChecked_defect _

theorem Holding.isChecked_check (quantity owner : Datum) : (Holding.check quantity owner).IsChecked :=
  ((quantity.isChecked_checkQuantity.under "quantity").both
    (owner.isChecked_checkIdentity.under "owner")).map

theorem Holding.isChecked_ofCall (args : List Datum) (named : Fields) :
    (Holding.ofCall args named).IsChecked := by
  unfold Holding.ofCall
  split
  · exact Holding.isChecked_check _ _
  · rename_i e he
    exact Verdict.isChecked_stopped (Fields.checked_bindTwo _ _ _ _ e he)

/-- **Entities of any kind** are built by checks alone. -/
theorem Entity.isChecked_ofCall (kind : EntityKind) (args : List Datum) (named : Fields) :
    (Entity.ofCall kind args named).IsChecked := by
  have ofNamed : ∀ {γ : Type} {f : Fields → Verdict γ}, (∀ fields, (f fields).IsChecked) →
      (Verdict.ofNamed f args named).IsChecked := by
    intro γ f hf
    unfold Verdict.ofNamed
    split
    · exact hf named
    · exact Verdict.isChecked_stopped trivial
  cases kind with
  | symbol => exact (ofNamed Symbol.isChecked_ofFields).map
  | identity => exact (ofNamed Identity.isChecked_ofFields).map
  | issuedSymbol => exact (ofNamed IssuedSymbol.isChecked_ofFields).map
  | quantity => exact (Quantity.isChecked_ofCall args named).map
  | holding => exact (Holding.isChecked_ofCall args named).map
  | settings => exact Verdict.isChecked_stopped trivial

/-! ## 4. Records -/

theorem Contract.Schema.checked_check (form : Contract.Schema) (v : Datum) : Checked (form.check v) := by
  unfold Contract.Schema.check
  split
  · exact Except.failsOnly_ok ()
  · exact (failsOnly_requireWritable trivial _).map.bind fun _ => Except.failsOnly_error trivial

theorem Quantity.checked_ofValue (v : Datum) : Checked (Quantity.ofValue v) :=
  (Contract.quantityForm.checked_check v).bind fun _ => v.isChecked_checkQuantity.toExcept

theorem Holding.checked_ofValue (v : Datum) : Checked (Holding.ofValue v) := by
  refine (Contract.holdingForm.checked_check v).bind fun _ => Verdict.IsChecked.toExcept ?_
  unfold Datum.checkHolding
  split
  · exact Verdict.isChecked_valid _
  · exact Holding.isChecked_ofCall _ _
  · exact Verdict.isChecked_defect _

end Holdings
