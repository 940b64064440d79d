/-
# Quantities without a symbol

The empty quantity has the null symbol, which is not valid, and so has the quantity of the empty holding.
No operation asks whether the symbol of an operand is valid: what is asked is whether two operands have
the same symbol.  So the quantities without a symbol are apart from all others, but they are not apart
from arithmetic.  Two of them can be added, one can be negated and multiplied, and its amount can be
set (`empty_quantities_add`).

What holds is that valid and invalid symbols never meet.  An operation with two operands that succeeds has
operands of one symbol, in whatever form it is asked for; and where an operation is there for two operands
of a kind, a valid symbol with an invalid one aborts it.

The forms come down to three (`Arithmetic.run_sum`, `Arithmetic.run_sum_holdings`,
`Arithmetic.run_ratio`): each first performs one operation that compares symbols, and only what it does
with the result is its own.  All other pairs of objects are misuse.
-/
import Holdings.Proofs.Ledger.Arithmetic

namespace Holdings

/-! ## 1. Operations that compare symbols -/

section Symbols

variable {q r s : Quantity} {h k m : Holding} {subtract : Bool}

open Ledger

/-- Only quantities of one symbol are added and subtracted. -/
theorem symbol_eq_of_combine (hs : combine subtract q r = .ok s) : r.symbol = q.symbol := by
  have hx := combine_eq_exactSum subtract q r
  rw [hs] at hx
  cases he : q.exactSum subtract r with
  | ok a => exact (Quantity.exactSum_eq_ok_iff.mp he).1
  | error f =>
    rw [he] at hx
    cases hx

theorem symbol_eq_of_combineHoldings (hm : combineHoldings subtract h k = .ok m) :
    k.quantity.symbol = h.quantity.symbol := by
  have hx := combineHoldings_eq_exactSum subtract h k
  rw [hm] at hx
  cases he : h.exactSum subtract k with
  | ok a => exact (Holding.exactSum_eq_ok_iff.mp he).1.2
  | error f =>
    rw [he] at hx
    cases hx

theorem symbol_eq_of_ratio {n : Int} (hn : q.ratio r = .ok n) : r.symbol = q.symbol := by
  have hx := q.ratio_eq_exactRatio r
  rw [hn] at hx
  unfold Quantity.exactRatio at hx
  split at hx
  · cases hx
  · split at hx
    · cases hx
    · rename_i hd
      exact Decidable.not_not.mp (mt Quantity.differs_iff.mpr hd)

end Symbols

namespace Ledger

open Act

/-- The run fails. -/
def Act.Refuses (x : Act Item) (w : World) : Prop := ∃ f w', x w = .error f w'

/-- The run is aborted by a check. -/
def Act.Aborts (x : Act Item) (w : World) : Prop := ∃ e w', x w = .error (.aborted e) w'

theorem Act.not_refuses_of_ok {x : Act Item} {w w' : World} {y : Item} (h : x w = .ok y w') :
    ¬ x.Refuses w := by
  rintro ⟨f, w'', he⟩
  rw [h] at he
  cases he

theorem aborts_performAbort {α : Type} {r : Except Abort α} {f : α → Act Item}
    (h : ∀ b, r ≠ .ok b) (w : World) : (performAbort r >>= f).Aborts w := by
  cases r with
  | ok b => exact absurd rfl (h b)
  | error e => exact ⟨e, _, bind_of_error (perform_error _ w)⟩

/-- The symbol of a quantity or of the quantity of a holding. -/
def Heap.symbolOf? (h : Heap) : Item → Option Symbol
  | .object (.quantity r) => some (h.quantity r).symbol
  | .object (.holding o) => some (h.holding o).quantity.symbol
  | _ => none

/-! ## 2. Forms of arithmetic -/

/-- What can be asked of two operands: an operator, an operator in place, a method. -/
inductive Arithmetic where
  | operator (op : BinaryOp)
  | inPlace (op : BinaryOp)
  | method (m : Method)
  deriving DecidableEq

namespace Arithmetic

/-- The act of asking for it. -/
def run : Arithmetic → Item → Item → Act Item
  | operator op, v, x => operate op v x
  | inPlace op, v, x => operateInPlace op v x
  | method m, v, x => callMethod v m [x]

/-- The sums and differences. -/
def isSum : Arithmetic → Bool
  | operator .add | operator .sub => true
  | inPlace .add | inPlace .sub => true
  | method .addAssign | method .subAssign => true
  | _ => false

/-- The forms of division that there are between two quantities. -/
def isRatio : Arithmetic → Bool
  | operator .div | operator .floorDiv => true
  | inPlace .div | inPlace .floorDiv => true
  | method .divide => true
  | _ => false

/-- The forms that are there for a quantity and an integer only. -/
def isScaling : Arithmetic → Bool
  | operator .mul | inPlace .mul => true
  | method .mulAssign | method .divAssign => true
  | _ => false

variable {a : Arithmetic} {w w' : World} {v x y : Item}

/-- Between two quantities every sum performs the one operation. -/
theorem run_sum (ha : a.isSum = true) (w : World) (r s : Nat) :
    ∃ (subtract : Bool) (f : Quantity → Act Item),
      a.run (.object (.quantity r)) (.object (.quantity s)) w =
        (performAbort (combine subtract (w.heap.quantity r) (w.heap.quantity s)) >>= f) w := by
  unfold isSum at ha
  split at ha
  · exact ⟨false, newLike r, rfl⟩
  · exact ⟨true, newLike r, rfl⟩
  · exact ⟨false, assign r, rfl⟩
  · exact ⟨true, assign r, rfl⟩
  · exact ⟨false, assign r, rfl⟩
  · exact ⟨true, assign r, rfl⟩
  · cases ha

/-- Between two holdings too. -/
theorem run_sum_holdings (ha : a.isSum = true) (w : World) (o p : Nat) :
    ∃ (subtract : Bool) (f : Holding → Act Item),
      a.run (.object (.holding o)) (.object (.holding p)) w =
        (performAbort (combineHoldings subtract (w.heap.holding o) (w.heap.holding p)) >>= f)
          w := by
  unfold isSum at ha
  split at ha
  · exact ⟨false, newHoldingLike o, rfl⟩
  · exact ⟨true, newHoldingLike o, rfl⟩
  · exact ⟨false, assignHolding o, rfl⟩
  · exact ⟨true, assignHolding o, rfl⟩
  · exact ⟨false, assignHolding o, rfl⟩
  · exact ⟨true, assignHolding o, rfl⟩
  · cases ha

/-- Every ratio of two quantities performs the one operation. -/
theorem run_ratio (ha : a.isRatio = true) (w : World) (r s : Nat) :
    ∃ f : Int → Act Item, a.run (.object (.quantity r)) (.object (.quantity s)) w =
      (performAbort ((w.heap.quantity r).ratio (w.heap.quantity s)) >>= f) w := by
  unfold isRatio at ha
  split at ha
  · exact ⟨fun n => pure (.int n), rfl⟩
  · exact ⟨fun n => pure (.int n), rfl⟩
  · exact ⟨fun n => pure (.int n), rfl⟩
  · exact ⟨fun n => pure (.int n), rfl⟩
  · exact ⟨fun n => pure (.int n), rfl⟩
  · cases ha

/-- The forms of arithmetic; the others are comparisons and methods that do not compute. -/
def isArithmetic (a : Arithmetic) : Bool := a.isSum || a.isRatio || a.isScaling

/-! ## 3. Misuse -/

/-- No operator but a comparison has a form for two objects of other kinds. -/
theorem refuses_others (op : BinaryOp) (hc : ∀ c, op ≠ .compare c) (o p : Ref) (w : World) :
    (do let s ← get; perform (onOthers op s.heap (.object o) (.object p)) : Act Item).Refuses w := by
  have he : onOthers op w.heap (.object o) (.object p) = .error .wrongKind := by
    cases op with
    | compare c => exact absurd rfl (hc c)
    | _ => rfl
  refine ⟨.wrongKind, withEvents w (reports .wrongKind), ?_⟩
  show perform (onOthers op w.heap (.object o) (.object p)) w = _
  rw [he]
  exact perform_error _ w

/-- No object is an integer to multiply or divide by. -/
theorem refuses_rescaleAssign (divide : Bool) (r : Nat) (o : Ref) (w : World) :
    (rescaleAssign divide r (.object o)).Refuses w := by
  have hrun : rescaleAssign divide r (.object o) w =
      (perform (Scalar.ofDatum Scalar.defaultName (w.heap.datum (.object o))) >>= fun k =>
        quantity r >>= fun q => perform (rescale divide q k) >>= fun q => assign r q) w := rfl
  unfold Act.Refuses
  rw [hrun, Heap.datum_object]
  exact ⟨_, _, bind_of_error (perform_error _ w)⟩

theorem refuses_scaling (ha : a.isScaling = true) (w : World) (r s : Nat) :
    (a.run (.object (.quantity r)) (.object (.quantity s))).Refuses w := by
  unfold isScaling at ha
  split at ha
  · exact ⟨_, _, rfl⟩
  · exact ⟨_, _, rfl⟩
  · exact refuses_rescaleAssign false r _ w
  · exact refuses_rescaleAssign true r _ w
  · cases ha

/-- Holdings are only added and subtracted. -/
theorem refuses_holdings (ha : a.isRatio = true ∨ a.isScaling = true) (w : World) (o p : Nat) :
    (a.run (.object (.holding o)) (.object (.holding p))).Refuses w := by
  rcases ha with ha | ha
  · unfold isRatio at ha
    split at ha
    · exact ⟨_, _, rfl⟩
    · exact ⟨_, _, rfl⟩
    · exact ⟨_, _, rfl⟩
    · exact ⟨_, _, rfl⟩
    · exact ⟨_, _, rfl⟩
    · cases ha
  · unfold isScaling at ha
    split at ha
    · exact ⟨_, _, rfl⟩
    · exact ⟨_, _, rfl⟩
    · exact ⟨_, _, rfl⟩
    · exact ⟨_, _, rfl⟩
    · cases ha

/-- No form takes a quantity and a holding. -/
theorem refuses_mixed (ha : a.isArithmetic = true) (w : World) (r o : Nat) :
    (a.run (.object (.quantity r)) (.object (.holding o))).Refuses w ∧
      (a.run (.object (.holding o)) (.object (.quantity r))).Refuses w := by
  cases a with
  | operator op =>
    have hc : ∀ c, op ≠ .compare c := by
      rintro c rfl
      cases ha
    exact ⟨refuses_others op hc _ _ w, refuses_others op hc _ _ w⟩
  | inPlace op =>
    have hc : ∀ c, op ≠ .compare c := by
      rintro c rfl
      cases ha
    have hq : operateInPlace op (.object (.quantity r)) (.object (.holding o)) =
        operate op (.object (.quantity r)) (.object (.holding o)) := by cases op <;> rfl
    have hh : operateInPlace op (.object (.holding o)) (.object (.quantity r)) =
        operate op (.object (.holding o)) (.object (.quantity r)) := by cases op <;> rfl
    show (operateInPlace op _ _).Refuses w ∧ (operateInPlace op _ _).Refuses w
    rw [hq, hh]
    exact ⟨refuses_others op hc _ _ w, refuses_others op hc _ _ w⟩
  | method m =>
    cases m with
    | mulAssign => exact ⟨refuses_rescaleAssign false r _ w, ⟨_, _, rfl⟩⟩
    | divAssign => exact ⟨refuses_rescaleAssign true r _ w, ⟨_, _, rfl⟩⟩
    | addAssign | subAssign | divide => exact ⟨⟨_, _, rfl⟩, ⟨_, _, rfl⟩⟩
    | _ => cases ha

/-! ## 4. Valid and invalid symbols -/

/-- **Operands of one symbol.**  An operation on two quantities or holdings that succeeds has compared
their symbols and found them equal. -/
theorem symbolOf?_eq_of_ok (ha : a.isArithmetic = true) (h : a.run v x w = .ok y w') {s t : Symbol}
    (hv : w.heap.symbolOf? v = some s) (hx : w.heap.symbolOf? x = some t) : t = s := by
  have hcases : a.isSum = true ∨ a.isRatio = true ∨ a.isScaling = true := by
    unfold isArithmetic at ha
    simpa [or_assoc] using ha
  unfold Heap.symbolOf? at hv hx
  split at hv
  · rename_i r
    split at hx
    · rename_i r'
      cases hv
      cases hx
      rcases hcases with ha | ha | ha
      · obtain ⟨subtract, f, hf⟩ := run_sum ha w r r'
        rw [hf] at h
        obtain ⟨q, w₁, hq, -⟩ := bind_eq_ok h
        exact symbol_eq_of_combine (liftAbort_eq_ok_iff.mp (perform_eq_ok hq).1)
      · obtain ⟨f, hf⟩ := run_ratio ha w r r'
        rw [hf] at h
        obtain ⟨n, w₁, hn, -⟩ := bind_eq_ok h
        exact symbol_eq_of_ratio (liftAbort_eq_ok_iff.mp (perform_eq_ok hn).1)
      · exact absurd (refuses_scaling ha w r r') (not_refuses_of_ok h)
    · exact absurd (refuses_mixed ha w _ _).1 (not_refuses_of_ok h)
    · cases hx
  · rename_i o
    split at hx
    · exact absurd (refuses_mixed ha w _ _).2 (not_refuses_of_ok h)
    · rename_i o'
      cases hv
      cases hx
      rcases hcases with ha | ha
      · obtain ⟨subtract, f, hf⟩ := run_sum_holdings ha w o o'
        rw [hf] at h
        obtain ⟨k, w₁, hk, -⟩ := bind_eq_ok h
        exact symbol_eq_of_combineHoldings (liftAbort_eq_ok_iff.mp (perform_eq_ok hk).1)
      · exact absurd (refuses_holdings ha w o o') (not_refuses_of_ok h)
    · cases hx
  · cases hv

/-- **Two symbols.**  A sum of quantities or holdings of different symbols aborts, and so does a ratio of
quantities. -/
theorem aborts_of_symbols (r s : Nat) (hne : (w.heap.quantity s).symbol ≠ (w.heap.quantity r).symbol)
    (ha : a.isSum = true ∨ a.isRatio = true) :
    (a.run (.object (.quantity r)) (.object (.quantity s))).Aborts w := by
  rcases ha with ha | ha
  · obtain ⟨subtract, f, hf⟩ := run_sum ha w r s
    unfold Act.Aborts
    rw [hf]
    exact aborts_performAbort (fun q hq => hne (symbol_eq_of_combine hq)) w
  · obtain ⟨f, hf⟩ := run_ratio ha w r s
    unfold Act.Aborts
    rw [hf]
    exact aborts_performAbort (fun n hn => hne (symbol_eq_of_ratio hn)) w

theorem aborts_of_holding_symbols (o p : Nat)
    (hne : (w.heap.holding p).quantity.symbol ≠ (w.heap.holding o).quantity.symbol)
    (ha : a.isSum = true) : (a.run (.object (.holding o)) (.object (.holding p))).Aborts w := by
  obtain ⟨subtract, f, hf⟩ := run_sum_holdings ha w o p
  unfold Act.Aborts
  rw [hf]
  exact aborts_performAbort (fun k hk => hne (symbol_eq_of_combineHoldings hk)) w

end Arithmetic

/-! ## 5. Reachable worlds -/

/-- How quantities without a symbol stand to the others. -/
structure World.SymbolsApart (w : World) : Prop where
  /-- A symbol that is not valid is the null symbol. -/
  null : ∀ v s, w.heap.symbolOf? v = some s → s.isValid = false → s = Symbol.null
  /-- An operation that succeeds has operands of one symbol: all of them are valid or none is. -/
  together : ∀ (a : Arithmetic) v x y w' s t, a.isArithmetic = true → a.run v x w = .ok y w' →
    w.heap.symbolOf? v = some s → w.heap.symbolOf? x = some t → t = s
  /-- A sum or a ratio of a quantity with a valid symbol and one without aborts. -/
  quantities : ∀ (a : Arithmetic) r s, a.isSum = true ∨ a.isRatio = true →
    (w.heap.quantity s).symbol.isValid ≠ (w.heap.quantity r).symbol.isValid →
    (a.run (.object (.quantity r)) (.object (.quantity s))).Aborts w
  /-- So does a sum of a holding with a valid symbol and one without. -/
  holdings : ∀ (a : Arithmetic) o p, a.isSum = true →
    (w.heap.holding p).quantity.symbol.isValid ≠ (w.heap.holding o).quantity.symbol.isValid →
    (a.run (.object (.holding o)) (.object (.holding p))).Aborts w

theorem World.Sound.symbolsApart {w : World} (hw : w.Sound) : w.SymbolsApart := by
  refine ⟨?_, ?_, ?_, ?_⟩
  · intro v s hv hs
    have null : ∀ q : Quantity, q.Admissible → q.symbol.isValid = false → q.symbol = Symbol.null :=
      fun q hq hn => hq.2.resolve_left (by rw [hn]; exact Bool.false_ne_true)
    unfold Heap.symbolOf? at hv
    split at hv
    · cases hv
      exact null _ (hw.heap.quantity _) hs
    · cases hv
      exact null _ (hw.heap.holding _) hs
    · cases hv
  · intro a v x y w' s t ha h hv hx
    exact Arithmetic.symbolOf?_eq_of_ok ha h hv hx
  · intro a r s ha hne
    exact Arithmetic.aborts_of_symbols r s (fun he => hne (by rw [he])) ha
  · intro a o p ha hne
    exact Arithmetic.aborts_of_holding_symbols o p (fun he => hne (by rw [he])) ha

/-- **Valid and invalid symbols never meet** in an operation that succeeds, after any steps. -/
theorem symbols_apart (steps : List Step) : (World.initial.after steps).SymbolsApart :=
  (World.sound_initial.after steps).symbolsApart

/-- The empty quantity takes part in arithmetic: it is added to itself and negated.  Nor does it stay empty:
its amount can be set. -/
theorem empty_quantities_add :
    ((World.initial.after [⟨.make (.empty .quantity) [], some "e"⟩]).heap.quantity 0) =
      ⟨0, Symbol.null⟩ ∧ Symbol.null.isValid = false ∧
    ((Step.mk (.operate .add (.var "e") (.var "e")) none).run
      (World.initial.after [⟨.make (.empty .quantity) [], some "e"⟩])).1 =
        .ok (.object (.quantity 1)) ∧
    ((Step.mk (.negate (.var "e")) none).run
      (World.initial.after [⟨.make (.empty .quantity) [], some "e"⟩])).1 =
        .ok (.object (.quantity 1)) ∧
    (World.initial.after [⟨.make (.empty .quantity) [], some "e"⟩,
      ⟨.call (.var "e") .setAmount [.plain (.int 5)], none⟩]).heap.quantity 0 =
        ⟨5, Symbol.null⟩ :=
  ⟨by rfl, by rfl, by rfl, by rfl, by rfl⟩

end Ledger

end Holdings
