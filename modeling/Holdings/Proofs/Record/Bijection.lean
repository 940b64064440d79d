/-
# The record form is a bijection

Between the quantities that are valid and the data that is read as one, writing and reading are inverse to
each other, up to the order of entries (`Quantity.ofValue_eq_ok_iff`).  So there is one record of every
valid quantity: no float, no truth value, no other name and no further entry is read as the same.  The
same holds of holdings.

Both follow from the classification (`Record/Refusal.lean`): data without a cause to be refused has integer
leaves, and data with the leaves of a valid quantity has no such cause.

A quantity without a symbol can be written too, and what is written keeps to the contract; reading it
refuses the symbol.
-/
import Holdings.Proofs.Ledger.Running
import Holdings.Proofs.Record.Refusal

namespace Holdings

open Contract

/-! ## 1. Leaves of entities -/

/-- The precision of every symbol fits the contract. -/
theorem Symbol.fittingPrecision (s : Symbol) :
    precisionForm.violations (.int s.precision.toNat) = [] := by
  refine Schema.integer_violations_int.mpr ?_
  have := s.precision.toNat_lt
  omega

/-- The leaves of a written quantity whose code is short fit the contract. -/
theorem Quantity.fittingLeaves {q : Quantity} (h : q.symbol.code.toList.length ≤ 7) :
    Quantity.FittingLeaves (.int q.amount) q.symbol.code (.int q.symbol.precision.toNat) :=
  ⟨rfl, h, q.symbol.fittingPrecision⟩

/-- The word of every identity fits the contract. -/
theorem Identity.fittingLeaf (i : Identity) : wordForm.violations (.int i.value.toNat) = [] := by
  refine Schema.integer_violations_int.mpr ?_
  have := i.value.toNat_lt
  omega

/-- The code of an admissible quantity is short. -/
theorem Quantity.Admissible.short {q : Quantity} (h : q.Admissible) :
    q.symbol.code.toList.length ≤ 7 :=
  (Symbol.fitsWord_iff.mp h.fitsWord.1).1

/-- The leaves of a symbol tell it. -/
theorem Symbol.eq_of_leaves {s s' : Symbol} (hc : s.code = s'.code)
    (hp : (.int s.precision.toNat : Datum) = .int s'.precision.toNat) : s = s' := by
  obtain ⟨c, p⟩ := s
  obtain ⟨c', p'⟩ := s'
  obtain rfl : c = c' := hc
  obtain rfl : p = p' := UInt8.toNat_inj.mp (Int.ofNat.inj (Value.int.inj hp))
  rfl

/-- The leaves of a quantity tell it. -/
theorem Quantity.eq_of_leaves {q q' : Quantity} (ha : (.int q.amount : Datum) = .int q'.amount)
    (hs : q.symbol = q'.symbol) : q = q' := by
  obtain ⟨a, s⟩ := q
  obtain ⟨a', s'⟩ := q'
  obtain rfl : a = a' := Value.int.inj ha
  obtain rfl : s = s' := hs
  rfl

/-- Two quantities that a datum is the data of are one. -/
theorem Quantity.eq_of_sameData {v : Datum} {q q' : Quantity} (h : v.SameData q.toValue)
    (h' : v.SameData q'.toValue) : q = q' := by
  obtain ⟨ha, hc, hp⟩ := (Quantity.sameData_toValue_iff.mp h).unique (Quantity.sameData_toValue_iff.mp h')
  exact Quantity.eq_of_leaves ha (Symbol.eq_of_leaves hc hp)

/-- Two holdings that a datum is the data of are one. -/
theorem Holding.eq_of_sameData {v : Datum} {k k' : Holding} (h : v.SameData k.toValue)
    (h' : v.SameData k'.toValue) : k = k' := by
  obtain ⟨⟨ha, hc, hp⟩, ho⟩ :=
    (Holding.sameData_toValue_iff.mp h).unique (Holding.sameData_toValue_iff.mp h')
  obtain ⟨q, ⟨o⟩⟩ := k
  obtain ⟨q', ⟨o'⟩⟩ := k'
  obtain rfl : q = q' := Quantity.eq_of_leaves ha (Symbol.eq_of_leaves hc hp)
  obtain rfl : o = o' := UInt64.toNat_inj.mp (Int.ofNat.inj (Value.int.inj ho))
  rfl

/-- **Integer leaves give no detail, so what comes of them is what comes of amount and symbol.** -/
theorem Quantity.eq_of_intLeaves {α : Type} {x : Except Fault α} {b : α} {q : Quantity}
    {details : List Detail} (hd : details = [])
    (hx : Classified x (· = b) (Quantity.leafCauses (.int q.amount) q.symbol.code
      (.int q.symbol.precision.toNat) ++ [(details ≠ [], .invalid details)])) :
    x = (liftAbort (Quantity.assess q.amount q.symbol)).map fun _ => b := by
  obtain ⟨hamount, hx⟩ := hx
  unfold Quantity.assess
  by_cases hr : Amount.inRange q.amount = true
  · have hin : ¬ ∃ n, (.int q.amount : Datum) = .int n ∧ 2 ^ 62 - 1 < n.natAbs := by
      rintro ⟨n, hn, hbig⟩
      cases hn
      exact Amount.inRange_iff_natAbs.mp hr hbig
    obtain ⟨hsymbol, hx⟩ := hx hin
    rw [if_pos hr]
    by_cases hs : q.symbol.isValid = true
    · have hnames : ¬ ∃ k, (.int q.symbol.precision.toNat : Datum) = .int k ∧
          ¬ Symbol.Names q.symbol.code k := by
        rintro ⟨k, hk, hn⟩
        cases hk
        exact hn (Symbol.isValid_iff_names.mp hs)
      obtain ⟨a, ha, rfl⟩ := (hx hnames).2 (absurd hd)
      rw [ha, if_pos hs]
      rfl
    · rw [hsymbol ⟨_, rfl, fun hn => hs (Symbol.isValid_iff_names.mpr hn)⟩, if_neg hs]
      rfl
  · rw [hamount ⟨_, rfl, Classical.not_not.mp fun h => hr (Amount.inRange_iff_natAbs.mpr h)⟩,
      if_neg hr]
    rfl

/-! ## 2. Reading what is written -/

/-- **The data of a quantity, in whatever order**, is read as what its amount and its symbol allow. -/
theorem Quantity.ofValue_of_sameData {v : Datum} {q : Quantity} (hv : v.SameData q.toValue)
    (h : q.symbol.code.toList.length ≤ 7) :
    Quantity.ofValue v = liftAbort (Quantity.assess q.amount q.symbol) := by
  have hclass := Quantity.ofValue_classified (Quantity.sameData_toValue_iff.mp hv)
    (Quantity.fittingLeaves h)
  have hread := Quantity.eq_of_intLeaves rfl
    (hclass.mono fun q' hq' => Quantity.eq_of_sameData hq' hv)
  rw [hread, Quantity.map_assess (f := fun _ => q) (g := id) rfl, Except.map_id]
  rfl

theorem Holding.ofValue_of_sameData {v : Datum} {k : Holding} (hv : v.SameData k.toValue)
    (h : k.quantity.symbol.code.toList.length ≤ 7) :
    Holding.ofValue v = (liftAbort (Quantity.assess k.quantity.amount k.quantity.symbol)).map
      fun q => ⟨q, k.owner⟩ := by
  have hclass := Holding.ofValue_classified (Holding.sameData_toValue_iff.mp hv)
    (Quantity.fittingLeaves h) (Identity.fittingLeaf k.owner)
  have hread := Quantity.eq_of_intLeaves rfl
    (hclass.mono fun k' hk' => Holding.eq_of_sameData hk' hv)
  rw [hread]
  exact Quantity.map_assess rfl

/-- **What is read as a quantity** is what is written for it, and the quantity is valid. -/
theorem Quantity.ofValue_eq_ok_iff {v : Datum} {q : Quantity} :
    Quantity.ofValue v = .ok q ↔ q.isValid = true ∧ v.SameData q.toValue := by
  constructor
  · intro h
    obtain ⟨u, hu, -⟩ := Except.bind_eq_ok_iff.mp h
    obtain ⟨a, c, p, hv, hf⟩ := quantity_conforms_iff.mp (Schema.check_eq_ok_iff.mp hu)
    have hsame := (Quantity.ofValue_classified hv hf).of_ok h
    obtain ⟨rfl, rfl, rfl⟩ := hv.unique (Quantity.sameData_toValue_iff.mp hsame)
    rw [Quantity.ofValue_of_sameData hsame hf.code] at h
    exact ⟨(Quantity.assess_eq_ok_iff.mp (liftAbort_eq_ok_iff.mp h)).1, hsame⟩
  · rintro ⟨hvalid, hsame⟩
    rw [Quantity.ofValue_of_sameData hsame (Quantity.admissible_of_isValid hvalid).1.short,
      Quantity.assess_eq_ok_iff.mpr ⟨hvalid, rfl⟩]
    rfl

/-- **What is read as a holding** is what is written for it, and its quantity is valid. -/
theorem Holding.ofValue_eq_ok_iff {v : Datum} {k : Holding} :
    Holding.ofValue v = .ok k ↔ k.quantity.isValid = true ∧ v.SameData k.toValue := by
  constructor
  · intro h
    obtain ⟨u, hu, -⟩ := Except.bind_eq_ok_iff.mp h
    obtain ⟨a, c, p, o, hv, hf, ho⟩ := holding_conforms_iff.mp (Schema.check_eq_ok_iff.mp hu)
    have hsame := (Holding.ofValue_classified hv hf ho).of_ok h
    obtain ⟨⟨rfl, rfl, rfl⟩, rfl⟩ := hv.unique (Holding.sameData_toValue_iff.mp hsame)
    rw [Holding.ofValue_of_sameData hsame hf.code] at h
    obtain ⟨q', hq', -⟩ := Except.map_eq_ok_iff.mp h
    exact ⟨(Quantity.assess_eq_ok_iff.mp (liftAbort_eq_ok_iff.mp hq')).1, hsame⟩
  · rintro ⟨hvalid, hsame⟩
    rw [Holding.ofValue_of_sameData hsame (Quantity.admissible_of_isValid hvalid).1.short,
      Quantity.assess_eq_ok_iff.mpr ⟨hvalid, rfl⟩]
    rfl

/-- What is written for an admissible quantity keeps to the contract. -/
theorem Quantity.Admissible.conforms {q : Quantity} (h : q.Admissible) :
    quantityForm.violations q.toValue = [] :=
  quantity_conforms_iff.mpr ⟨_, _, _, Quantity.sameData_toValue_iff.mp (.refl _),
    Quantity.fittingLeaves h.short⟩

theorem Holding.conforms_of_admissible {k : Holding} (h : k.quantity.Admissible) :
    holdingForm.violations k.toValue = [] :=
  holding_conforms_iff.mpr ⟨_, _, _, _, Holding.sameData_toValue_iff.mp (.refl _),
    Quantity.fittingLeaves h.short, Identity.fittingLeaf k.owner⟩

/-! ## 3. In a script -/

namespace Ledger

open Act

/-- An object and its record: the record is what the object is written as, it keeps to the contract, and
reading it gives an object of the same content if the symbol is valid, and refuses the symbol if not. -/
structure World.Restores (w : World) (kind : EntityKind) (form : Schema) (o : Ref) (record : Item)
    (valid : Bool) : Prop where
  written : callMethod (.object o) .toRecord [] w = .ok record w
  conforms : form.violations (w.heap.datum record) = []
  restored : valid = true →
    (make (.ofRecord kind) [record]).outcome w = .ok (w.heap.datum (.object o))
  refused : ¬ valid = true →
    (make (.ofRecord kind) [record]).outcome w = .error (.aborted .invalidSymbol)

theorem Heap.datum_toValue_quantity (h : Heap) (q : Quantity) :
    h.datum (q.toValue : Item) = q.toValue := rfl

theorem Heap.datum_toValue_holding (h : Heap) (k : Holding) :
    h.datum (k.toValue : Item) = k.toValue := rfl

theorem World.restores_quantity {w : World} {r : Nat} (hq : (w.heap.quantity r).Admissible) :
    w.Restores .quantity quantityForm (.quantity r) (w.heap.quantity r).toValue
      (w.heap.quantity r).symbol.isValid where
  written := rfl
  conforms := hq.conforms
  restored := fun hs => by
    have hvalid : (w.heap.quantity r).isValid = true := Bool.and_eq_true_iff.mpr ⟨hq.1, hs⟩
    rw [outcome_ofRecord_quantity, Heap.datum_toValue_quantity,
      Quantity.ofValue_eq_ok_iff.mpr ⟨hvalid, .refl _⟩]
    rfl
  refused := fun hs => by
    rw [outcome_ofRecord_quantity, Heap.datum_toValue_quantity,
      Quantity.ofValue_of_sameData (.refl _) hq.short, hq.assess_eq_error hs]
    rfl

theorem World.restores_holding {w : World} {r : Nat} (hk : (w.heap.holding r).quantity.Admissible) :
    w.Restores .holding holdingForm (.holding r) (w.heap.holding r).toValue
      (w.heap.holding r).quantity.symbol.isValid where
  written := rfl
  conforms := Holding.conforms_of_admissible hk
  restored := fun hs => by
    have hvalid : (w.heap.holding r).quantity.isValid = true := Bool.and_eq_true_iff.mpr ⟨hk.1, hs⟩
    rw [outcome_ofRecord_holding, Heap.datum_toValue_holding,
      Holding.ofValue_eq_ok_iff.mpr ⟨hvalid, .refl _⟩]
    rfl
  refused := fun hs => by
    rw [outcome_ofRecord_holding, Heap.datum_toValue_holding,
      Holding.ofValue_of_sameData (.refl _) hk.short, hk.assess_eq_error hs]
    rfl

end Ledger

/-! ## 4. The form -/

/-- **The record form is a bijection.**  What is read is exactly the data that is written for a valid
quantity or a holding of one, up to the order of entries and with integers as numbers; so every value
has one record.  A script reads in every world what its data stands for.  In a reachable world every
quantity and every holding is written without a violation of its contract, and it is restored from its
record if its symbol is valid; the record of an empty one is refused for its symbol. -/
theorem record_form_bijective :
    (∀ (v : Datum) (q : Quantity),
      Quantity.ofValue v = .ok q ↔ q.isValid = true ∧ v.SameData q.toValue) ∧
    (∀ (v : Datum) (k : Holding),
      Holding.ofValue v = .ok k ↔ k.quantity.isValid = true ∧ v.SameData k.toValue) ∧
    (∀ (w : Ledger.World) (x : Ledger.Item),
      (Ledger.make (.ofRecord .quantity) [x]).outcome w =
        (Quantity.ofValue (w.heap.datum x)).map (fun q => .object (.quantity q)) ∧
      (Ledger.make (.ofRecord .holding) [x]).outcome w =
        (Holding.ofValue (w.heap.datum x)).map fun k => .object (.holding k)) ∧
    ∀ (steps : List Ledger.Step) (r : Nat),
      let w := Ledger.World.initial.after steps
      w.Restores .quantity quantityForm (.quantity r) (w.heap.quantity r).toValue
        (w.heap.quantity r).symbol.isValid ∧
      w.Restores .holding holdingForm (.holding r) (w.heap.holding r).toValue
        (w.heap.holding r).quantity.symbol.isValid := by
  refine ⟨fun v q => Quantity.ofValue_eq_ok_iff, fun v k => Holding.ofValue_eq_ok_iff, fun w x => ?_,
    fun steps r => ?_⟩
  · exact ⟨Ledger.outcome_ofRecord_quantity w x, Ledger.outcome_ofRecord_holding w x⟩
  · have hw := Ledger.World.sound_initial.after steps
    exact ⟨Ledger.World.restores_quantity (hw.heap.quantity r),
      Ledger.World.restores_holding (hw.heap.holding r)⟩

/-- The record of seven units in another order of entries is read, and that of the empty quantity in a new
world is refused. -/
theorem record_form_at_seven :
    Quantity.ofValue (.dict [("symbol", .dict [("precision", .int 4), ("code", .text "SYS")]),
      ("amount", .int 7)]) = .ok ⟨7, ⟨"SYS", 4⟩⟩ ∧
    (Ledger.make (.ofRecord .quantity) [Quantity.empty.toValue]).outcome Ledger.World.initial =
      .error (.aborted .invalidSymbol) := by
  refine ⟨(record_form_bijective.1 _ _).mpr ⟨by decide, Quantity.sameData_toValue_iff.mpr ?_⟩,
    (record_form_bijective.2.2.2 [] 0).1.refused (by decide)⟩
  have hsymbol : Symbol.HasLeaves (.dict [("precision", .int 4), ("code", .text "SYS")]) "SYS" (.int 4) :=
    ⟨_, rfl, by simp [Value.lookup_entry_cons], by simp⟩
  exact ⟨_, rfl, by simpa [Value.lookup_entry_cons] using hsymbol, by simp⟩

end Holdings
