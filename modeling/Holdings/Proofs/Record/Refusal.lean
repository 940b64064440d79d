/-
# Why data is refused as a record

Data is first held against its contract, and the first violation is the fault; nothing else is looked at.  If
this violation shows an integer that is too long, it cannot be told, and that is the fault instead.
What keeps to the contract has leaves (`Record/Forms.lean`), and then only three things can be wrong with
them: an amount out of range, a code and a precision that name no valid symbol, and numbers that are
floats.  The first two stop at once, the amount before the symbol, so they hide a float even if it stands
further in front.  Floats are collected, one detail for each in the order of the leaves.

A float is never out of range and never a precision that could be wrong: these two causes ask for an
integer at their leaf.
-/
import Holdings.Proofs.Causes
import Holdings.Proofs.Exact
import Holdings.Proofs.Ledger.Building
import Holdings.Proofs.Contract.Published
import Holdings.Proofs.Wire.Entities
import Holdings.Ledger.Methods

namespace Holdings

open Contract

/-! ## 1. Single leaves -/

/-- One detail for each of the leaves that is a float: it should be an integer. -/
def floatDetails (leaves : List (List String × Datum)) : List Detail :=
  leaves.filterMap fun
    | (path, .float _) => some ⟨.notInt, path⟩
    | _ => none

theorem floatDetails_append (leaves leaves' : List (List String × Datum)) :
    floatDetails (leaves ++ leaves') = floatDetails leaves ++ floatDetails leaves' :=
  List.filterMap_append

/-- Details seen from a field are those of leaves with longer paths. -/
theorem floatDetails_under (field : String) (leaves : List (List String × Datum)) :
    (floatDetails leaves).map (Detail.under field) =
      floatDetails (leaves.map fun l => (field :: l.1, l.2)) := by
  unfold floatDetails
  rw [List.map_filterMap, List.filterMap_map]
  congr 1
  funext ⟨path, v⟩
  cases v <;> rfl

/-- What counts as an integer is one, or it is a float. -/
theorem Contract.int_or_float {v : Datum} (h : isInteger v = true) :
    (∃ n, v = .int n) ∨ ∃ x, v = .float x := by
  cases v <;> simp_all [isInteger]

/-- **The check of an amount.** -/
theorem Datum.checkAmount_settled {a : Datum} (h : isInteger a = true) :
    a.checkAmount.Settled (fun n => a = .int n) (floatDetails [([], a)])
      [(∃ n, a = .int n ∧ 2 ^ 62 - 1 < n.natAbs, .aborted .outOfRange)] := by
  rcases int_or_float h with ⟨n, rfl⟩ | ⟨x, rfl⟩
  · have hr : Datum.checkAmount (.int n) =
        .ofAbort (if Amount.inRange n then .ok n else .error .outOfRange) :=
      congrArg Verdict.ofAbort (Amount.check_eq n)
    rw [hr]
    refine ⟨?_, fun hn => ⟨fun hd => absurd rfl hd, fun _ => ⟨n, ?_, rfl⟩⟩⟩
    · rintro ⟨m, hm, hbig⟩
      cases hm
      rw [if_neg fun hi => Amount.inRange_iff_natAbs.mp hi hbig]
      rfl
    · rw [if_pos (Amount.inRange_iff_natAbs.mpr fun hbig => hn ⟨n, rfl, hbig⟩)]
      rfl
  · refine ⟨?_, fun _ => ⟨fun _ => rfl, fun hd => ?_⟩⟩
    · rintro ⟨n, hn, -⟩
      cases hn
    · cases hd

/-- **The check of an integer whose bounds the contract has checked already.** -/
theorem Datum.checkIntBetween_settled {low high : Int} {p : Datum}
    (h : (Schema.integer (some low) (some high)).violations p = []) :
    (p.checkIntBetween low high).Settled (fun n => p = .int n ∧ low ≤ n ∧ n ≤ high)
      (floatDetails [([], p)]) [] := by
  rcases int_or_float (Schema.integer_violations_eq_nil_iff.mp h).1 with ⟨n, rfl⟩ | ⟨x, rfl⟩
  · obtain ⟨hl, hh⟩ := Schema.integer_violations_int.mp h
    refine ⟨fun hd => absurd rfl hd, fun _ => ⟨n, ?_, rfl, hl, hh⟩⟩
    unfold Datum.checkIntBetween
    dsimp only
    rw [if_neg (by omega), if_neg (by omega)]
  · exact ⟨fun _ => rfl, fun hd => by cases hd⟩

/-- **The check of a text** that is one. -/
theorem Datum.checkText_settled (s : String) :
    (Datum.checkText (.text s)).Settled (· = s) [] [] :=
  ⟨fun h => absurd rfl h, fun _ => ⟨s, rfl, rfl⟩⟩

/-! ## 2. Symbols and identities -/

/-- One to seven capital letters, and at most eighteen fraction digits. -/
def Symbol.Names (code : String) (precision : Int) : Prop :=
  (1 ≤ code.toList.length ∧ code.toList.length ≤ 7 ∧
    ∀ c ∈ code.toList, 'A'.toNat ≤ c.toNat ∧ c.toNat ≤ 'Z'.toNat) ∧ 0 ≤ precision ∧ precision ≤ 18

theorem Symbol.isValid_iff_names {s : Symbol} :
    s.isValid = true ↔ Symbol.Names s.code s.precision.toNat := by
  rw [Symbol.isValid_iff]
  refine and_congr Iff.rfl ⟨fun h => ⟨by omega, by omega⟩, fun h => by omega⟩

/-- The check of the fields of a record goes to the values of its leaves. -/
theorem Fields.check_of_lookup {α : Type} {fields : Fields} {label name : String} {names : List String}
    {x : Datum} (f : Datum → Verdict α) (h : List.lookup name fields = some x) :
    Fields.check fields label f (name :: names) = (f x).under name := by
  rw [Fields.check, h]

/-- The check of a symbol by its leaves. -/
theorem Datum.checkSymbol_settled {s p : Datum} {c : String} (hs : Symbol.HasLeaves s c p)
    (hp : precisionForm.violations p = []) :
    s.checkSymbol.Settled (fun t => t.code = c ∧ p = .int t.precision.toNat)
      (floatDetails [(["precision"], p)]) [] := by
  obtain ⟨es, rfl, hf, -⟩ := hs
  have hlook : List.lookup "code" es = some (.text c) ∧ List.lookup "precision" es = some p := by
    simpa using hf
  have hset := ((Datum.checkText_settled c).under "code").both
    ((Datum.checkIntBetween_settled hp).under "precision")
  rw [floatDetails_under] at hset
  have hcheck : Datum.checkSymbol (.dict es) = (Verdict.both ((Datum.checkText (.text c)).under "code")
      ((p.checkIntBetween 0 255).under "precision")).map fun r => ⟨r.1, UInt8.ofNat r.2.toNat⟩ := by
    unfold Datum.checkSymbol Symbol.ofFields
    dsimp only
    rw [Fields.check_of_lookup _ hlook.1, Fields.check_of_lookup _ hlook.2]
  rw [hcheck]
  refine hset.map fun r hr => ⟨hr.1, ?_⟩
  obtain ⟨hint, hlow, hhigh⟩ := hr.2
  have hnat : (UInt8.ofNat r.2.toNat).toNat = r.2.toNat := UInt8.toNat_ofNat_of_lt' (by
    show r.2.toNat < 2 ^ 8
    omega)
  rw [hnat, Int.toNat_of_nonneg hlow]
  exact hint

/-- **The check of a symbol that must be valid.**  A precision that is a float is reported before its value
could matter. -/
theorem Datum.checkValidSymbol_settled {s p : Datum} {c : String} (hs : Symbol.HasLeaves s c p)
    (hp : precisionForm.violations p = []) :
    s.checkValidSymbol.Settled (fun t => s.SameData t.toValue) (floatDetails [(["precision"], p)])
      [(∃ k, p = .int k ∧ ¬ Symbol.Names c k, .aborted .invalidSymbol)] := by
  obtain ⟨hbad, hgood⟩ := Datum.checkSymbol_settled hs hp
  unfold Datum.checkValidSymbol
  refine ⟨?_, fun hnames => ⟨fun hd => ?_, fun hd => ?_⟩⟩
  · rintro ⟨k, rfl, hk⟩
    obtain ⟨t, ht, rfl, hprec⟩ := hgood rfl
    have hinvalid : ¬ t.isValid = true := by
      rw [Symbol.isValid_iff_names, ← Value.int.inj hprec]
      exact hk
    rw [ht]
    simp [Verdict.bind, Abort.require, hinvalid, Verdict.ofAbort, Except.map]
  · rw [hbad hd]
    rfl
  · obtain ⟨t, ht, rfl, hprec⟩ := hgood hd
    have hvalid : t.isValid = true := by
      rw [Symbol.isValid_iff_names]
      exact Classical.not_not.mp fun hk => hnames ⟨_, hprec, hk⟩
    refine ⟨t, ?_, Symbol.sameData_toValue_iff.mpr (hprec ▸ hs)⟩
    rw [ht]
    simp [Verdict.bind, Abort.require, hvalid, Verdict.ofAbort, Except.map]

/-- The check of an owner by its leaf. -/
theorem Datum.checkIdentity_settled {i o : Datum} (hi : Identity.HasLeaf i o)
    (ho : wordForm.violations o = []) :
    i.checkIdentity.Settled (fun j => i.SameData j.toValue) (floatDetails [(["value"], o)]) [] := by
  obtain ⟨es, rfl, hf, honly⟩ := id hi
  have hlook : List.lookup "value" es = some o := by simpa using hf
  have hset := (Datum.checkIntBetween_settled ho).under "value"
  rw [floatDetails_under] at hset
  have hcheck : Datum.checkIdentity (.dict es) = ((o.checkIntBetween 0 18446744073709551615).under
      "value").map fun n => ⟨UInt64.ofNat n.toNat⟩ := by
    unfold Datum.checkIdentity Identity.ofFields Fields.checkField
    dsimp only
    rw [Fields.check_of_lookup _ hlook]
    rfl
  rw [hcheck]
  refine hset.map fun n hn => ?_
  obtain ⟨hint, hlow, hhigh⟩ := hn
  have hnat : (UInt64.ofNat n.toNat).toNat = n.toNat := UInt64.toNat_ofNat_of_lt' (by
    show n.toNat < 2 ^ 64
    omega)
  rw [Identity.sameData_toValue_iff, hnat, Int.toNat_of_nonneg hlow, ← hint]
  exact hi

/-! ## 3. Quantities and holdings -/

/-- The two values of a record are bound to the two fields of the same names. -/
theorem Fields.bindTwo_of_isRecord {es : Fields} {m n : String} {x y : Datum} (hm : "self" ≠ m)
    (hn : "self" ≠ n) (h : Datum.IsRecord (.dict es) [(m, (· = x)), (n, (· = y))]) :
    Fields.bindTwo m n [] es = .ok (x, y) := by
  obtain ⟨es', hes, hf, honly⟩ := h
  cases hes
  have hlook : List.lookup m es = some x ∧ List.lookup n es = some y := by simpa using hf
  have hself : ¬ (List.lookup "self" es).isSome = true := fun h => by
    have := honly "self" h
    simp [hm, hn] at this
  unfold Fields.bindTwo
  rw [if_neg hself, hlook.1, hlook.2]

/-- The causes to stop at the leaves of a quantity. -/
def Quantity.leafCauses (amount : Datum) (code : String) (precision : Datum) : List (Prop × Fault) := [
  (∃ n, amount = .int n ∧ 2 ^ 62 - 1 < n.natAbs, .aborted .outOfRange),
  (∃ k, precision = .int k ∧ ¬ Symbol.Names code k, .aborted .invalidSymbol)]

/-- **The check of a quantity by its leaves.** -/
theorem Datum.checkQuantity_settled {v a p : Datum} {c : String} (hv : Quantity.HasLeaves v a c p)
    (hf : Quantity.FittingLeaves a c p) :
    v.checkQuantity.Settled (fun q => v.SameData q.toValue)
      (floatDetails [(["amount"], a), (["symbol", "precision"], p)]) (Quantity.leafCauses a c p) := by
  obtain ⟨x, s, rfl, hs, hrec⟩ := Datum.isRecord_two.mp hv
  obtain ⟨es, rfl, -⟩ := id hrec
  have hset := ((Datum.checkAmount_settled hf.amount).under "amount").both
    ((Datum.checkValidSymbol_settled hs hf.precision).under "symbol")
  rw [floatDetails_under, floatDetails_under, ← floatDetails_append] at hset
  have hcheck : Datum.checkQuantity (.dict es) = Quantity.check x s := by
    unfold Datum.checkQuantity Quantity.ofCall
    dsimp only
    rw [Fields.bindTwo_of_isRecord (by decide) (by decide) hrec]
  rw [hcheck]
  refine hset.map fun r hr => ?_
  unfold Quantity.toValue
  rw [Datum.sameData_dict_iff (by simp)]
  exact Datum.isRecord_two.mpr ⟨x, s, Value.sameData_int.mpr hr.1, hr.2, hrec⟩

/-- **The check of a holding by its leaves.**  The causes of its quantity count before any detail, also
that of the owner. -/
theorem Datum.checkHolding_settled {v a p o : Datum} {c : String} (hv : Holding.HasLeaves v a c p o)
    (hf : Quantity.FittingLeaves a c p) (ho : wordForm.violations o = []) :
    v.checkHolding.Settled (fun k => v.SameData k.toValue)
      (floatDetails [(["quantity", "amount"], a), (["quantity", "symbol", "precision"], p),
        (["owner", "value"], o)]) (Quantity.leafCauses a c p) := by
  obtain ⟨q, i, hq, hi, hrec⟩ := Datum.isRecord_two.mp hv
  obtain ⟨es, rfl, -⟩ := id hrec
  have hset := ((Datum.checkQuantity_settled hq hf).under "quantity").both
    ((Datum.checkIdentity_settled hi ho).under "owner")
  rw [floatDetails_under, floatDetails_under, ← floatDetails_append, List.append_nil] at hset
  have hcheck : Datum.checkHolding (.dict es) = Holding.check q i := by
    unfold Datum.checkHolding Holding.ofCall
    dsimp only
    rw [Fields.bindTwo_of_isRecord (by decide) (by decide) hrec]
  rw [hcheck]
  refine hset.map fun r hr => ?_
  unfold Holding.toValue
  rw [Datum.sameData_dict_iff (by simp)]
  exact Datum.isRecord_two.mpr ⟨q, i, hr.1, hr.2, hrec⟩

/-! ## 4. Reading records -/

/-- The causes to refuse data that keeps to the contract of a quantity, in their order. -/
def Quantity.recordCauses (amount : Datum) (code : String) (precision : Datum) : List (Prop × Fault) :=
  let details := floatDetails [(["amount"], amount), (["symbol", "precision"], precision)]
  Quantity.leafCauses amount code precision ++ [(details ≠ [], .invalid details)]

/-- The causes to refuse data that keeps to the contract of a holding, in their order. -/
def Holding.recordCauses (amount : Datum) (code : String) (precision word : Datum) :
    List (Prop × Fault) :=
  let details := floatDetails [(["quantity", "amount"], amount),
    (["quantity", "symbol", "precision"], precision), (["owner", "value"], word)]
  Quantity.leafCauses amount code precision ++ [(details ≠ [], .invalid details)]

variable {v : Datum} {first : Violation} {rest : List Violation}

/-- What a first violation fails with: itself, if it can be told. -/
def Contract.FailsWith (v : Datum) (x : Violation) (f : Fault) : Prop :=
  (¬ Untold v x ∧ f = .contract x) ∨ (Untold v x ∧ f = .refused .longNumber)

theorem Contract.Tells.check_of_failsWith {form : Schema} {f : Fault} (h : Tells form v)
    (hv : form.violations v = first :: rest) (hf : FailsWith v first f) : form.check v = .error f := by
  rcases hf with ⟨ht, rfl⟩ | ⟨hu, rfl⟩
  · exact (h.first _ _ hv ht).1
  · exact (h.silent _ _ hv hu).1

theorem Quantity.ofValue_of_breach {f : Fault} (h : quantityForm.violations v = first :: rest)
    (hf : FailsWith v first f) : Quantity.ofValue v = .error f := by
  unfold Quantity.ofValue
  rw [quantityDocument_means.tells.check_of_failsWith h hf]
  rfl

theorem Holding.ofValue_of_breach {f : Fault} (h : holdingForm.violations v = first :: rest)
    (hf : FailsWith v first f) : Holding.ofValue v = .error f := by
  unfold Holding.ofValue
  rw [holdingDocument_means.tells.check_of_failsWith h hf]
  rfl

/-- Only the leaves of data that keeps to the contract count for a quantity. -/
theorem Quantity.ofValue_classified {a p : Datum} {c : String} (hv : Quantity.HasLeaves v a c p)
    (hf : Quantity.FittingLeaves a c p) :
    Classified (Quantity.ofValue v) (fun q => v.SameData q.toValue) (Quantity.recordCauses a c p) := by
  have hconforms := quantity_conforms_iff.mpr ⟨a, c, p, hv, hf⟩
  have hread : Quantity.ofValue v = v.checkQuantity.toExcept := by
    unfold Quantity.ofValue
    rw [Schema.check_eq_ok_iff.mpr hconforms]
    rfl
  rw [hread]
  exact (Datum.checkQuantity_settled hv hf).classified

-- an invalid symbol hides the float that stands in front of it
example : Quantity.ofValue (.dict [("amount", .float (.finite false 1 0)),
    ("symbol", .dict [("code", .text "SYS"), ("precision", .int 19)])]) =
      .error (.aborted .invalidSymbol) := by
  decide +kernel

/-- Only the leaves of data that keeps to the contract count for a holding. -/
theorem Holding.ofValue_classified {a p o : Datum} {c : String} (hv : Holding.HasLeaves v a c p o)
    (hf : Quantity.FittingLeaves a c p) (ho : wordForm.violations o = []) :
    Classified (Holding.ofValue v) (fun k => v.SameData k.toValue) (Holding.recordCauses a c p o) := by
  have hconforms := holding_conforms_iff.mpr ⟨a, c, p, o, hv, hf, ho⟩
  have hread : Holding.ofValue v = v.checkHolding.toExcept := by
    unfold Holding.ofValue
    rw [Schema.check_eq_ok_iff.mpr hconforms]
    rfl
  rw [hread]
  exact (Datum.checkHolding_settled hv hf ho).classified

/-! ## 5. In a script -/

namespace Ledger

open Act

theorem outcome_ofRecord_quantity (w : World) (x : Item) :
    (make (.ofRecord .quantity) [x]).outcome w =
      (Quantity.ofValue (w.heap.datum x)).map fun q => .object (.quantity q) := by
  have h : (make (.ofRecord .quantity) [x]).outcome w =
      (readQuantity (w.heap.datum x)).outcome w := rfl
  rw [h]
  unfold readQuantity
  rw [outcome_perform]
  cases Quantity.ofValue (w.heap.datum x) with
  | error f => rfl
  | ok q => exact outcome_placeQuantity q w

theorem outcome_ofRecord_holding (w : World) (x : Item) :
    (make (.ofRecord .holding) [x]).outcome w =
      (Holding.ofValue (w.heap.datum x)).map fun k => .object (.holding k) := by
  have h : (make (.ofRecord .holding) [x]).outcome w =
      (readHolding (w.heap.datum x)).outcome w := rfl
  rw [h]
  unfold readHolding
  rw [outcome_perform]
  cases Holding.ofValue (w.heap.datum x) with
  | error f => rfl
  | ok k => exact outcome_placeHolding k w

/-- Data that breaks the contract leaves the world as it was. -/
theorem make_ofRecord_quantity_of_breach {w : World} {x : Item} {f : Fault}
    (h : quantityForm.violations (w.heap.datum x) = first :: rest)
    (hf : FailsWith (w.heap.datum x) first f) :
    make (.ofRecord .quantity) [x] w = .error f w := by
  have hm : make (.ofRecord .quantity) [x] w = readQuantity (w.heap.datum x) w := rfl
  rw [hm]
  unfold readQuantity
  rw [Quantity.ofValue_of_breach h hf]
  rcases hf with ⟨-, rfl⟩ | ⟨-, rfl⟩ <;> rfl

theorem make_ofRecord_holding_of_breach {w : World} {x : Item} {f : Fault}
    (h : holdingForm.violations (w.heap.datum x) = first :: rest)
    (hf : FailsWith (w.heap.datum x) first f) :
    make (.ofRecord .holding) [x] w = .error f w := by
  have hm : make (.ofRecord .holding) [x] w = readHolding (w.heap.datum x) w := rfl
  rw [hm]
  unfold readHolding
  rw [Holding.ofValue_of_breach h hf]
  rcases hf with ⟨-, rfl⟩ | ⟨-, rfl⟩ <;> rfl

end Ledger

/-! ## 6. The classification -/

/-- **Every datum has one outcome as a record, and the first cause that applies tells which.**  A violation
of the contract is the fault if there is one, the first in the order of the contract, and the world stays
as it was; if it shows an integer that is too long, the fault is that it cannot be told.  Without a violation the
datum has leaves that fit.  Then the amount counts first if it is an integer,
next code and precision if the precision is an integer, and then the floats among the leaves, all of them
at once; if nothing is wrong, the result is what the datum says.  For a holding the causes of its quantity
come before all details, and the details of the quantity before that of the owner.  Scripts have the same
outcomes in every world. -/
theorem record_fails_by_first_cause (v : Datum) :
    (∀ first rest f, quantityForm.violations v = first :: rest → FailsWith v first f →
      Quantity.ofValue v = .error f ∧
      ∀ (w : Ledger.World) (x : Ledger.Item), w.heap.datum x = v →
        Ledger.make (.ofRecord .quantity) [x] w = .error f w) ∧
    (quantityForm.violations v = [] → ∃ a c p,
      Quantity.HasLeaves v a c p ∧ Quantity.FittingLeaves a c p ∧
      Classified (Quantity.ofValue v) (fun q => v.SameData q.toValue) (Quantity.recordCauses a c p)) ∧
    (∀ first rest f, holdingForm.violations v = first :: rest → FailsWith v first f →
      Holding.ofValue v = .error f ∧
      ∀ (w : Ledger.World) (x : Ledger.Item), w.heap.datum x = v →
        Ledger.make (.ofRecord .holding) [x] w = .error f w) ∧
    (holdingForm.violations v = [] → ∃ a c p o,
      Holding.HasLeaves v a c p o ∧ Quantity.FittingLeaves a c p ∧ wordForm.violations o = [] ∧
      Classified (Holding.ofValue v) (fun k => v.SameData k.toValue) (Holding.recordCauses a c p o)) ∧
    ∀ (w : Ledger.World) (x : Ledger.Item), w.heap.datum x = v →
      (Ledger.make (.ofRecord .quantity) [x]).outcome w =
        (Quantity.ofValue v).map (fun q => .object (.quantity q)) ∧
      (Ledger.make (.ofRecord .holding) [x]).outcome w =
        (Holding.ofValue v).map fun k => .object (.holding k) := by
  refine ⟨fun first rest f h hf => ?_, fun h => ?_, fun first rest f h hf => ?_, fun h => ?_, ?_⟩
  · refine ⟨Quantity.ofValue_of_breach h hf, ?_⟩
    rintro w x rfl
    exact Ledger.make_ofRecord_quantity_of_breach h hf
  · obtain ⟨a, c, p, hv, hf⟩ := quantity_conforms_iff.mp h
    exact ⟨a, c, p, hv, hf, Quantity.ofValue_classified hv hf⟩
  · refine ⟨Holding.ofValue_of_breach h hf, ?_⟩
    rintro w x rfl
    exact Ledger.make_ofRecord_holding_of_breach h hf
  · obtain ⟨a, c, p, o, hv, hf, ho⟩ := holding_conforms_iff.mp h
    exact ⟨a, c, p, o, hv, hf, ho, Holding.ofValue_classified hv hf ho⟩
  · rintro w x rfl
    exact ⟨Ledger.outcome_ofRecord_quantity w x, Ledger.outcome_ofRecord_holding w x⟩

/-- What is no dictionary breaks both contracts, and what is written for the empty quantity and the empty
holding breaks none. -/
theorem record_at_null_and_empty :
    Quantity.ofValue .null = .error (.contract ⟨[], .wrongType ⟨"None", true⟩ "object"⟩) ∧
    Holding.ofValue .null = .error (.contract ⟨[], .wrongType ⟨"None", true⟩ "object"⟩) ∧
    (∃ a c p, Quantity.HasLeaves Quantity.empty.toValue a c p ∧
      Classified (Quantity.ofValue Quantity.empty.toValue)
        (fun q => (Quantity.empty.toValue : Datum).SameData q.toValue)
        (Quantity.recordCauses a c p)) ∧
    ∃ a c p o, Holding.HasLeaves Holding.empty.toValue a c p o ∧
      Classified (Holding.ofValue Holding.empty.toValue)
        (fun k => (Holding.empty.toValue : Datum).SameData k.toValue)
        (Holding.recordCauses a c p o) := by
  obtain ⟨hq, -, hk, -⟩ := record_fails_by_first_cause .null
  obtain ⟨-, hq', -⟩ := record_fails_by_first_cause Quantity.empty.toValue
  obtain ⟨-, -, -, hk', -⟩ := record_fails_by_first_cause Holding.empty.toValue
  have htold : ∀ x, FailsWith .null x (.contract x) := by
    refine fun x => Or.inl ⟨not_untold ?_ x, rfl⟩
    rintro ⟨n, hn, -⟩
    cases hn
  obtain ⟨a, c, p, hv, -, hc⟩ := hq' (by decide +kernel)
  obtain ⟨a', c', p', o', hv', -, -, hc'⟩ := hk' (by decide +kernel)
  exact ⟨(hq _ _ _ rfl (htold _)).1, (hk _ _ _ rfl (htold _)).1, ⟨a, c, p, hv, hc⟩,
    a', c', p', o', hv', hc'⟩

/-- A precision that is too long is above its bound. -/
theorem quantityForm_violations_of_longPrecision {n : Int} (hn : 0 ≤ n) (h : Text.IsLong n) :
    quantityForm.violations (.dict [("amount", .int 1),
      ("symbol", .dict [("code", .text "A"), ("precision", .int n)])]) =
        [⟨["symbol", "precision"], .above (Datum.shown (.int n)) 255⟩] := by
  have hprecision : (Schema.integer (some 0) (some 255)).violations (.int n) =
      [here (.above (Datum.shown (.int n)) 255)] := Schema.bounded_violations_of_isLong hn h (by decide)
  simp [quantityForm, symbolForm, Schema.violations, Schema.fieldViolations, missingViolations,
    foreignViolations, lowViolations, highViolations, isInteger, here, Violation.under,
    List.lookup_cons, ↓hprecision]

/-- **Not every violation is the fault**: a precision of one digit too many is above its bound, but that
cannot be told. -/
theorem untold_violation_of_precision :
    ∃ v : Datum, v = .dict [("amount", .int 1),
        ("symbol", .dict [("code", .text "A"), ("precision", .int (10 ^ 4300))])] ∧
      Quantity.ofValue v = .error (.refused .longNumber) ∧
      ¬ ∀ first rest, quantityForm.violations v = first :: rest →
        Quantity.ofValue v = .error (.contract first) := by
  refine ⟨_, rfl, ?_⟩
  have hlong : Text.IsLong (10 ^ 4300) := Text.isLong_of_natAbs_eq (Text.natAbs_ten_pow 4300)
  have hviolations := quantityForm_violations_of_longPrecision (Int.pow_nonneg (by decide)) hlong
  have huntold : Untold
      (.dict [("amount", .int 1),
        ("symbol", .dict [("code", .text "A"), ("precision", .int (10 ^ 4300))])])
      ⟨["symbol", "precision"], .above (Datum.shown (.int (10 ^ 4300))) 255⟩ :=
    ⟨by simp [Breach.keyword, showingKeywords], _, rfl, _, .int _, hlong⟩
  have hfault := Quantity.ofValue_of_breach hviolations (Or.inr ⟨huntold, rfl⟩)
  refine ⟨hfault, fun h => ?_⟩
  have hcontract := h _ _ hviolations
  rw [hfault] at hcontract
  cases hcontract

end Holdings
