/-
# All gateways admit the same

A quantity comes into being in three ways: it is built from an amount and a symbol, read from a record, or
read from bytes.  A holding has a fourth, from an amount of an issued symbol.  Each way has checks of its
own in front: the fields of a symbol, the contract of a record, the layout of bytes.  Where an amount, a
code, a precision and an owner fit all of these forms, only the checks of amount and symbol decide, and all
ways have the outcome of `Quantity.assess` (`gateways_agree`).

The outcome does not depend on the world either, although a script that builds something in parts leaves
objects behind even when a later part fails.
-/
import Holdings.Proofs.Record.Bijection
import Holdings.Proofs.Wire.Bijection

namespace Holdings

open Wire

/-! ## 1. Bytes of an amount and a symbol -/

/-- A code that every form can carry: at most seven ASCII characters, none of them zero. -/
structure Symbol.Portable (code : String) : Prop where
  short : code.toList.length ≤ 7
  ascii : ∀ c ∈ code.toList, 0 < c.toNat ∧ c.toNat < 128

theorem Symbol.Portable.fitsWord {code : String} (h : Symbol.Portable code) :
    Symbol.fitsWord code = true :=
  Symbol.fitsWord_iff.mpr ⟨h.short, fun c hc => (h.ascii c hc).2⟩

section Bytes

variable {a : Int} {s : Symbol} (ha : Amount.isWord a = true) (hs : Symbol.Portable s.code)
include ha hs

/-- What the bytes of an amount and a symbol are read as at the start. -/
theorem Quantity.readAt_bytes (rest : Bytes) :
    Quantity.readAt (amountBytes a ++ s.padded ++ rest) 0 = liftAbort (Quantity.assess a s) := by
  have hz : ∀ c ∈ s.code.toList, c.toNat ≠ 0 := fun c hc => Nat.pos_iff_ne_zero.mp (hs.ascii c hc).1
  rw [Quantity.readAt_written (q := ⟨a, s⟩) ha hs.fitsWord hz rest]
  exact Quantity.check_eq_assess a s

theorem Quantity.unpack_bytes :
    Quantity.unpack (amountBytes a ++ s.padded) = liftAbort (Quantity.assess a s) := by
  have hlen : (amountBytes a ++ s.padded).length = 16 := by
    rw [List.length_append, length_amountBytes, Symbol.length_padded hs.fitsWord]
  rw [Quantity.unpack_eq, ← List.append_nil (amountBytes a ++ s.padded),
    Quantity.readAt_bytes ha hs, List.append_nil, hlen]
  cases Quantity.assess a s <;> rfl

theorem Holding.unpack_bytes (i : Identity) :
    Holding.unpack (amountBytes a ++ s.padded ++ digits 8 i.value.toNat) =
      (liftAbort (Quantity.assess a s)).map fun q => ⟨q, i⟩ := by
  have hfront : (amountBytes a ++ s.padded).length = 16 := by
    rw [List.length_append, length_amountBytes, Symbol.length_padded hs.fitsWord]
  have hlen : (amountBytes a ++ s.padded ++ digits 8 i.value.toNat).length = 24 := by
    rw [List.length_append, hfront, length_digits]
  have hback : ((amountBytes a ++ s.padded ++ digits 8 i.value.toNat).drop 16).take 8 =
      digits 8 i.value.toNat := by
    rw [List.drop_left' hfront, List.take_of_length_le (Nat.le_of_eq (length_digits 8 _))]
  rw [Holding.unpack_eq, Quantity.readAt_bytes ha hs, hback, Identity.ofNat_value_digits, hlen]
  cases Quantity.assess a s <;> rfl

end Bytes

/-! ## 2. Objects built in parts -/

namespace Ledger

open Act

variable {w : World}

/-- A symbol is built of its fields, whatever they are. -/
theorem build_symbol_run (s : Symbol) (w : World) :
    build .symbol [] [("code", .text s.code), ("precision", .int s.precision.toNat)] w =
      .ok (.object (.symbol ⟨w.heap.nextTag, s⟩)) (w.withTags (w.heap.nextTag + 1)) := by
  have hleaves := Symbol.sameData_toValue_iff.mp (.refl (s.toValue : Datum))
  obtain ⟨t, ht, hcode, hprec⟩ := (Datum.checkSymbol_settled hleaves s.fittingPrecision).2 rfl
  obtain rfl : t = s := Symbol.eq_of_leaves hcode hprec.symm
  have hfields : Entity.ofCall .symbol [] [("code", .text t.code),
      ("precision", .int t.precision.toNat)] = .valid (.symbol t) :=
    congrArg (Verdict.map Entity.symbol) ht
  have hrun : build .symbol [] [("code", .text t.code), ("precision", .int t.precision.toNat)] w =
      (perform (Entity.ofCall .symbol [] [("code", .text t.code),
        ("precision", .int t.precision.toNat)]).toExcept >>= placeEntity : Act Item) w := rfl
  rw [hrun, hfields]
  rfl

/-- An identity is built of its word. -/
theorem build_identity_run (i : Identity) (w : World) :
    build .identity [] [("value", .int i.value.toNat)] w =
      .ok (.object (.identity ⟨w.heap.nextTag, i⟩)) (w.withTags (w.heap.nextTag + 1)) := by
  have hword : Identity.ofFields [("value", .int i.value.toNat)] = .valid i := by
    rw [Identity.ofFields_word i.value.toNat_lt, UInt64.ofNat_toNat]
  have hfields : Entity.ofCall .identity [] [("value", .int i.value.toNat)] = .valid (.identity i) :=
    congrArg (Verdict.map Entity.identity) hword
  have hrun : build .identity [] [("value", .int i.value.toNat)] w =
      (perform (Entity.ofCall .identity [] [("value", .int i.value.toNat)]).toExcept >>=
        placeEntity : Act Item) w := rfl
  rw [hrun, hfields]
  rfl

/-- An issued symbol is built of its two objects. -/
theorem build_issuedSymbol_run (s : Tagged Symbol) (i : Tagged Identity) (w : World) :
    build .issuedSymbol [] [("symbol", .object (.symbol s)), ("contract", .object (.identity i))] w =
      .ok (.object (.issuedSymbol w.heap.nextTag s i)) (w.withTags (w.heap.nextTag + 1)) :=
  rfl

section Parts

variable {a : Int} {t : Tagged Symbol} {i : Tagged Identity}

theorem buildQuantity_run :
    buildQuantity (.int a) (.object (.symbol t)) w =
      (perform (liftAbort (Quantity.assess a t.val)) >>= fun q => do
        let r ← newQuantity ⟨q.amount, t⟩
        return .object (.quantity r) : Act Item) w := by
  rw [← Quantity.check_eq_assess]
  rfl

/-- **A quantity from an amount and a symbol object**, and what is then made of it: the check of the two
decides, and the new quantity has the content that was checked. -/
theorem outcome_buildQuantity_bind {f : Item → Act Item} {R : Quantity → Datum}
    (hf : ∀ (w' : World) (r : Nat),
      (f (.object (.quantity r))).outcome w' = .ok (R (w'.heap.quantity r))) :
    (buildQuantity (.int a) (.object (.symbol t)) >>= f).outcome w =
      (liftAbort (Quantity.assess a t.val)).map R := by
  cases hq : Quantity.assess a t.val with
  | error e =>
    have hrun := buildQuantity_run (w := w) (a := a) (t := t)
    rw [hq] at hrun
    exact outcome_of_error (bind_of_error (hrun.trans (bind_of_error (perform_error _ w))))
  | ok q =>
    obtain ⟨-, rfl⟩ := Quantity.assess_eq_ok_iff.mp hq
    have hrun : buildQuantity (.int a) (.object (.symbol t)) w =
        .ok (.object (.quantity w.heap.quantities.next))
          (w.withHeap (w.heap.withQuantity ⟨a, t⟩ w.heap.nextTag)) := by
      rw [buildQuantity_run, hq]
      rfl
    rw [outcome_bind_of_ok hrun, hf]
    show Except.ok (R ((w.heap.withQuantity ⟨a, t⟩ w.heap.nextTag).quantity w.heap.quantities.next)) = _
    rw [Heap.quantity_withQuantity]
    rfl

theorem outcome_buildQuantity :
    (buildQuantity (.int a) (.object (.symbol t))).outcome w =
      (liftAbort (Quantity.assess a t.val)).map fun q => .object (.quantity q) := by
  rw [← bind_pure (buildQuantity (.int a) (.object (.symbol t)))]
  exact outcome_buildQuantity_bind fun w' r => rfl

/-- A holding of a quantity object has the content of that object. -/
theorem outcome_buildHolding (r : Nat) :
    (buildHolding (.object (.quantity r)) (.object (.identity i))).outcome w =
      .ok (.object (.holding ⟨w.heap.quantity r, i.val⟩)) := by
  have hq : (w.heap.datum (.object (.quantity r))).checkQuantity = .valid (w.heap.quantity r) := rfl
  obtain ⟨t, n, ht, hcopy⟩ := copyQuantity_run hq
  have hrun : buildHolding (.object (.quantity r)) (.object (.identity i)) w =
      .ok (.object (.holding w.heap.holdings.next))
        (w.withHeap (w.heap.withHolding ⟨(w.heap.quantity r).amount, t⟩ i n)) := by
    have hparts : buildHolding (.object (.quantity r)) (.object (.identity i)) w =
        (copyQuantity (.object (.quantity r)) (w.heap.quantity r) >>= fun q => do
          let h ← newHolding ⟨q, i⟩
          return .object (.holding h) : Act Item) w := rfl
    rw [hparts, bind_of_ok hcopy]
    rfl
  rw [outcome_of_ok hrun, Heap.datum_object]
  show Except.ok (Value.object (Entity.holding
    ((w.heap.withHolding _ _ _).holding w.heap.holdings.next))) = _
  rw [Heap.holding_withHolding]
  unfold QuantityCell.value
  rw [ht]

end Parts

/-! ## 3. The gateways -/

/-- The ways to a quantity: to build it of an amount and a symbol, to read its record, and to read its
bytes. -/
def quantityGateways (a : Int) (c : String) (p : UInt8) : List (Act Item) := [
  Term.eval (.quantity (.plain (.int a)) (.plain (.text c)) (.plain (.int p.toNat))),
  make (.ofRecord .quantity) [.dict [("amount", .int a),
    ("symbol", .dict [("code", .text c), ("precision", .int p.toNat)])]],
  make (.unpack .quantity) [.bytes (amountBytes a ++ Symbol.padded ⟨c, p⟩)]]

/-- The ways to a holding: to build it of a quantity and an owner, or of an amount and an issued symbol, to
read its record, and to read its bytes. -/
def holdingGateways (a : Int) (c : String) (p : UInt8) (n : UInt64) : List (Act Item) := [
  Term.eval (.holding (.plain (.int a)) (.plain (.text c)) (.plain (.int p.toNat))
    (.plain (.int n.toNat))),
  (do
    let s ← Term.eval (.symbol (.plain (.text c)) (.plain (.int p.toNat)))
    let i ← Term.eval (.identity (.plain (.int n.toNat)))
    let issued ← build .issuedSymbol [] [("symbol", s), ("contract", i)]
    make .holdingOfIssued [.int a, issued]),
  make (.ofRecord .holding) [.dict [
    ("quantity", .dict [("amount", .int a),
      ("symbol", .dict [("code", .text c), ("precision", .int p.toNat)])]),
    ("owner", .dict [("value", .int n.toNat)])]],
  make (.unpack .holding) [.bytes (amountBytes a ++ Symbol.padded ⟨c, p⟩ ++ digits 8 n.toNat)]]

section Ways

variable {a : Int} {c : String} {p : UInt8} {n : UInt64}

theorem outcome_eval_quantity :
    (Term.eval (.quantity (.plain (.int a)) (.plain (.text c)) (.plain (.int p.toNat)))).outcome w =
      (liftAbort (Quantity.assess a ⟨c, p⟩)).map fun q => .object (.quantity q) := by
  have hparts : Term.eval (.quantity (.plain (.int a)) (.plain (.text c)) (.plain (.int p.toNat))) =
      (build .symbol [] [("code", .text c), ("precision", .int p.toNat)] >>= fun s =>
        build .quantity [.int a, s] [] : Act Item) := by
    simp only [Term.eval]
    rfl
  rw [hparts, outcome_bind_of_ok (build_symbol_run ⟨c, p⟩ w)]
  exact outcome_buildQuantity

theorem outcome_eval_holding :
    (Term.eval (.holding (.plain (.int a)) (.plain (.text c)) (.plain (.int p.toNat))
      (.plain (.int n.toNat)))).outcome w =
      (liftAbort (Quantity.assess a ⟨c, p⟩)).map fun q => .object (.holding ⟨q, ⟨n⟩⟩) := by
  have hparts : Term.eval (.holding (.plain (.int a)) (.plain (.text c)) (.plain (.int p.toNat))
      (.plain (.int n.toNat))) =
      (build .symbol [] [("code", .text c), ("precision", .int p.toNat)] >>= fun s => do
        let q ← build .quantity [.int a, s] []
        let i ← build .identity [] [("value", .int n.toNat)]
        build .holding [q, i] [] : Act Item) := by
    simp only [Term.eval]
    rfl
  rw [hparts, outcome_bind_of_ok (build_symbol_run ⟨c, p⟩ w)]
  refine outcome_buildQuantity_bind (R := fun q => .object (.holding ⟨q, ⟨n⟩⟩)) fun w' r => ?_
  rw [outcome_bind_of_ok (build_identity_run ⟨n⟩ w')]
  exact outcome_buildHolding r

theorem outcome_holdingOfIssued :
    (do
      let s ← Term.eval (.symbol (.plain (.text c)) (.plain (.int p.toNat)))
      let i ← Term.eval (.identity (.plain (.int n.toNat)))
      let issued ← build .issuedSymbol [] [("symbol", s), ("contract", i)]
      make .holdingOfIssued [.int a, issued] : Act Item).outcome w =
      (liftAbort (Quantity.assess a ⟨c, p⟩)).map fun q => .object (.holding ⟨q, ⟨n⟩⟩) := by
  have hsymbol : Term.eval (.symbol (.plain (.text c)) (.plain (.int p.toNat))) =
      build .symbol [] [("code", .text c), ("precision", .int p.toNat)] := by
    simp only [Term.eval]
    rfl
  have hidentity : Term.eval (.identity (.plain (.int n.toNat))) =
      build .identity [] [("value", .int n.toNat)] := by
    simp only [Term.eval]
    rfl
  rw [hsymbol, hidentity, outcome_bind_of_ok (build_symbol_run ⟨c, p⟩ w),
    outcome_bind_of_ok (build_identity_run ⟨n⟩ _), outcome_bind_of_ok (build_issuedSymbol_run _ _ _)]
  exact outcome_buildQuantity_bind fun w' r => outcome_buildHolding r

end Ways

/-- **All gateways admit the same values with the same errors.**  Where an amount is a signed word and a code
can be carried by every form, any precision of one byte and any owner, every way to a quantity and every
way to a holding has the same outcome in every world: the amount must be in range, then the symbol must be
valid, and otherwise that check is the failure. -/
theorem gateways_agree {a : Int} {c : String} (ha : -2 ^ 63 ≤ a ∧ a ≤ 2 ^ 63 - 1)
    (hc : Symbol.Portable c) (p : UInt8) (n : UInt64) (w : World) :
    (∀ x ∈ quantityGateways a c p, x.outcome w =
      (liftAbort (Quantity.assess a ⟨c, p⟩)).map fun q => .object (.quantity q)) ∧
    ∀ x ∈ holdingGateways a c p n, x.outcome w =
      (liftAbort (Quantity.assess a ⟨c, p⟩)).map fun q => .object (.holding ⟨q, ⟨n⟩⟩) := by
  have hword : Amount.isWord a = true := Amount.isWord_iff.mpr ha
  constructor
  · have hrecord := Quantity.ofValue_of_sameData (q := ⟨a, ⟨c, p⟩⟩) (.refl _) hc.short
    simp only [quantityGateways, List.forall_mem_cons, List.not_mem_nil, false_implies, implies_true,
      and_true]
    refine ⟨outcome_eval_quantity, ?_, ?_⟩
    · rw [outcome_ofRecord_quantity]
      exact congrArg (Except.map _) hrecord
    · rw [outcome_unpack_quantity, Quantity.unpack_bytes (s := ⟨c, p⟩) hword hc]
  · have hrecord := Holding.ofValue_of_sameData (k := ⟨⟨a, ⟨c, p⟩⟩, ⟨n⟩⟩) (.refl _) hc.short
    simp only [holdingGateways, List.forall_mem_cons, List.not_mem_nil, false_implies, implies_true,
      and_true]
    refine ⟨outcome_eval_holding, outcome_holdingOfIssued, ?_, ?_⟩
    · rw [outcome_ofRecord_holding]
      refine (congrArg (Except.map _) hrecord).trans ?_
      cases Quantity.assess a ⟨c, p⟩ <;> rfl
    · rw [outcome_unpack_holding, Holding.unpack_bytes (s := ⟨c, p⟩) hword hc ⟨n⟩]
      cases Quantity.assess a ⟨c, p⟩ <;> rfl

/-- Seven units of a valid symbol are admitted by every gateway, and an amount out of range is refused by
every one, whatever the symbol. -/
theorem gateways_agree_at_seven :
    (∀ x ∈ holdingGateways 7 "SYS" 4 9, x.outcome World.initial =
      .ok (.object (.holding ⟨⟨7, ⟨"SYS", 4⟩⟩, ⟨9⟩⟩))) ∧
    ∀ x ∈ quantityGateways (2 ^ 62) "sys" 4, x.outcome World.initial =
      .error (.aborted .outOfRange) :=
  ⟨(gateways_agree (by decide) ⟨by decide, by simp⟩ 4 9 World.initial).2,
    (gateways_agree (by decide) ⟨by decide, by simp⟩ 4 9 World.initial).1⟩

end Ledger

end Holdings
