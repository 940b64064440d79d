/-
# What the checks let through

Every quantity that comes into being has passed the check of `Entity/Fields.lean` or was copied from
one that had: its amount is in range, and its symbol is valid or null.  This module follows that
condition, `Entity.Admissible`, through everything that makes entities of data: fields, records and
bytes.  A datum may already hold entities; those are passed on as they are, so the lemmas ask that they
are admissible (`Datum.Admissible`), and nothing else of the data.

The last section says the same of arithmetic: a result is in range and keeps the symbol.
-/
import Holdings.Proofs.Entries
import Holdings.Proofs.Objects
import Holdings.Quantity.Arithmetic
import Holdings.Entity.Records
import Holdings.Wire.Codec
import Holdings.Holding.Arithmetic

namespace Holdings

/-! ## 1. Admissible entities and data -/

/-- The quantities in an entity are admissible. -/
def Entity.Admissible : Entity → Prop
  | .quantity q => q.Admissible
  | .holding h => h.quantity.Admissible
  | _ => True

/-- The quantities of the entities in a datum are admissible. -/
def Datum.Admissible (v : Datum) : Prop := ∀ e ∈ v.objects, e.Admissible

/-- The quantities of the entities in named values are admissible. -/
def Fields.Admissible (fields : Fields) : Prop :=
  ∀ e ∈ Value.objectsOfEntries fields, e.Admissible

/-- A value found by name in admissible fields is admissible. -/
theorem Fields.Admissible.lookup {fields : Fields} (h : fields.Admissible) {name : String}
    {v : Datum} (hv : List.lookup name fields = some v) : v.Admissible :=
  fun e he => h e (Value.objects_subset_of_lookup hv he)

/-- An entity alone is admissible as a datum when it is as an entity. -/
theorem Entity.Admissible.datum {e : Entity} (h : e.Admissible) :
    Datum.Admissible (.object e) := by
  intro e' he
  rw [Value.objects_object, List.mem_singleton] at he
  rw [he]
  exact h

/-- A dictionary is admissible as its entries are. -/
theorem Datum.Admissible.dict {fields : Fields} (h : Datum.Admissible (.dict fields)) :
    fields.Admissible := by
  intro e he
  exact h e (by simpa using he)

/-! ## 2. Quantities -/

theorem Quantity.admissible_of_isValid {q : Quantity} (h : q.isValid = true) :
    q.Admissible ∧ q.symbol.isValid = true := by
  obtain ⟨hr, hs⟩ := Bool.and_eq_true_iff.mp h
  exact ⟨⟨hr, Or.inl hs⟩, hs⟩

theorem Datum.inRange_of_checkAmount {v : Datum} {a : Int} (h : v.checkAmount = .valid a) :
    Amount.inRange a = true := by
  unfold Datum.checkAmount at h
  split at h
  · rw [Verdict.ofAbort_eq_valid_iff, Amount.check_eq] at h
    split at h
    · rename_i hr
      cases h
      exact hr
    · cases h
  · cases h

/-- **What the check of a quantity lets through.**  The amount is in range and the symbol valid; null
symbols do not pass, they only ever come with an entity. -/
theorem Quantity.of_check {amount symbol : Datum} {q : Quantity}
    (h : Quantity.check amount symbol = .valid q) :
    Amount.inRange q.amount = true ∧ q.symbol.isValid = true ∧
      symbol.checkSymbol = .valid q.symbol := by
  unfold Quantity.check at h
  obtain ⟨⟨a, s⟩, hp, rfl⟩ := Verdict.map_eq_valid_iff.mp h
  rw [Verdict.both_eq_valid_iff, Verdict.under_eq_valid_iff, Verdict.under_eq_valid_iff] at hp
  obtain ⟨ha, hs⟩ := hp
  refine ⟨Datum.inRange_of_checkAmount ha, ?_⟩
  unfold Datum.checkValidSymbol at hs
  obtain ⟨t, ht, hv⟩ := Verdict.bind_eq_valid_iff.mp hs
  rw [Verdict.ofAbort_eq_valid_iff] at hv
  obtain ⟨u, hu, rfl⟩ := Except.map_eq_ok_iff.mp hv
  exact ⟨Abort.require_eq_ok_iff.mp hu, ht⟩

theorem Quantity.admissible_of_check {amount symbol : Datum} {q : Quantity}
    (h : Quantity.check amount symbol = .valid q) : q.Admissible :=
  ⟨(Quantity.of_check h).1, Or.inl (Quantity.of_check h).2.1⟩

/-- Two values that were bound stand among the arguments or under their names. -/
theorem Fields.of_bindTwo {α : Type} {first second : String} {args : List α}
    {named : List (String × α)} {a b : α} (h : Fields.bindTwo first second args named = .ok (a, b)) :
    (a ∈ args ∨ named.lookup first = some a) ∧ (b ∈ args ∨ named.lookup second = some b) := by
  unfold Fields.bindTwo at h
  split at h
  · cases h
  · split at h <;> cases h <;> simp_all

theorem Quantity.admissible_of_ofCall {args : List Datum} {named : Fields} {q : Quantity}
    (h : Quantity.ofCall args named = .valid q) : q.Admissible := by
  unfold Quantity.ofCall at h
  split at h
  · exact Quantity.admissible_of_check h
  · cases h

/-- A quantity that is given as an entity is taken as it is; any other has been checked. -/
theorem Quantity.admissible_of_checkQuantity {v : Datum} {q : Quantity} (hv : v.Admissible)
    (h : v.checkQuantity = .valid q) : q.Admissible := by
  unfold Datum.checkQuantity at h
  split at h
  · cases h
    exact hv (.quantity q) (by simp)
  · exact Quantity.admissible_of_ofCall h
  · cases h

/-! ## 3. Holdings and other entities -/

theorem Holding.admissible_of_check {quantity owner : Datum} {k : Holding}
    (hq : quantity.Admissible) (h : Holding.check quantity owner = .valid k) :
    quantity.checkQuantity = .valid k.quantity ∧ owner.checkIdentity = .valid k.owner ∧
      k.quantity.Admissible := by
  unfold Holding.check at h
  obtain ⟨⟨q, i⟩, hp, rfl⟩ := Verdict.map_eq_valid_iff.mp h
  rw [Verdict.both_eq_valid_iff, Verdict.under_eq_valid_iff, Verdict.under_eq_valid_iff] at hp
  exact ⟨hp.1, hp.2, Quantity.admissible_of_checkQuantity hq hp.1⟩

theorem Holding.admissible_of_ofCall {args : List Datum} {named : Fields} {k : Holding}
    (ha : ∀ v ∈ args, v.Admissible) (hn : named.Admissible)
    (h : Holding.ofCall args named = .valid k) : k.quantity.Admissible := by
  unfold Holding.ofCall at h
  split at h
  · rename_i quantity owner hb
    have hq : quantity.Admissible := by
      rcases (Fields.of_bindTwo hb).1 with hm | hl
      · exact ha quantity hm
      · exact hn.lookup hl
    exact (Holding.admissible_of_check hq h).2.2
  · cases h

/-- A datum without entities is admissible. -/
theorem Datum.admissible_of_isLeaf {v : Datum} (h : v.objects = []) : v.Admissible := by
  intro e he
  rw [h] at he
  cases he

/-- **Entities are built of admissible data only as admissible ones.** -/
theorem Entity.admissible_of_ofCall {kind : EntityKind} {args : List Datum} {named : Fields}
    {e : Entity} (ha : ∀ v ∈ args, v.Admissible) (hn : named.Admissible)
    (h : Entity.ofCall kind args named = .valid e) : e.Admissible := by
  unfold Entity.ofCall at h
  split at h
  · obtain ⟨s, -, rfl⟩ := Verdict.map_eq_valid_iff.mp h
    trivial
  · obtain ⟨i, -, rfl⟩ := Verdict.map_eq_valid_iff.mp h
    trivial
  · obtain ⟨s, -, rfl⟩ := Verdict.map_eq_valid_iff.mp h
    trivial
  · obtain ⟨q, hq, rfl⟩ := Verdict.map_eq_valid_iff.mp h
    exact Quantity.admissible_of_ofCall hq
  · obtain ⟨k, hk, rfl⟩ := Verdict.map_eq_valid_iff.mp h
    exact Holding.admissible_of_ofCall ha hn hk
  · cases h

/-! ## 4. Records -/

@[simp] theorem Quantity.objects_toValue {ω : Type} (q : Quantity) :
    (q.toValue : Value ω).objects = [] := by
  simp [Quantity.toValue, Symbol.toValue]

@[simp] theorem Holding.objects_toValue {ω : Type} (k : Holding) :
    (k.toValue : Value ω).objects = [] := by
  simp [Holding.toValue, Identity.toValue]

theorem Quantity.admissible_of_ofValue {v : Datum} {q : Quantity} (hv : v.Admissible)
    (h : Quantity.ofValue v = .ok q) : q.Admissible := by
  unfold Quantity.ofValue at h
  obtain ⟨u, -, hq⟩ := Except.bind_eq_ok_iff.mp h
  exact Quantity.admissible_of_checkQuantity hv (Verdict.toExcept_eq_ok_iff.mp hq)

theorem Holding.admissible_of_ofValue {v : Datum} {k : Holding} (hv : v.Admissible)
    (h : Holding.ofValue v = .ok k) : k.quantity.Admissible := by
  unfold Holding.ofValue at h
  obtain ⟨u, -, hk⟩ := Except.bind_eq_ok_iff.mp h
  rw [Verdict.toExcept_eq_ok_iff] at hk
  unfold Datum.checkHolding at hk
  split at hk
  · cases hk
    exact hv (.holding k) (by simp)
  · exact Holding.admissible_of_ofCall (by simp) hv.dict hk
  · cases hk

/-! ## 5. Bytes

A codec reads leaves that hold no quantity, and records that are built of what was read before.  The
induction is on the tree of codecs; the fields collected so far are the invariant. -/

/-- A value put into admissible fields leaves them admissible. -/
theorem Fields.Admissible.putEntry {fields : Fields} (h : fields.Admissible) {v : Datum}
    (hv : v.Admissible) (name : String) : Fields.Admissible (Value.putEntry name v fields) := by
  intro e he
  obtain ⟨p, hp, he⟩ := Value.mem_objectsOfEntries.mp he
  rcases Value.mem_putEntry hp with rfl | hp
  · exact hv e he
  · exact h e (Value.mem_objectsOfEntries.mpr ⟨p, hp, he⟩)

mutual

/-- **What a codec reads is admissible**, from any bytes and at any offset. -/
theorem Wire.Codec.admissible_of_decode :
    ∀ (c : Wire.Codec) {data : Wire.Bytes} {offset next : Int} {v : Datum},
      c.decode data offset = .ok (v, next) → v.Admissible
  | .word f, data, offset, next, v, h => by
    rw [Wire.Codec.decode] at h
    obtain ⟨p, -, hp⟩ := Except.map_eq_ok_iff.mp h
    cases hp
    intro e he
    simp at he
  | .symbol, data, offset, next, v, h => by
    rw [Wire.Codec.decode] at h
    obtain ⟨p, -, hp⟩ := Except.map_eq_ok_iff.mp h
    cases hp
    exact Entity.Admissible.datum trivial
  | .identity, data, offset, next, v, h => by
    rw [Wire.Codec.decode] at h
    obtain ⟨p, -, hp⟩ := Except.map_eq_ok_iff.mp h
    cases hp
    exact Entity.Admissible.datum trivial
  | .record kind fields, data, offset, next, v, h => by
    rw [Wire.Codec.decode] at h
    obtain ⟨⟨values, n⟩, hf, h⟩ := Except.bind_eq_ok_iff.mp h
    obtain ⟨e, he, h⟩ := Except.bind_eq_ok_iff.mp h
    cases h
    have hv : values.Admissible :=
      Wire.Codec.admissible_of_decodeFields fields (fun e he => by simp at he) hf
    exact (Entity.admissible_of_ofCall (by simp) hv (Verdict.toExcept_eq_ok_iff.mp he)).datum

/-- What codecs read one after the other is admissible with what was there before. -/
theorem Wire.Codec.admissible_of_decodeFields :
    ∀ (fields : List (String × Wire.Codec)) {values result : Fields} {data : Wire.Bytes}
      {offset next : Int}, values.Admissible →
      Wire.Codec.decodeFields fields values data offset = .ok (result, next) → result.Admissible
  | [], values, result, data, offset, next, hv, h => by
    rw [Wire.Codec.decodeFields] at h
    cases h
    exact hv
  | (name, codec) :: rest, values, result, data, offset, next, hv, h => by
    rw [Wire.Codec.decodeFields] at h
    obtain ⟨⟨v, n⟩, hc, h⟩ := Except.bind_eq_ok_iff.mp h
    exact Wire.Codec.admissible_of_decodeFields rest
      (hv.putEntry (Wire.Codec.admissible_of_decode codec hc) name) h

end

theorem Wire.admissible_of_decodeEntity {kind : EntityKind} {fields : List (String × Wire.Codec)}
    {data : Wire.Bytes} {e : Entity} {size : Int}
    (h : Wire.decodeEntity kind fields data = .ok (e, size)) : e.Admissible := by
  unfold Wire.decodeEntity at h
  obtain ⟨⟨values, next⟩, hf, h⟩ := Except.bind_eq_ok_iff.mp h
  obtain ⟨e', he, h⟩ := Except.bind_eq_ok_iff.mp h
  obtain ⟨u, -, h⟩ := Except.bind_eq_ok_iff.mp h
  cases h
  have hv : values.Admissible :=
    Wire.Codec.admissible_of_decodeFields fields (fun e he => by simp at he) hf
  exact Entity.admissible_of_ofCall (by simp) hv (Verdict.toExcept_eq_ok_iff.mp he)

/-! ## 6. Arithmetic

Whatever an operation computes, its last act is to put the result into the quantity, and that checks
the range once more (`Quantity.withAmount`).  So one fact about that act covers them all. -/

/-- `s` is `q` with an amount that is in range. -/
def Quantity.Revalued (q s : Quantity) : Prop :=
  s.symbol = q.symbol ∧ Amount.inRange s.amount = true

theorem Quantity.revalued_of_withAmount {q s : Quantity} {a : Int} (h : q.withAmount a = .ok s) :
    q.Revalued s := by
  rw [Quantity.withAmount_eq] at h
  split at h
  · rename_i hr
    cases h
    exact ⟨rfl, hr⟩
  · cases h

theorem Quantity.revalued_of_add {q r s : Quantity} (h : q.add r = .ok s) : q.Revalued s := by
  unfold Quantity.add at h
  obtain ⟨_, -, h⟩ := Except.bind_eq_ok_iff.mp h
  obtain ⟨a, -, h⟩ := Except.bind_eq_ok_iff.mp h
  exact Quantity.revalued_of_withAmount h

theorem Quantity.revalued_of_sub {q r s : Quantity} (h : q.sub r = .ok s) : q.Revalued s := by
  unfold Quantity.sub at h
  obtain ⟨_, -, h⟩ := Except.bind_eq_ok_iff.mp h
  obtain ⟨a, -, h⟩ := Except.bind_eq_ok_iff.mp h
  exact Quantity.revalued_of_withAmount h

theorem Quantity.revalued_of_mul {q s : Quantity} {k : Int} (h : q.mul k = .ok s) :
    q.Revalued s := by
  unfold Quantity.mul at h
  obtain ⟨_, -, h⟩ := Except.bind_eq_ok_iff.mp h
  rw [liftAbort_eq_ok_iff] at h
  obtain ⟨a, -, h⟩ := Except.bind_eq_ok_iff.mp h
  exact Quantity.revalued_of_withAmount h

theorem Quantity.revalued_of_div {q s : Quantity} {k : Int} (h : q.div k = .ok s) :
    q.Revalued s := by
  unfold Quantity.div at h
  obtain ⟨_, -, h⟩ := Except.bind_eq_ok_iff.mp h
  rw [liftAbort_eq_ok_iff] at h
  obtain ⟨a, -, h⟩ := Except.bind_eq_ok_iff.mp h
  exact Quantity.revalued_of_withAmount h

theorem Holding.revalued_of_add {h k m : Holding} (hm : h.add k = .ok m) :
    h.quantity.Revalued m.quantity := by
  unfold Holding.add at hm
  obtain ⟨_, -, hm⟩ := Except.bind_eq_ok_iff.mp hm
  obtain ⟨q, hq, hm⟩ := Except.bind_eq_ok_iff.mp hm
  cases hm
  exact Quantity.revalued_of_add hq

theorem Holding.revalued_of_sub {h k m : Holding} (hm : h.sub k = .ok m) :
    h.quantity.Revalued m.quantity := by
  unfold Holding.sub at hm
  obtain ⟨_, -, hm⟩ := Except.bind_eq_ok_iff.mp hm
  obtain ⟨q, hq, hm⟩ := Except.bind_eq_ok_iff.mp hm
  cases hm
  exact Quantity.revalued_of_sub hq

theorem Holding.revalued_of_neg {h m : Holding} (hm : h.neg = .ok m) :
    h.quantity.Revalued m.quantity := by
  unfold Holding.neg at hm
  obtain ⟨q, hq, rfl⟩ := Except.map_eq_ok_iff.mp hm
  exact Quantity.revalued_of_withAmount hq

end Holdings
