/-
# Data that keeps to its contract

A value has no violation of a contract exactly when it is a record of the fields of the contract, and each
field has none of its own (`Schema.record_violations_eq_nil_iff`).  For the contracts of quantities and
holdings this comes down to the leaves: an amount, a code and a precision, and the word of the owner
(`Quantity.HasLeaves`, `Holding.HasLeaves`).  A leaf for a number is an integer or a float without a
fractional part; bounds hold of both.

What is written for a quantity or a holding has leaves too, all of its numbers integers, and it is the only
data with these leaves up to the order of entries (`Quantity.sameData_toValue_iff`).
-/
import Holdings.Proofs.Record.Data
import Holdings.Entity.Records

namespace Holdings

/-! ## 1. Contracts -/

namespace Contract

variable {v : Datum}

theorem Schema.text_violations_eq_nil_iff {n : Nat} :
    (Schema.text n).violations v = [] ↔ ∃ s, v = .text s ∧ s.toList.length ≤ n := by
  cases v <;> simp [Schema.violations]

theorem Schema.integer_violations_eq_nil_iff {lowest highest : Option Int} :
    (Schema.integer lowest highest).violations v = [] ↔
      isInteger v = true ∧ lowViolations v lowest = [] ∧ highViolations v highest = [] := by
  cases hi : isInteger v <;> simp [Schema.violations, hi]

/-- An integer keeps to its bounds. -/
theorem Schema.integer_violations_int {low high n : Int} :
    (Schema.integer (some low) (some high)).violations (.int n) = [] ↔ low ≤ n ∧ n ≤ high := by
  rw [integer_violations_eq_nil_iff]
  simp [isInteger, lowViolations, highViolations, isBelow, isAbove]

/-- A number without bounds is any integer or whole float. -/
theorem Schema.unbounded_violations_eq_nil_iff :
    (Schema.integer none none).violations v = [] ↔ isInteger v = true := by
  rw [integer_violations_eq_nil_iff]
  simp [lowViolations, highViolations]

theorem missingViolations_eq_nil_iff {names : List String} {entries : Fields} :
    missingViolations names entries = [] ↔ ∀ n ∈ names, ∃ x, List.lookup n entries = some x := by
  unfold missingViolations
  rw [List.map_eq_nil_iff, List.filter_eq_nil_iff]
  refine forall₂_congr fun n _ => ?_
  cases List.lookup n entries <;> simp

theorem foreignViolations_eq_nil_iff {names : List String} {entries : Fields} :
    foreignViolations names entries = [] ↔ ∀ k, (List.lookup k entries).isSome = true → k ∈ names := by
  have hall : foreignViolations names entries = [] ↔
      ((entries.map Prod.fst).filter fun k => !names.contains k) = [] := by
    unfold foreignViolations
    split <;> rename_i hk
    · exact iff_of_true rfl hk
    · exact iff_of_false (List.cons_ne_nil _ _) (hk ▸ List.cons_ne_nil _ _)
  rw [hall, List.filter_eq_nil_iff]
  constructor
  · intro h k hk
    simpa using h k (Value.isSome_lookup_iff.mp hk)
  · intro h k hk
    simpa using h k (Value.isSome_lookup_iff.mpr hk)

theorem Schema.fieldViolations_eq_nil_iff {forms : List (String × Schema)} {entries : Fields} :
    Schema.fieldViolations forms entries = [] ↔
      ∀ f ∈ forms, ∀ x, List.lookup f.1 entries = some x → f.2.violations x = [] := by
  induction forms with
  | nil => simp [Schema.fieldViolations]
  | cons f forms ih =>
    obtain ⟨name, form⟩ := f
    rw [Schema.fieldViolations, List.append_eq_nil_iff, ih, List.forall_mem_cons]
    refine and_congr_left fun _ => ?_
    cases List.lookup name entries <;> simp

/-- **A record without a violation** is a record of fields without a violation. -/
theorem Schema.record_violations_eq_nil_iff {forms : List (String × Schema)} :
    (Schema.record forms).violations v = [] ↔
      v.IsRecord (forms.map fun f => (f.1, fun x => f.2.violations x = [])) := by
  cases v with
  | dict entries =>
    rw [Schema.violations, List.append_eq_nil_iff, List.append_eq_nil_iff, missingViolations_eq_nil_iff,
      foreignViolations_eq_nil_iff, fieldViolations_eq_nil_iff]
    constructor
    · rintro ⟨⟨hbound, honly⟩, hfields⟩
      refine ⟨entries, rfl, ?_, by simpa [Function.comp_def] using honly⟩
      intro g hg
      obtain ⟨f, hf, rfl⟩ := List.mem_map.mp hg
      obtain ⟨x, hx⟩ := hbound f.1 (List.mem_map_of_mem hf)
      exact ⟨x, hx, hfields f hf x hx⟩
    · rintro ⟨es, hes, hf, honly⟩
      cases hes
      have hfound : ∀ f ∈ forms, ∃ x, List.lookup f.1 entries = some x ∧ f.2.violations x = [] :=
        fun f hm => hf _ (List.mem_map_of_mem hm)
      refine ⟨⟨?_, by simpa [Function.comp_def] using honly⟩, ?_⟩
      · intro n hn
        obtain ⟨f, hm, rfl⟩ := List.mem_map.mp hn
        obtain ⟨x, hx, -⟩ := hfound f hm
        exact ⟨x, hx⟩
      · intro f hm x hx
        obtain ⟨y, hy, hv⟩ := hfound f hm
        rw [hx, Option.some.injEq] at hy
        exact hy ▸ hv
  | _ =>
    refine iff_of_false (by simp [Schema.violations]) ?_
    rintro ⟨es, h, -⟩
    cases h

end Contract

/-! ## 2. Leaves -/

open Contract

/-- A record of a code and a precision. -/
def Symbol.HasLeaves (v : Datum) (code : String) (precision : Datum) : Prop :=
  v.IsRecord [("code", (· = .text code)), ("precision", (· = precision))]

/-- A record of an amount and a symbol. -/
def Quantity.HasLeaves (v amount : Datum) (code : String) (precision : Datum) : Prop :=
  v.IsRecord [("amount", (· = amount)), ("symbol", (Symbol.HasLeaves · code precision))]

/-- A record of a word. -/
def Identity.HasLeaf (v word : Datum) : Prop := v.IsRecord [("value", (· = word))]

/-- A record of a quantity and an owner. -/
def Holding.HasLeaves (v amount : Datum) (code : String) (precision word : Datum) : Prop :=
  v.IsRecord [("quantity", (Quantity.HasLeaves · amount code precision)),
    ("owner", (Identity.HasLeaf · word))]

/-- A datum has one choice of leaves. -/
theorem Symbol.HasLeaves.unique {v p p' : Datum} {c c' : String} (h : Symbol.HasLeaves v c p)
    (h' : Symbol.HasLeaves v c' p') : c = c' ∧ p = p' := by
  obtain ⟨x, hx, hx'⟩ := h.common h' (.head _) (.head _)
  obtain ⟨y, hy, hy'⟩ := h.common h' (.tail _ (.head _)) (.tail _ (.head _))
  exact ⟨Value.text.inj (hx.symm.trans hx'), hy.symm.trans hy'⟩

theorem Quantity.HasLeaves.unique {v a a' p p' : Datum} {c c' : String}
    (h : Quantity.HasLeaves v a c p) (h' : Quantity.HasLeaves v a' c' p') :
    a = a' ∧ c = c' ∧ p = p' := by
  obtain ⟨x, hx, hx'⟩ := h.common h' (.head _) (.head _)
  obtain ⟨s, hs, hs'⟩ := h.common h' (.tail _ (.head _)) (.tail _ (.head _))
  exact ⟨hx.symm.trans hx', hs.unique hs'⟩

theorem Holding.HasLeaves.unique {v a a' p p' o o' : Datum} {c c' : String}
    (h : Holding.HasLeaves v a c p o) (h' : Holding.HasLeaves v a' c' p' o') :
    (a = a' ∧ c = c' ∧ p = p') ∧ o = o' := by
  obtain ⟨q, hq, hq'⟩ := h.common h' (.head _) (.head _)
  obtain ⟨i, hi, hi'⟩ := h.common h' (.tail _ (.head _)) (.tail _ (.head _))
  obtain ⟨x, hx, hx'⟩ := hi.common hi' (.head _) (.head _)
  exact ⟨hq.unique hq', hx.symm.trans hx'⟩

/-- The contract for the precision of a symbol. -/
def Contract.precisionForm : Schema := .integer (some 0) (some 255)

/-- The contract for the word of an owner. -/
def Contract.wordForm : Schema := .integer (some 0) (some 18446744073709551615)

/-- Leaves that keep to the contract of a quantity. -/
structure Quantity.FittingLeaves (amount : Datum) (code : String) (precision : Datum) : Prop where
  amount : isInteger amount = true
  code : code.toList.length ≤ 7
  precision : precisionForm.violations precision = []

theorem Contract.symbol_conforms_iff {v : Datum} :
    symbolForm.violations v = [] ↔ ∃ c p, Symbol.HasLeaves v c p ∧ c.toList.length ≤ 7 ∧
      precisionForm.violations p = [] := by
  unfold symbolForm
  rw [Schema.record_violations_eq_nil_iff]
  refine Iff.trans Datum.isRecord_two ?_
  constructor
  · rintro ⟨x, p, hx, hp, h⟩
    obtain ⟨c, rfl, hc⟩ := Schema.text_violations_eq_nil_iff.mp hx
    exact ⟨c, p, h, hc, hp⟩
  · rintro ⟨c, p, h, hc, hp⟩
    exact ⟨.text c, p, Schema.text_violations_eq_nil_iff.mpr ⟨c, rfl, hc⟩, hp, h⟩

/-- **The contract for quantities is about the leaves.** -/
theorem Contract.quantity_conforms_iff {v : Datum} :
    quantityForm.violations v = [] ↔
      ∃ a c p, Quantity.HasLeaves v a c p ∧ Quantity.FittingLeaves a c p := by
  unfold quantityForm
  rw [Schema.record_violations_eq_nil_iff]
  refine Iff.trans Datum.isRecord_two ?_
  constructor
  · rintro ⟨a, s, ha, hs, h⟩
    obtain ⟨c, p, hcp, hc, hp⟩ := symbol_conforms_iff.mp hs
    refine ⟨a, c, p, ?_, Schema.unbounded_violations_eq_nil_iff.mp ha, hc, hp⟩
    exact Datum.isRecord_two.mpr ⟨a, s, rfl, hcp, h⟩
  · rintro ⟨a, c, p, h, hf⟩
    obtain ⟨a', s, rfl, hcp, h⟩ := Datum.isRecord_two.mp h
    exact ⟨a', s, Schema.unbounded_violations_eq_nil_iff.mpr hf.amount,
      symbol_conforms_iff.mpr ⟨c, p, hcp, hf.code, hf.precision⟩, h⟩

/-- **The contract for holdings is about the leaves.** -/
theorem Contract.holding_conforms_iff {v : Datum} :
    holdingForm.violations v = [] ↔ ∃ a c p o, Holding.HasLeaves v a c p o ∧
      Quantity.FittingLeaves a c p ∧ wordForm.violations o = [] := by
  have hform : holdingForm =
      .record [("quantity", quantityForm), ("owner", .record [("value", wordForm)])] := rfl
  rw [hform, Schema.record_violations_eq_nil_iff]
  refine Iff.trans Datum.isRecord_two ?_
  constructor
  · rintro ⟨q, i, hq, hi, h⟩
    obtain ⟨a, c, p, hl, hf⟩ := quantity_conforms_iff.mp hq
    obtain ⟨o, ho, hi⟩ := Datum.isRecord_one.mp (Schema.record_violations_eq_nil_iff.mp hi)
    exact ⟨a, c, p, o, Datum.isRecord_two.mpr ⟨q, i, hl, hi, h⟩, hf, ho⟩
  · rintro ⟨a, c, p, o, h, hf, ho⟩
    obtain ⟨q, i, hl, hi, h⟩ := Datum.isRecord_two.mp h
    refine ⟨q, i, quantity_conforms_iff.mpr ⟨a, c, p, hl, hf⟩, ?_, h⟩
    exact Schema.record_violations_eq_nil_iff.mpr (Datum.isRecord_one.mpr ⟨o, ho, hi⟩)

/-! ## 3. What is written -/

/-- What is the same data as a written symbol has its leaves. -/
theorem Symbol.sameData_toValue_iff {v : Datum} {s : Symbol} :
    v.SameData s.toValue ↔ Symbol.HasLeaves v s.code (.int s.precision.toNat) := by
  unfold Symbol.toValue Symbol.HasLeaves
  rw [Datum.sameData_dict_iff (by simp)]
  simp

/-- **What is the same data as a written quantity** has its leaves, the numbers as integers. -/
theorem Quantity.sameData_toValue_iff {v : Datum} {q : Quantity} :
    v.SameData q.toValue ↔
      Quantity.HasLeaves v (.int q.amount) q.symbol.code (.int q.symbol.precision.toNat) := by
  unfold Quantity.toValue Quantity.HasLeaves
  rw [Datum.sameData_dict_iff (by simp)]
  simp [Symbol.sameData_toValue_iff]

/-- What is the same data as a written identity has its leaf. -/
theorem Identity.sameData_toValue_iff {v : Datum} {i : Identity} :
    v.SameData i.toValue ↔ Identity.HasLeaf v (.int i.value.toNat) := by
  unfold Identity.toValue Identity.HasLeaf
  rw [Datum.sameData_dict_iff (by simp)]
  simp

/-- **What is the same data as a written holding** has its leaves. -/
theorem Holding.sameData_toValue_iff {v : Datum} {k : Holding} :
    v.SameData k.toValue ↔ Holding.HasLeaves v (.int k.quantity.amount) k.quantity.symbol.code
      (.int k.quantity.symbol.precision.toNat) (.int k.owner.value.toNat) := by
  unfold Holding.toValue Holding.HasLeaves
  rw [Datum.sameData_dict_iff (by simp)]
  simp [Quantity.sameData_toValue_iff, Identity.sameData_toValue_iff]

end Holdings
