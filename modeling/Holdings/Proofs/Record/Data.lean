/-
# Data up to the order of entries

Two dictionaries are the same data when the same keys are bound in them to the same data, in whatever
order; everything else must agree as it is, and an integer is neither a float nor a truth value
(`SameData`).  What is bound is what is found: if a key stood in a dictionary twice, the first entry would
count.

A record is a dictionary of exactly some fields, each with a value of which something is known
(`IsRecord`).  Both what is the same data as a dictionary and what keeps to a contract are records in this
sense, so the two are compared field by field.
-/
import Holdings.Proofs.Entries
import Holdings.Entity

namespace Holdings

/-! ## 1. The same data -/

namespace Value

variable {ω : Type}

/-- The same data, whatever the order of entries. -/
inductive SameData : Value ω → Value ω → Prop
  | refl (v : Value ω) : SameData v v
  | list {xs ys : List (Value ω)} (length : xs.length = ys.length)
      (each : ∀ (i : Nat) (x y : Value ω), xs[i]? = some x → ys[i]? = some y → SameData x y) :
      SameData (.list xs) (.list ys)
  | dict {es fs : List (String × Value ω)}
      (keys : ∀ k, (es.lookup k).isSome = (fs.lookup k).isSome)
      (each : ∀ (k : String) (x y : Value ω),
        es.lookup k = some x → fs.lookup k = some y → SameData x y) :
      SameData (.dict es) (.dict fs)

/-- An integer is the same data as itself only. -/
@[simp] theorem sameData_int {v : Value ω} {n : Int} : SameData v (int n) ↔ v = int n := by
  constructor
  · intro h
    cases h
    rfl
  · rintro rfl
    exact .refl _

/-- A text is the same data as itself only. -/
@[simp] theorem sameData_text {v : Value ω} {s : String} : SameData v (text s) ↔ v = text s := by
  constructor
  · intro h
    cases h
    rfl
  · rintro rfl
    exact .refl _

/-- What is the same data as a dictionary is one, with the same keys. -/
theorem SameData.of_dict {v : Value ω} {fs : List (String × Value ω)} (h : SameData v (Value.dict fs)) :
    ∃ es, v = Value.dict es ∧ (∀ k, (es.lookup k).isSome = (fs.lookup k).isSome) ∧
      ∀ k x y, es.lookup k = some x → fs.lookup k = some y → SameData x y := by
  cases h with
  | refl =>
    refine ⟨fs, rfl, fun _ => rfl, ?_⟩
    intro k x y hx hy
    rw [hx, Option.some.injEq] at hy
    subst hy
    exact .refl x
  | dict keys each => exact ⟨_, rfl, keys, each⟩

end Value

/-! ## 2. Records -/

namespace Datum

/-- A dictionary of exactly these fields, each with a value as described. -/
def IsRecord (v : Datum) (fields : List (String × (Datum → Prop))) : Prop :=
  ∃ es, v = .dict es ∧ (∀ f ∈ fields, ∃ x, List.lookup f.1 es = some x ∧ f.2 x) ∧
    ∀ k, (List.lookup k es).isSome = true → k ∈ fields.map Prod.fst

variable {v : Datum}

/-- The value of the only field of a record. -/
theorem isRecord_one {m : String} {P : Datum → Prop} :
    v.IsRecord [(m, P)] ↔ ∃ x, P x ∧ v.IsRecord [(m, (· = x))] := by
  constructor
  · rintro ⟨es, rfl, hf, honly⟩
    obtain ⟨x, hx, hP⟩ := hf (m, P) (by simp)
    exact ⟨x, hP, es, rfl, by simpa using hx, honly⟩
  · rintro ⟨x, hP, es, rfl, hf, honly⟩
    have hx : List.lookup m es = some x := by simpa using hf
    exact ⟨es, rfl, by simpa using ⟨x, hx, hP⟩, honly⟩

/-- The values of the two fields of a record. -/
theorem isRecord_two {m n : String} {P Q : Datum → Prop} :
    v.IsRecord [(m, P), (n, Q)] ↔ ∃ x y, P x ∧ Q y ∧ v.IsRecord [(m, (· = x)), (n, (· = y))] := by
  constructor
  · rintro ⟨es, rfl, hf, honly⟩
    obtain ⟨x, hx, hP⟩ := hf (m, P) (by simp)
    obtain ⟨y, hy, hQ⟩ := hf (n, Q) (by simp)
    exact ⟨x, y, hP, hQ, es, rfl, by simpa using ⟨hx, hy⟩, honly⟩
  · rintro ⟨x, y, hP, hQ, es, rfl, hf, honly⟩
    have hxy : List.lookup m es = some x ∧ List.lookup n es = some y := by simpa using hf
    exact ⟨es, rfl, by simpa using ⟨⟨x, hxy.1, hP⟩, y, hxy.2, hQ⟩, honly⟩

/-- What two descriptions of a record say of a field holds of one value. -/
theorem IsRecord.common {fs gs : List (String × (Datum → Prop))} (h : v.IsRecord fs)
    (h' : v.IsRecord gs) {m : String} {P Q : Datum → Prop} (hP : (m, P) ∈ fs) (hQ : (m, Q) ∈ gs) :
    ∃ x, P x ∧ Q x := by
  obtain ⟨es, rfl, hf, -⟩ := h
  obtain ⟨es', hes, hf', -⟩ := h'
  cases hes
  obtain ⟨x, hx, hP⟩ := hf _ hP
  obtain ⟨y, hy, hQ⟩ := hf' _ hQ
  rw [hx, Option.some.injEq] at hy
  exact ⟨x, hP, hy ▸ hQ⟩

/-- What is the same data as a dictionary is a record of the same data. -/
theorem sameData_dict_iff {fields : Fields} (hn : (fields.map Prod.fst).Nodup) :
    v.SameData (.dict fields) ↔ v.IsRecord (fields.map fun f => (f.1, (·.SameData f.2))) := by
  have hkeys : ∀ k, (List.lookup k fields).isSome = true ↔ k ∈ fields.map Prod.fst := fun k =>
    Value.isSome_lookup_iff
  have hnames : (fields.map fun f => (f.1, fun x : Datum => x.SameData f.2)).map Prod.fst =
      fields.map Prod.fst := by
    rw [List.map_map]
    rfl
  constructor
  · intro h
    obtain ⟨es, rfl, hsame, heach⟩ := h.of_dict
    refine ⟨es, rfl, ?_, fun k hk => ?_⟩
    · intro g hg
      obtain ⟨f, hf, rfl⟩ := List.mem_map.mp hg
      have hy := Value.lookup_of_mem hn hf
      obtain ⟨x, hx⟩ := Option.isSome_iff_exists.mp ((hsame f.1).trans (by rw [hy]; rfl))
      exact ⟨x, hx, heach f.1 x f.2 hx hy⟩
    · rw [hnames, ← hkeys, ← hsame]
      exact hk
  · rintro ⟨es, rfl, hf, honly⟩
    have hfound : ∀ f ∈ fields, ∃ x, List.lookup f.1 es = some x ∧ x.SameData f.2 := fun f hm =>
      hf _ (List.mem_map_of_mem hm)
    refine .dict (fun k => ?_) fun k x y hx hy => ?_
    · rw [Bool.eq_iff_iff, hkeys]
      constructor
      · intro hk
        exact hnames ▸ honly k hk
      · intro hk
        obtain ⟨f, hm, rfl⟩ := List.mem_map.mp hk
        obtain ⟨x, hx, -⟩ := hfound f hm
        rw [hx]
        rfl
    · obtain ⟨l₁, l₂, rfl, -⟩ := List.lookup_eq_some_iff.mp hy
      obtain ⟨x', hx', hs⟩ := hfound (k, y) (by simp)
      rw [hx', Option.some.injEq] at hx
      exact hx ▸ hs

end Datum

end Holdings
