/-
# Values that a message cannot show

A message shows a value with every integer in it, at whatever depth (`Datum.Holds`).  If one of them is too long
for a numeral, the message cannot be put together, and whoever needs it fails for want of it
(`Datum.HoldsLong`).

A violation tells of such a value only under some of the keywords.  So the same value may break a contract in ways that can be
told and in ways that cannot, and it matters which of them comes first.
-/
import Holdings.Contract.Schema
import Holdings.Proofs.Outcome
import Holdings.Proofs.Text.Numerals

namespace Holdings

open Text (IsLong)

/-! ## 1. Integers in values -/

/-- An integer stands in a value: it is the value, or stands in an element, an entry or an object. -/
inductive Datum.Holds : Datum → Int → Prop
  | int (n : Int) : Holds (.int n) n
  | element {xs : List Datum} {x : Datum} {n : Int} (h : x ∈ xs) (hx : Holds x n) : Holds (.list xs) n
  | entry {es : Fields} {k : String} {x : Datum} {n : Int} (h : (k, x) ∈ es) (hx : Holds x n) :
      Holds (.dict es) n
  | object {e : Entity} {n : Int} (h : n ∈ e.integers) : Holds (.object e) n

/-- A value with an integer that is too long. -/
def Datum.HoldsLong (v : Datum) : Prop := ∃ n, v.Holds n ∧ IsLong n

mutual

/-- The integers that are listed of a value are those that stand in it. -/
theorem Datum.mem_integers_iff : ∀ {v : Datum} {n : Int}, n ∈ v.integers ↔ v.Holds n
  | .int m, n => by
    rw [integers, Value.integers, List.mem_singleton]
    exact ⟨fun h => h ▸ .int m, fun h => by cases h; rfl⟩
  | .list xs, n => by
    rw [integers, Value.integers, Datum.mem_integersOfAll_iff]
    exact ⟨fun ⟨x, hx, hn⟩ => .element hx hn, fun h => by cases h with | element h hx => exact ⟨_, h, hx⟩⟩
  | .dict es, n => by
    rw [integers, Value.integers, Datum.mem_integersOfEntries_iff]
    exact ⟨fun ⟨k, x, hx, hn⟩ => .entry hx hn, fun h => by cases h with | entry h hx => exact ⟨_, _, h, hx⟩⟩
  | .object e, n => by
    rw [integers, Value.integers]
    exact ⟨.object, fun h => by cases h with | object h => exact h⟩
  | .null, n => iff_of_false List.not_mem_nil nofun
  | .bool _, n => iff_of_false List.not_mem_nil nofun
  | .float _, n => iff_of_false List.not_mem_nil nofun
  | .text _, n => iff_of_false List.not_mem_nil nofun
  | .bytes _, n => iff_of_false List.not_mem_nil nofun

theorem Datum.mem_integersOfAll_iff : ∀ {xs : List Datum} {n : Int},
    n ∈ Value.integersOfAll Entity.integers xs ↔ ∃ x ∈ xs, Datum.Holds x n
  | [], n => iff_of_false List.not_mem_nil fun ⟨x, hx, _⟩ => List.not_mem_nil hx
  | x :: xs, n => by
    rw [Value.integersOfAll, List.mem_append, List.exists_mem_cons_iff, ← Datum.mem_integersOfAll_iff,
      ← Datum.mem_integers_iff]
    rfl

theorem Datum.mem_integersOfEntries_iff : ∀ {es : Fields} {n : Int},
    n ∈ Value.integersOfEntries Entity.integers es ↔ ∃ k x, (k, x) ∈ es ∧ Datum.Holds x n
  | [], n => iff_of_false List.not_mem_nil fun ⟨_, _, hx, _⟩ => List.not_mem_nil hx
  | (k, x) :: es, n => by
    have hrest : n ∈ Value.integersOfEntries Entity.integers es ↔ ∃ k x, (k, x) ∈ es ∧ Datum.Holds x n :=
      Datum.mem_integersOfEntries_iff
    have hfirst : n ∈ x.integers ↔ Datum.Holds x n := Datum.mem_integers_iff
    rw [Value.integersOfEntries, List.mem_append, hrest]
    constructor
    · rintro (h | ⟨k', x', hx, hn⟩)
      · exact ⟨k, x, List.mem_cons_self, hfirst.mp h⟩
      · exact ⟨k', x', List.mem_cons_of_mem _ hx, hn⟩
    · rintro ⟨k', x', hx, hn⟩
      rcases List.mem_cons.mp hx with he | hx
      · cases he
        exact Or.inl (hfirst.mpr hn)
      · exact Or.inr ⟨k', x', hx, hn⟩

end

namespace Datum

variable {v : Datum}

/-- **A value can be shown** unless it holds an integer that is too long. -/
theorem isWritable_iff : v.isWritable = true ↔ ¬ v.HoldsLong := by
  rw [isWritable, List.all_eq_true, HoldsLong]
  constructor
  · rintro h ⟨n, hn, hlong⟩
    exact Text.isWritable_iff.mp (h n (mem_integers_iff.mpr hn)) hlong
  · intro h n hn
    exact Text.isWritable_iff.mpr fun hlong => h ⟨n, mem_integers_iff.mp hn, hlong⟩

theorem isWritable_eq_false_iff : v.isWritable = false ↔ v.HoldsLong := by
  rw [← Bool.not_eq_true, isWritable_iff, Classical.not_not]

end Datum

end Holdings
