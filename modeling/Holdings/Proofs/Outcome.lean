/-
# When operations succeed

An operation that may fail is put together from others, and it succeeds exactly when each of them
does.  The lemmas here take such a success apart, for operations (`Except`) and for checks of fields
(`Verdict`): one line for each way of putting two together.
-/
import Holdings.Entity.Verdict

/-! ## 1. Operations -/

namespace Except

variable {ε α β : Type}

theorem map_eq_ok_iff {x : Except ε α} {f : α → β} {b : β} :
    x.map f = .ok b ↔ ∃ a, x = .ok a ∧ f a = b := by
  cases x <;> simp [Except.map]

theorem bind_eq_ok_iff {x : Except ε α} {f : α → Except ε β} {b : β} :
    (x >>= f) = .ok b ↔ ∃ a, x = .ok a ∧ f a = .ok b := by
  cases x with
  | ok a =>
    constructor
    · intro h
      exact ⟨a, rfl, h⟩
    · rintro ⟨a', ha, hb⟩
      cases ha
      exact hb
  | error e =>
    constructor
    · intro h
      cases h
    · rintro ⟨a, ha, -⟩
      cases ha

end Except

namespace Holdings

variable {α β : Type}

theorem liftAbort_eq_ok_iff {x : Except Abort α} {a : α} : liftAbort x = .ok a ↔ x = .ok a := by
  cases x <;> simp

/-! ## 2. Checks of fields -/

namespace Verdict

theorem map_eq_valid_iff {v : Verdict α} {f : α → β} {b : β} :
    v.map f = valid b ↔ ∃ a, v = valid a ∧ f a = b := by
  cases v <;> simp [map]

theorem bind_eq_valid_iff {v : Verdict α} {f : α → Verdict β} {b : β} :
    v.bind f = valid b ↔ ∃ a, v = valid a ∧ f a = valid b := by
  cases v <;> simp [bind]

theorem under_eq_valid_iff {v : Verdict α} {field : String} {a : α} :
    v.under field = valid a ↔ v = valid a := by
  cases v <;> simp [under]

theorem ofAbort_eq_valid_iff {x : Except Abort α} {a : α} : ofAbort x = valid a ↔ x = .ok a := by
  cases x <;> simp [ofAbort]

end Verdict

end Holdings
