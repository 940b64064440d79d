/-
# Verdicts on fields

A record is built from fields, and every field is checked before one is refused: the details of all
of them are reported together, in order.  An aborted check is different: it ends the whole at
once, whatever has been found before.  `both` puts the verdicts on two fields together by these
rules, the first field being checked first.
-/
import Holdings.Fault

namespace Holdings

/-- What the check of a value comes to. -/
inductive Verdict (α : Type) where
  | valid (a : α)
  | invalid (details : List Detail)
  | stopped (fault : Fault)
  deriving DecidableEq, Repr, Inhabited

namespace Verdict

variable {α β : Type}

/-- The verdict that a value has one defect. -/
def defect (d : Defect) : Verdict α := invalid [⟨d, []⟩]

/-- The verdict on a part, its details seen from the field that holds it. -/
def under (field : String) : Verdict α → Verdict α
  | valid a => valid a
  | invalid ds => invalid (ds.map (Detail.under field))
  | stopped f => stopped f

/-- The verdict on a value made from a valid one. -/
def map (f : α → β) : Verdict α → Verdict β
  | valid a => valid (f a)
  | invalid ds => invalid ds
  | stopped e => stopped e

/-- A further check of a valid value. -/
def bind (v : Verdict α) (f : α → Verdict β) : Verdict β :=
  match v with
  | valid a => f a
  | invalid ds => invalid ds
  | stopped e => stopped e

/-- The verdict on two fields. -/
def both : Verdict α → Verdict β → Verdict (α × β)
  | stopped e, _ => stopped e
  | invalid _, stopped e => stopped e
  | valid _, stopped e => stopped e
  | invalid ds, invalid es => invalid (ds ++ es)
  | invalid ds, valid _ => invalid ds
  | valid _, invalid es => invalid es
  | valid a, valid b => valid (a, b)

/-- An operation that may be aborted, as a check. -/
def ofAbort : Except Abort α → Verdict α
  | .ok a => valid a
  | .error e => stopped (.aborted e)

/-- A check as an operation that may fail. -/
def toExcept : Verdict α → Except Fault α
  | valid a => .ok a
  | invalid ds => .error (.invalid ds)
  | stopped e => .error e

theorem toExcept_eq_ok_iff {v : Verdict α} {a : α} : v.toExcept = .ok a ↔ v = valid a := by
  cases v <;> simp [toExcept]

theorem both_eq_valid_iff {v : Verdict α} {w : Verdict β} {a : α} {b : β} :
    both v w = valid (a, b) ↔ v = valid a ∧ w = valid b := by
  cases v <;> cases w <;> simp [both]

end Verdict

end Holdings
