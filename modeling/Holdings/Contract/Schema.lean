/-
# Contracts

A contract says which form plain data has: a text up to a length, an integer between bounds, or a
record whose fields are all required and the only ones allowed.  `violations` lists every breach
of a contract, outermost first: for a record its kind, then the missing fields, then the foreign
names, then the breaches inside each field, in the order of the contract.

A float without a fractional part counts as an integer, a truth value does not.  Bounds
are compared with the exact value and apply to every number, whole or not.

A violation is told as soon as it is found, so whoever asks for all of them (`report`), or only
for the first (`check`, `isValid`), fails at the first one asked for whose text cannot be put together.
-/
import Holdings.Fault

namespace Holdings.Contract

/-! ## 1. Forms of data -/

/-- A form of plain data. -/
inductive Schema where
  /-- A text of at most so many characters. -/
  | text (maxLength : Nat)
  /-- An integer, with a lowest and a highest value if they are given. -/
  | integer (lowest highest : Option Int)
  /-- A record of exactly these fields. -/
  | record (fields : List (String × Schema))
  deriving Inhabited

/-! ## 2. Numbers -/

/-- Whether a value counts as an integer. -/
def isInteger : Datum → Bool
  | .int _ => true
  | .float x => x.isWhole
  | _ => false

/-- Whether a value is a number below a bound. -/
def isBelow (bound : Int) : Datum → Bool
  | .int n => n < bound
  | .float x => x.lt bound
  | _ => false

/-- Whether a value is a number above a bound. -/
def isAbove (bound : Int) : Datum → Bool
  | .int n => bound < n
  | .float x => x.gt bound
  | _ => false

/-! ## 3. Violations -/

/-- The violation of the value itself. -/
def here (b : Breach) : Violation := ⟨[], b⟩

/-- The violation of being below a bound, if there is a bound and the value is below it. -/
def lowViolations (v : Datum) : Option Int → List Violation
  | some b => if isBelow b v then [here (.below v.shown b)] else []
  | none => []

/-- The violation of being above a bound, if there is a bound and the value is above it. -/
def highViolations (v : Datum) : Option Int → List Violation
  | some b => if isAbove b v then [here (.above v.shown b)] else []
  | none => []

/-- The required names that are missing. -/
def missingViolations (names : List String) (entries : Fields) : List Violation :=
  (names.filter fun n => (entries.lookup n).isNone).map fun n => here (.missing n)

/-- The names in order of their characters. -/
def sortNames (names : List String) : List String :=
  names.mergeSort fun a b => !decide (b < a)

/-- The violation of having names that are not allowed, if there are any. -/
def foreignViolations (names : List String) (entries : Fields) : List Violation :=
  match (entries.map Prod.fst).filter fun k => !names.contains k with
  | [] => []
  | k :: ks => [here (.unexpected (sortNames (k :: ks)))]

mutual

/-- Every violation of a form by a value, in order. -/
def Schema.violations : Schema → Datum → List Violation
  | .text maxLength, v =>
    match v with
    | .text s => if maxLength < s.toList.length then [here (.tooLong v.shown)] else []
    | _ => [here (.wrongType v.shown "string")]
  | .integer lowest highest, v =>
    (if isInteger v then [] else [here (.wrongType v.shown "integer")]) ++
      lowViolations v lowest ++ highViolations v highest
  | .record fields, v =>
    match v with
    | .dict entries =>
      missingViolations (fields.map Prod.fst) entries ++
        foreignViolations (fields.map Prod.fst) entries ++ Schema.fieldViolations fields entries
    | _ => [here (.wrongType v.shown "object")]

/-- The violations inside the fields that are there, in the order of the form. -/
def Schema.fieldViolations : List (String × Schema) → Fields → List Violation
  | [], _ => []
  | (name, form) :: rest, entries =>
    (match entries.lookup name with
      | some v => (form.violations v).map (Violation.under name)
      | none => []) ++ Schema.fieldViolations rest entries

end

/-- Whether a value keeps to a form. -/
def Schema.accepts (form : Schema) (v : Datum) : Bool := (form.violations v).isEmpty

/-! ## 4. Telling them -/

/-- Every violation, told one after the other. -/
def Schema.report (form : Schema) (v : Datum) : Except Fault (List Violation) :=
  (form.violations v).mapM Violation.tell

/-- Passes a value that keeps to a form and fails with the first violation of another one. -/
def Schema.check (form : Schema) (v : Datum) : Except Fault Unit :=
  match form.violations v with
  | [] => .ok ()
  | first :: _ => first.tell >>= fun x => .error (.contract x)

/-- The answer to whether a value keeps to a form. -/
def Schema.isValid (form : Schema) (v : Datum) : Except Fault Bool :=
  match form.violations v with
  | [] => .ok true
  | first :: _ => first.tell.map fun _ => false

theorem Schema.check_eq_ok_iff {form : Schema} {v : Datum} :
    form.check v = .ok () ↔ form.violations v = [] := by
  unfold Schema.check
  split
  · simp [*]
  · rename_i first rest h
    refine iff_of_false (fun hok => ?_) (by simp [h])
    cases hb : first.breach.isWritable with
    | true =>
      rw [Violation.tell_of_isWritable hb] at hok
      cases hok
    | false =>
      rw [Violation.tell_of_not_isWritable hb] at hok
      cases hok

end Holdings.Contract
