/-
# Comparison of values

Numbers of all kinds are compared by their exact value, a truth value counting as zero or one; texts
by their characters; bytes, lists and dictionaries by their contents.  Values of other
different kinds are unequal, and no question of order has an answer between them.

Objects are compared as whoever asks says, and that may fail.  So the order in which elements are
compared matters: from the first on, and only until the answer is known.
-/
import Holdings.Comparison
import Holdings.Fault

namespace Holdings.Value

variable {ω : Type}

/-! ## 1. Numbers -/

/-- Whether a value is a number. -/
def isNumber : Value ω → Bool
  | float _ => true
  | v => v.asInt?.isSome

/-- The order of two numbers; nothing is ordered with other values or with `nan`. -/
def numericOrder (v w : Value ω) : Option Ordering :=
  match v.asInt?, w.asInt? with
  | some a, some b => some (compare a b)
  | some a, none =>
    match w with
    | float y => (y.compareInt a).map Ordering.swap
    | _ => none
  | none, some b =>
    match v with
    | float x => x.compareInt b
    | _ => none
  | none, none =>
    match v, w with
    | float x, float y => x.order y
    | _, _ => none

/-! ## 2. Equality -/

variable {m : Type → Type} [Monad m]

mutual

/-- Whether two values are equal; `same` decides it for objects.  Lists and dictionaries of
different sizes differ whatever is in them. -/
def equal (same : ω → ω → m Bool) : Value ω → Value ω → m Bool
  | null, w => match w with | null => pure true | _ => pure false
  | text s, w => match w with | text t => pure (s == t) | _ => pure false
  | bytes s, w => match w with | bytes t => pure (s == t) | _ => pure false
  | list xs, w =>
    match w with
    | list ys => if xs.length = ys.length then equalAll same xs ys else pure false
    | _ => pure false
  | dict es, w =>
    match w with
    | dict fs => if es.length = fs.length then equalEntries same es fs else pure false
    | _ => pure false
  | object o, w => match w with | object p => same o p | _ => pure false
  | v, w => pure (numericOrder v w == some .eq)

/-- Whether two lists are equal, element by element. -/
def equalAll (same : ω → ω → m Bool) : List (Value ω) → List (Value ω) → m Bool
  | x :: xs, y :: ys => do if ← x.equal same y then equalAll same xs ys else pure false
  | xs, ys => pure (xs.isEmpty && ys.isEmpty)

/-- Whether every entry is in a dictionary too. -/
def equalEntries (same : ω → ω → m Bool) :
    List (String × Value ω) → List (String × Value ω) → m Bool
  | [], _ => pure true
  | (k, x) :: es, fs =>
    match fs.lookup k with
    | some y => do if ← x.equal same y then equalEntries same es fs else pure false
    | none => pure false

end

/-- Whether two values without objects are equal. -/
def equalPlain (v w : Plain) : Bool := Id.run (v.equal (fun o _ => o.elim) w)

/-! ## 3. Order -/

mutual

/-- Whether two values compare so; `objects` decides it for objects. -/
def ordered (objects : Comparison → ω → ω → Except Fault Bool) (c : Comparison) :
    Value ω → Value ω → Except Fault Bool
  | list xs, w =>
    match w with
    | list ys => orderedAll objects c xs ys
    | _ => .error .wrongKind
  | text s, w =>
    match w with
    | text t => .ok (c.ofOrdering (some (compare s t)))
    | _ => .error .wrongKind
  | bytes s, w =>
    match w with
    | bytes t => .ok (c.ofOrdering (some (compare s t)))
    | _ => .error .wrongKind
  | object o, w =>
    match w with
    | object p => objects c o p
    | _ => .error .wrongKind
  | v, w =>
    if v.isNumber && w.isNumber then .ok (c.ofOrdering (numericOrder v w)) else .error .wrongKind

/-- Whether two lists compare so: as their first elements that differ do, else as their lengths. -/
def orderedAll (objects : Comparison → ω → ω → Except Fault Bool) (c : Comparison) :
    List (Value ω) → List (Value ω) → Except Fault Bool
  | x :: xs, y :: ys => do
    if ← x.equal (objects .eq) y then orderedAll objects c xs ys else x.ordered objects c y
  | xs, ys => .ok (c.holds xs.length ys.length)

end

/-- Whether two values compare so. -/
def compareWith (objects : Comparison → ω → ω → Except Fault Bool) (c : Comparison)
    (v w : Value ω) : Except Fault Bool :=
  match c with
  | .eq => v.equal (objects .eq) w
  | .ne => (v.equal (objects .eq) w).map (!·)
  | c => v.ordered objects c w

example : compareWith (ω := Empty) (fun _ o _ => o.elim) .lt (.list [.int 1, .text "a"])
    (.list [.float (.finite false 1 0), .text "b"]) matches .ok true := by decide +kernel

end Holdings.Value
