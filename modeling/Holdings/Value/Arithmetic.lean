/-
# Arithmetic of values

Integers are added, subtracted, multiplied and divided exactly, a truth value counting as zero or
one.  Where one of two numbers is a floating-point one, both are taken as such, so an integer may
be too large for it; and the quotient of two integers is always a floating-point number.

Texts, bytes and lists are joined with others of their kind, and repeated by an integer on
either side.  Everything else is misuse.
-/
import Holdings.Number.Arithmetic
import Holdings.Value.Comparison

namespace Holdings.Value

variable {ω : Type}

/-! ## 1. Numbers -/

/-- A number as a floating-point one. -/
def toFloat : Value ω → Except Fault Binary64
  | float x => .ok x
  | v =>
    match v.asInt? with
    | some n => (Binary64.ofInt? n).elim (.error .wideNumber) .ok
    | none => .error .wrongKind

/-- The result of an operation on two numbers, which has one form for integers and one for others. -/
def onNumbers (ints : Int → Int → Except Fault (Value ω))
    (floats : Binary64 → Binary64 → Except Fault (Value ω)) (v w : Value ω) :
    Except Fault (Value ω) :=
  match v.asInt?, w.asInt? with
  | some a, some b => ints a b
  | _, _ =>
    if v.isNumber && w.isNumber then do floats (← v.toFloat) (← w.toFloat) else .error .wrongKind

/-- The quotient of two integers. -/
def quotient (a b : Int) : Except Fault (Value ω) :=
  if b = 0 then .error .zeroDivisor
  else
    match Binary64.nearest (decide (a < 0) != decide (b < 0)) a.natAbs b.natAbs with
    | .infinite _ => .error .wideNumber
    | x => .ok (float x)

/-- An operation of numbers that divides. -/
def dividing (f : Binary64 → Binary64 → Binary64) (x y : Binary64) : Except Fault (Value ω) :=
  if y.isZero then .error .zeroDivisor else .ok (float (f x y))

/-! ## 2. Repetition -/

/-- How many elements there is room for.  This is the memory of a machine, of which no rule of the library
speaks: the number lies between what was stored and what was refused. -/
def maxElements : Nat := 4294967296

/-- Elements repeated so often; a negative number of times counts as none. -/
def repeated (xs : List α) (n : Int) : Except Fault (List α) :=
  if !Amount.isWord n then .error .wideIndex
  else if maxElements < xs.length * n.toNat then .error .noRoom
  else .ok (List.replicate n.toNat xs).flatten

/-- Whether a value can be repeated. -/
def isSequence : Value ω → Bool
  | text _ | bytes _ | list _ => true
  | _ => false

/-- A value repeated so often. -/
def times (v : Value ω) (n : Int) : Except Fault (Value ω) :=
  match v with
  | text s => (repeated s.toList n).map fun cs => text (String.ofList cs)
  | bytes bs => (repeated bs n).map bytes
  | list xs => (repeated xs n).map list
  | _ => .error .wrongKind

/-! ## 3. The operations -/

/-- The sum of two values. -/
def add (v w : Value ω) : Except Fault (Value ω) :=
  match v, w with
  | text s, text t => .ok (text (s ++ t))
  | bytes s, bytes t => .ok (bytes (s ++ t))
  | list xs, list ys => .ok (list (xs ++ ys))
  | v, w => onNumbers (fun a b => .ok (int (a + b))) (fun x y => .ok (float (x.add y))) v w

/-- The difference of two values. -/
def sub (v w : Value ω) : Except Fault (Value ω) :=
  onNumbers (fun a b => .ok (int (a - b))) (fun x y => .ok (float (x.sub y))) v w

/-- The product of two values. -/
def mul (v w : Value ω) : Except Fault (Value ω) :=
  match v.isSequence, v.asInt?, w.isSequence, w.asInt? with
  | true, _, _, some n => v.times n
  | _, some n, true, _ => w.times n
  | _, _, _, _ => onNumbers (fun a b => .ok (int (a * b))) (fun x y => .ok (float (x.mul y))) v w

/-- The quotient of two values. -/
def div (v w : Value ω) : Except Fault (Value ω) := onNumbers quotient (dividing Binary64.div) v w

/-- The quotient of two values as a whole number. -/
def floorDiv (v w : Value ω) : Except Fault (Value ω) :=
  onNumbers (fun a b => if b = 0 then .error .zeroDivisor else .ok (int (Int.fdiv a b)))
    (dividing Binary64.floorDiv) v w

/-! ## 4. Elements -/

/-- The elements of a value that has some: characters, bytes as integers, elements, keys. -/
def elements? : Value ω → Option (List (Value ω))
  | text s => some (s.toList.map fun c => text (String.singleton c))
  | bytes bs => some (bs.map fun b => int b.toNat)
  | list xs => some xs
  | dict es => some (es.map fun e => text e.1)
  | _ => none

end Holdings.Value
