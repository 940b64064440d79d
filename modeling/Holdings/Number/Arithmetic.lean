/-
# Arithmetic of floating-point numbers

The four operations and division to a whole number.  A finite result is the number nearest to
the exact one, so each operation is exact arithmetic on fractions and one rounding (`nearest`).  The rest is
said case by case: infinities, what is not a number, and the sign of a zero.

Dividing by zero has no result here; whoever divides asks first (`isZero`).

A quotient as a whole number is found from the remainder, which is always exact, and its own
steps round: the difference, the quotient and the step down to the next whole number
(`floorDiv`).  So it is the floor of the exact quotient only while that has few enough digits.
-/
import Holdings.Number.Rounding

namespace Holdings.Binary64

/-! ## 1. Fractions -/

/-- The number nearest to a fraction; a zero has the given sign. -/
def ofFraction (negativeZero : Bool) (num : Int) (den : Nat) : Binary64 :=
  if num = 0 then finite negativeZero 0 0 else nearest (num < 0) num.natAbs den

/-- The number nearest to an integer, if it is not too large. -/
def ofInt? (n : Int) : Option Binary64 :=
  match ofFraction false n 1 with
  | infinite _ => none
  | x => some x

/-- Whether a number has a minus sign; what is not a number has none. -/
def isNegative : Binary64 → Bool
  | nan => false
  | infinite negative => negative
  | finite negative _ _ => negative

/-- Zero with a sign. -/
def zero (negative : Bool) : Binary64 := finite negative 0 0

/-- The number one half. -/
def half : Binary64 := finite false 1 (-1)

/-! ## 2. The four operations -/

/-- The sum of two numbers. -/
def add : Binary64 → Binary64 → Binary64
  | nan, _ | _, nan => nan
  | infinite a, infinite b => if a = b then infinite a else nan
  | infinite a, finite .. => infinite a
  | finite .., infinite b => infinite b
  | finite a m e, finite b m' e' =>
    let f := fraction m e
    let g := fraction m' e'
    ofFraction (a && b) (signed a f.1 * g.2 + signed b g.1 * f.2) (f.2 * g.2)

/-- The difference of two numbers. -/
def sub (x y : Binary64) : Binary64 := x.add y.neg

/-- The product of two numbers. -/
def mul (x y : Binary64) : Binary64 :=
  let negative := x.isNegative != y.isNegative
  match x, y with
  | nan, _ | _, nan => nan
  | infinite _, y => if y.isZero then nan else infinite negative
  | x, infinite _ => if x.isZero then nan else infinite negative
  | finite _ m e, finite _ m' e' =>
    let f := fraction m e
    let g := fraction m' e'
    nearest negative (f.1 * g.1) (f.2 * g.2)

/-- The quotient of a number and one that is not zero. -/
def div (x y : Binary64) : Binary64 :=
  let negative := x.isNegative != y.isNegative
  match x, y with
  | nan, _ | _, nan => nan
  | infinite _, infinite _ => nan
  | infinite _, finite .. => infinite negative
  | finite .., infinite _ => zero negative
  | finite _ m e, finite _ m' e' =>
    let f := fraction m e
    let g := fraction m' e'
    nearest negative (f.1 * g.2) (f.2 * g.1)

example : (finite false 1 0).add (finite true 1 0) = zero false := by decide +kernel
example : (ofText? "0.1").bind (fun x => (ofText? "0.2").map x.add) =
    ofText? "0.30000000000000004" := by decide +kernel
example : (finite false 1 0).div (finite false 3 0) = finite false 6004799503160661 (-54) := by
  decide +kernel

/-! ## 3. Quotients as whole numbers -/

/-- The remainder of a division; it has the sign of the dividend. -/
def rem : Binary64 → Binary64 → Binary64
  | nan, _ | _, nan => nan
  | infinite _, _ => nan
  | x, infinite _ => x
  | finite a m e, finite _ m' e' =>
    let f := fraction m e
    let g := fraction m' e'
    nearest a (f.1 * g.2 % (g.1 * f.2)) (f.2 * g.2)

/-- The largest whole number that is not above a number. -/
def floor : Binary64 → Binary64
  | finite negative m e =>
    let f := fraction m e
    ofFraction negative (Int.fdiv (signed negative f.1) f.2) 1
  | x => x

/-- The whole number that is nearest to a number that is nearly whole. -/
def snap (x : Binary64) : Binary64 :=
  let below := x.floor
  if (x.sub below).order half = some .gt then below.add (finite false 1 0) else below

/-- The quotient of a number and one that is not zero, as a whole number towards negative
infinity. -/
def floorDiv (x y : Binary64) : Binary64 :=
  let r := x.rem y
  let q := (x.sub r).div y
  let q := if !r.isZero && (y.lt 0 != r.lt 0) then q.sub (finite false 1 0) else q
  if q.isZero then zero (x.div y).isNegative else q.snap

example : (ofText? "-7.5").map (·.floorDiv (finite false 2 0)) = ofText? "-4" := by decide +kernel
example : (finite true 5 0).floorDiv (infinite false) = nearest true 1 1 := by decide +kernel

end Holdings.Binary64
