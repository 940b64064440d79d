/-
# Binary floating-point numbers

A double-precision number as what it stands for: not a number, an infinity, or a signed whole
mantissa times a power of two.  Such numbers arrive in data, are compared with integers and are
written into messages.  So every question about one is a question about the exact value, answered
in whole numbers and without rounding; only arithmetic rounds (`Number/Arithmetic.lean`).
-/
namespace Holdings

/-- A double-precision number.  The two zeros differ in their sign and compare equal. -/
inductive Binary64 where
  | nan
  | infinite (negative : Bool)
  /-- The value `± mantissa * 2 ^ exponent`. -/
  | finite (negative : Bool) (mantissa : Nat) (exponent : Int)
  deriving DecidableEq, Repr, Inhabited

namespace Binary64

/-! ## 1. The exact value as a fraction -/

/-- The magnitude of `m * 2 ^ e` is the first component divided by the second. -/
def fraction (m : Nat) (e : Int) : Nat × Nat := (m * Nat.pow 2 e.toNat, Nat.pow 2 (-e).toNat)

theorem fraction_den_pos (m : Nat) (e : Int) : 0 < (fraction m e).2 := Nat.two_pow_pos _

/-- A magnitude with its sign. -/
def signed (negative : Bool) (n : Nat) : Int := if negative then -(n : Int) else n

/-! ## 2. Order -/

/-- The order of a number and an integer, by exact value; nothing is ordered with `nan`. -/
def compareInt (x : Binary64) (n : Int) : Option Ordering :=
  match x with
  | nan => none
  | infinite negative => some (if negative then .lt else .gt)
  | finite negative m e =>
    let f := fraction m e
    some (compare (signed negative f.1) (n * f.2))

/-- The order of two numbers, by exact value. -/
def order (x y : Binary64) : Option Ordering :=
  match x, y with
  | nan, _ | _, nan => none
  | infinite a, infinite b => some (compare b a)
  | infinite negative, finite .. => some (if negative then .lt else .gt)
  | finite .., infinite negative => some (if negative then .gt else .lt)
  | finite a m e, finite b m' e' =>
    let f := fraction m e
    let g := fraction m' e'
    some (compare (signed a f.1 * g.2) (signed b g.1 * f.2))

/-- Whether a number lies strictly below an integer. -/
def lt (x : Binary64) (n : Int) : Bool := x.compareInt n == some .lt

/-- Whether a number lies strictly above an integer. -/
def gt (x : Binary64) (n : Int) : Bool := x.compareInt n == some .gt

/-! ## 3. Whole numbers -/

/-- The integer that a number is equal to, if there is one. -/
def toInt? : Binary64 → Option Int
  | finite negative m e =>
    let f := fraction m e
    if f.1 % f.2 = 0 then some (signed negative (f.1 / f.2)) else none
  | _ => none

/-- Whether a number is finite and has no fractional part. -/
def isWhole (x : Binary64) : Bool := x.toInt?.isSome

/-- The number with the opposite sign. -/
def neg : Binary64 → Binary64
  | nan => nan
  | infinite negative => infinite (!negative)
  | finite negative m e => finite (!negative) m e

/-- Whether a number is one of the two zeros. -/
def isZero : Binary64 → Bool
  | finite _ m _ => m == 0
  | _ => false

end Binary64

end Holdings
