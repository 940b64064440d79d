/-
# Reading decimal numbers

The double-precision number nearest to a fraction, and to a number written in decimal.  Of two
equally near ones the even mantissa wins; magnitudes past the largest finite number become
infinite, and magnitudes below the smallest one become zero of the same sign.  All in exact
natural-number arithmetic.
-/
import Holdings.Number.Binary64
import Holdings.Text.Digits

namespace Holdings.Binary64

open Holdings.Text

/-! ## 1. The nearest number to a fraction -/

/-- The whole number nearest to `a / b`, a half going to the even neighbour. -/
def roundHalfEven (a b : Nat) : Nat :=
  let q := a / b
  let r := a % b
  if b < 2 * r ∨ (2 * r = b ∧ q % 2 = 1) then q + 1 else q

/-- The highest bit of a full mantissa. -/
def hiddenBit : Nat := 4503599627370496

/-- The smallest exponent of a mantissa. -/
def minExponent : Int := -1074

/-- The largest exponent of a mantissa. -/
def maxExponent : Int := 971

/-- The exponent at which `num / den` has a mantissa of 53 bits, or the smallest exponent. -/
def exponentFor (num den : Nat) : Int :=
  let e : Int := (Nat.log2 num : Int) - (Nat.log2 den : Int) - 53
  let wide := num * Nat.pow 2 (-e).toNat / (den * Nat.pow 2 e.toNat)
  max (if 2 * hiddenBit ≤ wide then e + 1 else e) minExponent

/-- The number nearest to `num / den` in magnitude, with the given sign. -/
def nearest (negative : Bool) (num den : Nat) : Binary64 :=
  if num = 0 then finite negative 0 0
  else
    let e := exponentFor num den
    let m := roundHalfEven (num * Nat.pow 2 (-e).toNat) (den * Nat.pow 2 e.toNat)
    let (m, e) := if m = 2 * hiddenBit then (hiddenBit, e + 1) else (m, e)
    if maxExponent < e then infinite negative else finite negative m e

/-! ## 2. Decimal notation -/

/-- The number nearest to a whole number in decimal digits times `10 ^ exponent`.  Magnitudes far
outside the range are settled by their number of digits alone. -/
def ofDecimal (negative : Bool) (digits : List Char) (exponent : Int) : Binary64 :=
  let significant := digits.dropWhile (· == '0')
  let top := (significant.length : Int) + exponent
  if significant.isEmpty ∨ top < -400 then finite negative 0 0
  else if 400 < top then infinite negative
  else nearest negative (readNumeral 10 significant * Nat.pow 10 exponent.toNat)
    (Nat.pow 10 (-exponent).toNat)

/-- A number from the digits on both sides of its decimal point and its exponent. -/
def ofParts (negative : Bool) (whole fraction : List Char) (exponent : Int) : Binary64 :=
  ofDecimal negative (whole ++ fraction) (exponent - fraction.length)

/-- A sign, if there is one, and what follows it. -/
def splitSign : List Char → Bool × List Char
  | '-' :: cs => (true, cs)
  | '+' :: cs => (false, cs)
  | cs => (false, cs)

/-- An integer in decimal digits after an optional sign. -/
def readExponent (cs : List Char) : Option Int :=
  let (negative, digits) := splitSign cs
  if digits.isEmpty ∨ !digits.all isDigit then none
  else some (signed negative (readNumeral 10 digits))

/-- The exponent part of a number: absent, or an integer after the letter `e`. -/
def readExponentPart : List Char → Option Int
  | [] => some 0
  | c :: cs => if c = 'e' ∨ c = 'E' then readExponent cs else none

/-- The fraction part of a number: absent, or digits after a point; with what follows it. -/
def splitFraction : List Char → List Char × List Char
  | '.' :: cs => cs.span isDigit
  | cs => ([], cs)

/-- A number from its text: `nan`, `inf`, or decimal notation with an optional exponent. -/
def ofText? (s : String) : Option Binary64 :=
  let (negative, cs) := splitSign s.toList
  if cs = "nan".toList then some nan
  else if cs = "inf".toList then some (infinite negative)
  else
    let (whole, rest) := cs.span isDigit
    let (fraction, rest) := splitFraction rest
    if whole.isEmpty && fraction.isEmpty then none
    else (readExponentPart rest).map (ofParts negative whole fraction)

example : ofText? "1.5" = some (finite false (3 * 2 ^ 51) (-52)) := by decide +kernel
example : ofText? "-0.0" = some (finite true 0 0) := by decide +kernel
example : ofText? "5e-324" = some (finite false 1 (-1074)) := by decide +kernel
example : ofText? "1e309" = some (infinite false) := by decide +kernel

end Holdings.Binary64
