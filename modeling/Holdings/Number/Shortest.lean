/-
# The shortest decimal that reads back

A finite number is shown by the fewest digits that read back as itself, and of those by the ones
nearest to it.  The decimals that read back as `m * 2 ^ e` are those in an interval around
it, half way to each neighbour; the ends belong to it when `m` is even.  On the grid of
decimals with `k` digits only the two grid points next to the value have to be tried: if any
point of the grid lies in the interval, so does one of them.  Grids of one digit, two digits and so on are
tried in turn, and seventeen digits always suffice.

The written form is positional from `0.0001` up to sixteen digits before the point, always with
a fraction part, and otherwise has an exponent with a sign and at least two digits.
-/
import Holdings.Number.Rounding

namespace Holdings.Binary64

open Holdings.Text

/-! ## 1. The interval of a number -/

/-- The value of a number and the ends of its interval, over one denominator. -/
structure Interval where
  low : Nat
  value : Nat
  high : Nat
  den : Nat
  /-- Whether the ends belong to the interval. -/
  closed : Bool

/-- The interval of `m * 2 ^ e`.  Below a power of two the neighbours lie twice as close. -/
def interval (m : Nat) (e : Int) : Interval :=
  let down := if m = hiddenBit ∧ minExponent < e then 1 else 2
  let scale := Nat.pow 2 (e - 2).toNat
  { low := (4 * m - down) * scale, value := 4 * m * scale, high := (4 * m + 2) * scale
    den := Nat.pow 2 (2 - e).toNat, closed := m % 2 = 0 }

/-- Whether `c / unit` lies in the interval, all multiplied by the denominators. -/
def Interval.holds (i : Interval) (c unit scale : Nat) : Bool :=
  let x := c * i.den * unit
  if i.closed then i.low * scale ≤ x && x ≤ i.high * scale
  else i.low * scale < x && x < i.high * scale

/-! ## 2. The search -/

/-- The decimal exponent of the value: its first digit counts `10 ^ place`. -/
def Interval.place (i : Interval) : Int :=
  ((decimal (i.value * Nat.pow 10 400 / i.den)).length : Int) - 401

/-- The best point in the interval on the grid of multiples of `10 ^ (-shift)`, if there is one. -/
def Interval.onGrid (i : Interval) (shift : Int) : Option Nat :=
  let scale := Nat.pow 10 shift.toNat
  let unit := Nat.pow 10 (-shift).toNat
  let num := i.value * scale
  let den := i.den * unit
  let below := num / den
  let above := below + 1
  match i.holds below unit scale, i.holds above unit scale with
  | true, true => some (roundHalfEven num den)
  | true, false => some below
  | false, true => some above
  | false, false => none

/-- The first hit among the grids of `k`, `k + 1`, … digits, as digits and exponent. -/
def Interval.search (i : Interval) (place : Int) : Nat → Nat → Nat × Int
  | 0, _ => (0, 0)
  | tries + 1, k =>
    let shift := (k : Int) - 1 - place
    match i.onGrid shift with
    | some c => (c, -shift)
    | none => i.search place tries (k + 1)

/-- The shortest decimal `c * 10 ^ t` that reads back as `m * 2 ^ e`, for a positive mantissa. -/
def shortest (m : Nat) (e : Int) : Nat × Int :=
  let i := interval m e
  i.search i.place 17 1

/-! ## 3. The written form -/

/-- Digits without the zeros behind them. -/
def dropTrailingZeros (cs : List Char) : List Char := (cs.reverse.dropWhile (· = '0')).reverse

/-- Significant digits with the decimal point after the first `point` of them, or in front of
them behind that many zeros; a whole number ends in `.0`. -/
def positional (digits : List Char) (point : Int) : List Char :=
  if point ≤ 0 then '0' :: '.' :: (List.replicate (-point).toNat '0' ++ digits)
  else
    let whole := digits.take point.toNat
    let fraction := digits.drop point.toNat
    whole ++ List.replicate (point.toNat - whole.length) '0' ++
      '.' :: (if fraction.isEmpty then ['0'] else fraction)

/-- One digit, the others behind a point, and the exponent. -/
def scientific (digits : List Char) (exponent : Int) : List Char :=
  let fraction := digits.drop 1
  digits.take 1 ++ (if fraction.isEmpty then [] else '.' :: fraction) ++
    'e' :: (if exponent < 0 then '-' else '+') :: padLeft 2 '0' (decimal exponent.natAbs)

/-- The written magnitude of a finite number. -/
def magnitudeText (m : Nat) (e : Int) : List Char :=
  if m = 0 then "0.0".toList
  else
    let (c, t) := shortest m e
    let all := decimal c
    let point := (all.length : Int) + t
    let digits := dropTrailingZeros all
    if -4 < point ∧ point ≤ 16 then positional digits point else scientific digits (point - 1)

/-- The written form of a number. -/
def text : Binary64 → List Char
  | nan => "nan".toList
  | infinite negative => if negative then "-inf".toList else "inf".toList
  | finite negative m e => if negative then '-' :: magnitudeText m e else magnitudeText m e

example : String.ofList (positional "15".toList 1) = "1.5" := by decide +kernel
example : String.ofList (positional "1".toList (-3)) = "0.0001" := by decide +kernel
example : String.ofList (scientific "1".toList 16) = "1e+16" := by decide +kernel
example : text (finite true 0 0) = "-0.0".toList := by decide +kernel

end Holdings.Binary64
