/-
# Integers in a text

An integer as a person may write it: blanks around, a sign in front, decimal digits of any script,
and single underscores between digits.  Zeros in front change nothing, but a numeral of more than
`maxNumeralLength` digits is not read at all.

Every script has its ten digits one after the other, so a table of the zeros is enough.
-/
import Holdings.Text.Blank
import Holdings.Text.Digits

namespace Holdings.Text

/-! ## 1. Digits of any script -/

/-- The code points of the digits zero. -/
def digitZeros : List Nat := [
  0x30, 0x660, 0x6f0, 0x7c0, 0x966, 0x9e6, 0xa66, 0xae6, 0xb66, 0xbe6, 0xc66, 0xce6, 0xd66, 0xde6,
  0xe50, 0xed0, 0xf20, 0x1040, 0x1090, 0x17e0, 0x1810, 0x1946, 0x19d0, 0x1a80, 0x1a90, 0x1b50,
  0x1bb0, 0x1c40, 0x1c50, 0xa620, 0xa8d0, 0xa900, 0xa9d0, 0xa9f0, 0xaa50, 0xabf0, 0xff10, 0x104a0,
  0x10d30, 0x11066, 0x110f0, 0x11136, 0x111d0, 0x112f0, 0x11450, 0x114d0, 0x11650, 0x116c0,
  0x11730, 0x118e0, 0x11950, 0x11c50, 0x11d50, 0x11da0, 0x16a60, 0x16ac0, 0x16b50, 0x1d7ce,
  0x1d7d8, 0x1d7e2, 0x1d7ec, 0x1d7f6, 0x1e140, 0x1e2f0, 0x1e950, 0x1fbf0]

/-- The value of a decimal digit. -/
def digitOf? (c : Char) : Option Nat :=
  (digitZeros.find? fun z => z ≤ c.toNat && c.toNat < z + 10).map (c.toNat - ·)

/-! ## 2. Integers -/

/-- The values of digits with single underscores between them. -/
def digitValues? : List Char → Option (List Nat)
  | [] => none
  | [c] => (digitOf? c).map fun d => [d]
  | c :: '_' :: cs => (digitOf? c).bind fun d => (digitValues? cs).map (d :: ·)
  | c :: cs => (digitOf? c).bind fun d => (digitValues? cs).map (d :: ·)

/-- Whether a blank may stand around an integer: each one but the separators of information. -/
def isIntegerBlank (c : Char) : Bool := isBlank c && !(0x1c ≤ c.toNat && c.toNat ≤ 0x1f)

/-- The text without blanks around it. -/
def trimInteger (cs : List Char) : List Char :=
  ((cs.dropWhile isIntegerBlank).reverse.dropWhile isIntegerBlank).reverse

/-- The magnitude of digits. -/
def magnitude? (cs : List Char) : Option Nat :=
  (digitValues? cs).bind fun ds =>
    if maxNumeralLength < ds.length then none else some (ds.foldl (fun n d => 10 * n + d) 0)

/-- The integer that a text stands for. -/
def readInteger? (cs : List Char) : Option Int :=
  match trimInteger cs with
  | '-' :: cs => (magnitude? cs).map fun n => -(n : Int)
  | '+' :: cs => (magnitude? cs).map fun n => (n : Int)
  | cs => (magnitude? cs).map fun n => (n : Int)

example : readInteger? " +1_000 ".toList = some 1000 := by decide +kernel
example : readInteger? "-\u0661\u0662".toList = some (-12) := by decide +kernel
example : readInteger? "1__0".toList = none ∧ readInteger? "_1".toList = none := by decide +kernel

end Holdings.Text
