/-
# Symbols

A symbol names a token and says how many of the digits of an amount are fraction digits.  Any
code of any length can be held, since symbols are also read from foreign data; only a valid one
takes part in a new quantity: one to seven capital letters, and at most eighteen fraction digits.
-/
import Holdings.Amount.Range
import Holdings.Text.Digits

namespace Holdings

/-- The code of a token and its number of fraction digits. -/
structure Symbol where
  code : String
  precision : UInt8
  deriving DecidableEq, Repr, Inhabited

namespace Symbol

/-! ## 1. Validity -/

/-- The longest code of a valid symbol. -/
def maxCodeLength : Nat := 7

/-- The letters that a valid code is made of. -/
def isCapital (c : Char) : Bool := 'A' ≤ c && c ≤ 'Z'

/-- Whether a code has one to seven letters, all of them capitals. -/
def isValidCode (cs : List Char) : Bool :=
  0 < cs.length && cs.length ≤ maxCodeLength && cs.all isCapital

/-- Whether new quantities may carry the symbol. -/
def isValid (s : Symbol) : Bool :=
  isValidCode s.code.toList && s.precision.toNat ≤ Amount.maxPrecision

/-- The symbol without a code, which marks a quantity as empty. -/
def null : Symbol := ⟨"", 0⟩

theorem isValid_null : null.isValid = false := by decide

/-! ## 2. Text -/

/-- The fraction digits and the code, with a comma between. -/
def text (s : Symbol) : String :=
  String.ofList (Text.decimal s.precision.toNat ++ ',' :: s.code.toList)

end Symbol

end Holdings
