/-
# Amounts as text

An amount of a symbol with `p` fraction digits is written with exactly `p` digits behind the
point, padded with zeros, and without a point when `p` is zero; the code follows
after a space.  The sign stands in front of the whole magnitude, so it is not lost when the
integer part is zero: -5 at four digits is `-0.0005`.  Only the integer part can have too many digits
to be written, for the fraction has no more than the symbol.
-/
import Holdings.Fault

namespace Holdings.Amount

/-- What stands between the integer part and the fraction. -/
def separator : Char := '.'

/-- The power of ten that an amount is scaled by. -/
def scale (precision : Int) : Except Fault Nat :=
  if 0 ≤ precision ∧ precision ≤ maxPrecision then .ok (Nat.pow 10 precision.toNat)
  else .error (.refused (.precision precision))

/-- The digits of a magnitude with `p` of them behind the point. -/
def magnitudeText (magnitude p : Nat) : List Char :=
  let whole := Text.decimal (magnitude / Nat.pow 10 p)
  if p = 0 then whole
  else whole ++ separator :: Text.padLeft p '0' (Text.decimal (magnitude % Nat.pow 10 p))

/-- An amount in decimal, and the code of its symbol. -/
def text (amount precision : Int) (code : String) : Except Fault String := do
  let unit ← scale precision
  requireWritable (Text.isWritable ((amount.natAbs / unit : Nat) : Int))
  return String.ofList ((if amount < 0 then ['-'] else []) ++
    magnitudeText amount.natAbs precision.toNat ++ ' ' :: code.toList)

example : text 100000 4 "SYS" = .ok "10.0000 SYS" := by decide +kernel
example : text (-5) 4 "SYS" = .ok "-0.0005 SYS" := by decide +kernel
example : text 10 0 "SYS" = .ok "10 SYS" := by decide +kernel

end Holdings.Amount
