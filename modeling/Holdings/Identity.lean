/-
# Identities

An identity is an opaque 64-bit word that stands for an account or a contract.  Nothing is known
about it but whether it equals another one.
-/
import Holdings.Text.Digits

namespace Holdings

/-- An account or a contract. -/
structure Identity where
  value : UInt64
  deriving DecidableEq, Repr, Inhabited

namespace Identity

/-- The largest word of an identity. -/
def maxValue : Nat := 18446744073709551615

/-- The word in base ten. -/
def text (i : Identity) : String := Text.ofNat i.value.toNat

end Identity

end Holdings
