/-
# Issued symbols

Two contracts may each issue a token under the same symbol.  An issued symbol tells them apart by
naming the contract.
-/
import Holdings.Symbol
import Holdings.Identity

namespace Holdings

/-- A symbol together with the contract that issues the token. -/
structure IssuedSymbol where
  symbol : Symbol
  contract : Identity
  deriving DecidableEq, Repr, Inhabited

namespace IssuedSymbol

/-- What stands between a token and its owner in text. -/
def separator : String := "@"

/-- The symbol and the contract, with the separator between. -/
def text (s : IssuedSymbol) : String := s.symbol.text ++ separator ++ s.contract.text

end IssuedSymbol

end Holdings
