/-
# Flaws of patterns

Why a text cannot be used as a pattern.  Most texts that cannot are malformed; the other flaws are
limits that a pattern of a correct form may exceed.  Reading stops at the first flaw that it meets,
so a text has one flaw at most.
-/
namespace Holdings.Pattern

/-- Why a text cannot be used as a pattern. -/
inductive Flaw where
  /-- The text has not the form of a pattern. -/
  | malformed
  /-- A count that is too large. -/
  | wideCount
  /-- A numeral of so many digits, which are too many. -/
  | longNumeral (digits : Nat)
  /-- Two alphabets are chosen for the whole pattern. -/
  | twoAlphabets
  /-- A look behind that goes back too far. -/
  | wideLook
  /-- Groups within groups beyond the limit. -/
  | tooDeep
  deriving DecidableEq, Repr, Inhabited

/-- What is there, or the flaw of not having the form of a pattern. -/
def required : Option α → Except Flaw α
  | some a => .ok a
  | none => .error .malformed

/-- Passes if a condition holds, which it does in every text of the form of a pattern. -/
def demand (holds : Bool) : Except Flaw Unit := if holds then .ok () else .error .malformed

end Holdings.Pattern
