/-
# Aborted operations

Why an operation on quantities stops.  Each reason belongs to one kind, which stays the same
when wordings change, and has one text.  The arithmetic kinds say on which side of the
range a result would lie.

Failed checks are audited: an event with the kind and the text of the reason is written before
the operation stops.  Three reasons are found while bytes are put together or
taken apart, not by a check, and leave no event (`isAudited`).
-/
import Holdings.Entity

namespace Holdings

/-- Results are equal when both succeed or both fail with the same. -/
instance decidableEqExcept [DecidableEq ε] [DecidableEq α] : DecidableEq (Except ε α)
  | .ok a, .ok b => decidable_of_iff (a = b) (by simp)
  | .error e, .error f => decidable_of_iff (e = f) (by simp)
  | .ok _, .error _ => isFalse (by simp)
  | .error _, .ok _ => isFalse (by simp)

/-! ## 1. Kinds -/

/-- The kinds of reasons; `general` is the kind that the others are special cases of. -/
inductive AbortKind where
  | general
  | invalidSymbol
  | outOfRange
  | symbolMismatch
  | ownerMismatch
  | divideByZero
  | overflow
  | underflow
  | codec
  deriving DecidableEq, Repr, Inhabited

namespace AbortKind

/-- The name of a kind in events and answers. -/
def label : AbortKind → String
  | general => "asset_error"
  | invalidSymbol => "invalid_symbol"
  | outOfRange => "out_of_range"
  | symbolMismatch => "symbol_mismatch"
  | ownerMismatch => "owner_mismatch"
  | divideByZero => "divide_by_zero"
  | overflow => "overflow"
  | underflow => "underflow"
  | codec => "codec"

/-- The kind that a kind is a special case of. -/
def parent? : AbortKind → Option AbortKind
  | general => none
  | _ => some general

end AbortKind

/-! ## 2. Reasons -/

/-- The operations whose result may leave the range. -/
inductive Operation where
  | addition
  | subtraction
  | multiplication
  deriving DecidableEq, Repr, Inhabited

/-- What two quantities of different symbols were to be used for. -/
inductive Pairing where
  | add
  | subtract
  | compare
  deriving DecidableEq, Repr, Inhabited

/-- The reasons to stop an operation. -/
inductive Abort where
  | invalidSymbol
  | outOfRange
  | symbolMismatch (pairing : Pairing)
  | ownerMismatch
  | divideByZero
  | overflow (op : Operation)
  | underflow (op : Operation)
  /-- The one quotient of two words that is no word. -/
  | quotientOverflow
  /-- Fewer bytes than a field needs. -/
  | truncated (need : Nat) (offset have_ : Int)
  /-- Bytes left over after the last field. -/
  | trailing (count : Int) (kind : EntityKind)
  /-- A value that does not fit the format of a field. -/
  | unencodable (value format why : String)
  /-- A symbol word with code bytes after the end of its code. -/
  | codeAfterEnd (raw : Int)
  /-- A code that does not fit a symbol word. -/
  | wideCode (code : String)
  /-- A reason given in words. -/
  | stated (kind : AbortKind) (reason : String)
  deriving DecidableEq, Repr, Inhabited

/-- The name of an operation in reasons. -/
def Operation.label : Operation → String
  | addition => "addition"
  | subtraction => "subtraction"
  | multiplication => "multiplication"

/-- The reason not to pair quantities of different symbols. -/
def Pairing.reason : Pairing → String
  | add => "attempt to add asset with different symbol"
  | subtract => "attempt to subtract asset with different symbol"
  | compare => "comparison of assets with different symbols is not allowed"

/-- The reason not to read a symbol word with code bytes after the end of its code. -/
def codeAfterEndReason (raw : Int) : String :=
  "symbol raw value " ++ String.ofList (Text.signedHex raw) ++ " has code bytes after terminator"

/-- The reason not to put a code into a symbol word. -/
def wideCodeReason (code : String) : String :=
  "symbol code " ++ Text.quote code ++ " cannot be encoded"

namespace Abort

/-- The kind of a reason. -/
def kind : Abort → AbortKind
  | invalidSymbol => .invalidSymbol
  | outOfRange => .outOfRange
  | symbolMismatch _ => .symbolMismatch
  | ownerMismatch => .ownerMismatch
  | divideByZero => .divideByZero
  | overflow _ => .overflow
  | quotientOverflow => .overflow
  | underflow _ => .underflow
  | truncated .. => .codec
  | trailing .. => .codec
  | unencodable .. => .codec
  | codeAfterEnd _ => .codec
  | wideCode _ => .codec
  | stated k _ => k

/-- The text of a reason. -/
def reason : Abort → String
  | invalidSymbol => "invalid symbol name"
  | outOfRange => "magnitude of asset amount must be less than 2^62"
  | symbolMismatch p => p.reason
  | ownerMismatch => "type mismatch"
  | divideByZero => "divide by zero"
  | overflow op => op.label ++ " overflow"
  | quotientOverflow => "signed division overflow"
  | underflow op => op.label ++ " underflow"
  | truncated need offset have_ =>
    "truncated data: need " ++ Text.ofNat need ++ " bytes at offset " ++ Text.ofInt offset ++
      ", have " ++ Text.ofInt have_
  | trailing count kind => "trailing bytes: " ++ Text.ofInt count ++ " after " ++ kind.label
  | unencodable value format why =>
    "cannot encode " ++ value ++ " as " ++ format ++ ": " ++ why
  | codeAfterEnd raw => codeAfterEndReason raw
  | wideCode code => wideCodeReason code
  | stated _ text => text

/-- Whether the reason is found by a check, which writes an event. -/
def isAudited : Abort → Bool
  | unencodable .. => false
  | codeAfterEnd _ => false
  | wideCode _ => false
  | _ => true

/-- Stops with a reason unless a condition holds. -/
def require (condition : Bool) (a : Abort) : Except Abort Unit :=
  if condition then .ok () else .error a

theorem require_eq_ok_iff {condition : Bool} {a : Abort} :
    require condition a = .ok () ↔ condition = true := by
  cases condition <;> simp [require]

end Abort

end Holdings
