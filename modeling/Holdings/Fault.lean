/-
# Faults

Everything that can keep a step from succeeding.  Beside aborted operations (`Abort.lean`) these
are fields that fail their check (`Detail`), data that breaks a contract (`Violation`), values that
are refused with a text (`Refusal`), and misuse that has a kind but no text: a wrong
kind of value, a missing attribute, division by zero, a byte span outside the data, a number that
is too large for its use, a file that is missing or cannot have its name, data nested too deep.
-/
import Holdings.Abort

namespace Holdings

/-! ## 1. Fields that fail their check -/

/-- What is wrong with the value of a field. -/
inductive Defect where
  | notInt
  | notText
  | notUnicode
  | below (bound : Int)
  | above (bound : Int)
  | missing
  | notEntity (kind : EntityKind)
  | frozenField
  | frozenInstance
  | unknownLevel
  | notBool
  | unreadableBool
  | unknownField (name : String)
  deriving DecidableEq, Repr, Inhabited

namespace Defect

/-- The name of a defect. -/
def label : Defect → String
  | notInt => "int_type"
  | notText => "string_type"
  | notUnicode => "string_unicode"
  | below _ => "greater_than_equal"
  | above _ => "less_than_equal"
  | missing => "missing"
  | notEntity _ => "model_type"
  | frozenField => "frozen_field"
  | frozenInstance => "frozen_instance"
  | unknownLevel => "literal_error"
  | notBool => "bool_type"
  | unreadableBool => "bool_parsing"
  | unknownField _ => "no_such_attribute"

/-- The text of a defect. -/
def message : Defect → String
  | notInt => "Input should be a valid integer"
  | notText => "Input should be a valid string"
  | notUnicode => "Input should be a valid string, unable to parse raw data as a unicode string"
  | below bound => "Input should be greater than or equal to " ++ Text.ofInt bound
  | above bound => "Input should be less than or equal to " ++ Text.ofInt bound
  | missing => "Field required"
  | notEntity kind => "Input should be a valid dictionary or instance of " ++ kind.label
  | frozenField => "Field is frozen"
  | frozenInstance => "Instance is frozen"
  | unknownLevel => "Input should be 'DEBUG', 'INFO', 'WARNING', 'ERROR' or 'CRITICAL'"
  | notBool => "Input should be a valid boolean"
  | unreadableBool => "Input should be a valid boolean, unable to interpret input"
  | unknownField name => "Object has no attribute '" ++ name ++ "'"

end Defect

/-- A defect and the names of the fields that lead to it. -/
structure Detail where
  defect : Defect
  path : List String
  deriving DecidableEq, Repr, Inhabited

/-- The detail seen from one field further out. -/
def Detail.under (field : String) (d : Detail) : Detail := { d with path := field :: d.path }

/-! ## 2. Data that breaks a contract -/

/-- How a value breaks the part of a contract that it meets. -/
inductive Breach where
  | wrongType (value : Value.Shown) (expected : String)
  | missing (name : String)
  | unexpected (names : List String)
  | tooLong (value : Value.Shown)
  | below (value : Value.Shown) (bound : Int)
  | above (value : Value.Shown) (bound : Int)
  deriving DecidableEq, Repr, Inhabited

namespace Breach

/-- The keyword of the contract that is broken. -/
def keyword : Breach → String
  | wrongType .. => "type"
  | missing _ => "required"
  | unexpected _ => "additionalProperties"
  | tooLong _ => "maxLength"
  | below .. => "minimum"
  | above .. => "maximum"

/-- The text of a breach. -/
def message : Breach → String
  | wrongType value expected => value.text ++ " is not of type '" ++ expected ++ "'"
  | missing name => Text.quote name ++ " is a required property"
  | unexpected names =>
    "Additional properties are not allowed (" ++
      Value.joinWith ", " (names.map Text.quote) ++
      (if names.length = 1 then " was" else " were") ++ " unexpected)"
  | tooLong value => value.text ++ " is too long"
  | below value bound => value.text ++ " is less than the minimum of " ++ Text.ofInt bound
  | above value bound => value.text ++ " is greater than the maximum of " ++ Text.ofInt bound

/-- Whether the text of a breach can be put together; names always can. -/
def isWritable : Breach → Bool
  | wrongType value _ => value.isWritable
  | missing _ => true
  | unexpected _ => true
  | tooLong value => value.isWritable
  | below value _ => value.isWritable
  | above value _ => value.isWritable

end Breach

/-- A breach and the names that lead to the value. -/
structure Violation where
  path : List String
  breach : Breach
  deriving DecidableEq, Repr, Inhabited

/-- The violation seen from one name further out. -/
def Violation.under (name : String) (v : Violation) : Violation := { v with path := name :: v.path }

/-! ## 3. Refused values -/

/-- Values that are refused with a text. -/
inductive Refusal where
  /-- A scalar that is no signed 64-bit word. -/
  | wideScalar (name : String) (value : Int)
  | precision (value : Int)
  | codeAfterEnd (raw : Int)
  | wideCode (code : String)
  | unknownLevel (name : String)
  | badSchema (name : String)
  | negativeCount
  | notByte
  | unknownSetting (name : String)
  /-- A name that holds the zero character. -/
  | zeroCharacter
  /-- A name that no variable of the environment can have. -/
  | variableName
  /-- A pattern that is to be read with two alphabets at once. -/
  | twoAlphabets
  /-- A numeral of too many digits that was to be read. -/
  | longNumeral (digits : Nat)
  /-- An integer of too many digits that was to be written. -/
  | longNumber
  deriving DecidableEq, Repr, Inhabited

/-- The reason not to read or write a numeral, with what is known of its length. -/
def longNumeralReason (length : String) : String :=
  "Exceeds the limit (" ++ Text.ofNat Text.maxNumeralLength ++
    " digits) for integer string conversion" ++ length ++
    "; use sys.set_int_max_str_digits() to increase the limit"

/-- A text that ends in an integer, or the reason not to write the integer. -/
def withInt (text : String) (n : Int) : String :=
  if Text.isWritable n then text ++ Text.ofInt n else longNumeralReason ""

/-- The text of a refusal. -/
def Refusal.message : Refusal → String
  | wideScalar name value => withInt (name ++ " must fit in signed 64-bit integer, got ") value
  | precision value =>
    withInt ("precision must be in [0, " ++ Text.ofNat Amount.maxPrecision ++ "], got ") value
  | codeAfterEnd raw => codeAfterEndReason raw
  | wideCode code => wideCodeReason code
  | unknownLevel name => "Unknown level: " ++ Text.quote name
  | badSchema name => "Invalid JSON Schema in " ++ name ++ ".json"
  | negativeCount => "negative count"
  | notByte => "bytes must be in range(0, 256)"
  | unknownSetting name =>
    "\"" ++ EntityKind.settings.label ++ "\" object has no field \"" ++ name ++ "\""
  | zeroCharacter => "embedded null byte"
  | variableName => "illegal environment variable name"
  | twoAlphabets => "ASCII and UNICODE flags are incompatible"
  | longNumeral digits => longNumeralReason (": value has " ++ Text.ofNat digits ++ " digits")
  | longNumber => longNumeralReason ""

/-! ## 4. Faults -/

/-- Why a step fails. -/
inductive Fault where
  | aborted (reason : Abort)
  | invalid (details : List Detail)
  | contract (violation : Violation)
  | refused (refusal : Refusal)
  /-- A scalar that is not an integer, with the name of its kind. -/
  | notScalar (name kind : String)
  | wrongKind
  | noAttribute
  | zeroDivisor
  | badSpan
  /-- An offset or a count that no machine word holds. -/
  | wideIndex
  /-- An integer or a quotient that is too large for a floating-point number. -/
  | wideNumber
  /-- More elements than there is room for. -/
  | noRoom
  | noFile
  /-- A folder where a file is wanted. -/
  | isFolder
  /-- A file where a folder is wanted. -/
  | notFolder
  /-- A name that nothing can have. -/
  | badName
  | noDirectory
  /-- The home of a user who is not known. -/
  | noHome
  | notJson
  /-- Data or a pattern that is nested too deep. -/
  | tooDeep
  /-- A pattern that looks back too far. -/
  | wideLook
  | unbound
  /-- The operation has no end. -/
  | endless
  deriving DecidableEq, Repr, Inhabited

/-- The text about a scalar that is not an integer. -/
def notScalarMessage (name kind : String) : String := name ++ " must be int, got " ++ kind

/-- An aborted operation as a step that fails. -/
def liftAbort : Except Abort α → Except Fault α
  | .ok a => .ok a
  | .error e => .error (.aborted e)

@[simp] theorem liftAbort_ok (a : α) : liftAbort (.ok a) = .ok a := rfl

@[simp] theorem liftAbort_error (e : Abort) :
    (liftAbort (.error e) : Except Fault α) = .error (.aborted e) := rfl

instance : MonadLift (Except Abort) (Except Fault) := ⟨liftAbort⟩

/-! ## 5. Numbers that cannot be written -/

/-- Stops unless the integers that a text is to hold can be written. -/
def requireWritable (isWritable : Bool) : Except Fault Unit :=
  if isWritable then .ok () else .error (.refused .longNumber)

/-- What is shown of a value, as a text that is put together. -/
def Value.Shown.written (s : Value.Shown) : Except Fault String :=
  (requireWritable s.isWritable).map fun _ => s.text

/-- A violation whose text is put together. -/
def Violation.tell (v : Violation) : Except Fault Violation :=
  (requireWritable v.breach.isWritable).map fun _ => v

theorem Violation.tell_of_isWritable {v : Violation} (h : v.breach.isWritable = true) :
    v.tell = .ok v := by
  rw [tell, h]
  rfl

theorem Violation.tell_of_not_isWritable {v : Violation} (h : v.breach.isWritable = false) :
    v.tell = .error (.refused .longNumber) := by
  rw [tell, h]
  rfl

end Holdings
