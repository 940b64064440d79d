/-
# Methods

What can be asked of an object by name.  Quantities and holdings are changed in place by the methods
that end in assign, shown, written and copied; symbols tell their parts and their word.  A method that an
object does not have is a missing attribute, a wrong number of arguments is misuse.

An operand of another kind is looked at only as far as the method asks for one of its attributes: adding
an issued symbol to a quantity compares the symbols before the missing amount is noticed.
-/
import Holdings.Ledger.Attributes
import Holdings.Ledger.Term

namespace Holdings.Ledger

open Act

/-- The methods of objects. -/
inductive Method where
  | setAmount
  | addAssign
  | subAssign
  | mulAssign
  | divAssign
  | divide
  | negate
  | copyValue
  | isInRange
  | isValid
  | toText
  | print
  | toRecord
  | pack
  | issuedSymbol
  | code
  | precision
  | raw
  | symbol
  | contract
  | unknown
  deriving DecidableEq, Repr, Inhabited

/-! ## 1. Quantities -/

/-- Whether a value compares as an amount in range; only numbers do. -/
def comparesInRange : Datum → Except Fault Bool
  | .float x =>
    .ok (((x.compareInt (-Amount.limit)).map fun o => o != .lt).getD false &&
      ((x.compareInt Amount.limit).map fun o => o != .gt).getD false)
  | v =>
    match v.asInt? with
    | some n => .ok (Amount.inRange n)
    | none => .error .wrongKind

/-- The amount that a value sets: it must compare as one first and be an integer then. -/
def amountToSet (v : Datum) : Except Fault Int := do
  let inRange ← comparesInRange v
  liftAbort (Abort.require inRange .outOfRange)
  (v.checkAmount.under "amount").toExcept

/-- Adds or subtracts in place what a value stands for. -/
def combineAssign (subtract : Bool) (r : Nat) (v : Item) : Act Item := do
  match v with
  | .object (.quantity s) =>
    assign r (← performAbort (combine subtract (← quantity r) (← quantity s)))
  | .object (.issuedSymbol _ s _) =>
    let pairing := if subtract then Pairing.subtract else .add
    performAbort ((← quantity r).requireSame ⟨0, s.val⟩ pairing)
    throw .noAttribute
  | _ => throw .noAttribute

/-- Multiplies or divides in place by what a value stands for. -/
def rescaleAssign (divide : Bool) (r : Nat) (v : Item) : Act Item := do
  let k ← perform (Scalar.ofDatum Scalar.defaultName (← datum v))
  assign r (← perform (rescale divide (← quantity r) k))

/-- A method of a quantity. -/
def quantityMethod (r : Nat) (m : Method) (args : List Item) : Act Item := do
  match m, args with
  | .setAmount, [v] =>
    let a ← perform (amountToSet (← datum v))
    writeAmount r a
    return .null
  | .addAssign, [v] => combineAssign false r v
  | .subAssign, [v] => combineAssign true r v
  | .mulAssign, [v] => rescaleAssign false r v
  | .divAssign, [v] => rescaleAssign true r v
  | .divide, [v] =>
    match v with
    | .object (.quantity s) => return .int (← performAbort ((← quantity r).ratio (← quantity s)))
    | _ => throw .noAttribute
  | .negate, [] => Ledger.negate (.object (.quantity r))
  | .copyValue, [] => newLike r (← quantity r)
  | .isInRange, [] => return .bool (← quantity r).inRange
  | .isValid, [] => return .bool (← quantity r).isValid
  | .toText, [] => return .text (← perform (← quantity r).text)
  | .print, [] =>
    report (.quantityShown (← perform (← quantity r).text))
    return .null
  | .toRecord, [] => return (← quantity r).toValue
  | .pack, [] => return .bytes (← perform (← quantity r).pack)
  | .unknown, _ | .issuedSymbol, _ | .code, _ | .precision, _ | .raw, _ | .symbol, _
  | .contract, _ => throw .noAttribute
  | _, _ => throw .wrongKind

/-! ## 2. Holdings -/

/-- Adds or subtracts in place what a value stands for. -/
def combineHoldingAssign (subtract : Bool) (r : Nat) (v : Item) : Act Item := do
  match v with
  | .object (.holding s) =>
    assignHolding r (← performAbort (combineHoldings subtract (← holding r) (← holding s)))
  | _ => throw .noAttribute

/-- A method of a holding. -/
def holdingMethod (r : Nat) (m : Method) (args : List Item) : Act Item := do
  match m, args with
  | .addAssign, [v] => combineHoldingAssign false r v
  | .subAssign, [v] => combineHoldingAssign true r v
  | .negate, [] => Ledger.negate (.object (.holding r))
  | .toText, [] => return .text (← perform (← holding r).text)
  | .print, [] =>
    report (.holdingShown (← perform (← holding r).text))
    return .null
  | .toRecord, [] => return (← holding r).toValue
  | .pack, [] => return .bytes (← perform (← holding r).pack)
  | .issuedSymbol, [] =>
    let c ← holdingCell r
    placeIssuedSymbol (← quantityCell c.quantity).symbol c.owner
  | .addAssign, _ | .subAssign, _ | .negate, _ | .toText, _ | .print, _ | .toRecord, _
  | .pack, _ | .issuedSymbol, _ => throw .wrongKind
  | _, _ => throw .noAttribute

/-! ## 3. Symbols -/

/-- A method of a symbol. -/
def symbolMethod (s : Symbol) (m : Method) (args : List Item) : Except Fault Item :=
  match m, args with
  | .code, [] => .ok (.text s.code)
  | .precision, [] => .ok (.int s.precision.toNat)
  | .isValid, [] => .ok (.bool s.isValid)
  | .raw, [] => s.raw.map fun n => .int n
  | .code, _ | .precision, _ | .isValid, _ | .raw, _ => .error .wrongKind
  | _, _ => .error .noAttribute

/-- A method of any value. -/
def callMethod (v : Item) (m : Method) (args : List Item) : Act Item := do
  match v with
  | .object (.quantity r) => quantityMethod r m args
  | .object (.holding r) => holdingMethod r m args
  | .object (.symbol s) => perform (symbolMethod s.val m args)
  | .object (.issuedSymbol _ s c) =>
    match m, args with
    | .symbol, [] => return .object (.symbol s)
    | .contract, [] => return .object (.identity c)
    | .symbol, _ | .contract, _ => throw .wrongKind
    | _, _ => throw .noAttribute
  | _ => throw .noAttribute

/-! ## 4. Makers -/

/-- What makes an object of a kind without one at hand. -/
inductive Maker where
  | nullSymbol
  | symbolOfRaw
  | empty (kind : EntityKind)
  | ofRecord (kind : EntityKind)
  | unpack (kind : EntityKind)
  | holdingOfIssued
  | unknown
  deriving DecidableEq, Repr, Inhabited

/-- The symbol of a value that counts as an integer. -/
def symbolOfRaw (v : Item) : Act Item := do
  match v.asInt? with
  | some n => placeSymbol (← perform (Symbol.ofRaw n))
  | none => throw .wrongKind

/-- Makes an object. -/
def make (m : Maker) (args : List Item) : Act Item := do
  match m, args with
  | .nullSymbol, [] => placeSymbol Symbol.null
  | .symbolOfRaw, [v] => symbolOfRaw v
  | .empty .quantity, [] => placeQuantity Quantity.empty
  | .empty .holding, [] => placeHolding Holding.empty
  | .ofRecord .quantity, [v] => readQuantity (← datum v)
  | .ofRecord .holding, [v] => readHolding (← datum v)
  | .unpack .quantity, [v] =>
    readBytes .quantity Wire.quantityFields (← perform (bytesOf (← datum v)))
  | .unpack .holding, [v] =>
    readBytes .holding Wire.holdingFields (← perform (bytesOf (← datum v)))
  | .holdingOfIssued, [amount, issued] => buildIssued amount issued
  | .unknown, _ => throw .noAttribute
  | _, _ => throw .wrongKind

/-! ## 5. Text and round trips -/

/-- A value as text of its own. -/
def display (v : Item) : Act Item := do
  match v with
  | .object (.quantity r) => return .text (← perform (← quantity r).text)
  | .object (.holding r) => return .text (← perform (← holding r).text)
  | .object (.symbol s) => return .text s.val.text
  | .object (.identity i) => return .text i.val.text
  | .object (.issuedSymbol _ s c) => return .text (IssuedSymbol.text ⟨s.val, c.val⟩)
  | .object (.settings r) =>
    return .text (← perform (Entity.settingsText ((← get).heap.settings.get r)).written)
  | v => return .text (← perform (← datum v).display.written)

/-- What is read back from the bytes of an object, and what is read back from its plain data. -/
def roundTrip (v : Item) : Act Item := do
  match v with
  | .object (.quantity r) =>
    let q ← quantity r
    let a ← readBytes .quantity Wire.quantityFields (← perform q.pack)
    let b ← readQuantity q.toValue
    return .list [a, b]
  | .object (.holding r) =>
    let h ← holding r
    let a ← readBytes .holding Wire.holdingFields (← perform h.pack)
    let b ← readHolding h.toValue
    return .list [a, b]
  | _ => throw .noAttribute

end Holdings.Ledger
