/-
# Entities from fields

How entities are built from values that may be anything.  A field takes an entity of its kind as it
is, or a dictionary of the fields of one; numbers and texts are not converted into each other,
except that bytes in UTF-8 are a text.

* Symbols, identities and issued symbols are built from named fields only; a name that no
  field has is ignored, an absent field is a defect.
* Quantities and holdings are built from two values in order or by name; a value too many,
  too few or given twice is misuse, not a defect.
* The amount of a new quantity must be in range and its symbol valid: both checks abort.

A symbol given as an entity has been checked when it was built, so a quantity is checked again
only for what a symbol alone may violate; a quantity given as an entity is taken as it is, empty
or not.
-/
import Holdings.Amount.Checked
import Holdings.Entity.Verdict

namespace Holdings

/-! ## 1. Leaves -/

namespace Datum

/-- A text, or bytes that are the UTF-8 form of one. -/
def checkText : Datum → Verdict String
  | .text s => .valid s
  | .bytes bs =>
    match String.fromUTF8? ⟨bs.toArray⟩ with
    | some s => .valid s
    | none => .defect .notUnicode
  | _ => .defect .notText

/-- An integer between two bounds. -/
def checkIntBetween (low high : Int) : Datum → Verdict Int
  | .int n =>
    if n < low then .defect (.below low)
    else if high < n then .defect (.above high)
    else .valid n
  | _ => .defect .notInt

/-- An integer in the range of amounts. -/
def checkAmount : Datum → Verdict Int
  | .int n => .ofAbort (Amount.check n)
  | _ => .defect .notInt

end Datum

namespace Fields

/-- The check of the value under the first of some names that is there; `label` stands for the
field when none is. -/
def check (fields : Fields) (label : String) (f : Datum → Verdict α) : List String → Verdict α
  | [] => (Verdict.defect .missing).under label
  | name :: names =>
    match fields.lookup name with
    | some v => (f v).under name
    | none => check fields label f names

/-- The check of the value of a field with one name. -/
def checkField (fields : Fields) (name : String) (f : Datum → Verdict α) : Verdict α :=
  fields.check name f [name]

/-- Two values given in order or by name. -/
def bindTwo (first second : String) (args : List α) (named : List (String × α)) :
    Except Fault (α × α) :=
  if (named.lookup "self").isSome then .error .wrongKind
  else
    match args, named.lookup first, named.lookup second with
    | [], some a, some b => .ok (a, b)
    | [a], none, some b => .ok (a, b)
    | [a, b], none, none => .ok (a, b)
    | _, _, _ => .error .wrongKind

end Fields

/-! ## 2. Symbols and identities -/

/-- A symbol from its fields.  Each may be called by its short or by its long name. -/
def Symbol.ofFields (fields : Fields) : Verdict Symbol :=
  (Verdict.both
    (fields.check "code" Datum.checkText ["code", "code_value"])
    (fields.check "precision" (Datum.checkIntBetween 0 255) ["precision", "precision_value"])).map
      fun p => ⟨p.1, UInt8.ofNat p.2.toNat⟩

/-- An identity from its field. -/
def Identity.ofFields (fields : Fields) : Verdict Identity :=
  (fields.checkField "value" (Datum.checkIntBetween 0 maxValue)).map
    fun n => ⟨UInt64.ofNat n.toNat⟩

namespace Datum

/-- A symbol or the fields of one. -/
def checkSymbol : Datum → Verdict Symbol
  | .object (.symbol s) => .valid s
  | .dict fields => Symbol.ofFields fields
  | _ => .defect (.notEntity .symbol)

/-- An identity or the fields of one. -/
def checkIdentity : Datum → Verdict Identity
  | .object (.identity i) => .valid i
  | .dict fields => Identity.ofFields fields
  | _ => .defect (.notEntity .identity)

/-- A valid symbol; any other aborts. -/
def checkValidSymbol (v : Datum) : Verdict Symbol :=
  v.checkSymbol.bind fun s =>
    .ofAbort ((Abort.require s.isValid .invalidSymbol).map fun _ => s)

end Datum

/-- An issued symbol from its fields. -/
def IssuedSymbol.ofFields (fields : Fields) : Verdict IssuedSymbol :=
  (Verdict.both (fields.checkField "symbol" Datum.checkSymbol)
    (fields.checkField "contract" Datum.checkIdentity)).map fun p => ⟨p.1, p.2⟩

/-! ## 3. Quantities and holdings -/

/-- A quantity from its amount and its symbol. -/
def Quantity.check (amount symbol : Datum) : Verdict Quantity :=
  (Verdict.both (amount.checkAmount.under "amount") (symbol.checkValidSymbol.under "symbol")).map
    fun p => ⟨p.1, p.2⟩

/-- A quantity from values in order or by name. -/
def Quantity.ofCall (args : List Datum) (named : Fields) : Verdict Quantity :=
  match Fields.bindTwo "amount" "symbol" args named with
  | .ok (amount, symbol) => Quantity.check amount symbol
  | .error e => .stopped e

/-- A quantity or the fields of one. -/
def Datum.checkQuantity : Datum → Verdict Quantity
  | .object (.quantity q) => .valid q
  | .dict fields => Quantity.ofCall [] fields
  | _ => .defect (.notEntity .quantity)

/-- A holding from its quantity and its owner. -/
def Holding.check (quantity owner : Datum) : Verdict Holding :=
  (Verdict.both (quantity.checkQuantity.under "quantity") (owner.checkIdentity.under "owner")).map
    fun p => ⟨p.1, p.2⟩

/-- A holding from values in order or by name. -/
def Holding.ofCall (args : List Datum) (named : Fields) : Verdict Holding :=
  match Fields.bindTwo "quantity" "owner" args named with
  | .ok (quantity, owner) => Holding.check quantity owner
  | .error e => .stopped e

/-- A quantity of an amount and a symbol, both checked. -/
def Quantity.make (amount : Int) (symbol : Symbol) : Except Fault Quantity :=
  (Quantity.check (.int amount) (.object (.symbol symbol))).toExcept

/-! ## 4. By kind -/

/-- Values that are named, or refused if some are not. -/
def Verdict.ofNamed (f : Fields → Verdict α) (args : List Datum) (named : Fields) : Verdict α :=
  if args.isEmpty then f named else .stopped .wrongKind

/-- An entity of a kind from values in order and by name.  Settings are not built from fields
alone. -/
def Entity.ofCall (kind : EntityKind) (args : List Datum) (named : Fields) : Verdict Entity :=
  match kind with
  | .symbol => (Verdict.ofNamed Symbol.ofFields args named).map .symbol
  | .identity => (Verdict.ofNamed Identity.ofFields args named).map .identity
  | .issuedSymbol => (Verdict.ofNamed IssuedSymbol.ofFields args named).map .issuedSymbol
  | .quantity => (Quantity.ofCall args named).map .quantity
  | .holding => (Holding.ofCall args named).map .holding
  | .settings => .stopped .wrongKind

end Holdings
