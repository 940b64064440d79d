/-
# Codecs

A codec tells how a value stands in a string of bytes.  An integer, a symbol and an identity are
leaves; a record is the row of its named fields, without anything between or around them, and
may be a field of another record.

Writing takes the attributes of an entity in the order of the fields.  Reading collects
the fields under their names, a later one replacing an earlier one of the same name, and
builds the entity from them with all its checks; only then is it known whether bytes are left
over.
-/
import Holdings.Entity.Fields
import Holdings.Symbol.Word
import Holdings.Wire.Word

namespace Holdings

/-! ## 1. Attributes -/

/-- The value of an attribute of an entity. -/
def Entity.attribute? : Entity → String → Option Datum
  | .symbol s, "code_value" => some (.text s.code)
  | .symbol s, "precision_value" => some (.int s.precision.toNat)
  | .identity i, "value" => some (.int i.value.toNat)
  | .issuedSymbol s, "symbol" => some (.object (.symbol s.symbol))
  | .issuedSymbol s, "contract" => some (.object (.identity s.contract))
  | .quantity q, "amount" => some (.int q.amount)
  | .quantity q, "symbol" => some (.object (.symbol q.symbol))
  | .holding h, "quantity" => some (.object (.quantity h.quantity))
  | .holding h, "owner" => some (.object (.identity h.owner))
  | .settings s, "log_level" => some (.ofPlain s.logLevel)
  | .settings s, "log_json" => some (.ofPlain s.logJson)
  | _, _ => none

/-- The value of an attribute of any value; plain data has none. -/
def Datum.attribute? : Datum → String → Option Datum
  | .object e, name => e.attribute? name
  | _, _ => none

namespace Wire

/-! ## 2. Leaves -/

/-- The word of a symbol whose code fits. -/
def encodeSymbol (s : Symbol) : Except Fault Bytes :=
  match s.toWord? with
  | some n => WordFormat.uint64.encode (.int n)
  | none => .error (.aborted (.wideCode s.code))

/-- The symbol of a word at an offset, and the offset behind it. -/
def decodeSymbol (data : Bytes) (offset : Int) : Except Fault (Symbol × Int) := do
  let (raw, next) ← WordFormat.uint64.decode data offset
  match Symbol.scanWord raw with
  | .ok s => .ok (s, next)
  | .error .afterEnd => .error (.aborted (.codeAfterEnd raw))
  | .error .endless => .error .endless

/-- The word of an identity. -/
def encodeIdentity (i : Identity) : Except Fault Bytes :=
  WordFormat.uint64.encode (.int i.value.toNat)

/-- The identity of a word at an offset, and the offset behind it. -/
def decodeIdentity (data : Bytes) (offset : Int) : Except Fault (Identity × Int) := do
  let (n, next) ← WordFormat.uint64.decode data offset
  let i ← (Identity.ofFields [("value", .int n)]).toExcept
  return (i, next)

/-! ## 3. Trees of codecs -/

/-- How a value stands in a string of bytes. -/
inductive Codec where
  | word (format : WordFormat)
  | symbol
  | identity
  | record (kind : EntityKind) (fields : List (String × Codec))
  deriving Inhabited

/-- The number of bytes of an integer codec; the others have none of their own. -/
def Codec.size? : Codec → Option Nat
  | .word f => some f.size
  | _ => none

mutual

/-- The bytes of a value. -/
def Codec.encode : Codec → Datum → Except Fault Bytes
  | .word f, v => f.encode v
  | .symbol, v =>
    match v with
    | .object (.symbol s) => encodeSymbol s
    | _ => .error .noAttribute
  | .identity, v =>
    match v with
    | .object (.identity i) => encodeIdentity i
    | _ => .error .noAttribute
  | .record _ fields, v => Codec.encodeFields fields v

/-- The bytes of attributes of a value, one after the other. -/
def Codec.encodeFields : List (String × Codec) → Datum → Except Fault Bytes
  | [], _ => .ok []
  | (name, codec) :: rest, v => do
    match v.attribute? name with
    | none => .error .noAttribute
    | some x =>
      let front ← codec.encode x
      let back ← Codec.encodeFields rest v
      return front ++ back

end

mutual

/-- The value at an offset, and the offset behind it. -/
def Codec.decode : Codec → Bytes → Int → Except Fault (Datum × Int)
  | .word f, data, offset => (f.decode data offset).map fun p => (.int p.1, p.2)
  | .symbol, data, offset => (decodeSymbol data offset).map fun p => (.object (.symbol p.1), p.2)
  | .identity, data, offset =>
    (decodeIdentity data offset).map fun p => (.object (.identity p.1), p.2)
  | .record kind fields, data, offset => do
    let (values, next) ← Codec.decodeFields fields [] data offset
    let e ← (Entity.ofCall kind [] values).toExcept
    return (.object e, next)

/-- The values of fields from an offset on, behind those read before, and the offset behind. -/
def Codec.decodeFields :
    List (String × Codec) → Fields → Bytes → Int → Except Fault (Fields × Int)
  | [], values, _, offset => .ok (values, offset)
  | (name, codec) :: rest, values, data, offset => do
    let (v, next) ← codec.decode data offset
    Codec.decodeFields rest (Value.putEntry name v values) data next

end

/-- The entity that a whole string of bytes stands for, and the number of bytes. -/
def decodeEntity (kind : EntityKind) (fields : List (String × Codec)) (data : Bytes) :
    Except Fault (Entity × Int) := do
  let (values, next) ← Codec.decodeFields fields [] data 0
  let e ← (Entity.ofCall kind [] values).toExcept
  liftAbort (Abort.require (next == (data.length : Int))
    (.trailing ((data.length : Int) - next) kind))
  return (e, next)

/-! ## 4. The layouts of quantities and holdings -/

/-- A quantity stands as its amount and the word of its symbol. -/
def quantityFields : List (String × Codec) := [("amount", .word .int64), ("symbol", .symbol)]

/-- A holding stands as its quantity and the word of its owner. -/
def holdingFields : List (String × Codec) :=
  [("quantity", .record .quantity quantityFields), ("owner", .identity)]

end Wire

/-- The bytes of a quantity. -/
def Quantity.pack (q : Quantity) : Except Fault Wire.Bytes :=
  Wire.Codec.encodeFields Wire.quantityFields (.object (.quantity q))

/-- The quantity that a string of bytes stands for. -/
def Quantity.unpack (data : Wire.Bytes) : Except Fault Quantity :=
  match Wire.decodeEntity .quantity Wire.quantityFields data with
  | .ok (.quantity q, _) => .ok q
  | .ok _ => .error .wrongKind
  | .error e => .error e

/-- The bytes of a holding. -/
def Holding.pack (h : Holding) : Except Fault Wire.Bytes :=
  Wire.Codec.encodeFields Wire.holdingFields (.object (.holding h))

/-- The holding that a string of bytes stands for. -/
def Holding.unpack (data : Wire.Bytes) : Except Fault Holding :=
  match Wire.decodeEntity .holding Wire.holdingFields data with
  | .ok (.holding h, _) => .ok h
  | .ok _ => .error .wrongKind
  | .error e => .error e

example : Quantity.unpack [7, 0, 0, 0, 0, 0, 0, 0, 4, 83, 89, 83, 0, 0, 0, 0] =
    .ok ⟨7, ⟨"SYS", 4⟩⟩ := by decide +kernel

end Holdings
