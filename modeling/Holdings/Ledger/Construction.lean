/-
# Building objects

An entity is built from values by the checks of `Entity/Fields.lean`.  What remains to be said here
is which objects the new one shares: a symbol, an identity or a contract that is given as an object
is kept, one that is given by its fields is made anew.  The quantity of a holding is never kept:
every holding gets a quantity of its own, which shares only the symbol of the one that was given.
-/
import Holdings.Ledger.World
import Holdings.Entity.Records
import Holdings.Wire.Codec

namespace Holdings.Ledger

open Act

/-! ## 1. What is kept -/

/-- The symbol that was given, or a new one. -/
def keepSymbol (given : Option Item) (s : Symbol) : Act (Tagged Symbol) :=
  match given with
  | some (.object (.symbol t)) => pure t
  | _ => newTagged s

/-- The identity that was given, or a new one. -/
def keepIdentity (given : Option Item) (i : Identity) : Act (Tagged Identity) :=
  match given with
  | some (.object (.identity t)) => pure t
  | _ => newTagged i

/-- A new quantity of a given one or of its fields. -/
def copyQuantity (given : Item) (q : Quantity) : Act Nat := do
  match given with
  | .object (.quantity r) => newQuantity ⟨q.amount, (← quantityCell r).symbol⟩
  | .dict fields =>
    let t ← keepSymbol (fields.lookup "symbol") q.symbol
    newQuantity ⟨q.amount, t⟩
  | _ =>
    let t ← newTagged q.symbol
    newQuantity ⟨q.amount, t⟩

/-! ## 2. Objects of a known content -/

/-- A new symbol. -/
def placeSymbol (s : Symbol) : Act Item := do return .object (.symbol (← newTagged s))

/-- A new identity. -/
def placeIdentity (i : Identity) : Act Item := do return .object (.identity (← newTagged i))

/-- A new quantity with a new symbol. -/
def placeQuantity (q : Quantity) : Act Item := do
  let t ← newTagged q.symbol
  return .object (.quantity (← newQuantity ⟨q.amount, t⟩))

/-- A new holding, all of it new. -/
def placeHolding (h : Holding) : Act Item := do
  let t ← newTagged h.quantity.symbol
  let q ← newQuantity ⟨h.quantity.amount, t⟩
  let owner ← newTagged h.owner
  return .object (.holding (← newHolding ⟨q, owner⟩))

/-- A new issued symbol of two objects. -/
def placeIssuedSymbol (s : Tagged Symbol) (c : Tagged Identity) : Act Item := do
  let t ← newTagged ()
  return .object (.issuedSymbol t.tag s c)

/-- New settings. -/
def placeSettings (s : Settings) : Act Item := do return .object (.settings (← newSettings s))

/-- A new object of any content. -/
def placeEntity : Entity → Act Item
  | .symbol s => placeSymbol s
  | .identity i => placeIdentity i
  | .issuedSymbol s => do placeIssuedSymbol (← newTagged s.symbol) (← newTagged s.contract)
  | .quantity q => placeQuantity q
  | .holding h => placeHolding h
  | .settings s => placeSettings s

/-! ## 3. Objects from values -/

/-- Named values with the contents of their objects. -/
def dataOf (h : Heap) (named : List (String × Item)) : Fields :=
  named.map fun p => (p.1, h.datum p.2)

/-- A quantity from an amount and a symbol. -/
def buildQuantity (amount symbol : Item) : Act Item := do
  let q ← perform (Quantity.check (← datum amount) (← datum symbol)).toExcept
  let t ← keepSymbol (some symbol) q.symbol
  return .object (.quantity (← newQuantity ⟨q.amount, t⟩))

/-- A holding from a quantity and an owner. -/
def buildHolding (quantity owner : Item) : Act Item := do
  let h ← perform (Holding.check (← datum quantity) (← datum owner)).toExcept
  let q ← copyQuantity quantity h.quantity
  let t ← keepIdentity (some owner) h.owner
  return .object (.holding (← newHolding ⟨q, t⟩))

/-- An issued symbol from its fields. -/
def buildIssuedSymbol (named : List (String × Item)) : Act Item := do
  let s ← perform (IssuedSymbol.ofFields (dataOf (← get).heap named)).toExcept
  let t ← keepSymbol (named.lookup "symbol") s.symbol
  let c ← keepIdentity (named.lookup "contract") s.contract
  placeIssuedSymbol t c

/-- Settings that the environment has under named values. -/
def findSettings (named : Fields) : Act Settings := do
  let o ← perform (Settings.Options.ofNamed named)
  let (verdict, notices) ← perform ((← get).environment.settings o named)
  notify notices
  perform verdict.toExcept

/-- Settings from values in order and by name, and the environment. -/
def buildSettings (args : List Item) (named : List (String × Item)) : Act Item := do
  let named ← perform (Settings.Options.nameAll args named)
  placeSettings (← findSettings (dataOf (← get).heap named))

/-- An object of a kind from values in order and by name. -/
def build (kind : EntityKind) (args : List Item) (named : List (String × Item)) : Act Item := do
  match kind with
  | .quantity =>
    let (amount, symbol) ← perform (Fields.bindTwo "amount" "symbol" args named)
    buildQuantity amount symbol
  | .holding =>
    let (quantity, owner) ← perform (Fields.bindTwo "quantity" "owner" args named)
    buildHolding quantity owner
  | .settings => buildSettings args named
  | kind =>
    if !args.isEmpty then throw .wrongKind
    match kind with
    | .issuedSymbol => buildIssuedSymbol named
    | kind =>
      let e ← perform (Entity.ofCall kind [] (dataOf (← get).heap named)).toExcept
      placeEntity e

/-! ## 4. Objects from bytes and data -/

/-- More bytes than any entity is written in. -/
def manyBytes : Nat := 64

/-- The bytes that a value stands for: bytes as they are, a count of zeros, a list of bytes.  Zeros
past the longest layout are left out: the symbol among the first ones is not valid, so what
follows is never read. -/
def bytesOf : Datum → Except Fault Wire.Bytes
  | .bytes bs => .ok bs
  | .list xs => xs.mapM fun x =>
    match x.asInt? with
    | some n => if 0 ≤ n ∧ n < 256 then .ok (UInt8.ofNat n.toNat) else .error (.refused .notByte)
    | none => .error .wrongKind
  | .dict [] => .ok []
  | v =>
    match v.asInt? with
    | some n =>
      if !Amount.isWord n then .error .wideIndex
      else if n < 0 then .error (.refused .negativeCount)
      else .ok (List.replicate (min n.toNat manyBytes) 0)
    | none => .error .wrongKind

/-- The object that a whole string of bytes stands for. -/
def readBytes (kind : EntityKind) (fields : List (String × Wire.Codec)) (data : Wire.Bytes) :
    Act Item := do
  let (e, size) ← perform (Wire.decodeEntity kind fields data)
  report (.decoded kind size)
  placeEntity e

/-- The quantity that plain data stands for. -/
def readQuantity (v : Datum) : Act Item := do placeQuantity (← perform (Quantity.ofValue v))

/-- The holding that plain data stands for. -/
def readHolding (v : Datum) : Act Item := do placeHolding (← perform (Holding.ofValue v))

/-- A holding of an amount of an issued symbol. -/
def buildIssued (amount issued : Item) : Act Item := do
  match issued with
  | .object (.issuedSymbol _ s c) =>
    let q ← buildQuantity amount (.object (.symbol s))
    buildHolding q (.object (.identity c))
  | _ => throw .noAttribute

end Holdings.Ledger
