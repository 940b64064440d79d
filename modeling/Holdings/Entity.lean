/-
# Entities

The objects that values may hold: symbols, identities, issued symbols, quantities, holdings and
settings.  An `Entity` is the content of such an object at one moment; which object it is
the content of, and who shares it, is the matter of `Ledger/Heap.lean`.
-/
import Holdings.Holding
import Holdings.Settings
import Holdings.Value.Text

namespace Holdings

/-! ## 1. Kinds -/

/-- The kinds of entities. -/
inductive EntityKind where
  | symbol
  | identity
  | issuedSymbol
  | quantity
  | holding
  | settings
  deriving DecidableEq, Repr, Inhabited

/-- The name of a kind in messages, events and byte layouts. -/
def EntityKind.label : EntityKind → String
  | symbol => "Symbol"
  | identity => "Identity"
  | issuedSymbol => "ExtendedSymbol"
  | quantity => "Quantity"
  | holding => "OwnedQuantity"
  | settings => "LedgerSettings"

/-- The content of an object. -/
inductive Entity where
  | symbol (s : Symbol)
  | identity (i : Identity)
  | issuedSymbol (s : IssuedSymbol)
  | quantity (q : Quantity)
  | holding (h : Holding)
  | settings (s : Settings)
  deriving Inhabited

/-- Plain data with entities among its leaves. -/
abbrev Datum := Value Entity

/-- Named values, in order. -/
abbrev Fields := List (String × Datum)

namespace Entity

/-- The kind of an entity. -/
def kind : Entity → EntityKind
  | symbol _ => .symbol
  | identity _ => .identity
  | issuedSymbol _ => .issuedSymbol
  | quantity _ => .quantity
  | holding _ => .holding
  | settings _ => .settings

/-! ## 2. Text -/

/-- Named fields in parentheses behind the name of a kind. -/
def withFields (kind : EntityKind) (fields : List (String × String)) : String :=
  kind.label ++ "(" ++ Value.joinWith ", " (fields.map fun f => f.1 ++ "=" ++ f.2) ++ ")"

/-- A symbol by its fields. -/
def shownSymbol (s : Symbol) : String :=
  withFields .symbol
    [("code_value", Text.quote s.code), ("precision_value", Text.ofNat s.precision.toNat)]

/-- An identity by its field. -/
def shownIdentity (i : Identity) : String := withFields .identity [("value", i.text)]

/-- A quantity by its fields. -/
def shownQuantity (q : Quantity) : String :=
  withFields .quantity [("amount", Text.ofInt q.amount), ("symbol", shownSymbol q.symbol)]

/-- A plain value as messages show it. -/
def shownPlain (v : Plain) : String := v.shown Empty.elim

/-- An entity as messages show it. -/
def shown : Entity → String
  | symbol s => shownSymbol s
  | identity i => shownIdentity i
  | issuedSymbol s => withFields .issuedSymbol
      [("symbol", shownSymbol s.symbol), ("contract", shownIdentity s.contract)]
  | quantity q => shownQuantity q
  | holding h => withFields .holding
      [("quantity", shownQuantity h.quantity), ("owner", shownIdentity h.owner)]
  | settings s => withFields .settings
      [("log_level", shownPlain s.logLevel), ("log_json", shownPlain s.logJson)]

/-- The integers in a plain value. -/
def integersPlain (v : Plain) : List Int := v.integers Empty.elim

/-- The integers among the fields of an entity. -/
def integers : Entity → List Int
  | symbol s => [s.precision.toNat]
  | identity i => [i.value.toNat]
  | issuedSymbol s => [s.symbol.precision.toNat, s.contract.value.toNat]
  | quantity q => [q.amount, q.symbol.precision.toNat]
  | holding h => [h.quantity.amount, h.quantity.symbol.precision.toNat, h.owner.value.toNat]
  | settings s => integersPlain s.logLevel ++ integersPlain s.logJson

/-- Settings on their own: the fields with a space between. -/
def settingsText (s : Settings) : Value.Shown where
  text := "log_level=" ++ shownPlain s.logLevel ++ " log_json=" ++ shownPlain s.logJson
  isWritable := (settings s).integers.all Text.isWritable

end Entity

namespace Datum

/-- The name of the kind of a value. -/
def kindName (v : Datum) : String := Value.kindName (fun e => e.kind.label) v

/-- The integers in a value. -/
def integers (v : Datum) : List Int := Value.integers Entity.integers v

/-- Whether every integer in a value can be written. -/
def isWritable (v : Datum) : Bool := v.integers.all Text.isWritable

/-- A value as messages show it. -/
def shown (v : Datum) : Value.Shown := ⟨Value.shown Entity.shown v, v.isWritable⟩

/-- A value as text of its own. -/
def display (v : Datum) : Value.Shown := ⟨Value.display Entity.shown v, v.isWritable⟩

end Datum

end Holdings
