/-
# Objects and who shares them

Quantities and holdings are objects: they keep their identity while their content changes, and what
one name does to one is seen through every other name of it.  A holding refers to a quantity of its own.
Symbols, identities and issued symbols never change; of them only the identity matters beside the
content, so such an object is its content with a number (`Tagged`).

`Ref` is the identity of an object and `Heap.entity` its content.  Cells are never removed; a new
one gets the next place, so the places in use before keep their content.
-/
import Holdings.Entity
import Holdings.Tagged

namespace Holdings.Ledger

/-! ## 1. Cells in a row -/

/-- Cells that are numbered in the order in which they were added. -/
structure Store (α : Type) where
  cells : List α
  deriving Inhabited

namespace Store

variable {α : Type} [Inhabited α]

/-- No cells. -/
def empty : Store α := ⟨[]⟩

/-- The number of the next cell. -/
def next (s : Store α) : Nat := s.cells.length

/-- The content of a cell. -/
def get (s : Store α) (i : Nat) : α := s.cells.getD i default

/-- The cells with another content of one. -/
def put (s : Store α) (i : Nat) (a : α) : Store α := ⟨s.cells.set i a⟩

/-- The cells with one more. -/
def add (s : Store α) (a : α) : Store α := ⟨s.cells ++ [a]⟩

omit [Inhabited α] in
@[simp] theorem next_add (s : Store α) (a : α) : (s.add a).next = s.next + 1 := by
  simp [next, add]

omit [Inhabited α] in
@[simp] theorem next_put (s : Store α) (i : Nat) (a : α) : (s.put i a).next = s.next := by
  simp [next, put]

theorem get_put_self {s : Store α} {i : Nat} (h : i < s.next) (a : α) : (s.put i a).get i = a := by
  simp only [next] at h
  simp [get, put, h]

theorem get_put_ne {s : Store α} {i j : Nat} (h : i ≠ j) (a : α) :
    (s.put i a).get j = s.get j := by
  simp [get, put, List.getD_eq_getElem?_getD, List.getElem?_set_ne h]

theorem get_add_next (s : Store α) (a : α) : (s.add a).get s.next = a := by
  simp [get, add, next, List.getD_eq_getElem?_getD]

end Store

/-! ## 2. Objects -/

/-- The identity of an object. -/
inductive Ref where
  | symbol (s : Tagged Symbol)
  | identity (i : Tagged Identity)
  | issuedSymbol (tag : Nat) (symbol : Tagged Symbol) (contract : Tagged Identity)
  | quantity (at_ : Nat)
  | holding (at_ : Nat)
  | settings (at_ : Nat)
  deriving DecidableEq, Repr, Inhabited

/-- Whether two identities are those of one object. -/
def Ref.isSame : Ref → Ref → Bool
  | symbol s, symbol t => s.tag == t.tag
  | identity i, identity j => i.tag == j.tag
  | issuedSymbol m _ _, issuedSymbol n _ _ => m == n
  | quantity m, quantity n => m == n
  | holding m, holding n => m == n
  | settings m, settings n => m == n
  | _, _ => false

/-- A value whose objects are given by identity. -/
abbrev Item := Value Ref

/-- Where a value comes from.  It tells plain data apart that has the same content. -/
inductive Origin where
  /-- It was made, and the number tells it from others. -/
  | made (number : Nat)
  /-- It is an attribute of an object. -/
  | part (whole : Ref) (name : String)
  deriving DecidableEq, Repr, Inhabited

/-- A value and where it comes from. -/
structure Binding where
  value : Item
  origin : Origin
  deriving Inhabited

/-- The content of a quantity, with the identity of its symbol. -/
structure QuantityCell where
  amount : Int
  symbol : Tagged Symbol
  deriving DecidableEq, Repr

instance : Inhabited QuantityCell := ⟨⟨0, ⟨0, Symbol.null⟩⟩⟩

/-- The content of a holding: which quantity it has, and the identity of its owner. -/
structure HoldingCell where
  quantity : Nat
  owner : Tagged Identity
  deriving DecidableEq, Repr, Inhabited

/-- The quantity in a cell. -/
def QuantityCell.value (c : QuantityCell) : Quantity := ⟨c.amount, c.symbol.val⟩

/-! ## 3. The heap -/

/-- All objects. -/
structure Heap where
  quantities : Store QuantityCell
  holdings : Store HoldingCell
  settings : Store Settings
  /-- The number of the next object that never changes. -/
  nextTag : Nat
  deriving Inhabited

namespace Heap

/-- The heap without objects. -/
def empty : Heap := ⟨Store.empty, Store.empty, Store.empty, 0⟩

/-- The content of a quantity. -/
def quantity (h : Heap) (r : Nat) : Quantity := (h.quantities.get r).value

/-- The content of a holding. -/
def holding (h : Heap) (r : Nat) : Holding :=
  ⟨h.quantity (h.holdings.get r).quantity, (h.holdings.get r).owner.val⟩

/-- The content of an object. -/
def entity (h : Heap) : Ref → Entity
  | .symbol s => .symbol s.val
  | .identity i => .identity i.val
  | .issuedSymbol _ s c => .issuedSymbol ⟨s.val, c.val⟩
  | .quantity r => .quantity (h.quantity r)
  | .holding r => .holding (h.holding r)
  | .settings r => .settings (h.settings.get r)

/-- A value with the contents of its objects. -/
def datum (h : Heap) (v : Item) : Datum := v.map h.entity

/-- The heap with another amount of a quantity. -/
def setAmount (h : Heap) (r : Nat) (a : Int) : Heap :=
  { h with quantities := h.quantities.put r { h.quantities.get r with amount := a } }

/-- The heap with another quantity of a holding. -/
def setQuantity (h : Heap) (r : Nat) (q : Nat) : Heap :=
  { h with holdings := h.holdings.put r { h.holdings.get r with quantity := q } }

end Heap

end Holdings.Ledger
