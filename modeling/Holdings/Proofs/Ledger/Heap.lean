/-
# Sound heaps

What every heap of a script satisfies (`Heap.Sound`), and what it means that objects are only added
(`Heap.Extends`).

* Every quantity is admissible: its amount is in range, and its symbol is valid or null.
* The quantity that a holding refers to is there, and no two holdings refer to the same one.

Cells are never removed and a new one gets the next place.  So an object that has its cell in a heap
(`Ref.IsLive`) keeps it in every heap that extends it, with the same content (`Extends.entity_eq`); for a
holding this takes the second condition, because its content includes that of its quantity.

Soundness is kept by the four changes that there are: a quantity added, a holding added, an amount
set, and the quantity of a holding set.
-/
import Mathlib.Data.List.GetD
import Mathlib.Data.List.Nodup
import Holdings.Proofs.Admissible
import Holdings.Ledger.World

namespace Holdings.Ledger

/-! ## 1. Stores -/

namespace Store

variable {α : Type} [Inhabited α]

/-- What is read from a store is one of its cells, or the default behind the last. -/
theorem get_mem_or_default (s : Store α) (i : Nat) :
    s.get i ∈ s.cells ∧ i < s.next ∨ s.get i = default := by
  unfold get next
  by_cases h : i < s.cells.length
  · refine Or.inl ⟨?_, h⟩
    rw [List.getD_eq_getElem _ _ h]
    exact List.getElem_mem h
  · refine Or.inr ?_
    rw [List.getD_eq_default _ _ (by omega)]

theorem get_mem {s : Store α} {i : Nat} (h : i < s.next) : s.get i ∈ s.cells := by
  unfold get
  unfold next at h
  rw [List.getD_eq_getElem _ _ h]
  exact List.getElem_mem h

/-- A cell keeps its content when cells are added behind. -/
theorem get_eq_of_isPrefix {s t : Store α} (h : s.cells <+: t.cells) {i : Nat} (hi : i < s.next) :
    t.get i = s.get i := by
  obtain ⟨l, hl⟩ := h
  unfold next at hi
  unfold get
  rw [← hl, List.getD_append _ _ _ _ hi]

omit [Inhabited α] in
theorem next_le_of_isPrefix {s t : Store α} (h : s.cells <+: t.cells) : s.next ≤ t.next :=
  h.length_le

omit [Inhabited α] in
/-- A cell of the store after one was replaced is the new one or an old one. -/
theorem mem_put {s : Store α} {i : Nat} {a c : α} (h : c ∈ (s.put i a).cells) :
    c = a ∧ i < s.next ∨ c ∈ s.cells := by
  unfold put at h
  rcases Nat.lt_or_ge i s.next with hi | hi
  · rcases List.mem_or_eq_of_mem_set h with h | h
    · exact Or.inr h
    · exact Or.inl ⟨h, hi⟩
  · rw [List.set_eq_of_length_le hi] at h
    exact Or.inr h

end Store

/-! ## 2. Objects that are there -/

/-- The object has its cell in the heap; objects that never change need none. -/
def Ref.IsLive (h : Heap) : Ref → Prop
  | .quantity r => r < h.quantities.next
  | .holding r => r < h.holdings.next
  | .settings r => r < h.settings.next
  | _ => True

/-- All these objects have their cells in the heap. -/
def Heap.AllLive (h : Heap) (os : List Ref) : Prop := ∀ o ∈ os, o.IsLive h

namespace Heap

@[simp] theorem allLive_nil (h : Heap) : h.AllLive [] := by simp [AllLive]

@[simp] theorem allLive_cons {h : Heap} {o : Ref} {os : List Ref} :
    h.AllLive (o :: os) ↔ o.IsLive h ∧ h.AllLive os := by
  simp [AllLive]

@[simp] theorem allLive_append {h : Heap} {os ps : List Ref} :
    h.AllLive (os ++ ps) ↔ h.AllLive os ∧ h.AllLive ps := by
  simp [AllLive, or_imp, forall_and]

theorem AllLive.subset {h : Heap} {os ps : List Ref} (hp : h.AllLive ps) (hs : os ⊆ ps) :
    h.AllLive os := fun o ho => hp o (hs ho)

/-- A quantity that is there and that no holding refers to. -/
def IsSpare (h : Heap) (q : Nat) : Prop :=
  q < h.quantities.next ∧ ∀ c ∈ h.holdings.cells, c.quantity ≠ q

/-- The same quantities, holdings and settings; only the count of tags may differ. -/
structure SameCells (h h' : Heap) : Prop where
  quantities : h'.quantities = h.quantities
  holdings : h'.holdings = h.holdings
  settings : h'.settings = h.settings

/-- The objects of the first heap are still there in the second, with the content that they had, and
every holding that was added has a quantity that was added with it. -/
structure Extends (h h' : Heap) : Prop where
  quantities : h.quantities.cells <+: h'.quantities.cells
  holdings : h.holdings.cells <+: h'.holdings.cells
  settings : h.settings.cells <+: h'.settings.cells
  inner_new : ∀ r, h.holdings.next ≤ r → r < h'.holdings.next →
    h.quantities.next ≤ (h'.holdings.get r).quantity

theorem SameCells.extends {h h' : Heap} (s : h.SameCells h') : h.Extends h' := by
  obtain ⟨hq, hh, hs⟩ := s
  refine ⟨hq ▸ List.prefix_rfl, hh ▸ List.prefix_rfl, hs ▸ List.prefix_rfl, ?_⟩
  intro r h₁ h₂
  rw [hh] at h₂
  omega

theorem Extends.refl (h : Heap) : h.Extends h := SameCells.extends ⟨rfl, rfl, rfl⟩

theorem Extends.trans {h h' h'' : Heap} (a : h.Extends h') (b : h'.Extends h'') :
    h.Extends h'' := by
  refine ⟨a.quantities.trans b.quantities, a.holdings.trans b.holdings,
    a.settings.trans b.settings, ?_⟩
  intro r h₁ h₂
  rcases Nat.lt_or_ge r h'.holdings.next with hr | hr
  · rw [Store.get_eq_of_isPrefix b.holdings hr]
    exact a.inner_new r h₁ hr
  · have hle : h.quantities.next ≤ h'.quantities.next := Store.next_le_of_isPrefix a.quantities
    exact Nat.le_trans hle (b.inner_new r hr h₂)

/-- What was there is still there. -/
theorem Extends.isLive {h h' : Heap} (e : h.Extends h') {o : Ref} (ho : o.IsLive h) :
    o.IsLive h' := by
  cases o with
  | quantity r => exact Nat.lt_of_lt_of_le ho (Store.next_le_of_isPrefix e.quantities)
  | holding r => exact Nat.lt_of_lt_of_le ho (Store.next_le_of_isPrefix e.holdings)
  | settings r => exact Nat.lt_of_lt_of_le ho (Store.next_le_of_isPrefix e.settings)
  | symbol s => trivial
  | identity i => trivial
  | issuedSymbol t s c => trivial

theorem Extends.allLive {h h' : Heap} (e : h.Extends h') {os : List Ref} (ho : h.AllLive os) :
    h'.AllLive os := fun o hm => e.isLive (ho o hm)

end Heap

@[simp] theorem Heap.datum_object (h : Heap) (o : Ref) :
    h.datum (.object o) = .object (h.entity o) := by
  simp [Heap.datum, Value.map, Value.replace]

/-! ## 3. Soundness -/

/-- What every heap of a script satisfies. -/
structure Heap.Sound (h : Heap) : Prop where
  /-- Every quantity has an amount in range, and a symbol that is valid or null. -/
  admissible : ∀ c ∈ h.quantities.cells, c.value.Admissible
  /-- The quantity of a holding is there. -/
  inner_lt : ∀ c ∈ h.holdings.cells, c.quantity < h.quantities.next
  /-- No two holdings share their quantity. -/
  inner_nodup : (h.holdings.cells.map HoldingCell.quantity).Nodup

namespace Heap

theorem sound_empty : Heap.empty.Sound := ⟨by simp [empty, Store.empty], by simp [empty, Store.empty],
  by simp [empty, Store.empty]⟩

namespace Sound

variable {h : Heap}

/-- The cell of a quantity is admissible; a place without a cell reads as the empty quantity. -/
theorem quantityCell (s : h.Sound) (r : Nat) : (h.quantities.get r).value.Admissible := by
  rcases h.quantities.get_mem_or_default r with ⟨hm, -⟩ | hd
  · exact s.admissible _ hm
  · rw [hd]
    exact Quantity.admissible_empty

theorem quantity (s : h.Sound) (r : Nat) : (h.quantity r).Admissible := s.quantityCell r

theorem holding (s : h.Sound) (r : Nat) : (h.holding r).quantity.Admissible := s.quantity _

theorem entity (s : h.Sound) (o : Ref) : (h.entity o).Admissible := by
  cases o with
  | quantity r => exact s.quantity r
  | holding r => exact s.holding r
  | symbol t => trivial
  | identity t => trivial
  | issuedSymbol t a b => trivial
  | settings r => trivial

theorem datum (s : h.Sound) (v : Item) : (h.datum v).Admissible := by
  intro e he
  unfold Heap.datum at he
  rw [Value.objects_map] at he
  obtain ⟨o, -, rfl⟩ := List.mem_map.mp he
  exact s.entity o

/-- The quantity of a holding that is there is there. -/
theorem inner_isLive (s : h.Sound) {r : Nat} (hr : r < h.holdings.next) :
    (h.holdings.get r).quantity < h.quantities.next :=
  s.inner_lt _ (Store.get_mem hr)

/-- Two holdings that are there and have one quantity are one holding. -/
theorem eq_of_inner_eq (s : h.Sound) {o p : Nat} (ho : o < h.holdings.next)
    (hp : p < h.holdings.next)
    (he : (h.holdings.get o).quantity = (h.holdings.get p).quantity) : o = p := by
  unfold Store.next at ho hp
  unfold Store.get at he
  rw [List.getD_eq_getElem _ _ ho, List.getD_eq_getElem _ _ hp] at he
  have ho' : o < (h.holdings.cells.map HoldingCell.quantity).length := by simpa using ho
  have hp' : p < (h.holdings.cells.map HoldingCell.quantity).length := by simpa using hp
  have hi : (h.holdings.cells.map HoldingCell.quantity)[o] =
      (h.holdings.cells.map HoldingCell.quantity)[p] := by
    rw [List.getElem_map, List.getElem_map, he]
  exact (s.inner_nodup.getElem_inj_iff).mp hi

/-- Soundness is a matter of the cells alone. -/
theorem of_sameCells {h' : Heap} (s : h.Sound) (c : h.SameCells h') : h'.Sound := by
  obtain ⟨hq, hh, -⟩ := c
  exact ⟨by rw [hq]; exact s.admissible, by rw [hq, hh]; exact s.inner_lt,
    by rw [hh]; exact s.inner_nodup⟩

/-- An object that is there has the same content in every heap that extends this one. -/
theorem entity_eq {h' : Heap} (s : h.Sound) (e : h.Extends h') {o : Ref} (ho : o.IsLive h) :
    h'.entity o = h.entity o := by
  cases o with
  | quantity r =>
    have hq : h'.quantities.get r = h.quantities.get r := Store.get_eq_of_isPrefix e.quantities ho
    simp only [Heap.entity, Heap.quantity, hq]
  | holding r =>
    have hh : h'.holdings.get r = h.holdings.get r := Store.get_eq_of_isPrefix e.holdings ho
    have hq : h'.quantities.get (h.holdings.get r).quantity =
        h.quantities.get (h.holdings.get r).quantity :=
      Store.get_eq_of_isPrefix e.quantities (s.inner_isLive ho)
    simp only [Heap.entity, Heap.holding, Heap.quantity, hh, hq]
  | settings r =>
    have hs : h'.settings.get r = h.settings.get r := Store.get_eq_of_isPrefix e.settings ho
    simp only [Heap.entity, hs]
  | symbol t => rfl
  | identity t => rfl
  | issuedSymbol t a b => rfl

/-- A value whose objects are there has the same content in every heap that extends this one. -/
theorem datum_eq {h' : Heap} (s : h.Sound) (e : h.Extends h') {v : Item} (hv : h.AllLive v.objects) :
    h'.datum v = h.datum v :=
  Value.map_congr fun o ho => s.entity_eq e (hv o ho)

/-! ## 4. What keeps a heap sound -/

/-- An admissible quantity may be added. -/
theorem addQuantity (s : h.Sound) {c : QuantityCell} (hc : c.value.Admissible) :
    Heap.Sound { h with quantities := h.quantities.add c } := by
  refine ⟨?_, ?_, s.inner_nodup⟩
  · intro d hd
    rcases List.mem_append.mp hd with hd | hd
    · exact s.admissible d hd
    · rw [List.mem_singleton] at hd
      rw [hd]
      exact hc
  · intro d hd
    have := s.inner_lt d hd
    simp only [Store.next_add]
    omega

/-- A holding of a spare quantity may be added. -/
theorem addHolding (s : h.Sound) {c : HoldingCell} (hc : h.IsSpare c.quantity) :
    Heap.Sound { h with holdings := h.holdings.add c } := by
  refine ⟨s.admissible, ?_, ?_⟩
  · intro d hd
    rcases List.mem_append.mp hd with hd | hd
    · exact s.inner_lt d hd
    · rw [List.mem_singleton] at hd
      rw [hd]
      exact hc.1
  · simp only [Store.add, List.map_append, List.map_cons, List.map_nil]
    rw [List.nodup_append]
    refine ⟨s.inner_nodup, by simp, ?_⟩
    intro a ha b hb
    obtain ⟨d, hd, rfl⟩ := List.mem_map.mp ha
    rw [List.mem_singleton] at hb
    rw [hb]
    exact hc.2 d hd

/-- An amount in range may be set. -/
theorem setAmount (s : h.Sound) {a : Int} (ha : Amount.inRange a = true) (r : Nat) :
    (h.setAmount r a).Sound := by
  refine ⟨?_, ?_, s.inner_nodup⟩
  · intro c hc
    rcases Store.mem_put hc with ⟨rfl, -⟩ | hc
    · exact ⟨ha, (s.quantityCell r).2⟩
    · exact s.admissible c hc
  · intro c hc
    unfold Heap.setAmount
    rw [Store.next_put]
    exact s.inner_lt c hc

/-- A holding may be given a spare quantity. -/
theorem setQuantity (s : h.Sound) {q : Nat} (hq : h.IsSpare q) (r : Nat) :
    (h.setQuantity r q).Sound := by
  refine ⟨s.admissible, ?_, ?_⟩
  · intro c hc
    rcases Store.mem_put hc with ⟨rfl, -⟩ | hc
    · exact hq.1
    · exact s.inner_lt c hc
  · have hn : q ∉ h.holdings.cells.map HoldingCell.quantity := by
      intro hm
      obtain ⟨c, hc, he⟩ := List.mem_map.mp hm
      exact hq.2 c hc he
    simp only [Heap.setQuantity, Store.put, List.map_set]
    exact s.inner_nodup.set hn

end Sound

/-! ## 5. What adds objects -/

/-- The heap with one more quantity, after some tags were given out. -/
def withQuantity (h : Heap) (c : QuantityCell) (n : Nat) : Heap :=
  { h with quantities := h.quantities.add c, nextTag := n }

/-- The heap with one more holding and its quantity, after some tags were given out. -/
def withHolding (h : Heap) (c : QuantityCell) (owner : Tagged Identity) (n : Nat) : Heap :=
  { h with
    quantities := h.quantities.add c
    holdings := h.holdings.add ⟨h.quantities.next, owner⟩
    nextTag := n }

/-- The heap with one more record of settings. -/
def withSettings (h : Heap) (s : Settings) : Heap := { h with settings := h.settings.add s }

/-- The new quantity reads as its cell. -/
theorem quantity_withQuantity (h : Heap) (c : QuantityCell) (n : Nat) :
    (h.withQuantity c n).quantity h.quantities.next = c.value := by
  unfold quantity withQuantity
  rw [Store.get_add_next]

/-- The new holding reads as the new quantity and its owner. -/
theorem holding_withHolding (h : Heap) (c : QuantityCell) (owner : Tagged Identity) (n : Nat) :
    (h.withHolding c owner n).holding h.holdings.next = ⟨c.value, owner.val⟩ := by
  unfold holding quantity withHolding
  rw [Store.get_add_next, Store.get_add_next]

theorem extends_withQuantity (h : Heap) (c : QuantityCell) (n : Nat) :
    h.Extends (h.withQuantity c n) := by
  refine ⟨List.prefix_append _ _, List.prefix_rfl, List.prefix_rfl, ?_⟩
  intro r h₁ h₂
  simp only [withQuantity] at h₂
  omega

theorem extends_withHolding (h : Heap) (c : QuantityCell) (owner : Tagged Identity) (n : Nat) :
    h.Extends (h.withHolding c owner n) := by
  refine ⟨List.prefix_append _ _, List.prefix_append _ _, List.prefix_rfl, ?_⟩
  intro r h₁ h₂
  simp only [withHolding, Store.next_add] at h₂
  have hr : r = h.holdings.next := by omega
  have hget : ((h.withHolding c owner n).holdings.get r).quantity = h.quantities.next := by
    rw [hr]
    simp only [withHolding]
    rw [Store.get_add_next]
  exact Nat.le_of_eq hget.symm

theorem extends_withSettings (h : Heap) (s : Settings) : h.Extends (h.withSettings s) := by
  refine ⟨List.prefix_rfl, List.prefix_rfl, List.prefix_append _ _, ?_⟩
  intro r h₁ h₂
  simp only [withSettings] at h₂
  omega

theorem Sound.withQuantity {h : Heap} (s : h.Sound) {c : QuantityCell} (hc : c.value.Admissible)
    (n : Nat) : (h.withQuantity c n).Sound :=
  (s.addQuantity hc).of_sameCells ⟨rfl, rfl, rfl⟩

/-- No holding has a quantity that has just been added. -/
theorem Sound.isSpare_next {h : Heap} (s : h.Sound) (c : QuantityCell) (n : Nat) :
    (h.withQuantity c n).IsSpare h.quantities.next := by
  refine ⟨?_, ?_⟩
  · simp only [Heap.withQuantity, Store.next_add]
    omega
  · intro d hd
    exact Nat.ne_of_lt (s.inner_lt d hd)

theorem Sound.withHolding {h : Heap} (s : h.Sound) {c : QuantityCell} (hc : c.value.Admissible)
    (owner : Tagged Identity) (n : Nat) : (h.withHolding c owner n).Sound :=
  (s.withQuantity hc n).addHolding (c := ⟨h.quantities.next, owner⟩) (s.isSpare_next c n)

end Heap

end Holdings.Ledger
