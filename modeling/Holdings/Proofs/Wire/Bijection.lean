/-
# The wire format is a bijection

Between the valid quantities and the strings of bytes that are read as one, packing and reading are inverse
to each other, and the same holds of holdings (`ExactFormat`).  So every value has one string of
bytes.  No such string begins another one: the length is fixed, and it is checked at the end.

The quantities without a symbol are outside: they can be written, but what is written is refused, because
reading builds a new quantity and checks its symbol.
-/
import Holdings.Proofs.Wire.Entities
import Holdings.Proofs.Ledger.Running

namespace Holdings

open Wire

/-! ## 1. Exact formats -/

/-- **Writing and reading are inverse to each other** on the values that are good, and the bytes that are
read have one length. -/
structure Wire.ExactFormat {α : Type} (pack : α → Except Fault Bytes)
    (unpack : Bytes → Except Fault α) (Good : α → Prop) (size : Nat) : Prop where
  /-- What is written has the size and reads back. -/
  unpack_pack : ∀ a, Good a → ∃ d, pack a = .ok d ∧ d.length = size ∧ unpack d = .ok a
  /-- What is read is good and is written back. -/
  pack_unpack : ∀ d a, unpack d = .ok a → Good a ∧ pack a = .ok d
  /-- Two strings of bytes are never read as one value. -/
  injective : ∀ d d' a, unpack d = .ok a → unpack d' = .ok a → d = d'
  /-- Neither a part from the start of what is read nor anything that begins with it is read. -/
  rigid : ∀ d d' a, unpack d = .ok a → d' ≠ d → d' <+: d ∨ d <+: d' →
    ∃ r, unpack d' = .error (.aborted r) ∧ r.kind = .codec

theorem Wire.injective_of_pack_unpack {α : Type} {pack : α → Except Fault Bytes}
    {unpack : Bytes → Except Fault α} (h : ∀ d a, unpack d = .ok a → pack a = .ok d) {d d' : Bytes}
    {a : α} (hd : unpack d = .ok a) (hd' : unpack d' = .ok a) : d = d' := by
  have hp := h d a hd
  rw [h d' a hd', Except.ok.injEq] at hp
  exact hp.symm

/-- A part from the start that is not the whole is shorter, and what begins with the whole and is not the
whole is longer. -/
theorem Wire.lt_or_gt_of_isPrefix {d d' : Bytes} (hne : d' ≠ d) (h : d' <+: d ∨ d <+: d') :
    d' <+: d ∧ d'.length < d.length ∨ d <+: d' ∧ d.length < d'.length := by
  rcases h with h | h
  · refine Or.inl ⟨h, Nat.lt_of_le_of_ne h.length_le ?_⟩
    exact fun he => hne (h.eq_of_length he)
  · refine Or.inr ⟨h, Nat.lt_of_le_of_ne h.length_le ?_⟩
    exact fun he => hne (h.eq_of_length he).symm

/-- Bytes that begin alike have the same first sixteen. -/
theorem Wire.take_eq_of_isPrefix {d d' : Bytes} {n : Nat} (h : d <+: d') (hn : n ≤ d.length) :
    d'.take n = d.take n := by
  obtain ⟨rest, rfl⟩ := h
  exact List.take_append_of_le_length hn

/-- Too few bytes for a quantity are told apart as such. -/
theorem Quantity.readAt_of_short {d : Bytes} (h : d.length < 16) :
    ∃ r, Quantity.readAt d 0 = .error (.aborted r) ∧ r.kind = .codec := by
  unfold Quantity.readAt
  by_cases h₁ : d.length < 0 + 8
  · rw [if_pos h₁]
    exact ⟨_, rfl, rfl⟩
  · rw [if_neg h₁, if_pos (by omega)]
    exact ⟨_, rfl, rfl⟩

/-! ## 2. Quantities -/

theorem Quantity.check_of_isValid {q : Quantity} (h : q.isValid = true) :
    (Quantity.check (.int q.amount) (.object (.symbol q.symbol))).toExcept = .ok q := by
  rw [Quantity.check_eq_assess, Quantity.assess_eq_ok_iff.mpr ⟨h, rfl⟩]
  rfl

/-- What is accepted: a quantity at the start, and sixteen bytes in all. -/
theorem Quantity.unpack_eq_ok_iff {d : Bytes} {q : Quantity} :
    Quantity.unpack d = .ok q ↔ Quantity.readAt d 0 = .ok q ∧ d.length = 16 := by
  rw [Quantity.unpack_eq, Except.bind_eq_ok_iff]
  constructor
  · rintro ⟨p, hp, h⟩
    split at h
    · rename_i hlen
      cases h
      exact ⟨hp, hlen⟩
    · cases h
  · rintro ⟨hp, hlen⟩
    exact ⟨q, hp, if_pos hlen⟩

theorem Quantity.exactFormat :
    ExactFormat Quantity.pack Quantity.unpack (fun q => q.isValid = true) 16 := by
  have back : ∀ d q, Quantity.unpack d = .ok q → q.isValid = true ∧ q.pack = .ok d := by
    intro d q h
    obtain ⟨hr, hlen⟩ := Quantity.unpack_eq_ok_iff.mp h
    obtain ⟨-, hv, ht⟩ := Quantity.of_readAt hr
    refine ⟨hv, ?_⟩
    rw [(Quantity.pack_of_admissible (Quantity.admissible_of_isValid hv).1).1, ← ht,
      List.take_of_length_le (by omega)]
  refine ⟨?_, back, ?_, ?_⟩
  · intro q hv
    obtain ⟨hq, -⟩ := Quantity.admissible_of_isValid hv
    obtain ⟨hp, hlen⟩ := Quantity.pack_of_admissible hq
    refine ⟨_, hp, hlen, Quantity.unpack_eq_ok_iff.mpr ⟨?_, hlen⟩⟩
    rw [← List.append_nil (amountBytes q.amount ++ q.symbol.padded), Quantity.readAt_packed hq]
    exact Quantity.check_of_isValid hv
  · intro d d' q h h'
    exact injective_of_pack_unpack (fun d q h => (back d q h).2) h h'
  · intro d d' q h hne hpre
    obtain ⟨hr, hlen⟩ := Quantity.unpack_eq_ok_iff.mp h
    rw [Quantity.unpack_eq]
    rcases lt_or_gt_of_isPrefix hne hpre with ⟨-, hlt⟩ | ⟨hpre, hlt⟩
    · obtain ⟨r, hr', hk⟩ := Quantity.readAt_of_short (d := d') (by omega)
      rw [hr']
      exact ⟨r, rfl, hk⟩
    · have ht : d'.take 16 = d.take 16 := take_eq_of_isPrefix hpre (by omega)
      rw [Quantity.readAt_congr (by omega) (by omega) ht, hr]
      refine ⟨.trailing ((d'.length : Int) - 16) .quantity, ?_, rfl⟩
      simp only [bind, Except.bind]
      rw [if_neg (by omega)]

/-! ## 3. Holdings -/

theorem Holding.unpack_eq_ok_iff {d : Bytes} {k : Holding} :
    Holding.unpack d = .ok k ↔ Quantity.readAt d 0 = .ok k.quantity ∧ d.length = 24 ∧
      k.owner = ⟨UInt64.ofNat (value ((d.drop 16).take 8))⟩ := by
  rw [Holding.unpack_eq, Except.bind_eq_ok_iff]
  constructor
  · rintro ⟨p, hp, h⟩
    split at h
    · cases h
    · split at h
      · rename_i hlen
        cases h
        exact ⟨hp, hlen, rfl⟩
      · cases h
  · rintro ⟨hp, hlen, ho⟩
    refine ⟨k.quantity, hp, ?_⟩
    rw [if_neg (by omega), if_pos hlen, ← ho]

/-- The owner that was written is the owner that is read. -/
theorem Identity.ofNat_value_digits (i : Identity) :
    (⟨UInt64.ofNat (Wire.value (digits 8 i.value.toNat))⟩ : Identity) = i := by
  rw [value_digits (w := 8) i.value.toNat_lt, UInt64.ofNat_toNat]

/-- Eight bytes are those of the owner that they are read as. -/
theorem Wire.digits_owner {bs : Bytes} (h : bs.length = 8) :
    digits 8 (UInt64.ofNat (value bs)).toNat = bs := by
  rw [UInt64.toNat_ofNat', Nat.mod_eq_of_lt (value_lt_of_length_eq h), ← h]
  exact digits_value bs

/-- **The bytes of a holding** are those of its quantity and then those of its owner. -/
theorem Holding.pack_of_admissible {k : Holding} (h : k.quantity.Admissible) :
    ∃ front, k.quantity.pack = .ok front ∧ front.length = 16 ∧
      k.pack = .ok (front ++ digits 8 k.owner.value.toNat) := by
  obtain ⟨hp, hlen⟩ := Quantity.pack_of_admissible h
  refine ⟨_, hp, hlen, ?_⟩
  rw [Holding.pack_eq, hp]
  rfl

theorem Holding.exactFormat :
    ExactFormat Holding.pack Holding.unpack (fun k => k.quantity.isValid = true) 24 := by
  have back : ∀ d k, Holding.unpack d = .ok k → k.quantity.isValid = true ∧ k.pack = .ok d := by
    intro d k h
    obtain ⟨hr, hlen, ho⟩ := Holding.unpack_eq_ok_iff.mp h
    obtain ⟨-, hv, ht⟩ := Quantity.of_readAt hr
    refine ⟨hv, ?_⟩
    have hback : ((d.drop 16).take 8).length = 8 := WordFormat.length_take_drop (by omega)
    have hdrop : (d.drop 16).take 8 = d.drop 16 := by
      refine List.take_of_length_le ?_
      rw [List.length_drop]
      omega
    rw [Holding.pack_eq, (Quantity.pack_of_admissible (Quantity.admissible_of_isValid hv).1).1, ← ht,
      ho, digits_owner hback, hdrop]
    show Except.ok (d.take 16 ++ d.drop 16) = Except.ok d
    rw [List.take_append_drop]
  refine ⟨?_, back, ?_, ?_⟩
  · intro k hv
    obtain ⟨hq, -⟩ := Quantity.admissible_of_isValid hv
    obtain ⟨hp, hlen⟩ := Quantity.pack_of_admissible hq
    refine ⟨amountBytes k.quantity.amount ++ k.quantity.symbol.padded ++
      digits 8 k.owner.value.toNat, ?_, ?_, Holding.unpack_eq_ok_iff.mpr ⟨?_, ?_, ?_⟩⟩
    · rw [Holding.pack_eq, hp]
      rfl
    · rw [List.length_append, hlen, length_digits]
    · rw [Quantity.readAt_packed hq]
      exact Quantity.check_of_isValid hv
    · rw [List.length_append, hlen, length_digits]
    · rw [List.drop_left' hlen, List.take_of_length_le (Nat.le_of_eq (length_digits 8 _))]
      exact (Identity.ofNat_value_digits k.owner).symm
  · intro d d' k h h'
    exact injective_of_pack_unpack (fun d k h => (back d k h).2) h h'
  · intro d d' k h hne hpre
    obtain ⟨hr, hlen, -⟩ := Holding.unpack_eq_ok_iff.mp h
    rw [Holding.unpack_eq]
    -- a part from the start may lack the quantity or only the owner
    by_cases hshort : d'.length < 16
    · obtain ⟨r, hr', hk⟩ := Quantity.readAt_of_short hshort
      rw [hr']
      exact ⟨r, rfl, hk⟩
    · have ht : d'.take 16 = d.take 16 := by
        rcases hpre with hpre | hpre
        · exact (take_eq_of_isPrefix hpre (by omega)).symm
        · exact take_eq_of_isPrefix hpre (by omega)
      rw [Quantity.readAt_congr (by omega) (by omega) ht, hr]
      simp only [bind, Except.bind]
      rcases lt_or_gt_of_isPrefix hne hpre with ⟨-, hlt⟩ | ⟨-, hlt⟩
      · rw [if_pos (by omega)]
        exact ⟨_, rfl, rfl⟩
      · rw [if_neg (by omega), if_neg (by omega)]
        exact ⟨_, rfl, rfl⟩

/-! ## 4. Quantities without a symbol -/

/-- The check refuses a symbol that is not valid, after the amount was in range. -/
theorem Quantity.check_of_null {q : Quantity} (h : q.Admissible) (hs : q.symbol = Symbol.null) :
    (Quantity.check (.int q.amount) (.object (.symbol q.symbol))).toExcept =
      .error (.aborted .invalidSymbol) := by
  have hn : ¬ q.symbol.isValid = true := by
    rw [hs, Symbol.isValid_null]
    exact Bool.false_ne_true
  rw [Quantity.check_eq_assess, h.assess_eq_error hn]
  rfl

theorem Quantity.unpack_null {q : Quantity} (h : q.Admissible) (hs : q.symbol = Symbol.null) :
    ∃ d, q.pack = .ok d ∧ Quantity.unpack d = .error (.aborted .invalidSymbol) := by
  refine ⟨_, (Quantity.pack_of_admissible h).1, ?_⟩
  rw [Quantity.unpack_eq, ← List.append_nil (amountBytes q.amount ++ q.symbol.padded),
    Quantity.readAt_packed h, Quantity.check_of_null h hs]
  rfl

theorem Holding.unpack_null {k : Holding} (h : k.quantity.Admissible)
    (hs : k.quantity.symbol = Symbol.null) :
    ∃ d, k.pack = .ok d ∧ Holding.unpack d = .error (.aborted .invalidSymbol) := by
  refine ⟨amountBytes k.quantity.amount ++ k.quantity.symbol.padded ++
    digits 8 k.owner.value.toNat, ?_, ?_⟩
  · rw [Holding.pack_eq, (Quantity.pack_of_admissible h).1]
    rfl
  · rw [Holding.unpack_eq, Quantity.readAt_packed h, Quantity.check_of_null h hs]
    rfl

/-! ## 5. In a script -/

namespace Ledger

open Act

theorem outcome_pack_quantity (w : World) (r : Nat) :
    (callMethod (.object (.quantity r)) .pack []).outcome w =
      (w.heap.quantity r).pack.map .bytes := by
  have h : (callMethod (.object (.quantity r)) .pack []).outcome w =
      (perform (w.heap.quantity r).pack >>= fun d => pure (.bytes d) : Act Item).outcome w := rfl
  rw [h, outcome_perform]
  cases (w.heap.quantity r).pack <;> rfl

theorem outcome_pack_holding (w : World) (r : Nat) :
    (callMethod (.object (.holding r)) .pack []).outcome w =
      (w.heap.holding r).pack.map .bytes := by
  have h : (callMethod (.object (.holding r)) .pack []).outcome w =
      (perform (w.heap.holding r).pack >>= fun d => pure (.bytes d) : Act Item).outcome w := rfl
  rw [h, outcome_perform]
  cases (w.heap.holding r).pack <;> rfl

theorem outcome_unpack_quantity (w : World) (d : Bytes) :
    (make (.unpack .quantity) [.bytes d]).outcome w =
      (Quantity.unpack d).map fun q => .object (.quantity q) := by
  have h : (make (.unpack .quantity) [.bytes d]).outcome w =
      (readBytes .quantity quantityFields d).outcome w := rfl
  rw [h]
  unfold readBytes
  rw [outcome_perform, decodeEntity_quantity, Quantity.unpack_eq]
  cases Quantity.readAt d 0 with
  | error f => rfl
  | ok q =>
    simp only [bind, Except.bind]
    by_cases hd : d.length = 16
    · rw [if_pos hd, if_pos hd]
      exact outcome_placeQuantity q _
    · rw [if_neg hd, if_neg hd]
      rfl

theorem outcome_unpack_holding (w : World) (d : Bytes) :
    (make (.unpack .holding) [.bytes d]).outcome w =
      (Holding.unpack d).map fun k => .object (.holding k) := by
  have h : (make (.unpack .holding) [.bytes d]).outcome w =
      (readBytes .holding holdingFields d).outcome w := rfl
  rw [h]
  unfold readBytes
  rw [outcome_perform, decodeEntity_holding, Holding.unpack_eq]
  cases Quantity.readAt d 0 with
  | error f => rfl
  | ok q =>
    simp only [bind, Except.bind]
    by_cases h₁ : d.length < 24
    · rw [if_pos h₁, if_pos h₁]
      rfl
    · rw [if_neg h₁, if_neg h₁]
      by_cases h₂ : d.length = 24
      · rw [if_pos h₂, if_pos h₂]
        exact outcome_placeHolding _ _
      · rw [if_neg h₂, if_neg h₂]
        rfl

end Ledger

/-! ## 6. The format -/

/-- **The wire format is a bijection.**  Valid quantities stand in exactly sixteen bytes and holdings of
them in exactly twenty-four, the bytes of the quantity and then the owner with its lowest byte first;
writing and reading are inverse to each other, and nothing shorter or longer is read.  A quantity without
a symbol is written too, but what is written is refused for its symbol.  This is what the methods and makers
of a script do in every world, and the quantities of a reachable world are all of these two kinds. -/
theorem wire_format_bijective :
    ExactFormat Quantity.pack Quantity.unpack (fun q => q.isValid = true) 16 ∧
    ExactFormat Holding.pack Holding.unpack (fun k => k.quantity.isValid = true) 24 ∧
    (∀ k : Holding, k.quantity.Admissible → ∃ front, k.quantity.pack = .ok front ∧
      front.length = 16 ∧ k.pack = .ok (front ++ digits 8 k.owner.value.toNat)) ∧
    (∀ q : Quantity, q.Admissible → q.symbol = Symbol.null →
      ∃ d, q.pack = .ok d ∧ Quantity.unpack d = .error (.aborted .invalidSymbol)) ∧
    (∀ k : Holding, k.quantity.Admissible → k.quantity.symbol = Symbol.null →
      ∃ d, k.pack = .ok d ∧ Holding.unpack d = .error (.aborted .invalidSymbol)) ∧
    (∀ w : Ledger.World,
      (∀ r, (Ledger.callMethod (.object (.quantity r)) .pack []).outcome w =
        (w.heap.quantity r).pack.map .bytes) ∧
      (∀ r, (Ledger.callMethod (.object (.holding r)) .pack []).outcome w =
        (w.heap.holding r).pack.map .bytes) ∧
      (∀ d, (Ledger.make (.unpack .quantity) [.bytes d]).outcome w =
        (Quantity.unpack d).map fun q => .object (.quantity q)) ∧
      ∀ d, (Ledger.make (.unpack .holding) [.bytes d]).outcome w =
        (Holding.unpack d).map fun k => .object (.holding k)) ∧
    ∀ (steps : List Ledger.Step) (r : Nat),
      ((Ledger.World.initial.after steps).heap.quantity r).Admissible ∧
        ((Ledger.World.initial.after steps).heap.holding r).quantity.Admissible := by
  refine ⟨Quantity.exactFormat, Holding.exactFormat, fun _ => Holding.pack_of_admissible,
    fun _ => Quantity.unpack_null, fun _ => Holding.unpack_null, ?_, ?_⟩
  · intro w
    exact ⟨Ledger.outcome_pack_quantity w, Ledger.outcome_pack_holding w,
      Ledger.outcome_unpack_quantity w, Ledger.outcome_unpack_holding w⟩
  · intro steps r
    have hw := Ledger.World.sound_initial.after steps
    exact ⟨hw.heap.quantity r, hw.heap.holding r⟩

/-- The format at a quantity of seven, and at the empty one. -/
theorem wire_format_at_seven :
    (∃ d, Quantity.pack ⟨7, ⟨"SYS", 4⟩⟩ = .ok d ∧ d.length = 16 ∧
      Quantity.unpack d = .ok ⟨7, ⟨"SYS", 4⟩⟩) ∧
    ∃ d, Quantity.empty.pack = .ok d ∧ Quantity.unpack d = .error (.aborted .invalidSymbol) :=
  ⟨wire_format_bijective.1.unpack_pack ⟨7, ⟨"SYS", 4⟩⟩ (by decide),
    wire_format_bijective.2.2.2.1 Quantity.empty Quantity.admissible_empty rfl⟩

end Holdings
