/-
# Quantities and holdings are read as they are written

The tree of codecs for a quantity and for a holding, multiplied out: which bytes are looked at, and in
which order the reader gives up (`Quantity.unpack_eq`, `Holding.unpack_eq`).  What is written is short:
eight bytes of the amount, eight of the symbol, eight of the owner.

With these equations both directions come down to the words and the symbols.
-/
import Holdings.Proofs.Admissible
import Holdings.Proofs.Wire.Symbols

namespace Holdings

open Wire

/-! ## 1. The checks on what was read -/

/-- The check of an amount and a symbol that are there: the amount comes first. -/
theorem Quantity.check_parts (a : Int) (s : Symbol) :
    Quantity.check (.int a) (.object (.symbol s)) =
      if Amount.inRange a = true then
        if s.isValid = true then .valid ⟨a, s⟩ else .stopped (.aborted .invalidSymbol)
      else .stopped (.aborted .outOfRange) := by
  have hsymbol : Datum.checkValidSymbol (.object (.symbol s)) =
      if s.isValid = true then .valid s else .stopped (.aborted .invalidSymbol) := by
    unfold Datum.checkValidSymbol Datum.checkSymbol Verdict.bind Abort.require
    dsimp only
    split <;> rfl
  have hamount : Datum.checkAmount (.int a) =
      if Amount.inRange a = true then .valid a else .stopped (.aborted .outOfRange) := by
    unfold Datum.checkAmount
    dsimp only
    rw [Amount.check_eq]
    split <;> rfl
  unfold Quantity.check
  rw [hsymbol, hamount]
  by_cases ha : Amount.inRange a = true
  · rw [if_pos ha, if_pos ha]
    by_cases hs : s.isValid = true
    · rw [if_pos hs, if_pos hs]
      rfl
    · rw [if_neg hs, if_neg hs]
      rfl
  · rw [if_neg ha, if_neg ha]
    rfl

/-- The quantity of an amount and a symbol, or what is wrong with them; the amount counts first. -/
def Quantity.assess (a : Int) (s : Symbol) : Except Abort Quantity :=
  if Amount.inRange a = true then
    if s.isValid = true then .ok ⟨a, s⟩ else .error .invalidSymbol
  else .error .outOfRange

theorem Quantity.check_eq_assess (a : Int) (s : Symbol) :
    (Quantity.check (.int a) (.object (.symbol s))).toExcept = liftAbort (Quantity.assess a s) := by
  rw [Quantity.check_parts]
  unfold Quantity.assess
  split
  · split <;> rfl
  · rfl

theorem Quantity.assess_eq_ok_iff {a : Int} {s : Symbol} {q : Quantity} :
    Quantity.assess a s = .ok q ↔ Quantity.isValid ⟨a, s⟩ = true ∧ q = ⟨a, s⟩ := by
  unfold Quantity.assess Quantity.isValid Quantity.inRange
  cases Amount.inRange a <;> cases s.isValid <;> simp [eq_comm]

/-- An admissible quantity can only be wrong in its symbol. -/
theorem Quantity.Admissible.assess_eq_error {q : Quantity} (h : q.Admissible)
    (hs : ¬ q.symbol.isValid = true) : Quantity.assess q.amount q.symbol = .error .invalidSymbol := by
  unfold Quantity.assess
  rw [if_pos h.1, if_neg hs]

/-- Only the quantity of this amount and this symbol can be admitted. -/
theorem Quantity.map_assess {α : Type} {a : Int} {s : Symbol} {f g : Quantity → α}
    (h : f ⟨a, s⟩ = g ⟨a, s⟩) :
    (liftAbort (Quantity.assess a s)).map f = (liftAbort (Quantity.assess a s)).map g := by
  cases hq : Quantity.assess a s with
  | error e => rfl
  | ok q =>
    obtain ⟨-, rfl⟩ := Quantity.assess_eq_ok_iff.mp hq
    exact congrArg Except.ok h

/-- Every unsigned word is an identity. -/
theorem Identity.ofFields_word {n : Nat} (h : n < 18446744073709551616) :
    Identity.ofFields [("value", .int n)] = .valid ⟨UInt64.ofNat n⟩ := by
  have h₁ : ¬ (n : Int) < 0 := by omega
  have h₂ : ¬ (Identity.maxValue : Int) < n := by
    unfold Identity.maxValue
    omega
  have hc : Datum.checkIntBetween 0 Identity.maxValue (.int n) = .valid (n : Int) := by
    unfold Datum.checkIntBetween
    dsimp only
    rw [if_neg h₁, if_neg h₂]
  show ((Datum.checkIntBetween 0 Identity.maxValue (.int n)).under "value").map _ = _
  rw [hc]
  rfl

/-! ## 2. Reading -/

/-- The quantity that stands at an offset, and why there is none: first the bytes that are missing, then
the code of the symbol, then amount and symbol. -/
def Quantity.readAt (data : Bytes) (i : Nat) : Except Fault Quantity :=
  if data.length < i + 8 then .error (.aborted (.truncated 8 i ((data.length : Int) - i)))
  else if data.length < i + 16 then
    .error (.aborted (.truncated 8 ((i + 8 : Nat) : Int) ((data.length : Int) - ((i + 8 : Nat) : Int))))
  else
    match Symbol.ofBytes? ((data.drop (i + 8)).take 8) with
    | none => .error (.aborted (.codeAfterEnd (value ((data.drop (i + 8)).take 8))))
    | some s =>
      (Quantity.check (.int (WordFormat.int64.decodeBytes ((data.drop i).take 8)))
        (.object (.symbol s))).toExcept

/-- The entity of fields one after the other, and the offset behind it. -/
def Wire.decodeRecord (kind : EntityKind) (fields : List (String × Codec)) (data : Bytes)
    (offset : Int) : Except Fault (Entity × Int) := do
  let p ← Codec.decodeFields fields [] data offset
  (Entity.ofCall kind [] p.1).toExcept.map fun e => (e, p.2)

theorem Wire.decode_record (kind : EntityKind) (fields : List (String × Codec)) (data : Bytes)
    (offset : Int) : Codec.decode (.record kind fields) data offset =
      (decodeRecord kind fields data offset).map fun p => (.object p.1, p.2) := by
  rw [Codec.decode, decodeRecord]
  cases Codec.decodeFields fields [] data offset with
  | error e => rfl
  | ok p =>
    show ((Entity.ofCall kind [] p.1).toExcept >>= fun e => _) = Except.map _ (Except.map _ _)
    cases (Entity.ofCall kind [] p.1).toExcept <;> rfl

/-- The whole string of bytes is an entity when nothing is left over behind it. -/
theorem Wire.decodeEntity_eq (kind : EntityKind) (fields : List (String × Codec)) (data : Bytes) :
    decodeEntity kind fields data = decodeRecord kind fields data 0 >>= fun p =>
      if p.2 = data.length then .ok p
      else .error (.aborted (.trailing ((data.length : Int) - p.2) kind)) := by
  unfold decodeEntity decodeRecord
  cases Codec.decodeFields fields [] data 0 with
  | error e => rfl
  | ok p =>
    show ((Entity.ofCall kind [] p.1).toExcept >>= fun e => _) = (Except.map _ _ >>= _)
    cases (Entity.ofCall kind [] p.1).toExcept with
    | error e => rfl
    | ok e =>
      show (liftAbort (Abort.require (p.2 == (data.length : Int)) _) >>= fun _ => _) =
        if p.2 = (data.length : Int) then _ else _
      by_cases h : p.2 = (data.length : Int)
      · rw [if_pos h, beq_iff_eq.mpr h]
        rfl
      · rw [if_neg h, beq_eq_false_iff_ne.mpr h]
        rfl

/-- The two fields of a quantity, one after the other. -/
theorem Wire.decodeRecord_quantity {data : Bytes} {i : Nat} (hdata : i ≤ data.length) :
    decodeRecord .quantity quantityFields data i =
      (Quantity.readAt data i).map fun q => (.quantity q, ((i + 16 : Nat) : Int)) := by
  have hsize : WordFormat.int64.size = 8 := rfl
  unfold decodeRecord quantityFields Quantity.readAt
  rw [Codec.decodeFields, Codec.decode, WordFormat.decode_nat _ hdata, hsize]
  by_cases h₁ : data.length < i + 8
  · rw [if_pos h₁, if_pos h₁]
    rfl
  · rw [if_neg h₁, if_neg h₁]
    show (Codec.decodeFields [("symbol", Codec.symbol)] [("amount", _)] data ((i + 8 : Nat) : Int) >>= _) = _
    rw [Codec.decodeFields, Codec.decode, decodeSymbol_nat (by omega)]
    by_cases h₂ : data.length < i + 16
    · rw [if_pos h₂, if_pos (show data.length < i + 8 + 8 by omega)]
      rfl
    · rw [if_neg h₂, if_neg (show ¬ data.length < i + 8 + 8 by omega)]
      cases Symbol.ofBytes? ((data.drop (i + 8)).take 8) with
      | none => rfl
      | some s =>
        show ((Quantity.check (.int (WordFormat.int64.decodeBytes ((data.drop i).take 8)))
          (.object (.symbol s))).map Entity.quantity).toExcept.map (fun e => (e, _)) =
          (Quantity.check (.int (WordFormat.int64.decodeBytes ((data.drop i).take 8)))
            (.object (.symbol s))).toExcept.map _
        cases Quantity.check (.int (WordFormat.int64.decodeBytes ((data.drop i).take 8)))
          (.object (.symbol s)) <;> rfl

/-- The bytes of a quantity as a whole. -/
theorem Wire.decodeEntity_quantity (d : Bytes) :
    decodeEntity .quantity quantityFields d = Quantity.readAt d 0 >>= fun q =>
      if d.length = 16 then .ok (.quantity q, 16)
      else .error (.aborted (.trailing ((d.length : Int) - 16) .quantity)) := by
  have h : decodeRecord .quantity quantityFields d 0 =
      (Quantity.readAt d 0).map fun q => (.quantity q, ((0 + 16 : Nat) : Int)) :=
    decodeRecord_quantity (Nat.zero_le d.length)
  rw [decodeEntity_eq, h]
  cases Quantity.readAt d 0 with
  | error e => rfl
  | ok q =>
    simp only [Except.map, bind, Except.bind]
    by_cases hd : d.length = 16
    · rw [if_pos hd, if_pos (by omega)]
      rfl
    · rw [if_neg hd, if_neg (by omega)]
      rfl

/-- **Reading a quantity**: what stands at the start, and then the number of bytes. -/
theorem Quantity.unpack_eq (d : Bytes) :
    Quantity.unpack d = Quantity.readAt d 0 >>= fun q =>
      if d.length = 16 then .ok q
      else .error (.aborted (.trailing ((d.length : Int) - 16) .quantity)) := by
  unfold Quantity.unpack
  rw [decodeEntity_quantity]
  cases Quantity.readAt d 0 with
  | error e => rfl
  | ok q =>
    simp only [bind, Except.bind]
    by_cases hd : d.length = 16
    · rw [if_pos hd, if_pos hd]
    · rw [if_neg hd, if_neg hd]

/-- Where a quantity stands, there are bytes enough for it. -/
theorem Quantity.length_of_readAt {data : Bytes} {i : Nat} {q : Quantity}
    (h : Quantity.readAt data i = .ok q) : i + 16 ≤ data.length := by
  unfold Quantity.readAt at h
  split at h
  · cases h
  · split at h
    · cases h
    · omega

/-- The owner at an offset. -/
theorem Wire.decodeIdentity_nat {data : Bytes} {i : Nat} (hdata : i ≤ data.length) :
    decodeIdentity data i =
      if data.length < i + 8 then
        .error (.aborted (.truncated 8 i ((data.length : Int) - i)))
      else .ok (⟨UInt64.ofNat (value ((data.drop i).take 8))⟩, ((i + 8 : Nat) : Int)) := by
  have hsize : WordFormat.uint64.size = 8 := rfl
  unfold decodeIdentity
  rw [WordFormat.decode_nat _ hdata, hsize]
  split
  · rfl
  · rename_i h
    have hlen : ((data.drop i).take 8).length = 8 := WordFormat.length_take_drop (by omega)
    rw [WordFormat.decodeBytes_unsigned _ rfl]
    show ((Identity.ofFields [("value", .int (value ((data.drop i).take 8)))]).toExcept >>=
      fun j => .ok (j, ((i + 8 : Nat) : Int)) : Except Fault (Identity × Int)) = _
    rw [Identity.ofFields_word (value_lt_of_length_eq hlen)]
    rfl

/-- The bytes of a holding as a whole. -/
theorem Wire.decodeEntity_holding (d : Bytes) :
    decodeEntity .holding holdingFields d = Quantity.readAt d 0 >>= fun q =>
      if d.length < 24 then .error (.aborted (.truncated 8 16 ((d.length : Int) - 16)))
      else if d.length = 24 then
        .ok (.holding ⟨q, ⟨UInt64.ofNat (value ((d.drop 16).take 8))⟩⟩, 24)
      else .error (.aborted (.trailing ((d.length : Int) - 24) .holding)) := by
  have h : decodeRecord .quantity quantityFields d 0 =
      (Quantity.readAt d 0).map fun q => (.quantity q, ((0 + 16 : Nat) : Int)) :=
    decodeRecord_quantity (Nat.zero_le d.length)
  rw [decodeEntity_eq]
  unfold decodeRecord holdingFields
  rw [Codec.decodeFields, decode_record, h]
  cases hread : Quantity.readAt d 0 with
  | error e => rfl
  | ok q =>
    have henough : 0 + 16 ≤ d.length := Quantity.length_of_readAt hread
    simp only [Except.map, bind, Except.bind]
    rw [Codec.decodeFields, Codec.decode, decodeIdentity_nat henough]
    by_cases h₁ : d.length < 24
    · rw [if_pos h₁, if_pos (show d.length < 0 + 16 + 8 by omega)]
      rfl
    · rw [if_neg h₁, if_neg (show ¬ d.length < 0 + 16 + 8 by omega)]
      have hcall : ∀ j : Identity, Entity.ofCall .holding [] (Value.putEntry "owner"
          (.object (.identity j)) (Value.putEntry "quantity" (.object (.quantity q)) [])) =
            .valid (.holding ⟨q, j⟩) := fun _ => rfl
      simp only [Except.map, bind, Except.bind, Codec.decodeFields, hcall, Verdict.toExcept]
      by_cases h₂ : d.length = 24
      · rw [if_pos h₂, if_pos (by omega)]
        rfl
      · rw [if_neg h₂, if_neg (by omega)]
        rfl

/-- **Reading a holding**: the quantity that stands at the start, then the owner, and then the number
of bytes. -/
theorem Holding.unpack_eq (d : Bytes) :
    Holding.unpack d = Quantity.readAt d 0 >>= fun q =>
      if d.length < 24 then .error (.aborted (.truncated 8 16 ((d.length : Int) - 16)))
      else if d.length = 24 then .ok ⟨q, ⟨UInt64.ofNat (value ((d.drop 16).take 8))⟩⟩
      else .error (.aborted (.trailing ((d.length : Int) - 24) .holding)) := by
  unfold Holding.unpack
  rw [decodeEntity_holding]
  cases Quantity.readAt d 0 with
  | error e => rfl
  | ok q =>
    simp only [bind, Except.bind]
    by_cases h₁ : d.length < 24
    · rw [if_pos h₁, if_pos h₁]
    · rw [if_neg h₁, if_neg h₁]
      by_cases h₂ : d.length = 24
      · rw [if_pos h₂, if_pos h₂]
      · rw [if_neg h₂, if_neg h₂]

/-! ## 3. Writing -/

/-- The eight bytes of an amount. -/
def Wire.amountBytes (a : Int) : Bytes := digits 8 (a % 18446744073709551616).toNat

@[simp] theorem Wire.length_amountBytes (a : Int) : (amountBytes a).length = 8 := length_digits 8 _

theorem Wire.fits_amount {a : Int} :
    WordFormat.int64.fits a = true ↔ Amount.isWord a = true := by
  have hm : WordFormat.int64.modulus = 18446744073709551616 := by decide
  rw [WordFormat.fits_signed_iff _ rfl, hm, Amount.isWord_iff, Amount.wordMin, Amount.wordMax]
  omega

theorem Wire.encode_amount {a : Int} (h : Amount.isWord a = true) :
    WordFormat.int64.encode? a = some (amountBytes a) := by
  unfold WordFormat.encode?
  rw [if_pos (fits_amount.mpr h)]
  rfl

theorem Wire.decodeBytes_amountBytes {a : Int} (h : Amount.isWord a = true) :
    WordFormat.int64.decodeBytes (amountBytes a) = a :=
  WordFormat.decodeBytes_encode? _ (encode_amount h)

/-- Eight bytes are those of the amount that they are read as. -/
theorem Wire.amountBytes_decodeBytes {bs : Bytes} (h : bs.length = 8) :
    amountBytes (WordFormat.int64.decodeBytes bs) = bs := by
  have he : WordFormat.int64.encode? (WordFormat.int64.decodeBytes bs) = some bs :=
    WordFormat.encode?_decodeBytes _ h
  have hw : Amount.isWord (WordFormat.int64.decodeBytes bs) = true :=
    fits_amount.mp (WordFormat.fits_decodeBytes WordFormat.int64 h)
  rw [encode_amount hw] at he
  exact Option.some.inj he

/-- **Writing a quantity** whose amount is a word and whose code fits. -/
theorem Quantity.pack_eq {q : Quantity} (ha : Amount.isWord q.amount = true)
    (hs : Symbol.fitsWord q.symbol.code = true) :
    q.pack = .ok (amountBytes q.amount ++ q.symbol.padded) := by
  have hamount : WordFormat.int64.encode (.int q.amount) = .ok (amountBytes q.amount) :=
    encode_int (fits_amount.mpr ha)
  have h₁ : Datum.attribute? (.object (.quantity q)) "amount" = some (.int q.amount) := rfl
  have h₂ : Datum.attribute? (.object (.quantity q)) "symbol" =
      some (.object (.symbol q.symbol)) := rfl
  unfold Quantity.pack quantityFields
  simp only [Codec.encodeFields, Codec.encode, h₁, h₂, hamount, encodeSymbol_eq hs, bind,
    Except.bind, pure, Except.pure, List.append_nil]

/-- **Writing a holding**: its quantity, and then its owner. -/
theorem Holding.pack_eq (k : Holding) :
    k.pack = k.quantity.pack.map fun front => front ++ digits 8 k.owner.value.toNat := by
  have h₁ : Datum.attribute? (.object (.holding k)) "quantity" =
      some (.object (.quantity k.quantity)) := rfl
  have h₂ : Datum.attribute? (.object (.holding k)) "owner" =
      some (.object (.identity k.owner)) := rfl
  unfold Holding.pack holdingFields
  simp only [Codec.encodeFields, Codec.encode, h₁, h₂, encodeIdentity_eq]
  show (k.quantity.pack >>= fun front => _) = _
  cases k.quantity.pack with
  | error e => rfl
  | ok front =>
    simp only [bind, Except.bind, pure, Except.pure, Except.map, List.append_nil]

/-! ## 4. Both ways -/

/-- The letters of a valid code are ASCII, and none is zero. -/
theorem Symbol.isCapital_iff {c : Char} :
    Symbol.isCapital c = true ↔ 65 ≤ c.toNat ∧ c.toNat ≤ 90 := by
  unfold Symbol.isCapital
  rw [Bool.and_eq_true, decide_eq_true_eq, decide_eq_true_eq]
  rfl

/-- What validity means. -/
theorem Symbol.isValid_iff {s : Symbol} :
    s.isValid = true ↔ (1 ≤ s.code.toList.length ∧ s.code.toList.length ≤ 7 ∧
      ∀ c ∈ s.code.toList, 65 ≤ c.toNat ∧ c.toNat ≤ 90) ∧ s.precision.toNat ≤ 18 := by
  unfold Symbol.isValid Symbol.isValidCode Symbol.maxCodeLength Amount.maxPrecision
  simp only [Bool.and_eq_true, decide_eq_true_eq, List.all_eq_true, Symbol.isCapital_iff]
  exact ⟨fun ⟨⟨⟨a, b⟩, c⟩, d⟩ => ⟨⟨a, b, c⟩, d⟩, fun ⟨⟨a, b, c⟩, d⟩ => ⟨⟨⟨a, b⟩, c⟩, d⟩⟩

/-- The symbol of an admissible quantity fits a word and has no zero character. -/
theorem Quantity.Admissible.fitsWord {q : Quantity} (h : q.Admissible) :
    Symbol.fitsWord q.symbol.code = true ∧ ∀ c ∈ q.symbol.code.toList, c.toNat ≠ 0 := by
  rcases h.2 with hv | hn
  · obtain ⟨⟨-, hlen, hc⟩, -⟩ := Symbol.isValid_iff.mp hv
    refine ⟨Symbol.fitsWord_iff.mpr ⟨hlen, fun c hm => ?_⟩, fun c hm => ?_⟩
    · have := (hc c hm).2
      omega
    · have := (hc c hm).1
      omega
  · rw [hn]
    refine ⟨by decide, fun c hm => ?_⟩
    simp [Symbol.null] at hm

/-- **Every admissible quantity can be written**, in sixteen bytes. -/
theorem Quantity.pack_of_admissible {q : Quantity} (h : q.Admissible) :
    q.pack = .ok (amountBytes q.amount ++ q.symbol.padded) ∧
      (amountBytes q.amount ++ q.symbol.padded).length = 16 := by
  refine ⟨Quantity.pack_eq (Amount.isWord_of_inRange h.1) h.fitsWord.1, ?_⟩
  rw [List.length_append, length_amountBytes, Symbol.length_padded h.fitsWord.1]

/-- What stands at the start of bytes that begin with an amount and a symbol, whether they belong to a
quantity or not: what the checks make of the two. -/
theorem Quantity.readAt_written {q : Quantity} (ha : Amount.isWord q.amount = true)
    (hs : Symbol.fitsWord q.symbol.code = true) (hz : ∀ c ∈ q.symbol.code.toList, c.toNat ≠ 0)
    (rest : Bytes) :
    Quantity.readAt (amountBytes q.amount ++ q.symbol.padded ++ rest) 0 =
      (Quantity.check (.int q.amount) (.object (.symbol q.symbol))).toExcept := by
  have hp : q.symbol.padded.length = 8 := Symbol.length_padded hs
  have hlen : 16 ≤ (amountBytes q.amount ++ q.symbol.padded ++ rest).length := by
    simp only [List.length_append, length_amountBytes, hp]
    omega
  have hfront : ((amountBytes q.amount ++ q.symbol.padded ++ rest).drop 0).take 8 =
      amountBytes q.amount := by
    rw [List.drop_zero, List.append_assoc]
    exact List.take_left' (length_amountBytes _)
  have hback : ((amountBytes q.amount ++ q.symbol.padded ++ rest).drop (0 + 8)).take 8 =
      q.symbol.padded := by
    rw [List.append_assoc, List.drop_left' (length_amountBytes _)]
    exact List.take_left' hp
  unfold Quantity.readAt
  rw [if_neg (by omega), if_neg (by omega), hfront, hback, decodeBytes_amountBytes ha,
    Symbol.ofBytes?_padded hs hz]

/-- An admissible quantity is read if it passes the checks once more. -/
theorem Quantity.readAt_packed {q : Quantity} (h : q.Admissible) (rest : Bytes) :
    Quantity.readAt (amountBytes q.amount ++ q.symbol.padded ++ rest) 0 =
      (Quantity.check (.int q.amount) (.object (.symbol q.symbol))).toExcept :=
  Quantity.readAt_written (Amount.isWord_of_inRange h.1) h.fitsWord.1 h.fitsWord.2 rest

/-- **What is read is valid, and its bytes are those that were read.** -/
theorem Quantity.of_readAt {d : Bytes} {q : Quantity} (h : Quantity.readAt d 0 = .ok q) :
    16 ≤ d.length ∧ q.isValid = true ∧ d.take 16 = amountBytes q.amount ++ q.symbol.padded := by
  unfold Quantity.readAt at h
  split at h
  · cases h
  · split at h
    · cases h
    · rename_i h₁ h₂
      have hlen : 16 ≤ d.length := by omega
      split at h
      · cases h
      · rename_i s hs
        rw [Verdict.toExcept_eq_ok_iff] at h
        obtain ⟨hr, hv, hsym⟩ := Quantity.of_check h
        rw [Quantity.check_parts] at h
        split at h
        · split at h
          · obtain rfl := Verdict.valid.inj h
            refine ⟨hlen, ?_, ?_⟩
            · unfold Quantity.isValid Quantity.inRange
              rw [hr, hv]
              rfl
            · have hfront : ((d.drop 0).take 8).length = 8 :=
                WordFormat.length_take_drop (by omega)
              have hback : ((d.drop (0 + 8)).take 8).length = 8 :=
                WordFormat.length_take_drop (by omega)
              rw [amountBytes_decodeBytes hfront, Symbol.padded_of_ofBytes? hs hback,
                List.drop_zero]
              exact List.take_add (i := 8) (j := 8)
          · cases h
        · cases h

/-- The first sixteen bytes decide what stands at the start. -/
theorem Quantity.readAt_congr {d d' : Bytes} (h : 16 ≤ d.length) (h' : 16 ≤ d'.length)
    (ht : d.take 16 = d'.take 16) : Quantity.readAt d 0 = Quantity.readAt d' 0 := by
  have hfront : ∀ e : Bytes, (e.drop 0).take 8 = (e.take 16).take 8 := by
    intro e
    rw [List.drop_zero, List.take_take]
    rfl
  have hback : ∀ e : Bytes, (e.drop (0 + 8)).take 8 = (e.take 16).drop 8 := by
    intro e
    rw [List.drop_take]
  unfold Quantity.readAt
  rw [if_neg (by omega), if_neg (by omega), if_neg (by omega), if_neg (by omega), hfront, hfront d',
    hback, hback d', ht]

end Holdings
