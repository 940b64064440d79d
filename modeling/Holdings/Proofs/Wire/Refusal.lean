/-
# Why bytes are refused

A string of bytes may be wrong in several ways at once, and the reader reports one of them.  Which one is
told here by what the bytes say, without the reader: the signed integer in the first eight
(`signedValue`), the letters of a code with zeros behind them (`SpellsCode`), a byte that is not zero behind
a zero byte (`Resumes`).  `Quantity.readCauses` lists the causes in the order in which they count.

The order follows from how a record is read.  The fields come one after the other, so missing bytes are
noticed before what is in them; then the quantity is built, its amount checked before its symbol, and that
happens before the owner of a holding is looked at.  Only at the end is it known whether bytes are left.
-/
import Holdings.Proofs.Causes
import Holdings.Proofs.Exact
import Holdings.Proofs.Wire.Bijection

namespace Holdings

open Wire

/-! ## 1. What bytes say -/

/-- The signed integer of eight bytes, the lowest byte first. -/
def Wire.signedValue (bs : Bytes) : Int :=
  if value bs < 2 ^ 63 then value bs else (value bs : Int) - 2 ^ 64

/-- A byte that is not zero follows a zero byte. -/
def Wire.Resumes (bs : Bytes) : Prop :=
  ∃ front back, bs = front ++ 0 :: back ∧ ∃ b ∈ back, b ≠ 0

/-- One to seven capital letters, and nothing but zeros behind them. -/
def Wire.SpellsCode (bs : Bytes) : Prop :=
  ∃ letters n, bs = letters ++ List.replicate n 0 ∧ 1 ≤ letters.length ∧ letters.length ≤ 7 ∧
    ∀ b ∈ letters, 'A'.toNat ≤ b.toNat ∧ b.toNat ≤ 'Z'.toNat

/-- The bytes from the ninth to the sixteenth are the precision and the code of a valid symbol. -/
def Wire.NamesSymbol (d : Bytes) : Prop :=
  SpellsCode ((d.drop 9).take 7) ∧ (d.getD 8 0).toNat ≤ 18

theorem Wire.decodeBytes_int64 (bs : Bytes) : WordFormat.int64.decodeBytes bs = signedValue bs := by
  have hm : WordFormat.int64.modulus = 18446744073709551616 := by decide
  have ha : WordFormat.int64.arrange bs = bs := rfl
  rw [WordFormat.decodeBytes_signed _ rfl, hm, ha]
  unfold signedValue
  split <;> split <;> omega

theorem Wire.not_resumes_nil : ¬ Resumes [] := by
  rintro ⟨front, back, h, -⟩
  simp at h

theorem Wire.resumes_cons {b : UInt8} {bs : Bytes} :
    Resumes (b :: bs) ↔ (b = 0 ∧ ∃ c ∈ bs, c ≠ 0) ∨ Resumes bs := by
  constructor
  · rintro ⟨front, back, h, hback⟩
    cases front with
    | nil =>
      obtain ⟨rfl, rfl⟩ := List.cons.inj h
      exact Or.inl ⟨rfl, hback⟩
    | cons c front =>
      obtain ⟨rfl, rfl⟩ := List.cons.inj h
      exact Or.inr ⟨front, back, rfl, hback⟩
  · rintro (⟨rfl, hc⟩ | ⟨front, back, rfl, hback⟩)
    · exact ⟨[], bs, rfl, hc⟩
    · exact ⟨b :: front, back, rfl, hback⟩

/-- **The code cannot be read exactly when it resumes behind its end.** -/
theorem Symbol.codeOfBytes?_eq_none_iff {bs : Bytes} : codeOfBytes? bs = none ↔ Resumes bs := by
  induction bs with
  | nil =>
    have h : codeOfBytes? [] = some [] := rfl
    rw [h]
    exact iff_of_false (by simp) not_resumes_nil
  | cons b bs ih =>
    rw [resumes_cons, ← ih]
    by_cases hb : b = 0
    · subst hb
      by_cases hz : ∀ c ∈ bs, c = 0
      · rw [codeOfBytes?_zeros (List.forall_mem_cons.mpr ⟨rfl, hz⟩), codeOfBytes?_zeros hz]
        simpa using hz
      · rw [codeOfBytes?_zero_cons hz]
        exact iff_of_true rfl (Or.inl ⟨rfl, by simpa using hz⟩)
    · rw [codeOfBytes?_cons hb, Option.map_eq_none_iff]
      simp [hb]

/-- **The symbol that is read is valid exactly when the bytes name a valid one.** -/
theorem Symbol.isValid_iff_spellsCode {bs : Bytes} {cs : List Char} (p : UInt8)
    (h : codeOfBytes? bs = some cs) :
    Symbol.isValid ⟨String.ofList cs, p⟩ = true ↔ SpellsCode bs ∧ p.toNat ≤ 18 := by
  rw [Symbol.isValid_iff, String.toList_ofList]
  refine and_congr_left fun _ => ?_
  constructor
  · rintro ⟨h₁, h₇, hcs⟩
    obtain ⟨n, hn⟩ := bytes_of_codeOfBytes? h
    refine ⟨cs.map charByte, n, hn, by simpa using h₁, by simpa using h₇, ?_⟩
    intro b hb
    obtain ⟨c, hc, rfl⟩ := List.mem_map.mp hb
    have hr := hcs c hc
    rw [toNat_charByte (by omega)]
    exact hr
  · rintro ⟨letters, n, rfl, h₁, h₇, hl⟩
    have hne : ∀ b ∈ letters, b ≠ 0 := by
      rintro b hb rfl
      exact absurd (hl 0 hb).1 (by decide)
    rw [codeOfBytes?_letters hne, Option.some.injEq] at h
    subst h
    refine ⟨by simpa using h₁, by simpa using h₇, ?_⟩
    intro c hc
    obtain ⟨b, hb, rfl⟩ := List.mem_map.mp hc
    rw [toNat_byteChar]
    exact hl b hb

/-! ## 2. Quantities -/

/-- The causes to refuse what stands at the start as a quantity, in their order. -/
def Quantity.readCauses (d : Bytes) : List (Prop × Fault) := [
  (d.length < 8, .aborted (.truncated 8 0 d.length)),
  (d.length < 16, .aborted (.truncated 8 8 ((d.length : Int) - 8))),
  (Resumes ((d.drop 9).take 7), .aborted (.codeAfterEnd (value ((d.drop 8).take 8)))),
  (2 ^ 62 - 1 < (signedValue (d.take 8)).natAbs, .aborted .outOfRange),
  (¬ NamesSymbol d, .aborted .invalidSymbol)]

/-- The first sixteen bytes are those of the quantity, and the first eight of them its amount. -/
structure Quantity.StandsFirst (d : Bytes) (q : Quantity) : Prop where
  enough : 16 ≤ d.length
  amount : q.amount = signedValue (d.take 8)
  pack : q.pack = .ok (d.take 16)

/-- The check of an amount and a symbol: the amount comes first. -/
theorem Quantity.check_classified (a : Int) (s : Symbol) :
    Classified (Quantity.check (.int a) (.object (.symbol s))).toExcept (· = ⟨a, s⟩) [
      (2 ^ 62 - 1 < a.natAbs, .aborted .outOfRange),
      (¬ s.isValid = true, .aborted .invalidSymbol)] := by
  rw [Quantity.check_parts]
  refine ⟨fun ha => ?_, fun ha => ⟨fun hs => ?_, fun hs => ?_⟩⟩
  · rw [if_neg fun hr => Amount.inRange_iff_natAbs.mp hr ha]
    rfl
  · rw [if_pos (Amount.inRange_iff_natAbs.mpr ha), if_neg hs]
    rfl
  · rw [if_pos (Amount.inRange_iff_natAbs.mpr ha), if_pos (Decidable.not_not.mp hs)]
    exact ⟨_, rfl, rfl⟩

/-- The word of a symbol is its precision and then the bytes of its code. -/
theorem Wire.symbolBytes_eq {d : Bytes} (h : 16 ≤ d.length) :
    (d.drop 8).take 8 = d.getD 8 0 :: (d.drop 9).take 7 := by
  have h₈ : 8 < d.length := by omega
  rw [List.drop_eq_getElem_cons h₈, List.take_succ_cons, List.getD_eq_getElem _ _ h₈]

/-- What stands at the start when there are enough bytes: the code of the symbol is read first, then the
amount is checked, and then the symbol. -/
theorem Quantity.readAt_of_enough {d : Bytes} (h : 16 ≤ d.length) :
    Quantity.readAt d 0 = match Symbol.codeOfBytes? ((d.drop 9).take 7) with
      | none => .error (.aborted (.codeAfterEnd (value ((d.drop 8).take 8))))
      | some cs =>
        (Quantity.check (.int (signedValue (d.take 8)))
          (.object (.symbol ⟨String.ofList cs, d.getD 8 0⟩))).toExcept := by
  unfold Quantity.readAt
  rw [if_neg (by omega), if_neg (by omega), Nat.zero_add, symbolBytes_eq h, Symbol.ofBytes?,
    decodeBytes_int64, List.drop_zero]
  cases Symbol.codeOfBytes? ((d.drop 9).take 7) <;> rfl

/-- **What stands at the start of a string of bytes**, or why it is no quantity. -/
theorem Quantity.readAt_classified (d : Bytes) :
    Classified (Quantity.readAt d 0) (Quantity.StandsFirst d) (Quantity.readCauses d) := by
  refine ⟨fun h₁ => if_pos h₁, fun h₁ => ⟨fun h₂ => ?_, fun h₂ => ?_⟩⟩
  · unfold Quantity.readAt
    rw [if_neg h₁, if_pos h₂]
    rfl
  have hread := Quantity.readAt_of_enough (d := d) (by omega)
  cases hcode : Symbol.codeOfBytes? ((d.drop 9).take 7) with
  | none =>
    rw [hcode] at hread
    exact ⟨fun _ => hread, fun h => absurd (Symbol.codeOfBytes?_eq_none_iff.mp hcode) h⟩
  | some cs =>
    rw [hcode] at hread
    have hres : ¬ Resumes ((d.drop 9).take 7) := by
      rw [← Symbol.codeOfBytes?_eq_none_iff, hcode]
      exact Option.some_ne_none cs
    have hvalid := Symbol.isValid_iff_spellsCode (d.getD 8 0) hcode
    obtain ⟨hamount, hrest⟩ := Quantity.check_classified (signedValue (d.take 8))
      ⟨String.ofList cs, d.getD 8 0⟩
    refine ⟨fun h => absurd h hres, fun _ => ⟨fun ha => hread.trans (hamount ha), fun ha => ?_⟩⟩
    obtain ⟨hsymbol, hgood⟩ := hrest ha
    refine ⟨fun hs => hread.trans (hsymbol fun hv => hs (hvalid.mp hv)), fun hs => ?_⟩
    obtain ⟨q, hq, rfl⟩ := hgood fun hn => hs fun hb => hn (hvalid.mpr hb)
    obtain ⟨henough, hv, ht⟩ := Quantity.of_readAt (hread.trans hq)
    refine ⟨_, hread.trans hq, henough, rfl, ?_⟩
    rw [(Quantity.pack_of_admissible (Quantity.admissible_of_isValid hv).1).1, ht]

/-- **Why a string of bytes is no quantity**: what stands at its start, or what is left over behind. -/
theorem Quantity.unpack_classified (d : Bytes) :
    Classified (Quantity.unpack d) (Quantity.StandsFirst d) (Quantity.readCauses d ++ [
      (16 < d.length, .aborted (.trailing ((d.length : Int) - 16) .quantity))]) := by
  rw [Quantity.unpack_eq]
  refine (Quantity.readAt_classified d).bind fun q hq => ⟨fun h => ?_, fun h => ?_⟩
  · exact if_neg (by omega)
  · have hlen : d.length = 16 := by
      have := hq.enough
      omega
    exact ⟨q, if_pos hlen, hq⟩

/-! ## 3. Holdings -/

/-- The quantity stands first, and the eight bytes behind it are those of the owner. -/
structure Holding.StandsFirst (d : Bytes) (k : Holding) : Prop where
  quantity : k.quantity.StandsFirst d
  owner : k.owner.value.toNat = value (d.drop 16)

/-- **Why a string of bytes is no holding**: its quantity counts before its owner, also when the bytes of
the owner are missing. -/
theorem Holding.unpack_classified (d : Bytes) :
    Classified (Holding.unpack d) (Holding.StandsFirst d) (Quantity.readCauses d ++ [
      (d.length < 24, .aborted (.truncated 8 16 ((d.length : Int) - 16))),
      (24 < d.length, .aborted (.trailing ((d.length : Int) - 24) .holding))]) := by
  rw [Holding.unpack_eq]
  refine (Quantity.readAt_classified d).bind fun q hq => ⟨fun h => if_pos h, fun h => ⟨fun h' => ?_, fun h' => ?_⟩⟩
  · rw [if_neg h, if_neg (by omega)]
  · have hlen : d.length = 24 := by omega
    refine ⟨_, by rw [if_neg h, if_pos hlen], hq, ?_⟩
    have hback : (d.drop 16).length = 8 := by
      rw [List.length_drop]
      omega
    rw [List.take_of_length_le (Nat.le_of_eq hback)]
    exact UInt64.toNat_ofNat_of_lt' (value_lt_of_length_eq hback)

-- the symbol counts also where the bytes of the owner are missing
example : Holding.unpack (List.replicate 8 255 ++ [19, 65, 0, 0, 0, 0, 0, 0]) =
    .error (.aborted .invalidSymbol) := by
  decide +kernel

/-! ## 4. The classification -/

/-- **Every string of bytes has one outcome, and the first cause that applies tells which.**  A quantity is
refused for missing bytes, for code bytes behind the end of the code, for its amount, for its symbol and
for bytes that are left over, in this order; a holding for the same first five and then for its owner that is
missing and for bytes that are left over.  If none applies there is a result, whose bytes are those that
were read.  A script that reads bytes has the same outcome in every world. -/
theorem unpack_fails_by_first_cause (d : Bytes) :
    Classified (Quantity.unpack d) (Quantity.StandsFirst d) [
      (d.length < 8, .aborted (.truncated 8 0 d.length)),
      (d.length < 16, .aborted (.truncated 8 8 ((d.length : Int) - 8))),
      (Resumes ((d.drop 9).take 7), .aborted (.codeAfterEnd (value ((d.drop 8).take 8)))),
      (2 ^ 62 - 1 < (signedValue (d.take 8)).natAbs, .aborted .outOfRange),
      (¬ NamesSymbol d, .aborted .invalidSymbol),
      (16 < d.length, .aborted (.trailing ((d.length : Int) - 16) .quantity))] ∧
    Classified (Holding.unpack d) (Holding.StandsFirst d) [
      (d.length < 8, .aborted (.truncated 8 0 d.length)),
      (d.length < 16, .aborted (.truncated 8 8 ((d.length : Int) - 8))),
      (Resumes ((d.drop 9).take 7), .aborted (.codeAfterEnd (value ((d.drop 8).take 8)))),
      (2 ^ 62 - 1 < (signedValue (d.take 8)).natAbs, .aborted .outOfRange),
      (¬ NamesSymbol d, .aborted .invalidSymbol),
      (d.length < 24, .aborted (.truncated 8 16 ((d.length : Int) - 16))),
      (24 < d.length, .aborted (.trailing ((d.length : Int) - 24) .holding))] ∧
    ∀ w : Ledger.World,
      (Ledger.make (.unpack .quantity) [.bytes d]).outcome w =
        (Quantity.unpack d).map (fun q => .object (.quantity q)) ∧
      (Ledger.make (.unpack .holding) [.bytes d]).outcome w =
        (Holding.unpack d).map fun k => .object (.holding k) :=
  ⟨Quantity.unpack_classified d, Holding.unpack_classified d, fun w =>
    ⟨Ledger.outcome_unpack_quantity w d, Ledger.outcome_unpack_holding w d⟩⟩

end Holdings
