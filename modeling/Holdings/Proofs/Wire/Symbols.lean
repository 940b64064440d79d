/-
# Symbols are read as they are written

The reader of a symbol word is a loop on an integer, which looks for a zero byte and wants nothing but
zeros behind it.  Here it is told as what it does to the eight bytes (`Symbol.ofBytes?`): the first one is
the number of fraction digits, the code goes up to the first zero byte, and the bytes from there on must be
zero.  The induction is on the bytes (`scanCode_value`); on a number that is made of bytes the loop
always ends.

In this form both directions are short.  A code without zero characters that fits reads back
(`ofBytes?_padded`), and any word that is read is written back (`padded_of_ofBytes?`).
-/
import Holdings.Proofs.Outcome
import Holdings.Proofs.Wire.Words
import Holdings.Wire.Codec

namespace Holdings

/-! ## 1. Characters and bytes -/

namespace Symbol

/-- The character of a byte. -/
def byteChar (b : UInt8) : Char := Char.ofNat b.toNat

/-- The byte of a character below 256. -/
def charByte (c : Char) : UInt8 := UInt8.ofNat c.toNat

theorem toNat_byteChar (b : UInt8) : (byteChar b).toNat = b.toNat := by
  have hb : b.toNat.isValidChar := Or.inl (by have := b.toNat_lt; omega)
  unfold byteChar Char.ofNat
  rw [dif_pos hb]
  rfl

theorem charByte_byteChar (b : UInt8) : charByte (byteChar b) = b := by
  unfold charByte
  rw [toNat_byteChar]
  exact UInt8.ofNat_toNat

theorem toNat_charByte {c : Char} (h : c.toNat < 256) : (charByte c).toNat = c.toNat := by
  unfold charByte
  rw [UInt8.toNat_ofNat']
  omega

theorem byteChar_charByte {c : Char} (h : c.toNat < 256) : byteChar (charByte c) = c := by
  unfold byteChar
  rw [toNat_charByte h]
  exact Char.ofNat_toNat c

/-- Bytes are told by their characters. -/
theorem map_charByte_byteChar (bs : Wire.Bytes) : (bs.map byteChar).map charByte = bs := by
  rw [List.map_map]
  conv => rhs; rw [← List.map_id bs]
  exact List.map_congr_left fun b _ => charByte_byteChar b

/-- Characters below 256 are told by their bytes. -/
theorem map_byteChar_charByte {cs : List Char} (h : ∀ c ∈ cs, c.toNat < 256) :
    (cs.map charByte).map byteChar = cs := by
  rw [List.map_map]
  conv => rhs; rw [← List.map_id cs]
  exact List.map_congr_left fun c hc => byteChar_charByte (h c hc)

/-! ## 2. Reading -/

/-- The characters of a code, if nothing but zeros stands behind it. -/
def codeOfBytes? (bs : Wire.Bytes) : Option (List Char) :=
  if (bs.dropWhile (· != 0)).all (· == 0) then some ((bs.takeWhile (· != 0)).map byteChar)
  else none

/-- The symbol of the bytes of a word. -/
def ofBytes? : Wire.Bytes → Option Symbol
  | [] => none
  | p :: bs => (codeOfBytes? bs).map fun cs => ⟨String.ofList cs, p⟩

theorem codeOfBytes?_zeros {bs : Wire.Bytes} (h : ∀ b ∈ bs, b = 0) : codeOfBytes? bs = some [] := by
  cases bs with
  | nil => rfl
  | cons b bs =>
    have hb : b = 0 := h b List.mem_cons_self
    have hall : (b :: bs).all (· == 0) = true := by
      rw [List.all_eq_true]
      intro c hc
      simp [h c hc]
    have hne : ¬ (b != 0) = true := by simp [hb]
    unfold codeOfBytes?
    rw [List.dropWhile_cons, if_neg hne, List.takeWhile_cons, if_neg hne, if_pos hall]
    rfl

/-- A byte that is not zero belongs to the code. -/
theorem codeOfBytes?_cons {b : UInt8} (h : b ≠ 0) (bs : Wire.Bytes) :
    codeOfBytes? (b :: bs) = (codeOfBytes? bs).map (byteChar b :: ·) := by
  have hb : (b != 0) = true := by simpa using h
  unfold codeOfBytes?
  rw [List.dropWhile_cons, if_pos hb, List.takeWhile_cons, if_pos hb, List.map_cons]
  split <;> rfl

/-- A zero byte ends the code, so another byte behind it is one too many. -/
theorem codeOfBytes?_zero_cons {bs : Wire.Bytes} (h : ¬ ∀ b ∈ bs, b = 0) :
    codeOfBytes? (0 :: bs) = none := by
  have hne : ¬ ((0 : UInt8) != 0) = true := by simp
  have hall : ¬ (0 :: bs).all (· == 0) = true := by
    rw [List.all_eq_true]
    intro hz
    exact h fun b hb => by simpa using hz b (List.mem_cons_of_mem 0 hb)
  unfold codeOfBytes?
  rw [List.dropWhile_cons, if_neg hne, if_neg hall]

/-- Bytes that are not zero are the code, when nothing but zeros stands behind them. -/
theorem codeOfBytes?_letters {bs : Wire.Bytes} (h : ∀ b ∈ bs, b ≠ 0) (n : Nat) :
    codeOfBytes? (bs ++ List.replicate n 0) = some (bs.map byteChar) := by
  induction bs with
  | nil => exact codeOfBytes?_zeros fun b hb => List.eq_of_mem_replicate hb
  | cons b bs ih =>
    obtain ⟨hb, hbs⟩ := List.forall_mem_cons.mp h
    rw [List.cons_append, codeOfBytes?_cons hb, ih hbs]
    rfl

/-- **The loop on the integer, told on its bytes.** -/
theorem scanCode_value (bs : Wire.Bytes) :
    scanCode (Wire.value bs) = match codeOfBytes? bs with
      | some cs => .ok cs
      | none => .error .afterEnd := by
  induction bs with
  | nil =>
    rw [scanCode]
    rfl
  | cons b bs ih =>
    have hmod : (Wire.value (b :: bs) : Int) % 256 = b.toNat :=
      congrArg Nat.cast (Wire.value_cons_mod b bs)
    have hdiv : (Wire.value (b :: bs) : Int) / 256 = Wire.value bs :=
      congrArg Nat.cast (Wire.value_cons_div b bs)
    have hneg : ¬ (Wire.value (b :: bs) : Int) = -1 := by omega
    rw [scanCode]
    by_cases hz : ∀ c ∈ b :: bs, c = 0
    · rw [if_pos (by rw [Wire.value_eq_zero_iff.mpr hz]; rfl), codeOfBytes?_zeros hz]
    · have hv : ¬ (Wire.value (b :: bs) : Int) = 0 := by
        intro he
        exact hz (Wire.value_eq_zero_iff.mp (by omega))
      rw [if_neg hv, if_neg hneg, hmod, hdiv, ih, Int.toNat_natCast]
      by_cases hb : b = 0
      · have hrest : ¬ ∀ c ∈ bs, c = 0 := fun h => hz (List.forall_mem_cons.mpr ⟨hb, h⟩)
        rw [if_pos (by rw [hb]; rfl), hb, codeOfBytes?_zero_cons hrest]
      · have hn : ¬ (b.toNat : Int) = 0 := by
          intro he
          exact hb (UInt8.toNat_inj.mp (by simpa using he))
        rw [if_neg hn, codeOfBytes?_cons hb]
        cases codeOfBytes? bs <;> rfl

theorem scanWord_value (p : UInt8) (bs : Wire.Bytes) :
    scanWord (Wire.value (p :: bs)) = match ofBytes? (p :: bs) with
      | some s => .ok s
      | none => .error .afterEnd := by
  have hmod : (Wire.value (p :: bs) : Int) % 256 = p.toNat :=
    congrArg Nat.cast (Wire.value_cons_mod p bs)
  have hdiv : (Wire.value (p :: bs) : Int) / 256 = Wire.value bs :=
    congrArg Nat.cast (Wire.value_cons_div p bs)
  unfold scanWord
  rw [hmod, hdiv, scanCode_value, Int.toNat_natCast, UInt8.ofNat_toNat, ofBytes?]
  cases codeOfBytes? bs <;> rfl

/-! ## 3. Writing -/

/-- The eight bytes of a symbol: its word with zeros behind the code. -/
def padded (s : Symbol) : Wire.Bytes :=
  s.wordBytes ++ List.replicate (8 - s.wordBytes.length) 0

theorem length_wordBytes_le {s : Symbol} (h : fitsWord s.code = true) : s.wordBytes.length ≤ 8 := by
  have hc : s.code.toList.length ≤ maxCodeLength := by
    unfold fitsWord at h
    exact of_decide_eq_true (Bool.and_eq_true_iff.1 h).1
  unfold maxCodeLength at hc
  simp only [wordBytes, List.length_cons, List.length_map]
  omega

theorem length_padded {s : Symbol} (h : fitsWord s.code = true) : s.padded.length = 8 := by
  have := length_wordBytes_le h
  simp only [padded, List.length_append, List.length_replicate]
  omega

theorem fitsWord_iff {code : String} :
    fitsWord code = true ↔ code.toList.length ≤ 7 ∧ ∀ c ∈ code.toList, c.toNat < 128 := by
  unfold fitsWord maxCodeLength
  rw [Bool.and_eq_true, decide_eq_true_eq, List.all_eq_true]
  simp only [decide_eq_true_eq]

/-- **Symbols that fit and have no zero character read back.** -/
theorem ofBytes?_padded {s : Symbol} (h : fitsWord s.code = true)
    (hz : ∀ c ∈ s.code.toList, c.toNat ≠ 0) : ofBytes? s.padded = some s := by
  have hascii := (fitsWord_iff.mp h).2
  have hlow : ∀ c ∈ s.code.toList, c.toNat < 256 := fun c hc => by
    have := hascii c hc
    omega
  have hne : ∀ b ∈ s.code.toList.map charByte, b ≠ 0 := by
    intro b hb he
    obtain ⟨c, hc, rfl⟩ := List.mem_map.mp hb
    have hn := toNat_charByte (hlow c hc)
    rw [he] at hn
    exact hz c hc hn.symm
  have hp : s.padded = s.precision :: (s.code.toList.map charByte ++
      List.replicate (8 - s.wordBytes.length) 0) := rfl
  rw [hp, ofBytes?, codeOfBytes?_letters hne, map_byteChar_charByte hlow, Option.map_some, String.ofList_toList]

/-- What the bytes of a code are, when they are read: the characters, and zeros. -/
theorem bytes_of_codeOfBytes? {bs : Wire.Bytes} {cs : List Char} (h : codeOfBytes? bs = some cs) :
    ∃ n, bs = cs.map charByte ++ List.replicate n 0 := by
  unfold codeOfBytes? at h
  split at h
  · rename_i hall
    obtain rfl := Option.some.inj h
    refine ⟨(bs.dropWhile (· != 0)).length, ?_⟩
    have hback : bs.dropWhile (· != 0) = List.replicate (bs.dropWhile (· != 0)).length 0 := by
      rw [List.eq_replicate_iff]
      refine ⟨rfl, fun b hb => ?_⟩
      simpa using List.all_eq_true.mp hall b hb
    rw [map_charByte_byteChar, ← hback, List.takeWhile_append_dropWhile]
  · cases h

/-- **A word that is read is written back.** -/
theorem padded_of_ofBytes? {bs : Wire.Bytes} {s : Symbol} (h : ofBytes? bs = some s)
    (hlen : bs.length = 8) : s.padded = bs := by
  cases bs with
  | nil => cases h
  | cons p bs =>
    unfold ofBytes? at h
    obtain ⟨cs, hcs, rfl⟩ := Option.map_eq_some_iff.mp h
    obtain ⟨n, rfl⟩ := bytes_of_codeOfBytes? hcs
    have hw : wordBytes ⟨String.ofList cs, p⟩ = p :: cs.map charByte := by
      unfold wordBytes
      rw [String.toList_ofList]
      rfl
    have hn : n = 8 - (p :: cs.map charByte).length := by
      simp only [List.length_cons, List.length_append, List.length_replicate] at hlen ⊢
      omega
    unfold padded
    rw [hw, ← hn]
    rfl

end Symbol

/-! ## 4. The codec -/

namespace Wire

theorem encode_int {f : WordFormat} {n : Int} (h : f.fits n = true) :
    f.encode (.int n) = .ok (f.arrange (digits f.size (n % f.modulus).toNat)) := by
  have ha : Value.asInt? (.int n : Datum) = some n := rfl
  unfold WordFormat.encode WordFormat.encode?
  rw [ha]
  dsimp only
  rw [if_pos h]

/-- A natural number below `256 ^ 8` stands in its digits. -/
theorem encode_uint64 {n : Nat} (h : n < 18446744073709551616) :
    WordFormat.uint64.encode (.int n) = .ok (digits 8 n) := by
  have hm : WordFormat.uint64.modulus = 18446744073709551616 := by decide
  have hf : WordFormat.uint64.fits n = true := by
    rw [WordFormat.fits_unsigned_iff _ rfl, hm]
    omega
  have hr : ((n : Int) % (WordFormat.uint64.modulus : Int)).toNat = n := by
    rw [hm]
    omega
  rw [encode_int hf, hr]
  rfl

theorem encodeSymbol_eq {s : Symbol} (h : Symbol.fitsWord s.code = true) :
    encodeSymbol s = .ok s.padded := by
  have hw : s.toWord? = some (value s.wordBytes) := by
    unfold Symbol.toWord?
    rw [if_pos h]
  unfold encodeSymbol
  rw [hw]
  dsimp only
  rw [encode_uint64 (Symbol.toWord?_lt hw), digits_value_of_le (Symbol.length_wordBytes_le h)]
  rfl

theorem encodeSymbol_of_not_fits {s : Symbol} (h : ¬ Symbol.fitsWord s.code = true) :
    encodeSymbol s = .error (.aborted (.wideCode s.code)) := by
  have hw : s.toWord? = none := by
    unfold Symbol.toWord?
    rw [if_neg h]
  unfold encodeSymbol
  rw [hw]

/-- **Reading a symbol**: eight bytes must follow, and they must be those of a symbol. -/
theorem decodeSymbol_nat {data : Bytes} {i : Nat} (hdata : i ≤ data.length) :
    decodeSymbol data i =
      if data.length < i + 8 then
        .error (.aborted (.truncated 8 i ((data.length : Int) - i)))
      else match Symbol.ofBytes? ((data.drop i).take 8) with
        | some s => .ok (s, ((i + 8 : Nat) : Int))
        | none => .error (.aborted (.codeAfterEnd (value ((data.drop i).take 8)))) := by
  have hsize : WordFormat.uint64.size = 8 := rfl
  unfold decodeSymbol
  rw [WordFormat.decode_nat _ hdata, hsize]
  split
  · rfl
  · rename_i h
    have hlen : ((data.drop i).take 8).length = 8 := WordFormat.length_take_drop (by omega)
    rw [WordFormat.decodeBytes_unsigned _ rfl]
    cases hbs : (data.drop i).take 8 with
    | nil =>
      rw [hbs] at hlen
      cases hlen
    | cons p bs =>
      have ha : WordFormat.uint64.arrange (p :: bs) = p :: bs := rfl
      rw [ha]
      dsimp only [bind, Except.bind]
      rw [Symbol.scanWord_value]
      cases Symbol.ofBytes? (p :: bs) <;> rfl

/-- Reading eight bytes from their start. -/
theorem decodeSymbol_eight {d : Bytes} (h : d.length = 8) :
    decodeSymbol d 0 = match Symbol.ofBytes? d with
      | some s => .ok (s, 8)
      | none => .error (.aborted (.codeAfterEnd (value d))) := by
  have hread := decodeSymbol_nat (Nat.zero_le d.length)
  rw [if_neg (by omega), List.drop_zero, List.take_of_length_le (by omega)] at hread
  exact hread

theorem encodeIdentity_eq (i : Identity) :
    encodeIdentity i = .ok (digits 8 i.value.toNat) :=
  encode_uint64 i.value.toNat_lt

end Wire

end Holdings
