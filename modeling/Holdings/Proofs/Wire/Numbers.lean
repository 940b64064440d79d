/-
# The symbol of a number

Reading a symbol takes a number of any size.  What it says is told here by the digits of the number in base
256 (`digit`), without the loop: the lowest one is the precision, the digits above it are the characters of
the code, and the code ends with the last digit that is not zero (`LastDigit`).  A number is refused exactly
when one of the digits of its code is zero below that one (`HasGap`).

The loop has been told on bytes already (`Symbol.scanWord_value`), so a number is first written with as many
digits as it has (`digits_eq_map`), the last of them not being zero.

A symbol that was read is written as the same number again, if it is one that can be written at all: there
are more numbers to read than to write.  The two limits are the size of a word and the characters of ASCII.
-/
import Mathlib.Algebra.BigOperators.Fin
import Mathlib.Data.Nat.Log
import Mathlib.Tactic.Ring
import Holdings.Proofs.Wire.Framing
import Holdings.Proofs.Wire.Refusal

namespace Holdings

namespace Wire

/-! ## 1. Digits -/

/-- A digit of a number in base 256, the lowest one having place zero. -/
def digit (n i : Nat) : Nat := n / 256 ^ i % 256

/-- The place of the last digit that is not zero, or zero if there is none above the lowest one. -/
structure LastDigit (n k : Nat) : Prop where
  above : ∀ j, k < j → digit n j = 0
  last : k = 0 ∨ digit n k ≠ 0

/-- A digit above the lowest one is zero although a later one is not. -/
def HasGap (n : Nat) : Prop := ∃ i j, 1 ≤ i ∧ i < j ∧ digit n i = 0 ∧ digit n j ≠ 0

theorem digit_lt (n i : Nat) : digit n i < 256 := Nat.mod_lt _ (by decide)

theorem digit_zero (n : Nat) : digit n 0 = n % 256 := by
  rw [digit, pow_zero, Nat.div_one]

/-- The digits above the lowest one are those of the number without it. -/
theorem digit_succ (n i : Nat) : digit n (i + 1) = digit (n / 256) i := by
  rw [digit, digit, Nat.div_div_eq_div_mul, pow_succ']

/-- **The digits of a number**, written one after the other. -/
theorem digits_eq_map (w n : Nat) :
    digits w n = (List.range w).map fun i => UInt8.ofNat (digit n i) := by
  induction w generalizing n with
  | zero => rfl
  | succ w ih =>
    rw [digits, ih, List.range_succ_eq_map, List.map_cons, List.map_map, digit_zero]
    congr 1
    exact List.map_congr_left fun i _ => by rw [Function.comp, digit_succ]

theorem LastDigit.exists (n : Nat) : ∃ k, LastDigit n k ∧ n < 256 ^ (k + 1) := by
  have hlt : n < 256 ^ (Nat.log 256 n + 1) := Nat.lt_pow_succ_log_self (by decide) n
  refine ⟨Nat.log 256 n, ⟨fun j hj => ?_, ?_⟩, hlt⟩
  · have hj' : n < 256 ^ j := hlt.trans_le (Nat.pow_le_pow_right (by decide) hj)
    rw [digit, Nat.div_eq_of_lt hj']
  · by_cases hn : n = 0
    · exact Or.inl (by rw [hn, Nat.log_zero_right])
    · have hle : 256 ^ Nat.log 256 n ≤ n := Nat.pow_log_le_self 256 hn
      have hpos : 0 < n / 256 ^ Nat.log 256 n := Nat.div_pos hle (Nat.pow_pos (by decide))
      have hsmall : n / 256 ^ Nat.log 256 n < 256 := by
        rw [Nat.div_lt_iff_lt_mul (Nat.pow_pos (by decide)), ← pow_succ']
        exact hlt
      refine Or.inr ?_
      rw [digit, Nat.mod_eq_of_lt hsmall]
      omega

theorem LastDigit.le {n k m : Nat} (h : LastDigit n k) (h' : LastDigit n m) : k ≤ m := by
  by_contra hlt
  rcases h.last with hk | hk
  · omega
  · exact hk (h'.above k (by omega))

/-- No more digits are needed than up to the last one. -/
theorem LastDigit.lt {n k : Nat} (h : LastDigit n k) : n < 256 ^ (k + 1) := by
  obtain ⟨m, hm, hlt⟩ := LastDigit.exists n
  have hkm : k = m := Nat.le_antisymm (h.le hm) (hm.le h)
  exact hkm ▸ hlt

/-- Without a gap no digit of the code is zero. -/
theorem LastDigit.digit_ne_zero {n k : Nat} (h : LastDigit n k) (hgap : ¬ HasGap n) {i : Nat}
    (hi : 1 ≤ i) (hk : i ≤ k) : digit n i ≠ 0 := by
  intro h0
  rcases h.last with rfl | hlast
  · omega
  · have hne : i ≠ k := by
      rintro rfl
      exact hlast h0
    exact hgap ⟨i, k, hi, by omega, h0, hlast⟩

/-- The places of a gap are not behind the last digit. -/
theorem LastDigit.le_of_digit_ne_zero {n k : Nat} (h : LastDigit n k) {j : Nat} (hj : digit n j ≠ 0) :
    j ≤ k := by
  by_contra hlt
  exact hj (h.above j (by omega))

/-! ## 2. The code of a number -/

/-- The bytes of the code of a number. -/
def codeDigits (n k : Nat) : Bytes := (List.range k).map fun i => UInt8.ofNat (digit n (i + 1))

/-- A number is the value of its lowest digit and those of its code. -/
theorem LastDigit.value_codeDigits {n k : Nat} (h : LastDigit n k) :
    value (UInt8.ofNat (digit n 0) :: codeDigits n k) = n := by
  have hd : digits (k + 1) n = UInt8.ofNat (digit n 0) :: codeDigits n k := by
    rw [digits_eq_map, List.range_succ_eq_map, List.map_cons, List.map_map]
    rfl
  rw [← hd]
  exact value_digits h.lt

theorem length_codeDigits (n k : Nat) : (codeDigits n k).length = k := by
  rw [codeDigits, List.length_map, List.length_range]

theorem getElem?_codeDigits {n k i : Nat} (h : i < k) :
    (codeDigits n k)[i]? = some (UInt8.ofNat (digit n (i + 1))) := by
  rw [codeDigits, List.getElem?_map, List.getElem?_range h]
  rfl

theorem ofNat_digit_eq_zero_iff {n i : Nat} : UInt8.ofNat (digit n i) = 0 ↔ digit n i = 0 := by
  rw [← UInt8.toNat_inj, UInt8.toNat_ofNat_of_lt' (digit_lt n i), UInt8.toNat_zero]

/-- Bytes resume behind a zero byte at one place and with another byte at a later place. -/
theorem resumes_iff_getElem? {bs : Bytes} :
    Resumes bs ↔ ∃ (i j : Nat) (b : UInt8), i < j ∧ bs[i]? = some 0 ∧ bs[j]? = some b ∧ b ≠ 0 := by
  constructor
  · rintro ⟨front, back, rfl, b, hb, hne⟩
    obtain ⟨j, hj⟩ := List.mem_iff_getElem?.mp hb
    refine ⟨front.length, front.length + (j + 1), b, by omega, by simp, ?_, hne⟩
    rw [List.getElem?_append_right (by omega), Nat.add_sub_cancel_left, List.getElem?_cons_succ, hj]
  · rintro ⟨i, j, b, hij, hi, hj, hne⟩
    induction bs generalizing i j with
    | nil => cases hi
    | cons c bs ih =>
      obtain ⟨j, rfl⟩ : ∃ j', j = j' + 1 := ⟨j - 1, by omega⟩
      rw [List.getElem?_cons_succ] at hj
      rw [resumes_cons]
      cases i with
      | zero =>
        rw [List.getElem?_cons_zero, Option.some.injEq] at hi
        exact Or.inl ⟨hi, b, List.mem_of_getElem? hj, hne⟩
      | succ i =>
        rw [List.getElem?_cons_succ] at hi
        exact Or.inr (ih i j (by omega) hi hj)

/-- **A number has a gap exactly when the bytes of its code resume behind a zero byte.** -/
theorem LastDigit.resumes_iff {n k : Nat} (h : LastDigit n k) :
    Resumes (codeDigits n k) ↔ HasGap n := by
  rw [resumes_iff_getElem?]
  constructor
  · rintro ⟨i, j, b, hij, hi, hj, hne⟩
    have hjk : j < k := by
      have hlt := (List.getElem?_eq_some_iff.mp hj).1
      rwa [length_codeDigits] at hlt
    rw [getElem?_codeDigits (by omega), Option.some.injEq] at hi hj
    refine ⟨i + 1, j + 1, by omega, by omega, ofNat_digit_eq_zero_iff.mp hi, fun h0 => ?_⟩
    exact hne (hj ▸ ofNat_digit_eq_zero_iff.mpr h0)
  · rintro ⟨i, j, hi, hij, h0, hne⟩
    have hjk := h.le_of_digit_ne_zero hne
    obtain ⟨i, rfl⟩ : ∃ i', i = i' + 1 := ⟨i - 1, by omega⟩
    obtain ⟨j, rfl⟩ : ∃ j', j = j' + 1 := ⟨j - 1, by omega⟩
    refine ⟨i, j, _, by omega, ?_, getElem?_codeDigits (by omega), ?_⟩
    · rw [getElem?_codeDigits (by omega), ofNat_digit_eq_zero_iff.mpr h0]
    · exact fun hz => hne (ofNat_digit_eq_zero_iff.mp hz)

/-- The digits of the number of some bytes are these bytes. -/
theorem digit_value (bs : Bytes) (i : Nat) : digit (value bs) i = (bs.getD i 0).toNat := by
  induction bs generalizing i with
  | nil =>
    rw [value, digit, Nat.zero_div]
    rfl
  | cons b bs ih =>
    cases i with
    | zero => rw [digit_zero, value_cons_mod, List.getD_cons_zero]
    | succ i => rw [digit_succ, value_cons_div, ih, List.getD_cons_succ]

end Wire

open Wire

namespace Symbol

/-! ## 3. Reading -/

/-- The characters of bytes, weighted by their places. -/
theorem value_eq_sum {cs : List Char} {bs : Bytes} (h : cs = bs.map byteChar) :
    value bs = ∑ i : Fin cs.length, cs[i].toNat * 256 ^ i.val := by
  subst h
  induction bs with
  | nil => rfl
  | cons b bs ih =>
    have hfirst : ∑ i : Fin ((bs.map byteChar).length + 1),
          (byteChar b :: bs.map byteChar)[i.val].toNat * 256 ^ i.val =
        (byteChar b).toNat * 256 ^ 0 + ∑ i : Fin (bs.map byteChar).length,
          (bs.map byteChar)[i.val].toNat * 256 ^ (i.val + 1) :=
      Fin.sum_univ_succ _
    refine Eq.trans ?_ hfirst.symm
    rw [value, ih, toNat_byteChar, pow_zero, mul_one, Finset.mul_sum]
    refine congrArg (b.toNat + ·) ?_
    refine Finset.sum_congr rfl fun i _ => ?_
    rw [pow_succ, Fin.getElem_fin]
    ring

/-- What a symbol says of a number whose last digit has a place. -/
structure ReadFrom (s : Symbol) (raw k : Nat) : Prop where
  last : LastDigit raw k
  precision : s.precision.toNat = digit raw 0
  code : s.code.toList.map Char.toNat = (List.range k).map fun i => digit raw (i + 1)
  sum : raw = digit raw 0 + ∑ i : Fin s.code.toList.length, s.code.toList[i].toNat * 256 ^ (i.val + 1)

/-- The symbol that the digits of a number tell. -/
def ofDigits (n k : Nat) : Symbol :=
  ⟨String.ofList ((codeDigits n k).map byteChar), UInt8.ofNat (digit n 0)⟩

theorem toList_ofDigits (n k : Nat) :
    (ofDigits n k).code.toList = (codeDigits n k).map byteChar := String.toList_ofList

/-- The characters of the code are the digits above the lowest one. -/
theorem map_toNat_ofDigits (n k : Nat) :
    (ofDigits n k).code.toList.map Char.toNat = (List.range k).map fun i => digit n (i + 1) := by
  rw [toList_ofDigits, codeDigits, List.map_map, List.map_map]
  refine List.map_congr_left fun i _ => ?_
  rw [Function.comp, Function.comp, toNat_byteChar, UInt8.toNat_ofNat_of_lt' (digit_lt n (i + 1))]

theorem readFrom_ofDigits {n k : Nat} (h : LastDigit n k) : (ofDigits n k).ReadFrom n k where
  last := h
  precision := UInt8.toNat_ofNat_of_lt' (digit_lt n 0)
  code := map_toNat_ofDigits n k
  sum := by
    have hn : n = digit n 0 + 256 * value (codeDigits n k) := by
      conv => lhs; rw [← h.value_codeDigits]
      rw [value, UInt8.toNat_ofNat_of_lt' (digit_lt n 0)]
    conv => lhs; rw [hn]
    rw [value_eq_sum (toList_ofDigits n k), Finset.mul_sum]
    refine congrArg (digit n 0 + ·) ?_
    refine Finset.sum_congr rfl fun i _ => ?_
    ring

/-- **A number with a gap** is no symbol. -/
theorem scanWord_of_gap {n : Nat} (h : HasGap n) : scanWord n = .error .afterEnd := by
  obtain ⟨k, hk, -⟩ := LastDigit.exists n
  have hnone : codeOfBytes? (codeDigits n k) = none :=
    codeOfBytes?_eq_none_iff.mpr (hk.resumes_iff.mpr h)
  conv => lhs; rw [← hk.value_codeDigits]
  rw [scanWord_value, ofBytes?, hnone]
  rfl

/-- **A number without a gap** is the symbol of its digits. -/
theorem scanWord_of_not_gap {n k : Nat} (hk : LastDigit n k) (h : ¬ HasGap n) :
    scanWord n = .ok (ofDigits n k) := by
  have hletters : ∀ b ∈ codeDigits n k, b ≠ 0 := by
    intro b hb
    obtain ⟨i, hi, rfl⟩ := List.mem_map.mp hb
    rw [List.mem_range] at hi
    exact fun h0 => hk.digit_ne_zero h (by omega) (by omega) (ofNat_digit_eq_zero_iff.mp h0)
  have hcode := codeOfBytes?_letters hletters 0
  rw [List.replicate_zero, List.append_nil] at hcode
  conv => lhs; rw [← hk.value_codeDigits]
  rw [scanWord_value, ofBytes?, hcode]
  rfl

/-! ## 4. Writing what was read -/

theorem wordBytes_ofDigits (n k : Nat) :
    (ofDigits n k).wordBytes = UInt8.ofNat (digit n 0) :: codeDigits n k := by
  unfold wordBytes
  rw [toList_ofDigits]
  exact congrArg _ (map_charByte_byteChar (codeDigits n k))

/-- What can be written again: at most seven digits above the lowest one, all of them below 128. -/
def Writable (n k : Nat) : Prop := k ≤ 7 ∧ ∀ i, 1 ≤ i → digit n i < 128

theorem fitsWord_ofDigits {n k : Nat} (h : LastDigit n k) :
    fitsWord (ofDigits n k).code = true ↔ Writable n k := by
  have hlen : (ofDigits n k).code.toList.length = k := by
    rw [toList_ofDigits, List.length_map, length_codeDigits]
  have hmem : (∀ c ∈ (ofDigits n k).code.toList, c.toNat < 128) ↔ ∀ i < k, digit n (i + 1) < 128 := by
    rw [← List.forall_mem_map (f := Char.toNat) (P := (· < 128)), map_toNat_ofDigits]
    simp
  rw [fitsWord_iff, hlen, hmem]
  refine and_congr_right fun _ => ⟨fun hlow i hi => ?_, fun hlow i _ => hlow (i + 1) (by omega)⟩
  by_cases hik : i ≤ k
  · have := hlow (i - 1) (by omega)
    rwa [Nat.sub_add_cancel hi] at this
  · rw [h.above i (by omega)]
    decide

/-- A code that fits has a word. -/
theorem raw_of_fits {s : Symbol} (h : fitsWord s.code = true) : s.raw = .ok (value s.wordBytes) := by
  unfold raw toWord?
  rw [if_pos h]

theorem raw_of_not_fits {s : Symbol} (h : ¬ fitsWord s.code = true) :
    s.raw = .error (.refused (.wideCode s.code)) := by
  unfold raw toWord?
  rw [if_neg h]

/-- **A symbol that was read is written as its number**, if the number can be written. -/
theorem raw_ofDigits {n k : Nat} (h : LastDigit n k) (hw : Writable n k) :
    (ofDigits n k).raw = .ok n := by
  rw [raw_of_fits ((fitsWord_ofDigits h).mpr hw), wordBytes_ofDigits, h.value_codeDigits]

theorem raw_ofDigits_of_not_writable {n k : Nat} (h : LastDigit n k) (hw : ¬ Writable n k) :
    (ofDigits n k).raw = .error (.refused (.wideCode (ofDigits n k).code)) :=
  raw_of_not_fits fun hf => hw ((fitsWord_ofDigits h).mp hf)

/-- Eight bytes can be written when those of the code are below 128. -/
theorem writable_value_iff {d : Bytes} (hd : d.length = 8) {k : Nat} (h : LastDigit (value d) k) :
    Writable (value d) k ↔ ∀ b ∈ d.tail, b.toNat < 128 := by
  -- the last digit that is not zero is one of the eight bytes
  have hk : k ≤ 7 := by
    rcases h.last with rfl | hlast
    · omega
    · by_contra hlong
      refine hlast ?_
      rw [digit_value, List.getD_eq_default _ _ (by omega)]
      rfl
  cases d with
  | nil => cases hd
  | cons p bs =>
    rw [Writable, and_iff_right hk, List.tail_cons]
    constructor
    · intro hlow b hb
      obtain ⟨i, hi⟩ := List.mem_iff_getElem?.mp hb
      have hdigit := hlow (i + 1) (by omega)
      rw [digit_value, List.getD_cons_succ, List.getD_eq_getElem?_getD, hi] at hdigit
      exact hdigit
    · intro hlow i hi
      obtain ⟨i, rfl⟩ : ∃ i', i = i' + 1 := ⟨i - 1, by omega⟩
      rw [digit_value, List.getD_cons_succ, List.getD_eq_getElem?_getD]
      cases hget : bs[i]? with
      | none => decide
      | some b => exact hlow b (List.mem_of_getElem? hget)

/-- What was read from eight bytes is the symbol of their number. -/
theorem of_decodeSymbol {d : Bytes} (hd : d.length = 8) {s : Symbol} {next : Int}
    (h : decodeSymbol d 0 = .ok (s, next)) :
    s.padded = d ∧ ∃ k, LastDigit (value d) k ∧ s = ofDigits (value d) k := by
  rw [decodeSymbol_eight hd] at h
  cases hs : ofBytes? d with
  | none =>
    rw [hs] at h
    cases h
  | some t =>
    rw [hs] at h
    obtain ⟨rfl, rfl⟩ := Prod.mk.inj (Except.ok.inj h)
    refine ⟨padded_of_ofBytes? hs hd, ?_⟩
    obtain ⟨k, hk, -⟩ := LastDigit.exists (value d)
    refine ⟨k, hk, ?_⟩
    have hscan : scanWord (value d) = .ok t := by
      cases d with
      | nil => cases hd
      | cons p bs => rw [scanWord_value, hs]
    by_cases hgap : HasGap (value d)
    · rw [scanWord_of_gap hgap] at hscan
      cases hscan
    · rw [scanWord_of_not_gap hk hgap] at hscan
      exact (Except.ok.inj hscan).symm

/-- **The symbol of a number.**  A number is refused exactly when it has a gap.  Any other number is read
as the symbol of its digits, and that symbol is written as the number again, if the number can be written;
if not, the symbol is refused.  So eight bytes that are read as a symbol are what the symbol is written as,
unless one of the bytes of the code is not below 128, and exactly then the symbol cannot be written. -/
theorem symbol_of_number (raw : Nat) :
    (ofRaw raw = .error (.refused (.codeAfterEnd raw)) ↔ HasGap raw) ∧
    (¬ HasGap raw → ∃ s k, ofRaw raw = .ok s ∧ s.ReadFrom raw k ∧
      (s.raw = .ok raw ↔ k ≤ 7 ∧ ∀ i, 1 ≤ i → digit raw i < 128) ∧
      (s.raw = .error (.refused (.wideCode s.code)) ↔ ¬ (k ≤ 7 ∧ ∀ i, 1 ≤ i → digit raw i < 128))) ∧
    ∀ (d : Bytes) (s : Symbol) (next : Int), d.length = 8 → decodeSymbol d 0 = .ok (s, next) →
      (encodeSymbol s = .ok d ↔ ∀ b ∈ d.tail, b.toNat < 128) ∧
      (encodeSymbol s = .error (.aborted (.wideCode s.code)) ↔ ∃ b ∈ d.tail, 128 ≤ b.toNat) := by
  obtain ⟨k, hk, -⟩ := LastDigit.exists raw
  refine ⟨?_, fun hgap => ?_, fun d s next hd h => ?_⟩
  · by_cases hgap : HasGap raw
    · rw [ofRaw, scanWord_of_gap hgap]
      exact iff_of_true rfl hgap
    · rw [ofRaw, scanWord_of_not_gap hk hgap]
      exact iff_of_false (by simp) hgap
  · refine ⟨ofDigits raw k, k, by rw [ofRaw, scanWord_of_not_gap hk hgap], readFrom_ofDigits hk, ?_⟩
    rw [← Writable]
    by_cases hw : Writable raw k
    · rw [raw_ofDigits hk hw]
      simp [hw]
    · rw [raw_ofDigits_of_not_writable hk hw]
      simp [hw]
  · obtain ⟨hpad, m, hm, rfl⟩ := of_decodeSymbol hd h
    have hfits := (fitsWord_ofDigits hm).trans (writable_value_iff hd hm)
    have hnot : (∃ b ∈ d.tail, 128 ≤ b.toNat) ↔ ¬ ∀ b ∈ d.tail, b.toNat < 128 := by
      simp only [not_forall, not_lt, exists_prop]
    rw [hnot, ← hfits]
    by_cases hf : fitsWord (ofDigits (value d) m).code = true
    · rw [encodeSymbol_eq hf, hpad]
      simp [hf]
    · rw [encodeSymbol_of_not_fits hf]
      simp [hf]

/-- A number of one letter, a number with a letter behind a zero digit, and bytes with one above 127. -/
theorem symbol_of_number_with_gap :
    (∃ k, ofRaw 16644 = .ok ⟨"A", 4⟩ ∧ ReadFrom ⟨"A", 4⟩ 16644 k ∧ raw ⟨"A", 4⟩ = .ok 16644) ∧
    ofRaw 1107312900 = .error (.refused (.codeAfterEnd 1107312900)) ∧
    decodeSymbol [4, 65, 200, 0, 0, 0, 0, 0] 0 = .ok (⟨"AÈ", 4⟩, 8) ∧
    encodeSymbol ⟨"AÈ", 4⟩ = .error (.aborted (.wideCode "AÈ")) := by
  have hgap : ¬ HasGap 16644 := by
    rw [← (symbol_of_number 16644).1]
    decide +kernel
  have hletter : ofRaw 16644 = .ok ⟨"A", 4⟩ := by decide +kernel
  have hwide : decodeSymbol [4, 65, 200, 0, 0, 0, 0, 0] 0 = .ok (⟨"AÈ", 4⟩, 8) := by decide +kernel
  obtain ⟨s, k, hs, hread, -⟩ := (symbol_of_number 16644).2.1 hgap
  obtain rfl : s = ⟨"A", 4⟩ := Except.ok.inj (hs.symm.trans hletter)
  refine ⟨⟨k, hletter, hread, by rfl⟩, ?_, hwide, ?_⟩
  · exact (symbol_of_number 1107312900).1.mpr ⟨2, 3, by decide, by decide, by decide, by decide⟩
  · exact ((symbol_of_number 0).2.2 _ _ 8 (by rfl) hwide).2.mpr ⟨200, by decide, by decide⟩

end Symbol

end Holdings
