/-
# Words are read as they are written

For every format, writing and reading are inverse to each other: an integer in the range of the format
reads back from its bytes (`decodeBytes_encode?`), and a string of as many bytes as the format has is the
one that its integer is written as (`encode?_decodeBytes`).  Both rest on the digits in base 256
(`value_digits`, `digits_value`); what is added is the order of the bytes and the sign.

Reading at an offset looks at the bytes from there on and at nothing else (`decode_nat`).
-/
import Holdings.Wire.Word

namespace Holdings.Wire

/-! ## 1. Digits -/

theorem value_eq_zero_iff {bs : Bytes} : value bs = 0 ↔ ∀ b ∈ bs, b = 0 := by
  induction bs with
  | nil => simp [value]
  | cons b bs ih =>
    have hb : b = 0 ↔ b.toNat = 0 := by rw [← UInt8.toNat_inj, UInt8.toNat_zero]
    rw [List.forall_mem_cons, ← ih, hb, value]
    omega

/-- The lowest byte is the remainder. -/
theorem value_cons_mod (b : UInt8) (bs : Bytes) : value (b :: bs) % 256 = b.toNat := by
  have hb : b.toNat < 256 := b.toNat_lt
  rw [value]
  omega

/-- The bytes above it are the quotient. -/
theorem value_cons_div (b : UInt8) (bs : Bytes) : value (b :: bs) / 256 = value bs := by
  have hb : b.toNat < 256 := b.toNat_lt
  rw [value]
  omega

/-- More digits than there are bytes are zeros. -/
theorem digits_value_of_le {bs : Bytes} {w : Nat} (h : bs.length ≤ w) :
    digits w (value bs) = bs ++ List.replicate (w - bs.length) 0 := by
  induction bs generalizing w with
  | nil =>
    induction w with
    | zero => rfl
    | succ w ih =>
      have h' : digits w 0 = List.replicate w 0 := by simpa [value] using ih (Nat.zero_le w)
      simp [digits, value, h', List.replicate_succ]
  | cons b bs ih =>
    cases w with
    | zero => simp at h
    | succ w =>
      have hl : bs.length ≤ w := by simpa using h
      simp only [digits, value_cons_mod, value_cons_div, ih hl, UInt8.ofNat_toNat, List.length_cons,
        Nat.add_sub_add_right, List.cons_append]

/-- Eight bytes are a number of sixty-four bits. -/
theorem value_lt_of_length_eq {bs : Bytes} (h : bs.length = 8) : value bs < 18446744073709551616 := by
  have hlt := value_lt bs
  rw [h] at hlt
  exact hlt

namespace WordFormat

variable (f : WordFormat)

/-! ## 2. Ranges -/

@[simp] theorem length_arrange (bs : Bytes) : (f.arrange bs).length = bs.length := by
  unfold arrange
  cases f.order <;> simp

theorem modulus_pos : 0 < f.modulus := Nat.pow_pos (by decide)

/-- Half of the words have the sign. -/
theorem two_mul_half_modulus : 2 * (f.modulus / 2) = f.modulus := by
  obtain ⟨k, hk⟩ : ∃ k, f.size = k + 1 := by
    unfold size
    cases f.width <;> exact ⟨_, rfl⟩
  have hm : f.modulus = 256 ^ k * 256 := by
    rw [modulus, hk]
    exact Nat.pow_succ 256 k
  rw [hm]
  omega

theorem fits_iff {n : Int} : f.fits n = true ↔ f.lowest ≤ n ∧ n ≤ f.highest := by
  simp [fits]

/-- The integers of a signed format. -/
theorem fits_signed_iff {n : Int} (hs : f.signed = true) :
    f.fits n = true ↔ -((f.modulus / 2 : Nat) : Int) ≤ n ∧ n < ((f.modulus / 2 : Nat) : Int) := by
  rw [fits_iff, lowest, highest, if_pos hs, if_pos hs]
  omega

/-- The integers of an unsigned format. -/
theorem fits_unsigned_iff {n : Int} (hs : f.signed = false) :
    f.fits n = true ↔ 0 ≤ n ∧ n < (f.modulus : Int) := by
  have h : ¬ f.signed = true := by simp [hs]
  rw [fits_iff, lowest, highest, if_neg h, if_neg h]
  omega

theorem decodeBytes_signed (hs : f.signed = true) (bs : Bytes) :
    f.decodeBytes bs = if f.modulus / 2 ≤ value (f.arrange bs)
      then (value (f.arrange bs) : Int) - f.modulus else value (f.arrange bs) := by
  unfold decodeBytes
  simp only [hs, Bool.true_and, decide_eq_true_eq]

theorem decodeBytes_unsigned (hs : f.signed = false) (bs : Bytes) :
    f.decodeBytes bs = value (f.arrange bs) := by
  unfold decodeBytes
  simp only [hs, Bool.false_and, Bool.false_eq_true, if_false]

/-! ## 3. Writing and reading -/

/-- The residue of an integer of the format gives the integer back. -/
theorem decodeBytes_arrange_digits {n : Int} (h : f.fits n = true) :
    f.decodeBytes (f.arrange (digits f.size (n % f.modulus).toNat)) = n := by
  have hM : 0 < (f.modulus : Int) := Int.natCast_pos.mpr f.modulus_pos
  have heven := f.two_mul_half_modulus
  have hr : 0 ≤ n % (f.modulus : Int) := Int.emod_nonneg n (by omega)
  have hlt : n % (f.modulus : Int) < f.modulus := Int.emod_lt_of_pos n hM
  have hv : value (digits f.size (n % f.modulus).toNat) = (n % f.modulus).toNat := by
    refine value_digits ?_
    show (n % f.modulus).toNat < f.modulus
    omega
  cases hs : f.signed with
  | true =>
    obtain ⟨h₁, h₂⟩ := (f.fits_signed_iff hs).mp h
    rw [f.decodeBytes_signed hs, arrange_arrange, hv]
    by_cases hn : n < 0
    · have hmod : n % (f.modulus : Int) = n + f.modulus := by
        rw [← Int.add_emod_right]
        exact Int.emod_eq_of_lt (by omega) (by omega)
      rw [if_pos (by omega)]
      omega
    · have hmod : n % (f.modulus : Int) = n := Int.emod_eq_of_lt (by omega) (by omega)
      rw [if_neg (by omega)]
      omega
  | false =>
    obtain ⟨h₁, h₂⟩ := (f.fits_unsigned_iff hs).mp h
    have hmod : n % (f.modulus : Int) = n := Int.emod_eq_of_lt h₁ h₂
    rw [f.decodeBytes_unsigned hs, arrange_arrange, hv]
    omega

/-- **What is written reads back.** -/
theorem decodeBytes_encode? {n : Int} {bs : Bytes} (h : f.encode? n = some bs) :
    f.decodeBytes bs = n := by
  unfold encode? at h
  split at h
  · rename_i hf
    obtain rfl := Option.some.inj h
    exact f.decodeBytes_arrange_digits hf
  · cases h

theorem length_encode? {n : Int} {bs : Bytes} (h : f.encode? n = some bs) : bs.length = f.size := by
  unfold encode? at h
  split at h
  · obtain rfl := Option.some.inj h
    rw [length_arrange, length_digits]
  · cases h

/-- **What is read is written back.** -/
theorem encode?_decodeBytes {bs : Bytes} (h : bs.length = f.size) :
    f.encode? (f.decodeBytes bs) = some bs := by
  have heven := f.two_mul_half_modulus
  have hlen : (f.arrange bs).length = f.size := (f.length_arrange bs).trans h
  have hlt : value (f.arrange bs) < f.modulus := by
    have := value_lt (f.arrange bs)
    rw [hlen] at this
    exact this
  -- the integer is in range, and its residue is the number that was read
  have key : f.fits (f.decodeBytes bs) = true ∧
      f.decodeBytes bs % f.modulus = value (f.arrange bs) := by
    cases hs : f.signed with
    | true =>
      rw [f.fits_signed_iff hs, f.decodeBytes_signed hs]
      split
      · refine ⟨by omega, ?_⟩
        rw [Int.sub_emod_right]
        exact Int.emod_eq_of_lt (by omega) (by omega)
      · exact ⟨by omega, Int.emod_eq_of_lt (by omega) (by omega)⟩
    | false =>
      rw [f.fits_unsigned_iff hs, f.decodeBytes_unsigned hs]
      exact ⟨by omega, Int.emod_eq_of_lt (by omega) (by omega)⟩
  have hd : digits f.size (value (f.arrange bs)) = f.arrange bs := by
    rw [← hlen]
    exact digits_value _
  unfold encode?
  rw [if_pos key.1, key.2, Int.toNat_natCast, hd, arrange_arrange]

theorem fits_decodeBytes {bs : Bytes} (h : bs.length = f.size) :
    f.fits (f.decodeBytes bs) = true := by
  have he := f.encode?_decodeBytes h
  unfold encode? at he
  split at he
  · assumption
  · cases he

/-- What cannot be written is refused, with a message or for want of one. -/
theorem refuse_eq (v : Datum) (why : String) : f.refuse v why = .error
    (if v.isWritable then .aborted (.unencodable v.shown.text f.label why)
      else .refused .longNumber) := by
  unfold refuse Value.Shown.written Datum.shown
  cases v.isWritable <;> rfl

/-! ## 4. Reading at an offset -/

/-- A place within the data can be told. -/
theorem isTellable_of_natAbs_le {length : Nat} {o : Int} (h : o.natAbs ≤ length) :
    isTellable length o = true := by
  rw [isTellable, decide_eq_true h, Bool.true_or]

/-- **Reading at a place within the data**: enough bytes must follow, and only those count. -/
theorem decode_nat {data : Bytes} {i : Nat} (hdata : i ≤ data.length) :
    f.decode data i =
      if data.length < i + f.size then
        .error (.aborted (.truncated f.size i ((data.length : Int) - i)))
      else .ok (f.decodeBytes ((data.drop i).take f.size), ((i + f.size : Nat) : Int)) := by
  have hw : ¬ (i : Int) < Amount.wordMin := by
    unfold Amount.wordMin
    omega
  have hi : (0 : Int) ≤ i := Int.natCast_nonneg i
  unfold decode
  rw [isTellable_of_natAbs_le (by rwa [Int.natAbs_natCast])]
  by_cases h : data.length < i + f.size
  · have hreq : ¬ (f.size : Int) ≤ (data.length : Int) - i := by omega
    rw [if_pos h]
    simp only [Abort.require, decide_eq_false hreq]
    rfl
  · have hreq : (f.size : Int) ≤ (data.length : Int) - i := by omega
    rw [if_neg h]
    simp only [Abort.require, decide_eq_true hreq, start?, if_neg hw, if_pos hi, Int.toNat_natCast]
    rfl

/-- The bytes at an offset, when there are enough. -/
theorem length_take_drop {data : Bytes} {i n : Nat} (h : i + n ≤ data.length) :
    ((data.drop i).take n).length = n := by
  rw [List.length_take, List.length_drop]
  omega

end WordFormat

end Holdings.Wire
