/-
# Integers of every format, at every offset

What a format writes is told here without its digits and residues.  The integers of `s` bytes are those of
`8 * s` bits (`InRange`).  The bytes of one are its two's complement: read as a number in base 256, in the order
of the format, they are the integer, or the integer and `2 ^ (8 * s)` if it is below zero (`Spells`).

Reading finds its bytes in two ways.  An offset from zero on counts from the front, one below zero from the end,
and then the word must not reach past the end (`StartsAt`).  The check of the length was made for the first way.
It asks for the bytes from the offset to the end, and for an offset below zero these are more than there
are; so a word that is not found in the second way is refused by another check, behind it (`badSpan`).  In
front of that one stands a third, which an offset fails that is no word itself (`wideIndex`).

Before all of them the message of the length check is put together, needed or not, so an offset that is too long
to be told fails for that (`longNumber`).  A value that does not fit fails in the same way if it holds an integer
that is too long to be shown.
-/
import Mathlib.Data.Nat.Digits.Defs
import Holdings.Proofs.Text.Shown
import Holdings.Proofs.Wire.Framing

namespace Holdings.Wire

/-! ## 1. What a format writes -/

/-- The integer that a value counts as: a truth value counts as zero or one. -/
inductive CountsAs : Datum → Int → Prop where
  | int (n : Int) : CountsAs (.int n) n
  | truth (b : Bool) : CountsAs (.bool b) (if b then 1 else 0)

theorem asInt?_eq_some_iff {v : Datum} {n : Int} : v.asInt? = some n ↔ CountsAs v n := by
  constructor
  · intro h
    cases v with
    | int m => exact Option.some.inj h ▸ .int m
    | bool b => exact Option.some.inj h ▸ .truth b
    | _ => cases h
  · rintro (_ | _) <;> rfl

/-- Digits in base 256 are the digits of a number in the common sense. -/
theorem ofDigits_map_toNat (bs : Bytes) : Nat.ofDigits 256 (bs.map UInt8.toNat) = value bs := by
  induction bs with
  | nil => rfl
  | cons b bs ih => rw [List.map_cons, Nat.ofDigits_cons, ih, value]

/-- Numbers of equally many digits are told apart by their digits. -/
theorem value_inj {bs cs : Bytes} (hl : bs.length = cs.length) (hv : value bs = value cs) : bs = cs := by
  rw [← digits_value bs, ← digits_value cs, hl, hv]

namespace WordFormat

variable (f : WordFormat)

/-- The integers of a format: those of as many bits as it has, with or without a sign. -/
def InRange (n : Int) : Prop :=
  if f.signed then -2 ^ (8 * f.size - 1) ≤ n ∧ n < 2 ^ (8 * f.size - 1)
  else 0 ≤ n ∧ n < 2 ^ (8 * f.size)

/-- The number of bytes in base 256; the first byte is the lowest one or the highest one. -/
def number (bs : Bytes) : Nat :=
  match f.order with
  | .little => Nat.ofDigits 256 (bs.map UInt8.toNat)
  | .big => Nat.ofDigits 256 (bs.reverse.map UInt8.toNat)

/-- The bytes are the two's complement of an integer. -/
structure Spells (bs : Bytes) (n : Int) : Prop where
  length : bs.length = f.size
  number : (f.number bs : Int) = if n < 0 then n + 2 ^ (8 * f.size) else n

theorem number_eq_value (bs : Bytes) : f.number bs = value (f.arrange bs) := by
  unfold number arrange
  cases f.order <;> exact ofDigits_map_toNat _

theorem modulus_eq : f.modulus = 2 ^ (8 * f.size) := (Nat.pow_mul 2 8 f.size).symm

theorem half_modulus_eq : f.modulus / 2 = 2 ^ (8 * f.size - 1) := by
  have hpos : 0 < 8 * f.size := by
    unfold size
    cases f.width <;> decide
  rw [f.modulus_eq, ← Nat.two_pow_pred_mul_two hpos, Nat.mul_div_cancel _ (by decide)]

theorem inRange_iff {n : Int} : f.InRange n ↔ f.fits n = true := by
  unfold InRange
  cases hs : f.signed with
  | true =>
    rw [f.fits_signed_iff hs, f.half_modulus_eq, if_pos rfl]
    push_cast
    rfl
  | false =>
    rw [f.fits_unsigned_iff hs, f.modulus_eq, if_neg (by decide)]
    push_cast
    rfl

/-- The residue of an integer of the format is the integer itself, or lies one modulus above it. -/
theorem emod_modulus {n : Int} (h : f.InRange n) :
    n % (f.modulus : Int) = if n < 0 then n + 2 ^ (8 * f.size) else n := by
  have hm : (f.modulus : Int) = 2 ^ (8 * f.size) := by
    rw [f.modulus_eq]
    push_cast
    rfl
  have heven := f.two_mul_half_modulus
  have hbounds : -(f.modulus : Int) ≤ n ∧ n < f.modulus := by
    rw [inRange_iff] at h
    cases hs : f.signed with
    | true => obtain ⟨h₁, h₂⟩ := (f.fits_signed_iff hs).mp h; omega
    | false => obtain ⟨h₁, h₂⟩ := (f.fits_unsigned_iff hs).mp h; omega
  rw [← hm]
  split
  · rw [← Int.add_emod_right]
    exact Int.emod_eq_of_lt (by omega) (by omega)
  · exact Int.emod_eq_of_lt (by omega) (by omega)

theorem spells_of_encode? {n : Int} {bs : Bytes} (h : f.encode? n = some bs) : f.Spells bs n := by
  refine ⟨f.length_encode? h, ?_⟩
  unfold encode? at h
  split at h
  · rename_i hf
    have hr : 0 ≤ n % (f.modulus : Int) := Int.emod_nonneg n (by have := f.modulus_pos; omega)
    have hlt : (n % (f.modulus : Int)).toNat < f.modulus := by
      have := Int.emod_lt_of_pos n (Int.natCast_pos.mpr f.modulus_pos)
      omega
    rw [← f.emod_modulus (f.inRange_iff.mpr hf), ← Option.some.inj h, number_eq_value, arrange_arrange,
      value_digits hlt, Int.toNat_of_nonneg hr]
  · cases h

/-- **What is written**: the two's complement of the integers of the format, and nothing else. -/
theorem encode?_eq_some_iff {n : Int} {bs : Bytes} :
    f.encode? n = some bs ↔ f.InRange n ∧ f.Spells bs n := by
  constructor
  · intro h
    refine ⟨f.inRange_iff.mpr ?_, f.spells_of_encode? h⟩
    rw [← f.decodeBytes_encode? h]
    exact f.fits_decodeBytes (f.length_encode? h)
  · rintro ⟨hr, hs⟩
    obtain ⟨cs, hcs⟩ : ∃ cs, f.encode? n = some cs := ⟨_, if_pos (f.inRange_iff.mp hr)⟩
    have hs' := f.spells_of_encode? hcs
    have hnum : f.number bs = f.number cs := by
      have := hs.number.trans hs'.number.symm
      omega
    rw [number_eq_value, number_eq_value] at hnum
    have harr : f.arrange bs = f.arrange cs :=
      value_inj (by rw [length_arrange, length_arrange, hs.length, hs'.length]) hnum
    rw [hcs, ← f.arrange_arrange bs, harr, arrange_arrange]

theorem encode_int_eq_ok_iff {n : Int} {bs : Bytes} :
    f.encode (.int n) = .ok bs ↔ f.encode? n = some bs := by
  rw [encode_eq_ok_iff]
  exact ⟨fun ⟨m, hm, h⟩ => Option.some.inj hm ▸ h, fun h => ⟨n, rfl, h⟩⟩

/-- **Writing a value.** -/
structure Writes (v : Datum) : Prop where
  /-- An integer of the format is written as its two's complement. -/
  ok : ∀ bs, f.encode v = .ok bs ↔ ∃ n, CountsAs v n ∧ f.InRange n ∧ f.Spells bs n
  /-- Every integer of the format is written, in as many bytes as the format has. -/
  fits : ∀ n, CountsAs v n → f.InRange n → ∃ bs, f.encode v = .ok bs ∧ bs.length = f.size
  /-- Any other integer is refused, and so is what is no integer, if the value can be shown. -/
  refused : (∀ n, CountsAs v n → ¬ f.InRange n) → ¬ v.HoldsLong →
    ∃ a, f.encode v = .error (.aborted a) ∧ a.kind = .codec
  /-- What cannot be shown fails for that instead. -/
  long : (∀ n, CountsAs v n → ¬ f.InRange n) → v.HoldsLong →
    f.encode v = .error (.refused .longNumber)

/-- What is no integer of the format is refused, for one reason or another. -/
theorem exists_refuse {v : Datum} (hnone : ∀ n, CountsAs v n → ¬ f.InRange n) :
    ∃ why, f.encode v = f.refuse v why := by
  unfold encode
  cases hv : v.asInt? with
  | none => exact ⟨_, rfl⟩
  | some n =>
    have hn : f.encode? n = none :=
      if_neg fun hf => hnone n (asInt?_eq_some_iff.mp hv) (f.inRange_iff.mpr hf)
    refine ⟨f.complaint n, ?_⟩
    dsimp only
    rw [hn]

theorem writes (v : Datum) : f.Writes v := by
  refine ⟨fun bs => ?_, fun n hn hr => ?_, fun hnone hshort => ?_, fun hnone hlong => ?_⟩
  · rw [encode_eq_ok_iff]
    simp only [asInt?_eq_some_iff, encode?_eq_some_iff]
  · have hsome : f.encode? n = some _ := if_pos (f.inRange_iff.mp hr)
    exact ⟨_, encode_eq_ok_iff.mpr ⟨n, asInt?_eq_some_iff.mpr hn, hsome⟩, f.length_encode? hsome⟩
  · obtain ⟨why, h⟩ := f.exists_refuse hnone
    exact ⟨.unencodable v.shown.text f.label why,
      by rw [h, refuse_eq, Datum.isWritable_iff.mpr hshort]; rfl, rfl⟩
  · obtain ⟨why, h⟩ := f.exists_refuse hnone
    rw [h, refuse_eq, Datum.isWritable_eq_false_iff.mpr hlong]
    rfl

/-! ## 2. Where a word starts -/

/-- The place at which the word of an offset starts, in data of a length. -/
inductive StartsAt (length : Nat) : Int → Nat → Prop where
  /-- From zero on, offsets count from the front. -/
  | front (i : Nat) (enough : i + f.size ≤ length) : StartsAt length i i
  /-- Below zero they count from the end, and the word must end there or before. -/
  | back (o : Int) (i : Nat) (below : o < 0) (place : (i : Int) = length + o)
      (enough : o + f.size ≤ 0) : StartsAt length o i

variable {f}

theorem StartsAt.le {length i : Nat} {o : Int} (h : f.StartsAt length o i) : i + f.size ≤ length := by
  cases h with
  | front i enough => exact enough
  | back o i below place enough => omega

/-- The length check passes wherever a word starts. -/
theorem StartsAt.enough {length i : Nat} {o : Int} (h : f.StartsAt length o i) :
    (f.size : Int) ≤ length - o := by
  have hle := h.le
  cases h with
  | front i enough => omega
  | back o i below place enough => omega

/-- From either end, a word starts within the data. -/
theorem StartsAt.natAbs_le {length i : Nat} {o : Int} (h : f.StartsAt length o i) :
    o.natAbs ≤ length := by
  have hle := h.le
  cases h with
  | front i enough => omega
  | back o i below place enough => omega

/-- In data of at most `2 ^ 63` bytes no word starts at an offset that is no word. -/
theorem StartsAt.wordMin_le {length i : Nat} {o : Int} (h : f.StartsAt length o i)
    (hl : length ≤ 2 ^ 63) : Amount.wordMin ≤ o := by
  unfold Amount.wordMin
  cases h with
  | front i enough => omega
  | back o i below place enough => omega

variable (f)

theorem start?_eq_some_iff {length i : Nat} {o : Int} (hl : (f.size : Int) ≤ length - o) :
    f.start? length o = some i ↔ f.StartsAt length o i := by
  constructor
  · intro h
    unfold start? at h
    split at h
    · obtain rfl : o.toNat = i := Option.some.inj h
      obtain ⟨n, rfl⟩ := Int.eq_ofNat_of_zero_le ‹0 ≤ o›
      exact .front n (by omega)
    · split at h
      · cases h
      · have hi := Option.some.inj h
        exact .back o i (by omega) (by omega) (by omega)
  · intro h
    unfold start?
    cases h with
    | front i enough => rw [if_pos (Int.natCast_nonneg i), Int.toNat_natCast]
    | back o i below place enough =>
      rw [if_neg (by omega), if_neg (by omega)]
      exact congrArg some (by omega)

/-! ## 3. Reading -/

variable {data : Bytes} {o : Int}

/-- An offset can be told if it has few enough digits, and the number of bytes from there on as well. -/
def Told (length : Nat) (o : Int) : Prop := ¬ Text.IsLong o ∧ ¬ Text.IsLong (length - o)

/-- Where there are at most as many bytes as a word can count, the places within the data make no exception. -/
theorem isTellable_iff {length : Nat} (h : length < 2 ^ 63) :
    isTellable length o = true ↔ Told length o := by
  by_cases ho : o.natAbs ≤ length
  · refine iff_of_true (isTellable_of_natAbs_le ho) ⟨?_, ?_⟩
    · exact Text.isWritable_iff.mp (Text.isWritable_of_lt (by omega))
    · exact Text.isWritable_iff.mp (Text.isWritable_of_lt (by omega))
  · rw [isTellable, decide_eq_false ho, Bool.false_or, Bool.and_eq_true, Text.isWritable_iff,
      Text.isWritable_iff]
    rfl

/-- No offset of a word is too long to be told. -/
theorem isTellable_of_word (h : data.length < 2 ^ 63) (ho : o.natAbs ≤ 2 ^ 63) :
    isTellable data.length o = true := by
  refine (isTellable_iff h).mpr ⟨?_, ?_⟩
  · exact Text.isWritable_iff.mp (Text.isWritable_of_lt (by omega))
  · exact Text.isWritable_iff.mp (Text.isWritable_of_lt (by omega))

theorem decode_of_not_tellable (ht : isTellable data.length o = false) :
    f.decode data o = .error (.refused .longNumber) := by
  unfold decode
  rw [ht]
  rfl

theorem decode_of_short (ht : isTellable data.length o = true) (h : (data.length : Int) - o < f.size) :
    f.decode data o = .error (.aborted (.truncated f.size o (data.length - o))) := by
  unfold decode
  simp only [ht, Abort.require, decide_eq_false (Int.not_le.mpr h)]
  rfl

theorem decode_of_enough (ht : isTellable data.length o = true)
    (h : (f.size : Int) ≤ data.length - o) :
    f.decode data o = if o < Amount.wordMin then .error .wideIndex else
      match f.start? data.length o with
      | none => .error .badSpan
      | some i => .ok (f.decodeBytes ((data.drop i).take f.size), o + f.size) := by
  unfold decode
  simp only [ht, Abort.require, decide_eq_true h]
  rfl

/-- **Reading at an offset.** -/
structure Reads (data : Bytes) (o : Int) : Prop where
  /-- An offset that is too long to be told is refused as such, whatever the data. -/
  long : ¬ Told data.length o → f.decode data o = .error (.refused .longNumber)
  /-- The length check refuses what has too few bytes from the offset on, and nothing else. -/
  short : Told data.length o →
    ((∃ a, f.decode data o = .error (.aborted a) ∧ a.kind = .codec) ↔
      (data.length : Int) - o < f.size)
  /-- Where a word starts, the one integer is read that is written as its bytes. -/
  found : ∀ i, f.StartsAt data.length o i →
    ∃ n, f.decode data o = .ok (n, o + f.size) ∧ f.InRange n ∧
      ∀ m, f.encode (.int m) = .ok ((data.drop i).take f.size) ↔ m = n
  /-- An offset below zero at which no word starts has bad bounds. -/
  missed : (f.size : Int) ≤ data.length - o → (∀ i, ¬ f.StartsAt data.length o i) →
    Amount.wordMin ≤ o → f.decode data o = .error .badSpan
  /-- An offset that is no word is refused as one, if it can be told. -/
  wide : Told data.length o → o < Amount.wordMin → f.decode data o = .error .wideIndex

theorem decode_of_startsAt {i : Nat} (h : f.StartsAt data.length o i) (ho : Amount.wordMin ≤ o) :
    f.decode data o = .ok (f.decodeBytes ((data.drop i).take f.size), o + f.size) := by
  rw [f.decode_of_enough (isTellable_of_natAbs_le h.natAbs_le) h.enough,
    if_neg (Int.not_lt.mpr ho), (f.start?_eq_some_iff h.enough).mpr h]

theorem decode_of_missed (hd : data.length < 2 ^ 63) (hl : (f.size : Int) ≤ data.length - o)
    (h : ∀ i, ¬ f.StartsAt data.length o i) (ho : Amount.wordMin ≤ o) :
    f.decode data o = .error .badSpan := by
  have hword : o.natAbs ≤ 2 ^ 63 := by
    unfold Amount.wordMin at ho
    omega
  rw [f.decode_of_enough (isTellable_of_word hd hword) hl, if_neg (Int.not_lt.mpr ho)]
  cases hi : f.start? data.length o with
  | none => rfl
  | some i => exact absurd ((f.start?_eq_some_iff hl).mp hi) (h i)

theorem decode_of_wide (ht : isTellable data.length o = true) (ho : o < Amount.wordMin) :
    f.decode data o = .error .wideIndex := by
  have hl : (f.size : Int) ≤ data.length - o := by
    have hs : f.size ≤ 8 := by
      unfold size
      cases f.width <;> decide
    unfold Amount.wordMin at ho
    omega
  rw [f.decode_of_enough ht hl, if_pos ho]

/-- The one integer that is written as these bytes is what they are read as. -/
theorem encode_eq_iff_decodeBytes {bs : Bytes} (h : bs.length = f.size) (m : Int) :
    f.encode (.int m) = .ok bs ↔ m = f.decodeBytes bs := by
  rw [encode_int_eq_ok_iff]
  constructor
  · intro hm
    exact (f.decodeBytes_encode? hm).symm
  · rintro rfl
    exact f.encode?_decodeBytes h

theorem reads (hd : data.length < 2 ^ 63) (o : Int) : f.Reads data o := by
  have told : Told data.length o → isTellable data.length o = true := (isTellable_iff hd).mpr
  refine ⟨fun hl => ?_, fun ht => ⟨?_, fun h => ⟨_, f.decode_of_short (told ht) h, rfl⟩⟩, fun i h => ?_,
    f.decode_of_missed hd, fun ht => f.decode_of_wide (told ht)⟩
  · refine f.decode_of_not_tellable (Bool.not_eq_true _ ▸ fun ht => ?_)
    exact hl ((isTellable_iff hd).mp ht)
  · rintro ⟨a, ha, -⟩
    by_contra hl
    rw [f.decode_of_enough (told ht) (Int.not_lt.mp hl)] at ha
    split at ha
    · cases ha
    · split at ha <;> cases ha
  · have hlen : ((data.drop i).take f.size).length = f.size := length_take_drop h.le
    exact ⟨_, f.decode_of_startsAt h (h.wordMin_le hd.le), f.inRange_iff.mpr (f.fits_decodeBytes hlen),
      f.encode_eq_iff_decodeBytes hlen⟩

/-! ## 4. Words between other bytes -/

variable {f}

/-- A word that is followed by other bytes starts at the offset that counts it and them from the end. -/
theorem startsAt_back (before bs after : Bytes) (h : bs.length = f.size) :
    f.StartsAt (before ++ bs ++ after).length (-((bs.length : Int) + after.length)) before.length := by
  have hpos : 0 < f.size := by
    unfold size
    cases f.width <;> decide
  refine .back _ _ (by omega) ?_ (by omega)
  simp only [List.length_append]
  omega

/-- **A word is read from the end** as it is from the front. -/
theorem decode_back {n : Int} {bs : Bytes} (h : f.encode (.int n) = .ok bs) (before after : Bytes)
    (hl : bs.length + after.length ≤ 2 ^ 63) :
    f.decode (before ++ bs ++ after) (-((bs.length : Int) + after.length)) =
      .ok (n, -(after.length : Int)) := by
  have hn := f.encode_int_eq_ok_iff.mp h
  have hs : bs.length = f.size := f.length_encode? hn
  have hw : Amount.wordMin ≤ -((bs.length : Int) + after.length) := by
    unfold Amount.wordMin
    omega
  rw [f.decode_of_startsAt (startsAt_back before bs after hs) hw, ← hs, take_drop_between,
    f.decodeBytes_encode? hn]
  congr 2
  omega

/-- **What was read stands written at its place**, between the bytes before and after it. -/
theorem of_decode {data : Bytes} {o n next : Int} (h : f.decode data o = .ok (n, next)) :
    next = o + f.size ∧ ∃ before bs after, data = before ++ bs ++ after ∧
      f.encode (.int n) = .ok bs ∧
      (o = before.length ∨ o = -((bs.length : Int) + after.length)) := by
  have ht : isTellable data.length o = true := by
    by_contra ht
    rw [f.decode_of_not_tellable (Bool.not_eq_true _ ▸ ht)] at h
    cases h
  have hl : (f.size : Int) ≤ data.length - o := by
    by_contra hl
    rw [f.decode_of_short ht (Int.not_le.mp hl)] at h
    cases h
  rw [f.decode_of_enough ht hl] at h
  split at h
  · cases h
  · cases hi : f.start? data.length o with
    | none =>
      rw [hi] at h
      cases h
    | some i =>
      rw [hi] at h
      obtain ⟨rfl, rfl⟩ := Prod.mk.inj (Except.ok.inj h)
      have hstart := (f.start?_eq_some_iff hl).mp hi
      have hle := hstart.le
      have hlen : ((data.drop i).take f.size).length = f.size := length_take_drop hle
      refine ⟨rfl, data.take i, (data.drop i).take f.size, data.drop (i + f.size), ?_,
        (f.encode_eq_iff_decodeBytes hlen _).mpr rfl, ?_⟩
      · rw [List.append_assoc, ← List.drop_drop, List.take_append_drop, List.take_append_drop]
      · rw [hlen, List.length_take, List.length_drop]
        cases hstart with
        | front i enough => exact Or.inl (by omega)
        | back o i below place enough => exact Or.inr (by omega)

/-- **The integers of a format are written and read exactly.**  A value is written if it counts as an integer of the
format, as its two's complement, and refused otherwise.  At an offset the one integer is read that is written as the
bytes there, whether the offset counts from the front or from the end; too few bytes, bad bounds and an offset that is no
word are refused, each in its own way.  A value that cannot be shown and an offset that cannot be told are refused
before that, for want of a message.  So a word comes back from between any bytes, and what is read stands
written where it was read. -/
theorem integers_exact (f : WordFormat) :
    (∀ v : Datum, f.Writes v) ∧
    (∀ (data : Bytes) (o : Int), data.length < 2 ^ 63 → f.Reads data o) ∧
    (∀ (data : Bytes) (o : Int) (i : Nat), data.length ≤ 2 ^ 63 → f.StartsAt data.length o i →
      ∃ n, f.decode data o = .ok (n, o + f.size)) ∧
    (∀ (n : Int) (before bs after : Bytes), f.encode (.int n) = .ok bs →
      f.decode (before ++ bs ++ after) before.length = .ok (n, (before.length : Int) + f.size) ∧
      (bs.length + after.length ≤ 2 ^ 63 →
        f.decode (before ++ bs ++ after) (-((bs.length : Int) + after.length)) =
          .ok (n, -(after.length : Int)))) ∧
    ∀ (data : Bytes) (o n next : Int), f.decode data o = .ok (n, next) →
      next = o + f.size ∧ ∃ before bs after, data = before ++ bs ++ after ∧
        f.encode (.int n) = .ok bs ∧
        (o = before.length ∨ o = -((bs.length : Int) + after.length)) := by
  refine ⟨f.writes, fun data o hd => f.reads hd o, fun data o i hl h => ?_,
    fun n before bs after h => ⟨?_, decode_back h before after⟩, fun data o n next => of_decode⟩
  · exact ⟨_, f.decode_of_startsAt h (h.wordMin_le hl)⟩
  · have hn := f.encode_int_eq_ok_iff.mp h
    rw [decode_between hn, f.length_encode? hn]
    push_cast
    rfl

/-- A word of two bytes, highest byte first and with a sign: minus two is written, and read again from both ends
of other bytes; forty thousand is refused, and so is reading at an offset that leaves one byte of the word
outside. -/
theorem integers_exact_at_minus_two :
    (⟨.big, true, .two⟩ : WordFormat).encode (.int (-2)) = .ok [255, 254] ∧
    (⟨.big, true, .two⟩ : WordFormat).decode ([7] ++ [255, 254] ++ [8]) 1 = .ok (-2, 3) ∧
    (⟨.big, true, .two⟩ : WordFormat).decode ([7] ++ [255, 254] ++ [8]) (-3) = .ok (-2, -1) ∧
    (∃ a, (⟨.big, true, .two⟩ : WordFormat).encode (.int 40000) = .error (.aborted a) ∧
      a.kind = .codec) ∧
    (⟨.big, true, .two⟩ : WordFormat).decode [7, 255, 254, 8] (-1) = .error .badSpan := by
  have hwritten : (⟨.big, true, .two⟩ : WordFormat).encode (.int (-2)) = .ok [255, 254] := by
    decide +kernel
  obtain ⟨hwrites, hreads, -, hbetween, -⟩ := integers_exact ⟨.big, true, .two⟩
  obtain ⟨hfront, hback⟩ := hbetween (-2) [7] [255, 254] [8] hwritten
  refine ⟨hwritten, hfront, hback (by decide), ?_, ?_⟩
  · refine (hwrites (.int 40000)).refused ?_ ?_
    · rintro _ ⟨⟩
      rw [inRange_iff]
      decide
    · rintro ⟨_, ⟨⟩, hlong⟩
      exact Text.isWritable_iff.mp (Text.isWritable_of_lt (by decide)) hlong
  · refine (hreads [7, 255, 254, 8] (-1) (by decide)).missed (by decide) ?_ (by decide)
    intro i h
    have hle := h.le
    cases h with
    | back o i below place enough => exact absurd enough (by decide)

/-- **Not every word that is not found has bad bounds**: an offset below zero that is no word is refused as such. -/
theorem wide_offset_escapes :
    ¬ ∀ (f : WordFormat) (data : Bytes) (o : Int), (f.size : Int) ≤ data.length - o → o < 0 →
      ¬ (0 ≤ data.length + o ∧ o + f.size ≤ 0) → f.decode data o = .error .badSpan := by
  intro h
  have hwide : int64.decode [] (-9223372036854775809) = .error .wideIndex := by decide +kernel
  rw [h int64 [] (-9223372036854775809) (by decide) (by decide) (by decide)] at hwide
  cases hwide

end WordFormat

end Holdings.Wire
