/-
# The scan of a number, turn by turn

The scan for the end of a code starts with the number without its lowest byte.  Each turn drops one byte more
(`leftAfter`), and the scan stops when nothing is left or when the byte at hand is zero (`StopsAfter`).  Whether it ever
stops is told here for all integers, without a bound on their size.

* **Not below zero**, what is left becomes smaller in every turn, so that nothing is left after as many turns as
  there are bytes (`leftAfter_of_nonneg`).
* **Below zero**, shifting never gives zero.  After as many turns as there are bytes -1 is left, and from then on always
  (`leftAfter_of_neg`): the byte at hand is 255 for ever.  So the scan stops only at a zero byte that comes before.

The function that is run knows -1 and ends there with a fault of its own.  That this is the endless scan and nothing
else is the matter of the last section: what it gives is told by the first turn at which the scan stops, and the
fault by there being none.
-/
import Mathlib.Logic.Function.Iterate
import Mathlib.Tactic.NormNum
import Holdings.Proofs.Wire.Symbols

namespace Holdings.Symbol

/-! ## 1. Turns -/

/-- What is left after some turns, each of which drops the lowest byte. -/
def leftAfter (rest : Int) (k : Nat) : Int := (fun r : Int => r >>> (8 : Nat))^[k] rest

/-- The scan is over after this many turns: nothing is left, or the byte at hand is zero. -/
def StopsAfter (rest : Int) (k : Nat) : Prop := leftAfter rest k = 0 ∨ leftAfter rest k % 256 = 0

/-- The scan stops after this many turns and not before. -/
structure StopsFirst (rest : Int) (k : Nat) : Prop where
  stops : StopsAfter rest k
  goesOn : ∀ j < k, ¬ StopsAfter rest j

variable {rest : Int} {k w : Nat}

/-- Dropping the lowest byte is dividing, downwards below zero as well. -/
theorem shiftRight_eight (r : Int) : r >>> (8 : Nat) = r / 256 := Int.shiftRight_eq_div_pow r 8

theorem leftAfter_zero (rest : Int) : leftAfter rest 0 = rest := rfl

theorem leftAfter_succ (rest : Int) (k : Nat) : leftAfter rest (k + 1) = leftAfter (rest / 256) k := by
  rw [leftAfter, Function.iterate_succ_apply, shiftRight_eight, leftAfter]

/-- The last turn drops one byte of what is left. -/
theorem leftAfter_succ' (rest : Int) (k : Nat) : leftAfter rest (k + 1) = leftAfter rest k / 256 := by
  rw [leftAfter, Function.iterate_succ_apply', shiftRight_eight, leftAfter]

/-- All turns together divide by a power of 256. -/
theorem leftAfter_eq (rest : Int) (k : Nat) : leftAfter rest k = rest / 256 ^ k := by
  induction k with
  | zero => rw [leftAfter_zero, pow_zero, Int.ediv_one]
  | succ k ih => rw [leftAfter_succ', ih, Int.ediv_ediv_of_nonneg (by positivity), pow_succ]

/-- Where nothing is left the byte at hand is zero too. -/
theorem stopsAfter_iff : StopsAfter rest k ↔ leftAfter rest k % 256 = 0 := by
  refine ⟨?_, Or.inr⟩
  rintro (h | h)
  · rw [h]
    rfl
  · exact h

theorem stopsAfter_zero : StopsAfter rest 0 ↔ rest % 256 = 0 := stopsAfter_iff

theorem stopsAfter_succ : StopsAfter rest (k + 1) ↔ StopsAfter (rest / 256) k := by
  rw [stopsAfter_iff, stopsAfter_iff, leftAfter_succ]

/-- A scan that stops stops for a first time. -/
theorem exists_stopsFirst (h : ∃ k, StopsAfter rest k) : ∃ k, StopsFirst rest k := by
  classical
  exact ⟨Nat.find h, Nat.find_spec h, fun j hj => Nat.find_min h hj⟩

theorem StopsFirst.le (h : StopsFirst rest k) (hw : StopsAfter rest w) : k ≤ w := by
  by_contra hlt
  exact h.goesOn w (by omega) hw

/-! ## 2. Where the scan goes -/

/-- **Not below zero**, nothing is left after as many turns as there are bytes. -/
theorem leftAfter_of_nonneg (h₀ : 0 ≤ rest) (hw : rest < 256 ^ w) : leftAfter rest w = 0 := by
  rw [leftAfter_eq]
  exact Int.ediv_eq_zero_of_lt h₀ hw

/-- **Below zero**, -1 is left after as many turns as there are bytes, and ever after.  The induction is on the turns
that follow. -/
theorem leftAfter_of_neg (h₀ : rest < 0) (hw : -256 ^ w ≤ rest) (hk : w ≤ k) : leftAfter rest k = -1 := by
  induction k, hk using Nat.le_induction with
  | base =>
    have hpos : (0 : Int) < 256 ^ w := by positivity
    rw [leftAfter_eq]
    refine le_antisymm ?_ ?_
    · exact Int.le_of_lt_add_one (Int.ediv_neg_of_neg_of_pos h₀ hpos)
    · rw [Int.le_ediv_iff_mul_le hpos]
      omega
  | succ k _ ih =>
    rw [leftAfter_succ', ih]
    rfl

/-- So a scan of a number below zero stops at one of its bytes or never. -/
theorem StopsAfter.lt_of_neg (h : StopsAfter rest k) (h₀ : rest < 0) (hw : -256 ^ w ≤ rest) : k < w := by
  by_contra hk
  rw [stopsAfter_iff, leftAfter_of_neg h₀ hw (by omega)] at h
  exact absurd h (by decide)

section Raw

variable {raw : Int}

/-- In the scan of a number the bytes at hand are those above the lowest one. -/
theorem leftAfter_shiftRight (raw : Int) (k : Nat) : leftAfter (raw >>> (8 : Nat)) k = raw / 256 ^ (k + 1) := by
  rw [shiftRight_eight, ← leftAfter_succ, leftAfter_eq]

theorem stopsAfter_shiftRight : StopsAfter (raw >>> (8 : Nat)) k ↔ raw / 256 ^ (k + 1) % 256 = 0 := by
  rw [stopsAfter_iff, leftAfter_shiftRight]

theorem stopsAfter_of_nonneg (h₀ : 0 ≤ raw) (hw : raw < 256 ^ (w + 1)) : StopsAfter (raw >>> (8 : Nat)) w := by
  refine Or.inl ?_
  rw [shiftRight_eight]
  refine leftAfter_of_nonneg (Int.ediv_nonneg h₀ (by decide)) ?_
  rw [pow_succ] at hw
  omega

theorem StopsAfter.lt_of_raw_neg (h : StopsAfter (raw >>> (8 : Nat)) k) (h₀ : raw < 0)
    (hw : -256 ^ (w + 1) ≤ raw) : k < w := by
  rw [shiftRight_eight] at h
  refine h.lt_of_neg (by omega) ?_
  rw [pow_succ] at hw
  omega

/-- Something is always left of a number below zero. -/
theorem leftAfter_ne_zero_of_neg (h₀ : raw < 0) : leftAfter (raw >>> (8 : Nat)) k ≠ 0 := by
  rw [leftAfter_shiftRight]
  exact (Int.ediv_neg_of_neg_of_pos h₀ (by positivity)).ne

/-- Every number has finitely many bytes. -/
theorem exists_lt_pow (raw : Int) : ∃ w, raw < 256 ^ (w + 1) := by
  refine ⟨raw.toNat, ?_⟩
  have hlt : raw.toNat + 1 < 256 ^ (raw.toNat + 1) := Nat.lt_pow_self (by decide)
  have hcast : ((raw.toNat + 1 : Nat) : Int) < 256 ^ (raw.toNat + 1) := by exact_mod_cast hlt
  omega

end Raw

/-! ## 3. What the scan gives -/

/-- The bytes that were at hand in the turns before. -/
def bytesBefore (rest : Int) (k : Nat) : List Nat :=
  (List.range k).map fun i => (leftAfter rest i % 256).toNat

theorem bytesBefore_succ (rest : Int) (k : Nat) :
    bytesBefore rest (k + 1) = (rest % 256).toNat :: bytesBefore (rest / 256) k := by
  rw [bytesBefore, List.range_succ_eq_map, List.map_cons, List.map_map, leftAfter_zero, bytesBefore]
  congr 1
  exact List.map_congr_left fun i _ => by rw [Function.comp, leftAfter_succ]

theorem scanCode_zero : scanCode 0 = .ok [] := by
  rw [scanCode, if_pos rfl]

theorem scanCode_minus_one : scanCode (-1) = .error .endless := by
  rw [scanCode, if_neg (by decide), if_pos rfl]

theorem scanCode_of_zero_byte (h₀ : rest ≠ 0) (hb : rest % 256 = 0) :
    scanCode rest = .error .afterEnd := by
  rw [scanCode, if_neg h₀, if_neg (by omega), if_pos hb]

theorem scanCode_of_byte (h₁ : rest ≠ -1) (hb : rest % 256 ≠ 0) :
    scanCode rest = (scanCode (rest / 256)).map (Char.ofNat (rest % 256).toNat :: ·) := by
  rw [scanCode, if_neg (by omega), if_neg h₁, if_neg hb]

/-- **A scan that stops**: the bytes before are the characters of the code, if nothing is left.  The induction is on the
turn at which it stops. -/
theorem scanCode_of_stopsFirst (h : StopsFirst rest k) :
    scanCode rest = if leftAfter rest k = 0 then .ok ((bytesBefore rest k).map Char.ofNat)
      else .error .afterEnd := by
  induction k generalizing rest with
  | zero =>
    rw [leftAfter_zero]
    by_cases h₀ : rest = 0
    · rw [if_pos h₀, h₀, scanCode_zero]
      rfl
    · rw [if_neg h₀, scanCode_of_zero_byte h₀ (stopsAfter_zero.mp h.stops)]
  | succ k ih =>
    have hb : rest % 256 ≠ 0 := fun hb => h.goesOn 0 (by omega) (stopsAfter_zero.mpr hb)
    -- at -1 the scan would not stop after these turns
    have h₁ : rest ≠ -1 := by
      rintro rfl
      have := h.stops.lt_of_neg (w := 0) (by decide) (by decide)
      omega
    have hrest : StopsFirst (rest / 256) k :=
      ⟨stopsAfter_succ.mp h.stops, fun j hj hs => h.goesOn (j + 1) (by omega) (stopsAfter_succ.mpr hs)⟩
    rw [scanCode_of_byte h₁ hb, ih hrest, leftAfter_succ, bytesBefore_succ]
    split <;> rfl

/-- **A scan that never stops** is the fault that says so.  The induction is on the function. -/
theorem scanCode_of_endless (h : ∀ k, ¬ StopsAfter rest k) : scanCode rest = .error .endless := by
  induction rest using scanCode.induct with
  | case1 => exact absurd (Or.inl rfl) (h 0)
  | case2 => exact scanCode_minus_one
  | case3 rest h₀ h₁ hb => exact absurd (stopsAfter_zero.mpr hb) (h 0)
  | case4 rest h₀ h₁ hb ih =>
    rw [scanCode_of_byte h₁ hb, ih fun k hk => h (k + 1) (stopsAfter_succ.mpr hk)]
    rfl

theorem toNat_map_ofNat {ns : List Nat} (h : ∀ n ∈ ns, n < 256) : (ns.map Char.ofNat).map Char.toNat = ns := by
  rw [List.map_map]
  conv => rhs; rw [← List.map_id ns]
  refine List.map_congr_left fun n hn => ?_
  have hb : n = (UInt8.ofNat n).toNat := (UInt8.toNat_ofNat_of_lt' (h n hn)).symm
  rw [Function.comp, id, hb]
  exact toNat_byteChar _

theorem lt_of_mem_bytesBefore {n : Nat} (h : n ∈ bytesBefore rest k) : n < 256 := by
  obtain ⟨i, -, rfl⟩ := List.mem_map.mp h
  omega

/-- **What a stopped scan makes of a number.** -/
structure Stopped (raw : Int) (k : Nat) : Prop where
  /-- With nothing left the number is a symbol, of the bytes before and with the lowest byte as its precision. -/
  whole : leftAfter (raw >>> (8 : Nat)) k = 0 → ∃ s, ofRaw raw = .ok s ∧
    s.code.toList.map Char.toNat = bytesBefore (raw >>> (8 : Nat)) k ∧ (s.precision.toNat : Int) = raw % 256
  /-- What is left behind a zero byte is refused. -/
  rest : leftAfter (raw >>> (8 : Nat)) k ≠ 0 → ofRaw raw = .error (.refused (.codeAfterEnd raw))

theorem StopsFirst.stopped {raw : Int} (h : StopsFirst (raw >>> (8 : Nat)) k) : Stopped raw k := by
  have hscan := scanCode_of_stopsFirst h
  refine ⟨fun h₀ => ?_, fun h₀ => ?_⟩
  · rw [if_pos h₀, shiftRight_eight] at hscan
    refine ⟨⟨String.ofList ((bytesBefore (raw / 256) k).map Char.ofNat), UInt8.ofNat (raw % 256).toNat⟩,
      ?_, ?_, ?_⟩
    · rw [ofRaw, scanWord, hscan]
      rfl
    · rw [String.toList_ofList, toNat_map_ofNat fun n hn => lt_of_mem_bytesBefore hn, shiftRight_eight]
    · have hlow : (raw % 256).toNat < 256 := by omega
      rw [UInt8.toNat_ofNat_of_lt' hlow]
      omega
  · rw [if_neg h₀, shiftRight_eight] at hscan
    rw [ofRaw, scanWord, hscan]
    rfl

theorem ofRaw_of_endless {raw : Int} (h : ¬ ∃ k, StopsAfter (raw >>> (8 : Nat)) k) :
    ofRaw raw = .error .endless := by
  have hscan := scanCode_of_endless (not_exists.mp h)
  rw [shiftRight_eight] at hscan
  rw [ofRaw, scanWord, hscan]
  rfl

theorem Stopped.ne_endless {raw : Int} (h : Stopped raw k) : ofRaw raw ≠ .error .endless := by
  by_cases h₀ : leftAfter (raw >>> (8 : Nat)) k = 0
  · obtain ⟨s, hs, -⟩ := h.whole h₀
    rw [hs]
    exact nofun
  · rw [h.rest h₀]
    exact nofun

theorem ofRaw_ne_ok_of_neg {raw : Int} (h₀ : raw < 0) (s : Symbol) : ofRaw raw ≠ .ok s := by
  by_cases hstop : ∃ k, StopsAfter (raw >>> (8 : Nat)) k
  · obtain ⟨k, hk⟩ := exists_stopsFirst hstop
    rw [hk.stopped.rest (leftAfter_ne_zero_of_neg h₀)]
    exact nofun
  · rw [ofRaw_of_endless hstop]
    exact nofun

/-- **When the scan of a number ends.**  For a number that is not below zero, of whatever size, it always does, after at
most as many turns as the number has bytes above the lowest one.  For a number below zero it ends exactly when one of
these bytes is zero, and never with a symbol.  Where it ends, the turn tells what is read; where it never does, the
failure says so, and only there. -/
theorem scan_ends_at_zero_byte (raw : Int) :
    (0 ≤ raw → ∃ k, StopsFirst (raw >>> (8 : Nat)) k ∧ ∀ w, raw < 256 ^ (w + 1) → k ≤ w) ∧
    (raw < 0 → ∀ w, -256 ^ (w + 1) ≤ raw →
      ((∃ k, StopsFirst (raw >>> (8 : Nat)) k) ↔ ∃ i, 1 ≤ i ∧ i ≤ w ∧ raw / 256 ^ i % 256 = 0)) ∧
    (raw < 0 → ∀ s, ofRaw raw ≠ .ok s) ∧
    (∀ k, StopsFirst (raw >>> (8 : Nat)) k → Stopped raw k) ∧
    (ofRaw raw = .error .endless ↔ ¬ ∃ k, StopsAfter (raw >>> (8 : Nat)) k) := by
  refine ⟨fun h₀ => ?_, fun h₀ w hw => ⟨?_, ?_⟩, ofRaw_ne_ok_of_neg, fun k h => h.stopped, ?_⟩
  · obtain ⟨w, hw⟩ := exists_lt_pow raw
    obtain ⟨k, hk⟩ := exists_stopsFirst ⟨w, stopsAfter_of_nonneg h₀ hw⟩
    exact ⟨k, hk, fun v hv => hk.le (stopsAfter_of_nonneg h₀ hv)⟩
  · rintro ⟨k, hk⟩
    have hlt : k < w := hk.stops.lt_of_raw_neg h₀ hw
    exact ⟨k + 1, by omega, by omega, stopsAfter_shiftRight.mp hk.stops⟩
  · rintro ⟨i, hi, -, hb⟩
    obtain ⟨k, rfl⟩ : ∃ k, i = k + 1 := ⟨i - 1, by omega⟩
    exact exists_stopsFirst ⟨k, stopsAfter_shiftRight.mpr hb⟩
  · refine ⟨fun h hstop => ?_, ofRaw_of_endless⟩
    obtain ⟨k, hk⟩ := exists_stopsFirst hstop
    exact hk.stopped.ne_endless h

/-- A number below zero whose third byte is zero: the scan stops there, and what is left is refused. -/
theorem scan_ends_below_zero :
    ∃ k, StopsFirst ((-16760572 : Int) >>> (8 : Nat)) k ∧
      ofRaw (-16760572) = .error (.refused (.codeAfterEnd (-16760572))) := by
  obtain ⟨-, hneg, -, hstopped, -⟩ := scan_ends_at_zero_byte (-16760572)
  obtain ⟨k, hk⟩ := (hneg (by decide) 2 (by decide)).mpr ⟨2, by decide, by decide, by decide⟩
  exact ⟨k, hk, (hstopped k hk).rest (leftAfter_ne_zero_of_neg (by decide))⟩

/-- **Not every scan ends**: that of -1 has -1 left after every turn, and never a byte that is zero. -/
theorem scan_of_minus_one_endless :
    (¬ ∃ k, StopsAfter ((-1 : Int) >>> (8 : Nat)) k) ∧ ofRaw (-1) = .error .endless := by
  have hnever : ¬ ∃ k, StopsAfter ((-1 : Int) >>> (8 : Nat)) k := by
    rintro ⟨k, hk⟩
    have hlt : k < 0 := hk.lt_of_raw_neg (by decide) (by decide)
    omega
  exact ⟨hnever, ofRaw_of_endless hnever⟩

end Holdings.Symbol
