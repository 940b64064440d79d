/-
# Numerals and their numbers

A numeral determines its number, because it can be read (`readNumeral_numeral`).  Here is the other direction
for base ten: among the texts of digits that a number could be written as, the one without a zero in front is
determined by the number (`IsNumeral.unique`), and so is the one of a given length
(`eq_of_readNumeral_eq`).  Both rest on the place that a digit has: the digits behind it are worth
less than one unit of it (`readNumeral_lt`).

So a decimal number is the only numeral of its value, and a padded one is the only text of digits with its
value and its width.  It also has no more digits than its value asks for (`length_decimal_le_iff`), which is
how the limit for numerals is told by their length (`isWritable_iff`).
-/
import Mathlib.Data.List.Basic
import Mathlib.Data.List.Induction
import Mathlib.Tactic.Ring
import Holdings.Text.Digits

namespace Holdings.Text

/-! ## 1. Digits -/

/-- A text of decimal digits. -/
def AllDigits (cs : List Char) : Prop := ∀ c ∈ cs, isDigit c = true

/-- A text of digits without a zero in front, except that zero is one digit. -/
structure IsNumeral (cs : List Char) : Prop where
  digits : AllDigits cs
  nonempty : cs ≠ []
  lead : cs.head? = some '0' → cs = ['0']

theorem isDigit_iff {c : Char} : isDigit c = true ↔ 48 ≤ c.toNat ∧ c.toNat ≤ 57 := by
  simp only [isDigit, Bool.and_eq_true, decide_eq_true_eq, Char.le_def, UInt32.le_iff_toNat_le]
  rfl

theorem isDigit_digitChar {d : Nat} (h : d < 10) : isDigit (digitChar d) = true := by
  have all : ∀ d : Fin 10, isDigit (digitChar d) = true := by decide
  exact all ⟨d, h⟩

/-- The value of a decimal digit is its distance from zero. -/
theorem digitValue_of_isDigit {c : Char} (h : isDigit c = true) : digitValue c = c.toNat - 48 := by
  have hc := isDigit_iff.mp h
  rw [digitValue, if_pos (by omega)]

theorem digitValue_lt {c : Char} (h : isDigit c = true) : digitValue c < 10 := by
  have hc := isDigit_iff.mp h
  rw [digitValue_of_isDigit h]
  omega

theorem eq_of_digitValue_eq {c d : Char} (hc : isDigit c = true) (hd : isDigit d = true)
    (h : digitValue c = digitValue d) : c = d := by
  rw [digitValue_of_isDigit hc, digitValue_of_isDigit hd] at h
  have hc := isDigit_iff.mp hc
  have hd := isDigit_iff.mp hd
  exact Char.toNat_inj.mp (by omega)

/-- Only the character of zero has the value zero. -/
theorem digitValue_pos {c : Char} (hc : isDigit c = true) (h : c ≠ '0') : 0 < digitValue c := by
  refine Nat.pos_of_ne_zero fun h0 => h ?_
  exact eq_of_digitValue_eq hc (by decide) h0

theorem allDigits_cons {c : Char} {cs : List Char} :
    AllDigits (c :: cs) ↔ isDigit c = true ∧ AllDigits cs := List.forall_mem_cons

theorem allDigits_append {cs ds : List Char} :
    AllDigits (cs ++ ds) ↔ AllDigits cs ∧ AllDigits ds := List.forall_mem_append

/-- A character that is no digit does not stand among digits. -/
theorem AllDigits.not_mem {cs : List Char} (h : AllDigits cs) {c : Char} (hc : isDigit c = false) :
    c ∉ cs := by
  intro hmem
  rw [h c hmem] at hc
  cases hc

/-! ## 2. Values by place -/

theorem readNumeral_append (b : Nat) (cs ds : List Char) :
    readNumeral b (cs ++ ds) = readNumeral b cs * b ^ ds.length + readNumeral b ds := by
  induction ds using List.reverseRecOn with
  | nil => simp [readNumeral]
  | append_singleton ds d ih =>
    rw [← List.append_assoc, readNumeral_append_singleton, readNumeral_append_singleton, ih,
      List.length_append, List.length_singleton]
    ring

theorem readNumeral_cons (b : Nat) (c : Char) (cs : List Char) :
    readNumeral b (c :: cs) = digitValue c * b ^ cs.length + readNumeral b cs := by
  have h := readNumeral_append b [c] cs
  simpa [readNumeral] using h

/-- Zeros in front change nothing. -/
theorem readNumeral_zeros (b k : Nat) (cs : List Char) :
    readNumeral b (List.replicate k '0' ++ cs) = readNumeral b cs := by
  induction k with
  | zero => rfl
  | succ k ih =>
    have h0 : digitValue '0' = 0 := by decide
    rw [List.replicate_succ, List.cons_append, readNumeral_cons, ih, h0]
    ring

/-- The digits behind a place are worth less than one unit of it. -/
theorem readNumeral_lt {cs : List Char} (h : AllDigits cs) : readNumeral 10 cs < 10 ^ cs.length := by
  induction cs with
  | nil => decide
  | cons c cs ih =>
    obtain ⟨hc, hcs⟩ := allDigits_cons.mp h
    have hlt := ih hcs
    have hle : digitValue c * 10 ^ cs.length ≤ 9 * 10 ^ cs.length :=
      Nat.mul_le_mul_right _ (Nat.le_of_lt_succ (digitValue_lt hc))
    rw [readNumeral_cons, List.length_cons, pow_succ]
    omega

/-- A numeral is worth at least one unit of its first place, unless it is zero. -/
theorem IsNumeral.pow_le {cs : List Char} (h : IsNumeral cs) (h0 : cs ≠ ['0']) :
    10 ^ (cs.length - 1) ≤ readNumeral 10 cs := by
  cases cs with
  | nil => exact absurd rfl h.nonempty
  | cons c cs =>
    have hne : c ≠ '0' := by
      rintro rfl
      exact h0 (h.lead rfl)
    have hpos := digitValue_pos (h.digits c List.mem_cons_self) hne
    have hle : 1 * 10 ^ cs.length ≤ digitValue c * 10 ^ cs.length := Nat.mul_le_mul_right _ hpos
    rw [readNumeral_cons, List.length_cons, Nat.add_sub_cancel]
    omega

/-! ## 3. The text of a value -/

/-- **Texts of digits of one length and one value are the same.** -/
theorem eq_of_readNumeral_eq {cs ds : List Char} (hc : AllDigits cs) (hd : AllDigits ds)
    (hlen : cs.length = ds.length) (h : readNumeral 10 cs = readNumeral 10 ds) : cs = ds := by
  induction cs generalizing ds with
  | nil => exact (List.length_eq_zero_iff.mp hlen.symm).symm
  | cons c cs ih =>
    cases ds with
    | nil => cases hlen
    | cons d ds =>
      obtain ⟨hc₁, hcs⟩ := allDigits_cons.mp hc
      obtain ⟨hd₁, hds⟩ := allDigits_cons.mp hd
      have hlen' : cs.length = ds.length := Nat.succ.inj hlen
      have hlt := readNumeral_lt hcs
      have hlt' := readNumeral_lt hds
      rw [readNumeral_cons, readNumeral_cons, ← hlen'] at h
      rw [← hlen'] at hlt'
      -- the first digit is the quotient by its place, the rest is the remainder
      have hfirst : digitValue c = digitValue d := by
        have hdiv := congrArg (· / 10 ^ cs.length) h
        simpa [Nat.mul_comm _ (10 ^ cs.length), Nat.mul_add_div (Nat.pow_pos (by decide : 0 < 10)),
          Nat.div_eq_of_lt hlt, Nat.div_eq_of_lt hlt'] using hdiv
      have hrest : readNumeral 10 cs = readNumeral 10 ds := by
        rw [hfirst] at h
        omega
      rw [eq_of_digitValue_eq hc₁ hd₁ hfirst, ih hcs hds hlen' hrest]

/-- A numeral of more digits is worth more. -/
theorem IsNumeral.length_le {cs ds : List Char} (hc : IsNumeral cs) (hd : IsNumeral ds)
    (h : readNumeral 10 cs = readNumeral 10 ds) : cs.length ≤ ds.length := by
  by_cases h0 : cs = ['0']
  · rw [h0]
    exact List.length_pos_iff.mpr hd.nonempty
  · have hlow := hc.pow_le h0
    have hhigh := readNumeral_lt hd.digits
    have hlt : 10 ^ (cs.length - 1) < 10 ^ ds.length := by omega
    have hlen := (Nat.pow_lt_pow_iff_right (by decide)).mp hlt
    omega

/-- **A numeral is determined by its value.** -/
theorem IsNumeral.unique {cs ds : List Char} (hc : IsNumeral cs) (hd : IsNumeral ds)
    (h : readNumeral 10 cs = readNumeral 10 ds) : cs = ds :=
  eq_of_readNumeral_eq hc.digits hd.digits
    (Nat.le_antisymm (hc.length_le hd h) (hd.length_le hc h.symm)) h

/-! ## 4. Decimals -/

theorem readNumeral_decimal (n : Nat) : readNumeral 10 (decimal n) = n :=
  readNumeral_numeral (by decide) (by decide) n

theorem decimal_inj {n m : Nat} (h : decimal n = decimal m) : n = m := by
  rw [← readNumeral_decimal n, h, readNumeral_decimal]

theorem allDigits_decimal (n : Nat) : AllDigits (decimal n) := by
  unfold decimal
  fun_induction numeral 10 n with
  | case1 n h ih =>
    exact allDigits_append.mpr ⟨ih, allDigits_cons.mpr
      ⟨isDigit_digitChar (Nat.mod_lt _ (by decide)), List.forall_mem_nil _⟩⟩
  | case2 n h =>
    exact allDigits_cons.mpr ⟨isDigit_digitChar (by omega), List.forall_mem_nil _⟩

/-- A positive number does not begin with a zero: what stands in front of its last digit is itself the decimal of
a positive number. -/
theorem head?_decimal_ne {n : Nat} (hn : 0 < n) : (decimal n).head? ≠ some '0' := by
  unfold decimal
  fun_induction numeral 10 n with
  | case1 n h ih =>
    rw [List.head?_append_of_ne_nil _ (numeral_ne_nil 10 _)]
    exact ih (by omega)
  | case2 n h =>
    intro h0
    have hchar : digitChar n = '0' := Option.some.inj h0
    have hval : digitValue (digitChar n) = n := digitValue_digitChar (by omega)
    rw [hchar] at hval
    exact absurd hval (by rw [show digitValue '0' = 0 by decide]; omega)

theorem isNumeral_decimal (n : Nat) : IsNumeral (decimal n) where
  digits := allDigits_decimal n
  nonempty := numeral_ne_nil 10 n
  lead := by
    intro hlead
    rcases Nat.eq_zero_or_pos n with rfl | hn
    · decide +kernel
    · exact absurd hlead (head?_decimal_ne hn)

/-- A number below a power of ten has no more digits than its exponent, which is not zero. -/
theorem length_decimal_le {n p : Nat} (hp : p ≠ 0) (h : n < 10 ^ p) : (decimal n).length ≤ p := by
  by_cases h0 : decimal n = ['0']
  · rw [h0]
    exact Nat.pos_of_ne_zero hp
  · have hle := (isNumeral_decimal n).pow_le h0
    rw [readNumeral_decimal] at hle
    have hlen := (Nat.pow_lt_pow_iff_right (by decide)).mp (Nat.lt_of_le_of_lt hle h)
    omega

/-- **The length of a decimal number** is at most an exponent if the number is below that power of ten. -/
theorem length_decimal_le_iff {n p : Nat} (hp : p ≠ 0) : (decimal n).length ≤ p ↔ n < 10 ^ p := by
  refine ⟨fun h => ?_, length_decimal_le hp⟩
  have hlt := readNumeral_lt (allDigits_decimal n)
  rw [readNumeral_decimal] at hlt
  exact Nat.lt_of_lt_of_le hlt (Nat.pow_le_pow_right (by decide) h)

/-! ## 5. Padding -/

theorem readNumeral_padLeft (p : Nat) (cs : List Char) :
    readNumeral 10 (padLeft p '0' cs) = readNumeral 10 cs := readNumeral_zeros 10 _ cs

theorem allDigits_padLeft (p : Nat) {cs : List Char} (h : AllDigits cs) :
    AllDigits (padLeft p '0' cs) := by
  refine allDigits_append.mpr ⟨fun c hc => ?_, h⟩
  rw [List.eq_of_mem_replicate hc]
  decide

/-! ## 6. Numbers that cannot be written -/

/-- An integer of more digits than a numeral in base ten may have. -/
def IsLong (n : Int) : Prop := 4300 < (decimal n.natAbs).length

theorem isWritable_iff_lt {n : Int} : isWritable n = true ↔ n.natAbs < 10 ^ maxNumeralLength := by
  unfold isWritable numeralBound
  rw [decide_eq_true_eq, Nat.pow_eq]

/-- **An integer can be written** unless it is too long. -/
theorem isWritable_iff {n : Int} : isWritable n = true ↔ ¬ IsLong n := by
  rw [isWritable_iff_lt, ← length_decimal_le_iff (by decide), IsLong, Nat.not_lt]
  rfl

theorem isWritable_eq_false_iff {n : Int} : isWritable n = false ↔ IsLong n := by
  rw [← Bool.not_eq_true, isWritable_iff, Classical.not_not]

theorem natAbs_ten_pow (k : Nat) : ((10 : Int) ^ k).natAbs = 10 ^ k := by
  rw [Int.natAbs_pow]
  rfl

/-- The least power of ten that is too long. -/
theorem isLong_of_natAbs_eq {n : Int} (h : n.natAbs = 10 ^ 4300) : IsLong n := by
  have hlength : (4300 : Nat) = maxNumeralLength := by decide
  rw [← isWritable_eq_false_iff, ← Bool.not_eq_true, isWritable_iff_lt, h, hlength]
  exact Nat.lt_irrefl _

/-- Machine words can be written, and so can twice as long ones. -/
theorem isWritable_of_lt {n : Int} (h : n.natAbs < 2 ^ 128) : isWritable n = true := by
  have hpow : 2 ^ 128 ≤ 10 ^ maxNumeralLength :=
    calc 2 ^ 128 ≤ 10 ^ 39 := by decide
      _ ≤ 10 ^ maxNumeralLength := Nat.pow_le_pow_right (by decide) (by decide)
  exact isWritable_iff_lt.mpr (Nat.lt_of_lt_of_le h hpow)

/-- A number that is too long is above every bound for machine words. -/
theorem lt_of_isLong {n b : Int} (hn : 0 ≤ n) (h : IsLong n) (hb : b < 2 ^ 128) : b < n := by
  have hwide : ¬ n.natAbs < 2 ^ 128 := fun hs => isWritable_iff.mp (isWritable_of_lt hs) h
  omega

end Holdings.Text
