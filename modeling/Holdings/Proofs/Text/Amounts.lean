/-
# What the text of an amount says

The text of an amount is a figure, a space and the code of the symbol.  A figure is a sign, a numeral in front of
the point, and as many digits behind the point as the symbol has fraction digits; without any the
point is left out (`Figure.chars`).  Which figure belongs to an amount is said without the
printer: it has a sign exactly when the amount is negative, no needless zero in front, the right number of
digits behind the point, and it reads as the amount once the point is taken out (`Figure.Spells`).

There is exactly one such figure (`Figure.Spells.unique`), and it is the one that is printed (`text_eq_ok_iff`),
if its integer part can be written.

Conversely a text says which amount it is of.  No figure has a space, so the figure ends at the first
space, whatever the code holds; the point in it tells how many fraction digits there are
(`Figure.drop_dropWhile_chars`), and without the point it is the amount.
-/
import Holdings.Amount.Text
import Holdings.Proofs.Text.Numerals

namespace Holdings

/-! ## 1. Separators -/

namespace Text

/-- A text is split in one way at the first of its separators. -/
theorem append_cons_inj {sep : Char} {xs ys us vs : List Char} (hx : sep ∉ xs) (hy : sep ∉ ys)
    (h : xs ++ sep :: us = ys ++ sep :: vs) : xs = ys ∧ us = vs := by
  induction xs generalizing ys with
  | nil =>
    cases ys with
    | nil => exact ⟨rfl, (List.cons.inj h).2⟩
    | cons y ys =>
      have hsep : sep = y := (List.cons.inj h).1
      exact absurd (List.mem_cons.mpr (Or.inl hsep)) hy
  | cons x xs ih =>
    cases ys with
    | nil =>
      have hsep : x = sep := (List.cons.inj h).1
      exact absurd (List.mem_cons.mpr (Or.inl hsep.symm)) hx
    | cons y ys =>
      obtain ⟨rfl, hrest⟩ := List.cons.inj h
      obtain ⟨rfl, hus⟩ := ih (fun hm => hx (List.mem_cons_of_mem _ hm))
        (fun hm => hy (List.mem_cons_of_mem _ hm)) hrest
      exact ⟨rfl, hus⟩

/-- A text is split in one way at the last of its separators. -/
theorem append_cons_inj_last {sep : Char} {xs ys us vs : List Char} (hu : sep ∉ us) (hv : sep ∉ vs)
    (h : xs ++ sep :: us = ys ++ sep :: vs) : xs = ys ∧ us = vs := by
  have hreverse : us.reverse ++ sep :: xs.reverse = vs.reverse ++ sep :: ys.reverse := by
    simpa using congrArg List.reverse h
  obtain ⟨hus, hxs⟩ := append_cons_inj (by simpa using hu) (by simpa using hv) hreverse
  exact ⟨List.reverse_inj.mp hxs, List.reverse_inj.mp hus⟩

/-- The integer that digits with a sign in front stand for. -/
def readSigned : List Char → Int
  | '-' :: cs => -(readNumeral 10 cs : Int)
  | cs => readNumeral 10 cs

/-- Digits without a sign are read as they are. -/
theorem readSigned_of_allDigits {cs : List Char} (h : AllDigits cs) :
    readSigned cs = readNumeral 10 cs := by
  unfold readSigned
  split
  · have hsign := h '-' List.mem_cons_self
    cases hsign
  · rfl

end Text

namespace Amount

open Text

/-! ## 2. Figures -/

/-- What stands in front of the code: whether there is a sign, and the digits on both sides of the point. -/
structure Figure where
  negative : Bool
  whole : List Char
  fraction : List Char
  deriving DecidableEq

namespace Figure

variable {f g : Figure} {amount : Int} {p : Nat}

/-- The sign of a figure. -/
def sign (f : Figure) : List Char := if f.negative then ['-'] else []

/-- The characters of a figure; without digits behind it there is no point. -/
def chars (f : Figure) : List Char :=
  f.sign ++ f.whole ++ (if f.fraction = [] then [] else separator :: f.fraction)

/-- The figure is that of an amount with so many fraction digits. -/
structure Spells (f : Figure) (amount : Int) (p : Nat) : Prop where
  negative : f.negative = true ↔ amount < 0
  whole : IsNumeral f.whole
  fraction : AllDigits f.fraction
  length_fraction : f.fraction.length = p
  /-- Without the point the figure reads as the amount. -/
  value : readSigned (f.chars.filter (· != separator)) = amount

theorem not_mem_sign {c : Char} (hc : c ≠ '-') : c ∉ f.sign := by
  unfold sign
  split
  · simpa using hc
  · exact List.not_mem_nil

/-- Taking out the point leaves the sign and all digits. -/
theorem filter_chars (hw : AllDigits f.whole) (hf : AllDigits f.fraction) :
    f.chars.filter (· != separator) = f.sign ++ (f.whole ++ f.fraction) := by
  have keep : ∀ cs : List Char, separator ∉ cs → cs.filter (· != separator) = cs := by
    intro cs hcs
    refine List.filter_eq_self.mpr fun c hc => ?_
    simpa using fun he : c = separator => hcs (he ▸ hc)
  have hfrac : (if f.fraction = [] then [] else separator :: f.fraction).filter (· != separator) =
      f.fraction := by
    split
    · rename_i hnil
      rw [hnil]
      rfl
    · rw [List.filter_cons_of_neg (by simp)]
      exact keep _ (hf.not_mem (by decide))
  rw [chars, List.filter_append, List.filter_append, hfrac, List.append_assoc,
    keep _ (not_mem_sign (by decide)), keep _ (hw.not_mem (by decide))]

/-- A figure without its point reads as its digits with its sign. -/
theorem readSigned_chars (hw : AllDigits f.whole) (hf : AllDigits f.fraction) :
    readSigned (f.chars.filter (· != separator)) =
      if f.negative then -(readNumeral 10 (f.whole ++ f.fraction) : Int)
      else readNumeral 10 (f.whole ++ f.fraction) := by
  rw [filter_chars hw hf, sign]
  split
  · rfl
  · rw [List.nil_append]
    exact readSigned_of_allDigits (allDigits_append.mpr ⟨hw, hf⟩)

/-- Behind the first point stand the fraction digits, and nothing if there is no point. -/
theorem drop_dropWhile_chars (hw : AllDigits f.whole) :
    (f.chars.dropWhile (· != separator)).drop 1 = f.fraction := by
  have hfront : ∀ c ∈ f.sign ++ f.whole, (c != separator) = true := by
    intro c hc
    have hne : c ≠ separator := by
      rintro rfl
      rcases List.mem_append.mp hc with hc | hc
      · exact not_mem_sign (by decide) hc
      · exact hw.not_mem (by decide) hc
    simpa using hne
  rw [chars, List.dropWhile_append_of_pos hfront]
  split
  · rename_i hnil
    rw [hnil]
    rfl
  · rw [List.dropWhile_cons_of_neg (by simp)]
    rfl

namespace Spells

/-- The digits of the figure are worth the magnitude of the amount. -/
theorem readNumeral_eq (h : f.Spells amount p) :
    readNumeral 10 (f.whole ++ f.fraction) = amount.natAbs := by
  have hvalue := h.value
  rw [readSigned_chars h.whole.digits h.fraction] at hvalue
  split at hvalue
  · omega
  · rename_i hs
    have hneg : ¬ amount < 0 := fun hlt => hs (h.negative.mpr hlt)
    omega

/-- The digits in front of the point are the quotient, those behind it the remainder. -/
theorem readNumeral_parts (h : f.Spells amount p) :
    readNumeral 10 f.whole = amount.natAbs / 10 ^ p ∧
      readNumeral 10 f.fraction = amount.natAbs % 10 ^ p := by
  have hvalue := h.readNumeral_eq
  have hlt := readNumeral_lt h.fraction
  rw [readNumeral_append] at hvalue
  rw [h.length_fraction] at hvalue hlt
  have hpos : 0 < 10 ^ p := Nat.pow_pos (by decide)
  constructor
  · rw [← hvalue, Nat.add_comm, Nat.add_mul_div_right _ _ hpos, Nat.div_eq_of_lt hlt, Nat.zero_add]
  · rw [← hvalue, Nat.add_comm, Nat.add_mul_mod_self_right, Nat.mod_eq_of_lt hlt]

/-- **An amount has one figure.** -/
theorem unique (hf : f.Spells amount p) (hg : g.Spells amount p) : f = g := by
  obtain ⟨hfw, hff⟩ := hf.readNumeral_parts
  obtain ⟨hgw, hgf⟩ := hg.readNumeral_parts
  have hneg : f.negative = g.negative := Bool.eq_iff_iff.mpr (hf.negative.trans hg.negative.symm)
  have hwhole : f.whole = g.whole := hf.whole.unique hg.whole (hfw.trans hgw.symm)
  have hlen : f.fraction.length = g.fraction.length := by rw [hf.length_fraction, hg.length_fraction]
  have hfrac : f.fraction = g.fraction :=
    eq_of_readNumeral_eq hf.fraction hg.fraction hlen (hff.trans hgf.symm)
  cases f
  cases g
  simp_all

/-- **A figure is of one amount**, with one number of fraction digits. -/
theorem amount_eq {amount' : Int} {p' : Nat} (hf : f.Spells amount p) (hg : g.Spells amount' p')
    (h : f.chars = g.chars) : amount = amount' ∧ p = p' := by
  have hfrac : f.fraction = g.fraction := by
    rw [← drop_dropWhile_chars hf.whole.digits, h, drop_dropWhile_chars hg.whole.digits]
  refine ⟨?_, ?_⟩
  · rw [← hf.value, h, hg.value]
  · rw [← hf.length_fraction, hfrac, hg.length_fraction]

/-- The figure of an amount has no space. -/
theorem space_not_mem (h : f.Spells amount p) : ' ' ∉ f.chars := by
  have hfrac : ' ' ∉ f.fraction := h.fraction.not_mem (by decide)
  unfold chars
  rw [List.mem_append, List.mem_append]
  rintro ((hm | hm) | hm)
  · exact not_mem_sign (by decide) hm
  · exact h.whole.digits.not_mem (by decide) hm
  · split at hm
    · cases hm
    · rcases List.mem_cons.mp hm with hm | hm
      · cases hm
      · exact hfrac hm

end Spells

end Figure

/-! ## 3. The figure that is printed -/

/-- The digits behind the point. -/
def fractionDigits (magnitude p : Nat) : List Char :=
  if p = 0 then [] else padLeft p '0' (decimal (magnitude % 10 ^ p))

/-- The figure of an amount with `p` fraction digits. -/
def figure (amount : Int) (p : Nat) : Figure :=
  ⟨decide (amount < 0), decimal (amount.natAbs / 10 ^ p), fractionDigits amount.natAbs p⟩

theorem length_fractionDigits (magnitude p : Nat) : (fractionDigits magnitude p).length = p := by
  unfold fractionDigits
  split
  · rename_i h0
    rw [h0]
    rfl
  · rename_i h0
    exact length_padLeft (length_decimal_le h0 (Nat.mod_lt _ (Nat.pow_pos (by decide))))

theorem allDigits_fractionDigits (magnitude p : Nat) : AllDigits (fractionDigits magnitude p) := by
  unfold fractionDigits
  split
  · exact List.forall_mem_nil _
  · exact allDigits_padLeft p (allDigits_decimal _)

theorem readNumeral_fractionDigits (magnitude p : Nat) :
    readNumeral 10 (fractionDigits magnitude p) = magnitude % 10 ^ p := by
  unfold fractionDigits
  split
  · rename_i h0
    rw [h0, pow_zero, Nat.mod_one]
    rfl
  · rw [readNumeral_padLeft, readNumeral_decimal]

/-- The printed figure spells the amount: its two parts are put together again by their places. -/
theorem figure_spells (amount : Int) (p : Nat) : (figure amount p).Spells amount p where
  negative := by simp [figure]
  whole := isNumeral_decimal _
  fraction := allDigits_fractionDigits _ p
  length_fraction := length_fractionDigits _ p
  value := by
    have hdigits : readNumeral 10 ((figure amount p).whole ++ (figure amount p).fraction) =
        amount.natAbs := by
      show readNumeral 10 (decimal _ ++ fractionDigits _ _) = _
      rw [readNumeral_append, readNumeral_decimal, length_fractionDigits, readNumeral_fractionDigits]
      exact Nat.div_add_mod' _ _
    rw [Figure.readSigned_chars (allDigits_decimal _) (allDigits_fractionDigits _ p), hdigits]
    simp only [figure, decide_eq_true_eq]
    split <;> omega

/-- The point is there exactly when there are fraction digits. -/
theorem figure_chars (amount : Int) (p : Nat) :
    (figure amount p).chars = (if amount < 0 then ['-'] else []) ++ magnitudeText amount.natAbs p := by
  have hnil : fractionDigits amount.natAbs p = [] ↔ p = 0 := by
    rw [← List.length_eq_zero_iff, length_fractionDigits]
  unfold magnitudeText Figure.chars Figure.sign
  simp only [figure, decide_eq_true_eq, hnil]
  by_cases h0 : p = 0
  · rw [if_pos h0, if_pos h0, List.append_nil]
    rfl
  · rw [if_neg h0, if_neg h0, fractionDigits, if_neg h0, List.append_assoc]
    rfl

/-! ## 4. The text of an amount -/

/-- A text is that of an amount with so many fraction digits and of a code. -/
def Written (amount : Int) (p : Nat) (code s : String) : Prop :=
  ∃ f : Figure, f.Spells amount p ∧ s = String.ofList (f.chars ++ ' ' :: code.toList)

/-- **A text is of one amount**, of one number of fraction digits and of one code, whatever characters the code
has: its first space ends the figure. -/
theorem Written.unique {amount amount' : Int} {p p' : Nat} {code code' s : String}
    (h : Written amount p code s) (h' : Written amount' p' code' s) :
    amount = amount' ∧ p = p' ∧ code = code' := by
  obtain ⟨f, hf, rfl⟩ := h
  obtain ⟨g, hg, hs⟩ := h'
  obtain ⟨hchars, hcode⟩ :=
    append_cons_inj hf.space_not_mem hg.space_not_mem (String.ofList_injective hs)
  obtain ⟨hamount, hp⟩ := hf.amount_eq hg hchars
  exact ⟨hamount, hp, String.toList_inj.mp hcode⟩

theorem scale_of_le {precision : Int} (h : 0 ≤ precision ∧ precision ≤ 18) :
    scale precision = .ok (Nat.pow 10 precision.toNat) := if_pos h

/-- The integer part of an amount. -/
def wholePart (amount : Int) (p : Nat) : Nat := amount.natAbs / 10 ^ p

/-- With a number of fraction digits that is allowed, only the integer part may be too long. -/
theorem text_eq {precision : Int} (h : 0 ≤ precision ∧ precision ≤ 18) (amount : Int)
    (code : String) : text amount precision code =
      (requireWritable (isWritable (wholePart amount precision.toNat))).map fun _ =>
        String.ofList ((figure amount precision.toNat).chars ++ ' ' :: code.toList) := by
  unfold text
  rw [scale_of_le h, figure_chars, List.append_assoc]
  show (requireWritable (isWritable (wholePart amount precision.toNat)) >>= fun _ => _) = _
  cases isWritable (wholePart amount precision.toNat) <;> rfl

theorem text_of_not_isLong {precision : Int} (h : 0 ≤ precision ∧ precision ≤ 18) {amount : Int}
    (hw : ¬ IsLong (wholePart amount precision.toNat)) (code : String) :
    text amount precision code =
      .ok (String.ofList ((figure amount precision.toNat).chars ++ ' ' :: code.toList)) := by
  rw [text_eq h, isWritable_iff.mpr hw]
  rfl

theorem text_of_isLong {precision : Int} (h : 0 ≤ precision ∧ precision ≤ 18) {amount : Int}
    (hw : IsLong (wholePart amount precision.toNat)) (code : String) :
    text amount precision code = .error (.refused .longNumber) := by
  rw [text_eq h, isWritable_eq_false_iff.mpr hw]
  rfl

/-- The integer part of a word is not too long. -/
theorem not_isLong_wholePart {amount : Int} (h : amount.natAbs < 2 ^ 128) (p : Nat) :
    ¬ IsLong (wholePart amount p) :=
  isWritable_iff.mp (isWritable_of_lt (Nat.lt_of_le_of_lt (Nat.div_le_self _ _) h))

/-- **What is printed** is the text of the amount, and nothing else is. -/
theorem text_eq_ok_iff {precision : Int} (h : 0 ≤ precision ∧ precision ≤ 18) {amount : Int}
    {code s : String} : text amount precision code = .ok s ↔
      ¬ IsLong (wholePart amount precision.toNat) ∧ Written amount precision.toNat code s := by
  by_cases hw : IsLong (wholePart amount precision.toNat)
  · rw [text_of_isLong h hw]
    exact iff_of_false (by simp) fun hs => hs.1 hw
  · rw [text_of_not_isLong h hw, and_iff_right hw]
    constructor
    · intro hs
      exact ⟨_, figure_spells amount _, (Except.ok.inj hs).symm⟩
    · rintro ⟨f, hf, rfl⟩
      rw [hf.unique (figure_spells amount _)]

/-- Equal texts are of equal amounts, numbers of fraction digits and codes. -/
theorem text_inj {amount amount' precision precision' : Int} {code code' s : String}
    (h : 0 ≤ precision ∧ precision ≤ 18) (h' : 0 ≤ precision' ∧ precision' ≤ 18)
    (hs : text amount precision code = .ok s) (hs' : text amount' precision' code' = .ok s) :
    amount = amount' ∧ precision = precision' ∧ code = code' := by
  have hw := ((text_eq_ok_iff h).mp hs).2
  have hw' := ((text_eq_ok_iff h').mp hs').2
  obtain ⟨hamount, hp, hcode⟩ := hw.unique hw'
  exact ⟨hamount, by omega, hcode⟩

/-- **The text of an amount is exact and unambiguous.**  For a number of fraction digits from 0 to 18 it is
printed if the integer part has no more digits than a numeral may have.  Then it is the one text that spells the
amount, and no other amount, number of fraction digits or code is printed as the same text.  A longer integer part
is refused, and so is any other number of fraction digits, whatever the amount. -/
theorem amount_text_exact (amount precision : Int) (code : String) :
    (0 ≤ precision ∧ precision ≤ 18 →
      (¬ IsLong ((amount.natAbs / 10 ^ precision.toNat : Nat) : Int) →
        ∃ s, text amount precision code = .ok s ∧
          ∀ t, Written amount precision.toNat code t ↔ t = s) ∧
      (IsLong ((amount.natAbs / 10 ^ precision.toNat : Nat) : Int) →
        text amount precision code = .error (.refused .longNumber)) ∧
      ∀ amount' precision' code' s, 0 ≤ precision' ∧ precision' ≤ 18 →
        text amount precision code = .ok s → text amount' precision' code' = .ok s →
          amount = amount' ∧ precision = precision' ∧ code = code') ∧
    (¬ (0 ≤ precision ∧ precision ≤ 18) →
      text amount precision code = .error (.refused (.precision precision))) := by
  refine ⟨fun h => ⟨fun hw => ⟨_, text_of_not_isLong h hw code, fun t => ?_⟩,
    fun hw => text_of_isLong h hw code, fun _ _ _ _ h' => text_inj h h'⟩, fun h => ?_⟩
  · have hprinted : Written amount precision.toNat code t ↔ text amount precision code = .ok t :=
      ((text_eq_ok_iff h).trans (and_iff_right hw)).symm
    rw [hprinted, text_of_not_isLong h hw, Except.ok.injEq]
    exact eq_comm
  · have hscale : scale precision = .error (.refused (.precision precision)) := if_neg h
    unfold text
    rw [hscale]
    rfl

/-- Minus five at four fraction digits, with a code that looks like part of a number; the same digits with one
more of them behind the point are another text, and nineteen fraction digits are too many. -/
theorem amount_text_at_minus_five :
    (∃ s, text (-5) 4 "0 .1" = .ok s ∧ ∀ t, Written (-5) 4 "0 .1" t ↔ t = s) ∧
      text (-5) 4 "0 .1" ≠ text (-50) 5 "0 .1" ∧
      text (-5) 19 "0 .1" = .error (.refused (.precision 19)) := by
  have hshort : ∀ p, ¬ IsLong (wholePart (-5) p) := not_isLong_wholePart (by decide)
  obtain ⟨hprinted, -, hinj⟩ := (amount_text_exact (-5) 4 "0 .1").1 (by decide)
  obtain ⟨s, hs, hspells⟩ := hprinted (hshort 4)
  refine ⟨⟨s, hs, hspells⟩, fun h => ?_, (amount_text_exact (-5) 19 "0 .1").2 (by decide)⟩
  have hamount := (hinj (-50) 5 "0 .1" s (by decide) hs (h.symm.trans hs)).1
  exact absurd hamount (by decide)

/-- **Not every amount is printed**: the integer part of this one has one digit too many. -/
theorem amount_without_text :
    text (10 ^ 4300) 0 "SYS" = .error (.refused .longNumber) ∧
    ¬ ∀ (amount precision : Int) (code : String), 0 ≤ precision ∧ precision ≤ 18 →
      ∃ s, text amount precision code = .ok s := by
  have hlong : IsLong (wholePart (10 ^ 4300) 0) := by
    refine isLong_of_natAbs_eq ?_
    rw [wholePart, Nat.pow_zero, Nat.div_one, Int.natAbs_natCast, natAbs_ten_pow]
  have hzero : (0 : Int) ≤ 0 ∧ (0 : Int) ≤ 18 := by decide
  have hrefused := text_of_isLong hzero hlong "SYS"
  refine ⟨hrefused, fun h => ?_⟩
  obtain ⟨s, hs⟩ := h (10 ^ 4300) 0 "SYS" (by decide)
  rw [hrefused] at hs
  cases hs

end Amount

end Holdings
