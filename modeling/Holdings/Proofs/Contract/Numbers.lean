/-
# Numbers by their exact value

A contract asks two things of a number: whether it is whole, and on which side of a bound it lies.  Both are
answered in whole numbers by the definitions, with the two parts of a fraction.  What the answers mean is
told here on a line of rational numbers with an infinity at each end (`Binary64.place?`): a number is
whole when it stands at an integer (`Contract.isInteger_iff`), and a bound is compared with the place
itself (`Contract.isBelow_iff`, `Contract.isAbove_iff`).  What is no number at all has no place, so it is
on no side of any bound.
-/
import Mathlib.Algebra.Order.Field.Rat
import Mathlib.Algebra.Order.Field.Basic
import Mathlib.Data.Rat.Cast.Order
import Mathlib.Order.WithBot
import Holdings.Contract.Schema

namespace Holdings

/-- The rational numbers with an infinity at each end. -/
abbrev Line := WithBot (WithTop ℚ)

namespace Line

/-- The place of a rational number. -/
def place (q : ℚ) : Line := ((q : WithTop ℚ) : WithBot (WithTop ℚ))

theorem place_lt_place {p q : ℚ} : place p < place q ↔ p < q := by
  rw [place, place, WithBot.coe_lt_coe, WithTop.coe_lt_coe]

theorem place_inj {p q : ℚ} : place p = place q ↔ p = q := by
  rw [place, place, WithBot.coe_inj, WithTop.coe_inj]

theorem bot_lt_place (q : ℚ) : ⊥ < place q := WithBot.bot_lt_coe _

theorem place_lt_top (q : ℚ) : place q < ⊤ := WithBot.coe_lt_coe.mpr (WithTop.coe_lt_top q)

end Line

namespace Binary64

/-! ## 1. Fractions -/

/-- The value of a sign, a mantissa and an exponent. -/
def rational (negative : Bool) (m : Nat) (e : Int) : ℚ :=
  (if negative then -1 else 1) * m * (2 : ℚ) ^ e

/-- The place of a number, which may be at one of the ends. -/
def place? : Binary64 → Option Line
  | nan => none
  | infinite negative => some (if negative then ⊥ else ⊤)
  | finite negative m e => some (.place (rational negative m e))

/-- The value is the quotient of the two parts of the fraction. -/
theorem rational_eq (negative : Bool) (m : Nat) (e : Int) :
    rational negative m e = (signed negative (fraction m e).1 : ℚ) / ((fraction m e).2 : ℚ) := by
  have hpow : (2 : ℚ) ^ e = 2 ^ e.toNat / 2 ^ (-e).toNat := by
    rcases Int.le_total 0 e with h | h
    · have h₁ : (-e).toNat = 0 := by omega
      have h₂ : ((e.toNat : Nat) : Int) = e := Int.toNat_of_nonneg h
      rw [h₁, pow_zero, div_one, ← zpow_natCast, h₂]
    · have h₁ : e.toNat = 0 := by omega
      have h₂ : (((-e).toNat : Nat) : Int) = -e := Int.toNat_of_nonneg (by omega)
      rw [h₁, pow_zero, one_div, ← zpow_natCast, h₂, zpow_neg, inv_inv]
  have hsign : ((signed negative (fraction m e).1 : Int) : ℚ) =
      (if negative then -1 else 1) * m * 2 ^ e.toNat := by
    cases negative <;> simp [signed, fraction]
  have hden : ((fraction m e).2 : ℚ) = 2 ^ (-e).toNat := by simp [fraction]
  rw [rational, hsign, hden, hpow, mul_div_assoc]

theorem fraction_den_rat_pos (m : Nat) (e : Int) : (0 : ℚ) < ((fraction m e).2 : ℚ) :=
  Nat.cast_pos.mpr (fraction_den_pos m e)

/-! ## 2. Bounds -/

theorem rational_lt_iff {negative : Bool} {m : Nat} {e n : Int} :
    rational negative m e < n ↔ signed negative (fraction m e).1 < n * (fraction m e).2 := by
  rw [rational_eq, div_lt_iff₀ (fraction_den_rat_pos m e)]
  exact_mod_cast Iff.rfl

theorem lt_rational_iff {negative : Bool} {m : Nat} {e n : Int} :
    (n : ℚ) < rational negative m e ↔ n * (fraction m e).2 < signed negative (fraction m e).1 := by
  rw [rational_eq, lt_div_iff₀ (fraction_den_rat_pos m e)]
  exact_mod_cast Iff.rfl

/-- **Below an integer** is a number whose place is. -/
theorem lt_iff {x : Binary64} {n : Int} :
    x.lt n = true ↔ ∃ r, x.place? = some r ∧ r < Line.place n := by
  cases x with
  | nan => simp [lt, compareInt, place?]
  | infinite negative =>
    have htop : ¬ (⊤ : Line) < Line.place n := not_top_lt
    cases negative <;> simp [lt, compareInt, place?, Line.bot_lt_place, htop]
  | finite negative m e =>
    simp [lt, compareInt, place?, Line.place_lt_place, rational_lt_iff, compare_lt_iff_lt]

/-- **Above an integer** is a number whose place is. -/
theorem gt_iff {x : Binary64} {n : Int} :
    x.gt n = true ↔ ∃ r, x.place? = some r ∧ Line.place n < r := by
  cases x with
  | nan => simp [gt, compareInt, place?]
  | infinite negative =>
    cases negative <;> simp [gt, compareInt, place?, Line.place_lt_top]
  | finite negative m e =>
    simp [gt, compareInt, place?, Line.place_lt_place, lt_rational_iff, compare_gt_iff_gt]

/-! ## 3. Whole numbers -/

/-- The value is an integer when the denominator divides the numerator. -/
theorem exists_rational_eq_iff {negative : Bool} {m : Nat} {e : Int} :
    (∃ n : Int, rational negative m e = n) ↔ (fraction m e).1 % (fraction m e).2 = 0 := by
  have hpos := fraction_den_rat_pos m e
  have hcross : ∀ n : Int, rational negative m e = n ↔
      signed negative (fraction m e).1 = n * (fraction m e).2 := by
    intro n
    rw [rational_eq, div_eq_iff hpos.ne']
    exact_mod_cast Iff.rfl
  simp only [hcross]
  rw [← Nat.dvd_iff_mod_eq_zero]
  have hdvd : (∃ n : Int, signed negative (fraction m e).1 = n * (fraction m e).2) ↔
      ((fraction m e).2 : Int) ∣ signed negative (fraction m e).1 :=
    ⟨fun ⟨n, hn⟩ => ⟨n, hn.trans (Int.mul_comm n _)⟩,
      fun ⟨n, hn⟩ => ⟨n, hn.trans (Int.mul_comm _ n)⟩⟩
  rw [hdvd]
  cases negative
  · exact Int.natCast_dvd_natCast
  · exact Int.dvd_neg.trans Int.natCast_dvd_natCast

/-- **A number is whole** when its place is an integer. -/
theorem isWhole_iff {x : Binary64} :
    x.isWhole = true ↔ ∃ n : Int, x.place? = some (.place n) := by
  cases x with
  | nan => simp [isWhole, toInt?, place?]
  | infinite negative =>
    cases negative <;> simp [isWhole, toInt?, place?, Line.place]
  | finite negative m e =>
    have hplace : (∃ n : Int, place? (finite negative m e) = some (.place n)) ↔
        ∃ n : Int, rational negative m e = n := by
      simp only [place?, Option.some.injEq, Line.place_inj]
    rw [hplace, exists_rational_eq_iff, isWhole, toInt?]
    split <;> simp [*]

end Binary64

/-! ## 4. Values -/

/-- The place of a value that is a number; a truth value is none. -/
def Datum.place? : Datum → Option Line
  | .int n => some (.place n)
  | .float x => x.place?
  | _ => none

namespace Contract

variable {v : Datum}

/-- **What counts as an integer** has the place of one. -/
theorem isInteger_iff : isInteger v = true ↔ ∃ n : Int, v.place? = some (.place n) := by
  cases v with
  | int n => exact iff_of_true rfl ⟨n, rfl⟩
  | float x => exact Binary64.isWhole_iff
  | _ => simp [isInteger, Datum.place?]

theorem isBelow_iff {bound : Int} :
    isBelow bound v = true ↔ ∃ r, v.place? = some r ∧ r < .place bound := by
  cases v with
  | int n => simp [isBelow, Datum.place?, Line.place_lt_place]
  | float x => exact Binary64.lt_iff
  | _ => simp [isBelow, Datum.place?]

theorem isAbove_iff {bound : Int} :
    isAbove bound v = true ↔ ∃ r, v.place? = some r ∧ .place bound < r := by
  cases v with
  | int n => simp [isAbove, Datum.place?, Line.place_lt_place]
  | float x => exact Binary64.gt_iff
  | _ => simp [isAbove, Datum.place?]

end Contract

end Holdings
