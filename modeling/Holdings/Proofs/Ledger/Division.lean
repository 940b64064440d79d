/-
# Division toward zero

The quotient of two integers is the one integer that leaves a remainder smaller than the divisor and with
the sign of the dividend (`Amount.truncDiv?_eq_some_iff`).  It is computed from the magnitudes, so its laws are
those of natural numbers, once the signs have been put aside: every one of the three signs goes through a
quotient unchanged.

From the remainder it follows that no step of `q - d * (q / d)` leaves the range: the product has the sign of
the dividend and is no larger, and the difference is the remainder.  Two divisions in turn are one
(`Amount.tdiv_tdiv`), and a quotient keeps the order, also across zero, where rounding down would
not be symmetric.
-/
import Holdings.Proofs.Ledger.Scaling

namespace Holdings

/-! ## 1. Quotients and remainders of integers -/

/-- Two divisions in turn are one division by the product. -/
theorem Amount.tdiv_tdiv (n a b : Int) : (n.tdiv a).tdiv b = n.tdiv (a * b) := by
  have positive : ∀ m c d : Nat, ((m : Int).tdiv c).tdiv d = (m : Int).tdiv (c * d) := by
    intro m c d
    rw [← Int.ofNat_tdiv, ← Int.ofNat_tdiv, ← Int.natCast_mul, ← Int.ofNat_tdiv,
      Nat.div_div_eq_div_mul]
  -- each sign is taken out of the quotients on both sides
  obtain ⟨c, rfl | rfl⟩ := Int.eq_nat_or_neg a
  all_goals obtain ⟨d, rfl | rfl⟩ := Int.eq_nat_or_neg b
  all_goals obtain ⟨m, rfl | rfl⟩ := Int.eq_nat_or_neg n
  all_goals
    simp only [Int.neg_tdiv, Int.tdiv_neg, Int.neg_mul, Int.mul_neg, Int.neg_neg, positive]

/-- What a remainder satisfies: it is smaller than the divisor, and it is zero or of the sign of the dividend. -/
def Amount.IsRemainder (n d rem : Int) : Prop :=
  rem.natAbs < d.natAbs ∧ (rem = 0 ∨ rem.sign = n.sign)

namespace Amount

variable {n d : Int}

theorem isRemainder_tmod (hd : d ≠ 0) : IsRemainder n d (n.tmod d) := by
  constructor
  · rw [Int.natAbs_tmod]
    exact Nat.mod_lt _ (Int.natAbs_pos.mpr hd)
  · rw [Int.sign_tmod]
    split
    · rename_i h
      exact Or.inl (Int.tmod_eq_zero_of_dvd h)
    · exact Or.inr rfl

/-- Two remainders lie on one side of zero, so they differ by less than the divisor. -/
theorem IsRemainder.natAbs_sub_lt {rem rem' : Int} (h : IsRemainder n d rem)
    (h' : IsRemainder n d rem') : (rem - rem').natAbs < d.natAbs := by
  obtain ⟨hlt, hs⟩ := h
  obtain ⟨hlt', hs'⟩ := h'
  rcases Int.lt_trichotomy n 0 with hn | rfl | hn
  · rw [Int.sign_eq_neg_one_of_neg hn, Int.sign_eq_neg_one_iff_neg] at hs hs'
    omega
  · rw [Int.sign_zero, Int.sign_eq_zero_iff_zero] at hs hs'
    omega
  · rw [Int.sign_eq_one_of_pos hn, Int.sign_eq_one_iff_pos] at hs hs'
    omega

/-- **A quotient is determined by its remainder.** -/
theorem eq_tdiv_of_isRemainder {t rem : Int} (hn : n = t * d + rem) (h : IsRemainder n d rem) :
    t = n.tdiv d := by
  have hd : d ≠ 0 := by
    rintro rfl
    exact Nat.not_lt_zero _ h.1
  have hdiff : (t - n.tdiv d) * d = n.tmod d - rem := by
    have hq := Int.tdiv_mul_add_tmod n d
    rw [Int.sub_mul]
    omega
  have hlt : (t - n.tdiv d).natAbs * d.natAbs < 1 * d.natAbs := by
    rw [← Int.natAbs_mul, hdiff, Nat.one_mul]
    exact (isRemainder_tmod hd).natAbs_sub_lt h
  have hzero : (t - n.tdiv d).natAbs < 1 := Nat.lt_of_mul_lt_mul_right hlt
  omega

/-- **The quotient rounded toward zero** is the one integer that leaves such a remainder. -/
theorem truncDiv?_eq_some_iff {t : Int} (hd : d ≠ 0) :
    truncDiv? n d = some t ↔ ∃ rem, n = t * d + rem ∧ IsRemainder n d rem := by
  unfold truncDiv?
  rw [if_neg hd, truncDiv_eq_tdiv, Option.some.injEq]
  constructor
  · rintro rfl
    exact ⟨n.tmod d, (Int.tdiv_mul_add_tmod n d).symm, isRemainder_tmod hd⟩
  · rintro ⟨rem, hn, hrem⟩
    exact (eq_tdiv_of_isRemainder hn hrem).symm

/-- What the quotient makes of its divisor is no larger than the dividend. -/
theorem natAbs_mul_tdiv_le (n d : Int) : (d * n.tdiv d).natAbs ≤ n.natAbs := by
  rw [Int.natAbs_mul, Int.natAbs_tdiv]
  exact Nat.mul_div_le n.natAbs d.natAbs

end Amount

namespace Ledger

open Act

/-! ## 2. The laws for values -/

namespace Calculation

section Laws

variable {contents : Nat → Quantity} {e f : Calculation} {q : Quantity} {k : Int}

/-- A part of a quantity, by a word other than zero. -/
theorem value_div (he : e.value contents = .ok q) (hk : Amount.isWord k = true) (hk₀ : k ≠ 0) :
    (div e k).value contents = .ok (q.withExact (q.amount.tdiv k)) :=
  value_div_eq_ok_iff.mpr ⟨q, he, hk, hk₀, rfl⟩

/-- **Two parts in turn are one part** by the product. -/
theorem value_div_div {j : Int} (he : e.value contents = .ok q) (hj : Amount.isWord j = true)
    (hj₀ : j ≠ 0) (hk : Amount.isWord k = true) (hk₀ : k ≠ 0) :
    (div (div e j) k).value contents = .ok (q.withExact (q.amount.tdiv (j * k))) := by
  rw [value_div (value_div he hj hj₀) hk hk₀]
  show Except.ok (q.withExact ((q.amount.tdiv j).tdiv k)) = _
  rw [Amount.tdiv_tdiv]

variable {d : Quantity} (he : e.value contents = .ok q) (hf : f.value contents = .ok d)
  (hq : Amount.inRange q.amount = true)
include hf hq

/-- The divisor can be multiplied by the quotient: the product is no larger than the dividend. -/
theorem value_mul_tdiv :
    (mul f (q.amount.tdiv d.amount)).value contents =
      .ok (d.withExact (d.amount * q.amount.tdiv d.amount)) := by
  have hword := Amount.isWord_of_inRange (Amount.inRange_tdiv hq d.amount)
  have hprod : Amount.inRange (d.amount * q.amount.tdiv d.amount) = true := by
    have hle := Amount.natAbs_mul_tdiv_le q.amount d.amount
    rw [Amount.inRange_iff_natAbs] at hq ⊢
    omega
  exact value_mul_eq_ok_iff.mpr ⟨d, hf, hword, hprod, rfl⟩

include he

/-- **What a ratio leaves over**: taking the product away gives the remainder of the amounts. -/
theorem value_sub_mul_tdiv (hs : d.symbol = q.symbol) :
    (sub e (mul f (q.amount.tdiv d.amount))).value contents =
      .ok (q.withExact (q.amount.tmod d.amount)) := by
  have hrem : q.amount - d.amount * q.amount.tdiv d.amount = q.amount.tmod d.amount :=
    (Int.tmod_def q.amount d.amount).symm
  have hin : Amount.inRange (q.amount.tmod d.amount) = true := by
    have hle : (q.amount.tmod d.amount).natAbs ≤ q.amount.natAbs := by
      rw [Int.natAbs_tmod]
      exact Nat.mod_le _ _
    rw [Amount.inRange_iff_natAbs] at hq ⊢
    omega
  rw [← hrem] at hin ⊢
  exact value_sub_eq_ok_iff.mpr ⟨q, _, he, value_mul_tdiv hf hq, hs, hin, rfl⟩

end Laws

/-! ## 3. Comparing what calculations come to -/

/-- Carrying out two calculations and comparing what they come to. -/
def comparison (c : Comparison) (e f : Calculation) : Act Item :=
  e.act >>= fun x => f.act >>= fun y => operate (.compare c) x y

/-- The comparison of two calculations is that of their values, if they have the same symbol. -/
theorem outcome_comparison {w : World} (hw : w.Sound) {e f : Calculation}
    (he : e.Within w.heap.quantities.next) (hf : f.Within w.heap.quantities.next) {p q : Quantity}
    (hp : e.value w.heap.quantity = .ok p) (hq : f.value w.heap.quantity = .ok q)
    (hs : ¬ p.Differs q) (c : Comparison) :
    (comparison c e f).outcome w = .ok (.bool (c.holds p.amount q.amount)) := by
  have hfirst := act_yields hw he
  rw [hp] at hfirst
  obtain ⟨r, w₁, hrun, hg, hr, rfl⟩ := hfirst
  -- the second calculation runs in the world that the first has left
  have hsecond := act_yields hg.sound (hf.mono hg.next_le)
  rw [value_of_grown hg hf, hq] at hsecond
  obtain ⟨t, w₂, hrun', hg', -, rfl⟩ := hsecond
  rw [← hg'.quantity_eq hr] at hs ⊢
  unfold comparison
  rw [outcome_bind_of_ok hrun, outcome_bind_of_ok hrun']
  exact (answer_quantities w₂ c r t).trans (if_neg hs)

end Calculation

/-! ## 4. The laws in a world -/

open Calculation in
/-- What holds of the quotients of two quantities, and of their parts by integers. -/
structure Divides (w : World) (r s : Nat) : Prop where
  /-- The ratio of two quantities of one symbol is a word; the divisor can be multiplied by it and the product
  be taken away, and what is left is a remainder of the dividend. -/
  remains : ¬ (w.heap.quantity r).Differs (w.heap.quantity s) → (w.heap.quantity s).amount ≠ 0 →
    ∃ (k : Int) (p q : Quantity),
      callMethod (.object (.quantity r)) .divide [.object (.quantity s)] w = .ok (.int k) w ∧
      Amount.isWord k = true ∧ (mul (given s) k).ComesTo w (.ok p) ∧
      (sub (given r) (mul (given s) k)).ComesTo w (.ok q) ∧
      Amount.IsRemainder (w.heap.quantity r).amount (w.heap.quantity s).amount q.amount
  /-- Two parts in turn are the part by the product. -/
  nested : ∀ a b : Int, a ≠ 0 → b ≠ 0 → Amount.isWord a = true → Amount.isWord b = true →
    Amount.isWord (a * b) = true →
    ∃ p, (div (div (given r) a) b).ComesTo w (.ok p) ∧ (div (given r) (a * b)).ComesTo w (.ok p)
  /-- Parts are in the order of the quantities. -/
  ordered : ∀ k : Int, 0 < k → Amount.isWord k = true →
    answer w (.object (.quantity r)) (.object (.quantity s)) .le = .ok (.bool true) →
    (comparison .le (div (given r) k) (div (given s) k)).outcome w = .ok (.bool true)
  /-- A part is no larger than its quantity. -/
  smaller : ∀ k : Int, k ≠ 0 → Amount.isWord k = true →
    ∃ p, (div (given r) k).ComesTo w (.ok p) ∧
      p.amount.natAbs ≤ (w.heap.quantity r).amount.natAbs

section Worlds

variable {w : World} {r s : Nat}

open Calculation

/-- The ratio of two quantities of one symbol is a plain integer, and changes nothing. -/
theorem divide_eq_ok (hd : ¬ (w.heap.quantity r).Differs (w.heap.quantity s))
    (h₀ : (w.heap.quantity s).amount ≠ 0) :
    callMethod (.object (.quantity r)) .divide [.object (.quantity s)] w =
      .ok (.int ((w.heap.quantity r).amount.tdiv (w.heap.quantity s).amount)) w := by
  rw [(ratiosExact w r s).divide]
  unfold Quantity.exactRatio
  rw [if_neg h₀, if_neg hd]
  rfl

theorem divides (hw : w.Sound) (hr : r < w.heap.quantities.next)
    (hs : s < w.heap.quantities.next) : Divides w r s where
  remains := by
    intro hd h₀
    have hq : Amount.inRange (w.heap.quantity r).amount = true := (hw.heap.quantity r).1
    have hsym : (w.heap.quantity s).symbol = (w.heap.quantity r).symbol :=
      Decidable.not_not.mp (mt Quantity.differs_iff.mpr hd)
    have hword := Amount.isWord_of_inRange (Amount.inRange_tdiv hq (w.heap.quantity s).amount)
    have hgiven : ∀ n, (given n).value w.heap.quantity = .ok (w.heap.quantity n) := fun n => rfl
    have hmul := value_mul_tdiv (hgiven s) hq
    have hsub := value_sub_mul_tdiv (hgiven r) (hgiven s) hq hsym
    refine ⟨_, _, _, divide_eq_ok hd h₀, hword, (comesTo_ok_iff hw ?_).mpr hmul,
      (comesTo_ok_iff hw ?_).mpr hsub, Amount.isRemainder_tmod h₀⟩
    · exact hs
    · exact ⟨hr, hs⟩
  nested := by
    intro a b ha₀ hb₀ ha hb hab
    refine ⟨_, (comesTo_ok_iff hw (e := div (div (given r) a) b) hr).mpr
      (value_div_div rfl ha ha₀ hb hb₀), ?_⟩
    exact (comesTo_ok_iff hw (e := div (given r) (a * b)) hr).mpr
      (value_div rfl hab (Int.mul_ne_zero ha₀ hb₀))
  ordered := by
    intro k hk₀ hk hle
    obtain ⟨hsym, hle⟩ := (answer_quantities_eq_true_iff w).mp hle
    have hd : ¬ ((w.heap.quantity r).withExact ((w.heap.quantity r).amount.tdiv k)).Differs
        ((w.heap.quantity s).withExact ((w.heap.quantity s).amount.tdiv k)) :=
      fun hd => Quantity.differs_iff.mp hd hsym
    have hne : k ≠ 0 := by omega
    rw [outcome_comparison hw (e := div (given r) k) (f := div (given s) k) hr hs
      (value_div rfl hk hne) (value_div rfl hk hne) hd]
    simp only [Comparison.holds, decide_eq_true_eq] at hle
    have hmono : (w.heap.quantity r).amount.tdiv k ≤ (w.heap.quantity s).amount.tdiv k :=
      Int.tdiv_le_tdiv hk₀ hle
    simp [Comparison.holds, Quantity.withExact, hmono]
  smaller := by
    intro k hk₀ hk
    refine ⟨_, (comesTo_ok_iff hw (e := div (given r) k) hr).mpr (value_div rfl hk hk₀), ?_⟩
    exact Int.natAbs_tdiv_le_natAbs (w.heap.quantity r).amount k

end Worlds

/-- **Division is rounded toward zero.**  A quotient of integers is the one that leaves a remainder; so in
every reachable world, for any two quantities, which may be one object, a ratio can be taken away again,
parts may be nested, and parts keep the order and grow no larger. -/
theorem division_truncates (steps : List Step) (r s : Nat)
    (hr : r < (World.initial.after steps).heap.quantities.next)
    (hs : s < (World.initial.after steps).heap.quantities.next) :
    (∀ n d t : Int, d ≠ 0 → (Amount.truncDiv? n d = some t ↔
      ∃ rem, n = t * d + rem ∧ Amount.IsRemainder n d rem)) ∧
    Divides (World.initial.after steps) r s :=
  ⟨fun _ _ _ hd => Amount.truncDiv?_eq_some_iff hd, divides (World.sound_initial.after steps) hr hs⟩

/-- The laws for the quantities -7 and 2 of one symbol. -/
theorem division_truncates_minus_seven_two :
    (∀ n d t : Int, d ≠ 0 → (Amount.truncDiv? n d = some t ↔
      ∃ rem, n = t * d + rem ∧ Amount.IsRemainder n d rem)) ∧
    Divides (World.initial.after
      [⟨.eval (.quantity (.plain (.int (-7))) (.plain (.text "A")) (.plain (.int 0))), some "q"⟩,
        ⟨.eval (.quantity (.plain (.int 2)) (.plain (.text "A")) (.plain (.int 0))), some "x"⟩])
      0 1 :=
  division_truncates
    [⟨.eval (.quantity (.plain (.int (-7))) (.plain (.text "A")) (.plain (.int 0))), some "q"⟩,
      ⟨.eval (.quantity (.plain (.int 2)) (.plain (.text "A")) (.plain (.int 0))), some "x"⟩]
    0 1 (by decide +kernel) (by decide +kernel)

end Ledger

end Holdings
