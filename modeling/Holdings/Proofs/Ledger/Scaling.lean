/-
# Scaling

A quantity may be multiplied and divided by integers, and sums may be taken before or after.  The results
agree as those of integers do, provided that no step in between is refused.  Two refusals are possible: an
amount leaves its range, or the integer is no word.

What decides is the size of a product.  A product by an integer other than zero is no smaller than what was
multiplied (`Amount.inRange_of_mul`), so where the larger amount is in range the smaller one is too.  That
is why each law holds in the direction in which the larger amount is given.  By zero every amount is made
small, so a law that takes the smaller amounts from the larger ones needs that the integer is not zero.

Each calculation succeeds exactly when its parts do and the new amount is in range (`value_mul_eq_ok_iff` and
the like), and the laws are read off from these equivalences.  They hold of the values of all calculations,
not only of quantities that are there.
-/
import Holdings.Proofs.Ledger.Negation

namespace Holdings

/-! ## 1. Exact outcomes that are results -/

/-- What is multiplied is in range if the product is, unless it was multiplied by zero. -/
theorem Amount.inRange_of_mul {a k : Int} (hk : k ≠ 0) (h : inRange (a * k) = true) :
    inRange a = true := by
  have hle : a.natAbs ≤ (a * k).natAbs := by
    rw [Int.natAbs_mul]
    exact Nat.le_mul_of_pos_right a.natAbs (Int.natAbs_pos.mpr hk)
  rw [inRange_iff_natAbs] at h ⊢
  omega

/-- Whether an integer is a word, with the bounds written out. -/
theorem Amount.isWord_iff_not_wide {k : Int} :
    isWord k = true ↔ ¬ (k < -2 ^ 63 ∨ 2 ^ 63 - 1 < k) := by
  rw [isWord_iff]
  unfold wordMin wordMax
  omega

namespace Quantity

/-- A multiple that is not refused is exact, and by a word. -/
theorem exactProduct_eq_ok_iff {q : Quantity} {k a : Int} :
    q.exactProduct k = .ok a ↔
      Amount.isWord k = true ∧ Amount.inRange a = true ∧ a = q.amount * k := by
  unfold exactProduct
  rw [Amount.isWord_iff_not_wide]
  constructor
  · intro h
    split at h
    · cases h
    · rename_i hk
      exact ⟨hk, Amount.settle_eq_ok_iff.mp h⟩
  · rintro ⟨hk, ha⟩
    rw [if_neg hk]
    exact Amount.settle_eq_ok_iff.mpr ha

/-- A part that is not refused is exact, and by a word other than zero. -/
theorem exactQuotient_eq_ok_iff {q : Quantity} {k a : Int} :
    q.exactQuotient k = .ok a ↔ Amount.isWord k = true ∧ k ≠ 0 ∧ a = q.amount.tdiv k := by
  unfold exactQuotient
  rw [Amount.isWord_iff_not_wide]
  constructor
  · intro h
    split at h
    · cases h
    · rename_i hk
      split at h
      · cases h
      · rename_i h₀
        exact ⟨hk, h₀, (Except.ok.inj h).symm⟩
  · rintro ⟨hk, h₀, rfl⟩
    rw [if_neg hk, if_neg h₀]

end Quantity

namespace Ledger

/-! ## 2. When a calculation succeeds -/

namespace Calculation

section Values

variable {contents : Nat → Quantity} {e f : Calculation} {p : Quantity}

/-- An operation that gives its quantity an exact amount. -/
theorem bind_withExact_eq_ok_iff {x : Except Fault Quantity} {g : Quantity → Except Fault Int} :
    (x >>= fun q => (g q).map q.withExact) = .ok p ↔
      ∃ q a, x = .ok q ∧ g q = .ok a ∧ p = q.withExact a := by
  constructor
  · intro h
    obtain ⟨q, hq, h⟩ := Except.bind_eq_ok_iff.mp h
    obtain ⟨a, ha, rfl⟩ := Except.map_eq_ok_iff.mp h
    exact ⟨q, a, hq, ha, rfl⟩
  · rintro ⟨q, a, hq, ha, rfl⟩
    exact Except.bind_eq_ok_iff.mpr ⟨q, hq, Except.map_eq_ok_iff.mpr ⟨a, ha, rfl⟩⟩

theorem value_mul_eq_ok_iff {k : Int} : (mul e k).value contents = .ok p ↔
    ∃ q, e.value contents = .ok q ∧ Amount.isWord k = true ∧
      Amount.inRange (q.amount * k) = true ∧ p = q.withExact (q.amount * k) := by
  constructor
  · intro h
    obtain ⟨q, a, hq, ha, rfl⟩ := bind_withExact_eq_ok_iff.mp h
    obtain ⟨hk, hin, rfl⟩ := Quantity.exactProduct_eq_ok_iff.mp ha
    exact ⟨q, hq, hk, hin, rfl⟩
  · rintro ⟨q, hq, hk, hin, rfl⟩
    have ha : q.exactProduct k = .ok (q.amount * k) :=
      Quantity.exactProduct_eq_ok_iff.mpr ⟨hk, hin, rfl⟩
    exact bind_withExact_eq_ok_iff.mpr ⟨q, _, hq, ha, rfl⟩

theorem value_div_eq_ok_iff {k : Int} : (div e k).value contents = .ok p ↔
    ∃ q, e.value contents = .ok q ∧ Amount.isWord k = true ∧ k ≠ 0 ∧
      p = q.withExact (q.amount.tdiv k) := by
  constructor
  · intro h
    obtain ⟨q, a, hq, ha, rfl⟩ := bind_withExact_eq_ok_iff.mp h
    obtain ⟨hk, h₀, rfl⟩ := Quantity.exactQuotient_eq_ok_iff.mp ha
    exact ⟨q, hq, hk, h₀, rfl⟩
  · rintro ⟨q, hq, hk, h₀, rfl⟩
    have ha : q.exactQuotient k = .ok (q.amount.tdiv k) :=
      Quantity.exactQuotient_eq_ok_iff.mpr ⟨hk, h₀, rfl⟩
    exact bind_withExact_eq_ok_iff.mpr ⟨q, _, hq, ha, rfl⟩

/-- Sums and differences alike: both parts succeed, have one symbol, and the total is in range. -/
theorem bind_exactSum_eq_ok_iff (subtract : Bool) :
    (e.value contents >>= fun q => f.value contents >>= fun r =>
      (q.exactSum subtract r).map q.withExact) = .ok p ↔
    ∃ q r, e.value contents = .ok q ∧ f.value contents = .ok r ∧ r.symbol = q.symbol ∧
      Amount.inRange (q.total subtract r) = true ∧ p = q.withExact (q.total subtract r) := by
  constructor
  · intro h
    obtain ⟨q, hq, h⟩ := Except.bind_eq_ok_iff.mp h
    obtain ⟨r, hr, h⟩ := Except.bind_eq_ok_iff.mp h
    obtain ⟨a, ha, rfl⟩ := Except.map_eq_ok_iff.mp h
    obtain ⟨hs, hin, rfl⟩ := Quantity.exactSum_eq_ok_iff.mp ha
    exact ⟨q, r, hq, hr, hs, hin, rfl⟩
  · rintro ⟨q, r, hq, hr, hs, hin, rfl⟩
    have ha := Quantity.exactSum_eq_ok_iff.mpr ⟨hs, hin, rfl⟩
    refine Except.bind_eq_ok_iff.mpr ⟨q, hq, Except.bind_eq_ok_iff.mpr ⟨r, hr, ?_⟩⟩
    exact Except.map_eq_ok_iff.mpr ⟨_, ha, rfl⟩

theorem value_add_eq_ok_iff : (add e f).value contents = .ok p ↔
    ∃ q r, e.value contents = .ok q ∧ f.value contents = .ok r ∧ r.symbol = q.symbol ∧
      Amount.inRange (q.amount + r.amount) = true ∧ p = q.withExact (q.amount + r.amount) :=
  bind_exactSum_eq_ok_iff false

theorem value_sub_eq_ok_iff : (sub e f).value contents = .ok p ↔
    ∃ q r, e.value contents = .ok q ∧ f.value contents = .ok r ∧ r.symbol = q.symbol ∧
      Amount.inRange (q.amount - r.amount) = true ∧ p = q.withExact (q.amount - r.amount) :=
  bind_exactSum_eq_ok_iff true

end Values

/-- A calculation that is carried out comes to a quantity exactly when that is its value. -/
theorem comesTo_ok_iff {w : World} (hw : w.Sound) {e : Calculation}
    (he : e.Within w.heap.quantities.next) {p : Quantity} :
    e.ComesTo w (.ok p) ↔ e.value w.heap.quantity = .ok p := by
  unfold ComesTo
  rw [outcome_act hw he]
  cases e.value w.heap.quantity with
  | ok q => simp [Except.map]
  | error f => simp [Except.map]

/-! ## 3. The laws for values -/

section Laws

variable {contents : Nat → Quantity} {e f : Calculation} {p : Quantity} {j k : Int}

/-- **A multiple can be divided again.**  The quotient is exact, so nothing is lost to rounding. -/
theorem value_div_mul (hk : k ≠ 0) (h : (mul e k).value contents = .ok p) :
    (div (mul e k) k).value contents = e.value contents := by
  obtain ⟨q, hq, hw, -, rfl⟩ := value_mul_eq_ok_iff.mp h
  rw [hq]
  refine value_div_eq_ok_iff.mpr ⟨q.withExact (q.amount * k), h, hw, hk, ?_⟩
  have hback : (q.amount * k).tdiv k = q.amount := Int.mul_tdiv_cancel q.amount hk
  show q = q.withExact ((q.amount * k).tdiv k)
  rw [hback]
  rfl

/-- **A sum of multiples is a multiple of the sum**, which is no larger. -/
theorem value_mul_add (hk : k ≠ 0) (h : (add (mul e k) (mul f k)).value contents = .ok p) :
    (mul (add e f) k).value contents = .ok p := by
  obtain ⟨q', r', hq', hr', hs, hin, rfl⟩ := value_add_eq_ok_iff.mp h
  obtain ⟨q, hq, hw, -, rfl⟩ := value_mul_eq_ok_iff.mp hq'
  obtain ⟨r, hr, -, -, rfl⟩ := value_mul_eq_ok_iff.mp hr'
  have hsum : q.amount * k + r.amount * k = (q.amount + r.amount) * k :=
    (Int.add_mul q.amount r.amount k).symm
  have hin' : Amount.inRange ((q.amount + r.amount) * k) = true := by
    rw [← hsum]
    exact hin
  have hadd : (add e f).value contents = .ok (q.withExact (q.amount + r.amount)) :=
    value_add_eq_ok_iff.mpr ⟨q, r, hq, hr, hs, Amount.inRange_of_mul hk hin', rfl⟩
  refine value_mul_eq_ok_iff.mpr ⟨_, hadd, hw, hin', ?_⟩
  show q.withExact (q.amount * k + r.amount * k) = q.withExact ((q.amount + r.amount) * k)
  rw [hsum]

/-- **Two multiples in turn are one**, if the product of the integers is a word. -/
theorem value_mul_mul (hjk : Amount.isWord (j * k) = true)
    (h : (mul (mul e j) k).value contents = .ok p) : (mul e (j * k)).value contents = .ok p := by
  obtain ⟨q', hq', -, hin, rfl⟩ := value_mul_eq_ok_iff.mp h
  obtain ⟨q, hq, -, -, rfl⟩ := value_mul_eq_ok_iff.mp hq'
  have hprod : q.amount * j * k = q.amount * (j * k) := Int.mul_assoc q.amount j k
  have hin' : Amount.inRange (q.amount * (j * k)) = true := by
    rw [← hprod]
    exact hin
  refine value_mul_eq_ok_iff.mpr ⟨q, hq, hjk, hin', ?_⟩
  show q.withExact (q.amount * j * k) = q.withExact (q.amount * (j * k))
  rw [hprod]

/-- **One multiple is two in turn**, if the last integer is not zero: the amount between them is no larger
than the last one. -/
theorem value_mul_of_product (hj : Amount.isWord j = true) (hk : Amount.isWord k = true)
    (hk₀ : k ≠ 0) (h : (mul e (j * k)).value contents = .ok p) :
    (mul (mul e j) k).value contents = .ok p := by
  obtain ⟨q, hq, -, hin, rfl⟩ := value_mul_eq_ok_iff.mp h
  have hprod : q.amount * (j * k) = q.amount * j * k := (Int.mul_assoc q.amount j k).symm
  rw [hprod] at hin ⊢
  have hfirst : (mul e j).value contents = .ok (q.withExact (q.amount * j)) :=
    value_mul_eq_ok_iff.mpr ⟨q, hq, hj, Amount.inRange_of_mul hk₀ hin, rfl⟩
  exact value_mul_eq_ok_iff.mpr ⟨_, hfirst, hk, hin, rfl⟩

end Laws

end Calculation

/-! ## 4. The laws in a world -/

open Calculation in
/-- How multiples of two quantities by two integers go together with sums and parts. -/
structure Scales (w : World) (r s : Nat) (j k : Int) : Prop where
  /-- What has been multiplied can be divided again. -/
  undone : k ≠ 0 → (∃ p, (mul (given r) k).ComesTo w (.ok p)) →
    (div (mul (given r) k) k).ComesTo w (.ok (w.heap.quantity r))
  /-- A sum of multiples is the multiple of the sum, and there is that sum. -/
  distributed : k ≠ 0 → ∀ p, (add (mul (given r) k) (mul (given s) k)).ComesTo w (.ok p) →
    (∃ t, (add (given r) (given s)).ComesTo w (.ok t)) ∧
      (mul (add (given r) (given s)) k).ComesTo w (.ok p)
  /-- Two multiples in turn are one; this holds for zero too. -/
  joined : Amount.isWord (j * k) = true → ∀ p, (mul (mul (given r) j) k).ComesTo w (.ok p) →
    (mul (given r) (j * k)).ComesTo w (.ok p)
  /-- One multiple is two in turn, if the last of them is not by zero. -/
  parted : k ≠ 0 → ∀ p, (mul (given r) (j * k)).ComesTo w (.ok p) →
    (mul (mul (given r) j) k).ComesTo w (.ok p)

section Worlds

variable {w : World} {r s : Nat} {j k : Int}

open Calculation

theorem scales (hw : w.Sound) (hr : r < w.heap.quantities.next) (hs : s < w.heap.quantities.next)
    (hj : Amount.isWord j = true) (hk : Amount.isWord k = true) : Scales w r s j k where
  undone := by
    rintro hk₀ ⟨p, hp⟩
    have hmul := (comesTo_ok_iff hw (e := mul (given r) k) hr).mp hp
    exact (comesTo_ok_iff hw (e := div (mul (given r) k) k) hr).mpr (value_div_mul hk₀ hmul)
  distributed := by
    intro hk₀ p hp
    have hsum := (comesTo_ok_iff hw (e := add (mul (given r) k) (mul (given s) k)) ⟨hr, hs⟩).mp hp
    have hmul := value_mul_add hk₀ hsum
    obtain ⟨t, ht, -⟩ := value_mul_eq_ok_iff.mp hmul
    refine ⟨⟨t, (comesTo_ok_iff hw (e := add (given r) (given s)) ⟨hr, hs⟩).mpr ht⟩, ?_⟩
    exact (comesTo_ok_iff hw (e := mul (add (given r) (given s)) k) ⟨hr, hs⟩).mpr hmul
  joined := by
    intro hjk p hp
    have hmul := (comesTo_ok_iff hw (e := mul (mul (given r) j) k) hr).mp hp
    exact (comesTo_ok_iff hw (e := mul (given r) (j * k)) hr).mpr (value_mul_mul hjk hmul)
  parted := by
    intro hk₀ p hp
    have hmul := (comesTo_ok_iff hw (e := mul (given r) (j * k)) hr).mp hp
    refine (comesTo_ok_iff hw (e := mul (mul (given r) j) k) hr).mpr ?_
    exact value_mul_of_product hj hk hk₀ hmul

end Worlds

/-- **Scaling is exact**, in every reachable world, for any two quantities, which may be one object, and any
two words.  Where the larger amounts of a law are in range, all its steps succeed and both sides agree. -/
theorem scaling_exact (steps : List Step) (r s : Nat) (j k : Int)
    (hr : r < (World.initial.after steps).heap.quantities.next)
    (hs : s < (World.initial.after steps).heap.quantities.next)
    (hj : Amount.isWord j = true) (hk : Amount.isWord k = true) :
    Scales (World.initial.after steps) r s j k :=
  scales (World.sound_initial.after steps) hr hs hj hk

/-- The laws for the quantities 5 and -7 of one symbol, and the integers 3 and -2. -/
theorem scaling_exact_five_minus_seven :
    Scales (World.initial.after
      [⟨.eval (.quantity (.plain (.int 5)) (.plain (.text "A")) (.plain (.int 0))), some "q"⟩,
        ⟨.eval (.quantity (.plain (.int (-7))) (.plain (.text "A")) (.plain (.int 0))), some "x"⟩])
      0 1 3 (-2) :=
  scaling_exact
    [⟨.eval (.quantity (.plain (.int 5)) (.plain (.text "A")) (.plain (.int 0))), some "q"⟩,
      ⟨.eval (.quantity (.plain (.int (-7))) (.plain (.text "A")) (.plain (.int 0))), some "x"⟩]
    0 1 3 (-2) (by decide +kernel) (by decide +kernel) (by decide) (by decide)

end Ledger

end Holdings
