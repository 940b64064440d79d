/-
# Numbers as bytes

`digits w n` writes a natural number in base 256 with exactly `w` digits, the least
significant first; `value` reads any number of them.  Each undoes the other: `value_digits` below
`256 ^ w`, `digits_value` for every string of bytes.
-/
namespace Holdings.Wire

/-- A string of bytes. -/
abbrev Bytes := List UInt8

/-- The last `w` digits of `n` in base 256, least significant first. -/
def digits : Nat → Nat → Bytes
  | 0, _ => []
  | w + 1, n => UInt8.ofNat (n % 256) :: digits w (n / 256)

/-- The number with the given digits in base 256, least significant first. -/
def value : Bytes → Nat
  | [] => 0
  | b :: bs => b.toNat + 256 * value bs

@[simp] theorem length_digits (w n : Nat) : (digits w n).length = w := by
  induction w generalizing n with
  | zero => rfl
  | succ w ih => simp [digits, ih]

theorem value_lt (bs : Bytes) : value bs < Nat.pow 256 bs.length := by
  induction bs with
  | nil => simp [value]
  | cons b bs ih =>
    have hb := b.toNat_lt
    simp only [value, List.length_cons, Nat.pow_eq, Nat.pow_succ] at ih ⊢
    omega

theorem value_digits {w n : Nat} (h : n < Nat.pow 256 w) : value (digits w n) = n := by
  induction w generalizing n with
  | zero => simp only [Nat.pow_eq, Nat.pow_zero, Nat.lt_one_iff] at h; subst h; rfl
  | succ w ih =>
    have hd : n / 256 < Nat.pow 256 w := by
      rw [Nat.div_lt_iff_lt_mul (by decide)]
      exact h
    have hm : (UInt8.ofNat (n % 256)).toNat = n % 256 := by
      simp [UInt8.toNat_ofNat']
    rw [digits, value, ih hd, hm]
    omega

theorem digits_value (bs : Bytes) : digits bs.length (value bs) = bs := by
  induction bs with
  | nil => rfl
  | cons b bs ih =>
    have hb : b.toNat < 256 := b.toNat_lt
    have hm : (b.toNat + 256 * value bs) % 256 = b.toNat := by omega
    have hd : (b.toNat + 256 * value bs) / 256 = value bs := by omega
    simp only [value, List.length_cons, digits, hm, hd, ih, UInt8.ofNat_toNat]

end Holdings.Wire
