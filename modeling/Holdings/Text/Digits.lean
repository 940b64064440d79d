/-
# Numerals

`numeral b n` is the numeral of `n` in base `b`: most significant digit first and no leading
zero, except that zero itself is written with one.  Every number that the library prints goes
through it: amounts, counts and offsets in base ten, raw symbol words in base sixteen.

`readNumeral` is the value of a string of digits.  `readNumeral_numeral` says that reading
undoes writing, so a numeral determines its number.

Numerals in base ten have a longest length, for reading (`maxNumeralLength`) and for writing
(`isWritable`).  The functions here write any number; who puts a text together that may hold a
longer numeral asks first.  Base sixteen has no such limit.
-/
namespace Holdings.Text

/-! ## 1. Digits -/

/-- The character of a digit below sixteen. -/
def digitChar (d : Nat) : Char := Char.ofNat (if d < 10 then 48 + d else 87 + d)

/-- The digit that a character stands for, if it is a decimal digit or a small letter. -/
def digitValue (c : Char) : Nat := if c.toNat < 58 then c.toNat - 48 else c.toNat - 87

theorem digitValue_digitChar {d : Nat} (h : d < 16) : digitValue (digitChar d) = d := by
  have : ∀ d : Fin 16, digitValue (digitChar d) = d := by decide
  exact this ⟨d, h⟩

/-- The ten decimal digits of the Latin alphabet. -/
def isDigit (c : Char) : Bool := '0' ≤ c && c ≤ '9'

/-! ## 2. Numerals -/

/-- The numeral of `n` in base `b`.  A base below two has one-digit numerals only. -/
def numeral (b n : Nat) : List Char :=
  if 2 ≤ b ∧ b ≤ n then numeral b (n / b) ++ [digitChar (n % b)] else [digitChar n]
termination_by n
decreasing_by exact Nat.div_lt_self (by omega) (by omega)

/-- The value of a string of digits in base `b`. -/
def readNumeral (b : Nat) (cs : List Char) : Nat :=
  cs.foldl (fun v c => b * v + digitValue c) 0

/-- The longest numeral in base ten, where numbers of any size are read or written: the limit that
the runtime of the library sets unless it is told otherwise. -/
def maxNumeralLength : Nat := 4300

/-- The least number whose numeral is longer than that.  It is never multiplied out in proofs. -/
@[irreducible] def numeralBound : Nat := Nat.pow 10 maxNumeralLength

/-- Whether an integer can be written in base ten. -/
def isWritable (n : Int) : Bool := n.natAbs < numeralBound

theorem readNumeral_append_singleton (b : Nat) (cs : List Char) (c : Char) :
    readNumeral b (cs ++ [c]) = b * readNumeral b cs + digitValue c := by
  simp [readNumeral]

theorem readNumeral_numeral {b : Nat} (hb : 2 ≤ b) (hb' : b ≤ 16) (n : Nat) :
    readNumeral b (numeral b n) = n := by
  fun_induction numeral b n with
  | case1 n h ih =>
    rw [readNumeral_append_singleton, ih,
      digitValue_digitChar (Nat.lt_of_lt_of_le (Nat.mod_lt _ (by omega)) hb')]
    exact Nat.div_add_mod n b
  | case2 n h =>
    have : n < 16 := by omega
    simp [readNumeral, digitValue_digitChar this]

theorem numeral_ne_nil (b n : Nat) : numeral b n ≠ [] := by
  unfold numeral; split <;> simp

/-- A natural number in base ten. -/
def decimal (n : Nat) : List Char := numeral 10 n

/-- An integer in base ten, with a minus sign in front of the magnitude. -/
def signedDecimal (n : Int) : List Char :=
  if n < 0 then '-' :: decimal n.natAbs else decimal n.natAbs

/-- An integer in base sixteen, marked by `0x` after the sign. -/
def signedHex (n : Int) : List Char :=
  let magnitude := '0' :: 'x' :: numeral 16 n.natAbs
  if n < 0 then '-' :: magnitude else magnitude

/-- The decimal text of an integer. -/
def ofInt (n : Int) : String := String.ofList (signedDecimal n)

/-- The decimal text of a natural number. -/
def ofNat (n : Nat) : String := String.ofList (decimal n)

/-! ## 3. Padding -/

/-- The text with fill characters in front, up to a width; a longer text stays as it is. -/
def padLeft (width : Nat) (fill : Char) (cs : List Char) : List Char :=
  List.replicate (width - cs.length) fill ++ cs

/-- The text with fill characters behind, up to a width; a longer text stays as it is. -/
def padRight (width : Nat) (fill : Char) (cs : List Char) : List Char :=
  cs ++ List.replicate (width - cs.length) fill

theorem length_padLeft {width : Nat} {fill : Char} {cs : List Char} (h : cs.length ≤ width) :
    (padLeft width fill cs).length = width := by
  simp [padLeft]; omega

end Holdings.Text
