/-
# Code points

A document can name the code units of UTF-16 one by one.  Two halves of a pair make one character,
but a half may also stand alone; it is no character, yet it differs from every other half and has
its place in the order of codes.  A `CodeText` is a text in which such halves may stand.

`joinUnits` puts a text together, and `ofString` and `toString?` are the way from texts of
characters and back: `toString?_ofString` says that nothing is lost.
-/
namespace Holdings.Text

/-! ## 1. Code points -/

/-- A character, or half of a pair that stands alone. -/
inductive CodePoint where
  | char (c : Char)
  /-- Half of a pair, by its place among all halves. -/
  | half (place : Fin 0x800)
  deriving DecidableEq, Repr, Inhabited

namespace CodePoint

/-- The number of a code point. -/
def code : CodePoint → Nat
  | char c => c.toNat
  | half place => 0xd800 + place

/-- The character of a code point that is one. -/
def char? : CodePoint → Option Char
  | char c => some c
  | half _ => none

/-- The code point of a number; a number that is none stands for zero. -/
def ofCode (n : Nat) : CodePoint :=
  if h : 0xd800 ≤ n ∧ n < 0xe000 then half ⟨n - 0xd800, by omega⟩ else char (Char.ofNat n)

theorem ofCode_code (p : CodePoint) : ofCode p.code = p := by
  cases p with
  | char c =>
    have h : ¬(0xd800 ≤ c.toNat ∧ c.toNat < 0xe000) := by
      have : c.val.isValidChar := c.valid
      simp only [UInt32.isValidChar, Nat.isValidChar] at this
      show ¬(0xd800 ≤ c.val.toNat ∧ c.val.toNat < 0xe000)
      omega
    simp [ofCode, code, h, Char.ofNat_toNat]
  | half place =>
    have h : 0xd800 ≤ 0xd800 + place.val ∧ 0xd800 + place.val < 0xe000 := by omega
    simp [ofCode, code, h.2]

end CodePoint

/-! ## 2. Texts of code points -/

/-- A text in which halves of pairs may stand alone. -/
abbrev CodeText := List CodePoint

namespace CodeText

/-- The code points of a text. -/
def ofString (s : String) : CodeText := s.toList.map .char

/-- The text of code points that are characters. -/
def toString? (t : CodeText) : Option String := (t.mapM CodePoint.char?).map String.ofList

theorem mapM_char? (cs : List Char) : (cs.map CodePoint.char).mapM CodePoint.char? = some cs := by
  induction cs with
  | nil => rfl
  | cons c cs ih => simp [List.mapM_cons, ih, CodePoint.char?]

theorem toString?_ofString (s : String) : toString? (ofString s) = some s := by
  rw [toString?, ofString, mapM_char?]
  simp

end CodeText

/-! ## 3. Code units -/

/-- Whether a code unit is the first half of a pair. -/
def isHighHalf (u : Nat) : Bool := 0xd800 ≤ u && u < 0xdc00

/-- Whether a code unit is the second half of a pair. -/
def isLowHalf (u : Nat) : Bool := 0xdc00 ≤ u && u < 0xe000

/-- The code points of code points and code units, both halves of a pair making one. -/
def joinUnits : List Nat → CodeText
  | [] => []
  | [u] => [.ofCode u]
  | u :: v :: us =>
    if isHighHalf u && isLowHalf v then
      .ofCode (0x10000 + (u - 0xd800) * 0x400 + (v - 0xdc00)) :: joinUnits us
    else .ofCode u :: joinUnits (v :: us)

example : joinUnits [0xd83d, 0xde00, 0xde00] = [.char (Char.ofNat 0x1f600), .half 0x600] := by
  decide

end Holdings.Text
