/-
# Tokens of a document

A document is data written as text: null, truth values, numbers and texts, lists in brackets
and records in braces.  This module cuts the text into its tokens; what they mean together
is `Document/Reader.lean`.

* Blanks, tabs and line ends may stand between tokens and nowhere else.
* A number without fraction and exponent is an integer; any other is the nearest double-precision
  number, and so are the three words `NaN`, `Infinity` and `-Infinity`.  An integer may be of any
  size, but its numeral has at most `maxNumeralLength` digits.
* A text stands in double quotes and holds no control characters.  An escape of four
  hexadecimal digits is a code unit of UTF-16: two halves of a pair make one character, and a half
  without the other stands alone.

No token is empty, so what follows one is always shorter.  What is no token ends the row of them as
`Token.junk`, so what comes first in the text also comes first among the tokens.
-/
import Holdings.Document
import Holdings.Number.Rounding
import Holdings.Text.Digits

namespace Holdings.Document

open Holdings.Text

/-- A token of a document. -/
inductive Token where
  | openList
  | closeList
  | openRecord
  | closeRecord
  | comma
  | colon
  /-- A value that is one token: null, a truth value, a number or a text. -/
  | leaf (v : Document)
  /-- An integer of so many digits, which are too many. -/
  | overlong (digits : Nat)
  /-- What is no token. -/
  | junk
  deriving Inhabited

/-! ## 1. Words and numbers -/

/-- The values that are written as words. -/
def words : List (String × Document) := [
  ("null", .null), ("true", .bool true), ("false", .bool false), ("NaN", .float .nan),
  ("Infinity", .float (.infinite false)), ("-Infinity", .float (.infinite true))]

/-- What follows a word that stands in front. -/
def dropWord : List Char → List Char → Option (List Char)
  | [], cs => some cs
  | _ :: _, [] => none
  | w :: ws, c :: cs => if w = c then dropWord ws cs else none

theorem length_of_dropWord {ws cs rest : List Char} (h : dropWord ws cs = some rest) :
    rest.length + ws.length = cs.length := by
  fun_induction dropWord ws cs with
  | case1 cs =>
    cases h
    rfl
  | case2 => cases h
  | case3 ws c cs ih =>
    have := ih h
    simp only [List.length_cons]
    omega
  | case4 => cases h

/-- The value of the word that stands in front, and what follows it. -/
def readWord (cs : List Char) : Option (Document × List Char) :=
  words.findSome? fun w => (dropWord w.1.toList cs).map fun rest => (w.2, rest)

theorem length_of_readWord {cs rest : List Char} {v : Document} (h : readWord cs = some (v, rest)) :
    rest.length < cs.length := by
  obtain ⟨w, hw, hr⟩ := List.exists_of_findSome?_eq_some h
  obtain ⟨r, hd, he⟩ := Option.map_eq_some_iff.1 hr
  cases he
  have hlen := length_of_dropWord hd
  have hpos : 0 < w.1.toList.length := by
    simp only [words, List.mem_cons, List.not_mem_nil, or_false] at hw
    rcases hw with rfl | rfl | rfl | rfl | rfl | rfl <;> decide
  omega

/-- The digits in front, and what follows them. -/
def splitDigits (cs : List Char) : List Char × List Char :=
  (cs.takeWhile isDigit, cs.dropWhile isDigit)

theorem length_splitDigits (cs : List Char) :
    (splitDigits cs).1.length + (splitDigits cs).2.length = cs.length := by
  rw [← List.length_append]
  exact congrArg List.length List.takeWhile_append_dropWhile

/-- The digits in front of the point, and what follows them: a zero stands alone. -/
def splitWhole : List Char → List Char × List Char
  | '0' :: cs => (['0'], cs)
  | cs => splitDigits cs

theorem length_splitWhole (cs : List Char) :
    (splitWhole cs).1.length + (splitWhole cs).2.length = cs.length := by
  unfold splitWhole
  split
  · exact Nat.add_comm _ _
  · exact length_splitDigits _

/-- The digits after a point, if there are any, and what follows them. -/
def splitFraction : List Char → List Char × List Char
  | '.' :: cs => if (splitDigits cs).1.isEmpty then ([], '.' :: cs) else splitDigits cs
  | cs => ([], cs)

theorem length_splitFraction_le (cs : List Char) : (splitFraction cs).2.length ≤ cs.length := by
  unfold splitFraction
  split
  · rename_i rest
    have := length_splitDigits rest
    split
    · exact Nat.le_refl _
    · simp only [List.length_cons]
      omega
  · exact Nat.le_refl _

/-- The exponent, if there is one, and what follows it. -/
def splitExponent : List Char → Option Int × List Char
  | [] => (none, [])
  | c :: cs =>
    let (negative, digits) := Binary64.splitSign cs
    if (c = 'e' ∨ c = 'E') ∧ !(splitDigits digits).1.isEmpty then
      (some (Binary64.signed negative (readNumeral 10 (splitDigits digits).1)),
        (splitDigits digits).2)
    else (none, c :: cs)

theorem length_splitExponent_le (cs : List Char) : (splitExponent cs).2.length ≤ cs.length := by
  unfold splitExponent
  split
  · exact Nat.le_refl _
  · rename_i c rest
    have hsign : (Binary64.splitSign rest).2.length ≤ rest.length := by
      unfold Binary64.splitSign
      split <;> simp
    have := length_splitDigits (Binary64.splitSign rest).2
    dsimp only
    split
    · simp only [List.length_cons]
      omega
    · exact Nat.le_refl _

/-- The integer of digits. -/
def integerToken (negative : Bool) (digits : List Char) : Token :=
  if maxNumeralLength < digits.length then .overlong digits.length
  else .leaf (.int (Binary64.signed negative (readNumeral 10 digits)))

/-- The number whose digits stand in front, and what follows it. -/
def readMagnitude (negative : Bool) (cs : List Char) : Option (Token × List Char) :=
  let (whole, rest) := splitWhole cs
  let (fraction, rest) := splitFraction rest
  let (exponent, rest) := splitExponent rest
  if whole.isEmpty then none
  else if fraction.isEmpty ∧ exponent = none then some (integerToken negative whole, rest)
  else some (.leaf (.float (Binary64.ofParts negative whole fraction (exponent.getD 0))), rest)

theorem length_of_readMagnitude {negative : Bool} {cs rest : List Char} {t : Token}
    (h : readMagnitude negative cs = some (t, rest)) : rest.length < cs.length := by
  have h1 := length_splitWhole cs
  have h2 := length_splitFraction_le (splitWhole cs).2
  have h3 := length_splitExponent_le (splitFraction (splitWhole cs).2).2
  unfold readMagnitude at h
  dsimp only at h
  split at h
  · cases h
  · next hne =>
    have hpos : 0 < (splitWhole cs).1.length := by
      rw [List.length_pos_iff]
      simpa using hne
    have hr : rest = (splitExponent (splitFraction (splitWhole cs).2).2).2 := by
      split at h <;> exact (congrArg Prod.snd (Option.some.inj h)).symm
    rw [hr]
    omega

/-- The number that stands in front, and what follows it. -/
def readNumber : List Char → Option (Token × List Char)
  | '-' :: cs => readMagnitude true cs
  | cs => readMagnitude false cs

theorem length_of_readNumber {cs rest : List Char} {t : Token}
    (h : readNumber cs = some (t, rest)) : rest.length < cs.length := by
  unfold readNumber at h
  split at h
  · have := length_of_readMagnitude h
    simp only [List.length_cons]
    omega
  · exact length_of_readMagnitude h

/-! ## 2. Texts -/

/-- Whether a character is a hexadecimal digit. -/
def isHexDigit (c : Char) : Bool := isDigit c || 'a' ≤ c.toLower && c.toLower ≤ 'f'

/-- The number that hexadecimal digits stand for. -/
def readHex (cs : List Char) : Nat := readNumeral 16 (cs.map Char.toLower)

/-- The character that a letter stands for after a backslash. -/
def escape? (c : Char) : Option Char :=
  [('"', '"'), ('\\', '\\'), ('/', '/'), ('b', '\x08'), ('f', '\x0c'), ('n', '\n'), ('r', '\r'),
    ('t', '\t')].lookup c

/-- The code points and code units of a text up to its closing quote, and what follows the quote. -/
def readUnits : List Char → Option (List Nat × List Char)
  | [] => none
  | '"' :: cs => some ([], cs)
  | '\\' :: 'u' :: a :: b :: c :: d :: cs =>
    if [a, b, c, d].all isHexDigit then
      (readUnits cs).map fun p => (readHex [a, b, c, d] :: p.1, p.2)
    else none
  | '\\' :: c :: cs => (escape? c).bind fun e => (readUnits cs).map fun p => (e.toNat :: p.1, p.2)
  | c :: cs =>
    if c.toNat < 0x20 then none else (readUnits cs).map fun p => (c.toNat :: p.1, p.2)

theorem length_of_readUnits {cs rest : List Char} {us : List Nat}
    (h : readUnits cs = some (us, rest)) : rest.length < cs.length := by
  fun_induction readUnits cs generalizing us with
  | case1 => cases h
  | case2 cs =>
    cases h
    simp
  | case3 a b c d cs _ ih =>
    obtain ⟨p, hp, he⟩ := Option.map_eq_some_iff.1 h
    cases he
    have := ih hp
    simp only [List.length_cons]
    omega
  | case4 => cases h
  | case5 c cs _ ih =>
    obtain ⟨e, -, hr⟩ := Option.bind_eq_some_iff.1 h
    obtain ⟨p, hp, he⟩ := Option.map_eq_some_iff.1 hr
    cases he
    have := ih hp
    simp only [List.length_cons]
    omega
  | case6 => cases h
  | case7 c cs _ _ _ _ ih =>
    obtain ⟨p, hp, he⟩ := Option.map_eq_some_iff.1 h
    cases he
    have := ih hp
    simp only [List.length_cons]
    omega

/-! ## 3. Tokens -/

/-- Whether a character may stand between tokens. -/
def isSpace (c : Char) : Bool := c = ' ' || c = '\t' || c = '\n' || c = '\r'

/-- The token that stands in front, and what follows it. -/
def readToken : List Char → Option (Token × List Char)
  | '[' :: cs => some (.openList, cs)
  | ']' :: cs => some (.closeList, cs)
  | '\x7b' :: cs => some (.openRecord, cs)
  | '\x7d' :: cs => some (.closeRecord, cs)
  | ',' :: cs => some (.comma, cs)
  | ':' :: cs => some (.colon, cs)
  | '"' :: cs => (readUnits cs).map fun p => (.leaf (.text (joinUnits p.1)), p.2)
  | cs =>
    match readWord cs with
    | some (v, rest) => some (.leaf v, rest)
    | none => readNumber cs

theorem length_of_readToken {cs rest : List Char} {t : Token} (h : readToken cs = some (t, rest)) :
    rest.length < cs.length := by
  unfold readToken at h
  split at h
  case h_7 cs =>
    obtain ⟨p, hp, he⟩ := Option.map_eq_some_iff.1 h
    cases he
    have := length_of_readUnits hp
    simp only [List.length_cons]
    omega
  case h_8 =>
    split at h
    · next hw =>
      cases h
      exact length_of_readWord hw
    · exact length_of_readNumber h
  all_goals
    cases h
    simp

/-- The tokens of a text. -/
def tokens (cs : List Char) : List Token :=
  match _hs : cs.dropWhile isSpace with
  | [] => []
  | c :: start =>
    match _ht : readToken (c :: start) with
    | none => [.junk]
    | some (t, rest) => t :: tokens rest
termination_by cs.length
decreasing_by
  have hlt := length_of_readToken _ht
  have hle := (List.dropWhile_suffix isSpace (l := cs)).length_le
  rw [_hs] at hle
  omega

end Holdings.Document
