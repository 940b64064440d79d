/-
# Marks of a pattern

A pattern is a regular expression as text.  A backslash and the character behind it belong
together, so they make one mark, and every other character is a mark of its own.  Names,
counts and flags are written with plain marks; this module reads them.

A backslash at the very end belongs to nothing.  Every mark is taken together with a look at what
follows it, so such a backslash spoils the mark in front of it.
-/
import Holdings.Pattern.Extent
import Holdings.Pattern.Flaw
import Holdings.Text.CodePoint
import Holdings.Text.Digits
import Holdings.Text.Identifier

namespace Holdings.Pattern

open Holdings.Text

/-! ## 1. Marks -/

/-- A part of a pattern that is taken as one. -/
inductive Mark where
  /-- A character. -/
  | plain (c : Char)
  /-- A character with a backslash in front. -/
  | escaped (c : Char)
  /-- Half of a pair, which stands for itself with a backslash in front and without. -/
  | half (place : Fin 0x800)
  /-- The end of a text that a backslash spoils. -/
  | broken
  deriving DecidableEq, Repr, Inhabited

/-- The mark of a code point alone. -/
def Mark.ofPlain : CodePoint → Mark
  | .char c => .plain c
  | .half place => .half place

/-- The mark of a code point with a backslash in front. -/
def Mark.ofEscaped : CodePoint → Mark
  | .char c => .escaped c
  | .half place => .half place

/-- The marks of a text, a backslash at the end being one of its own. -/
def cutMarks : CodeText → List Mark
  | [] => []
  | [p] => if p = .char '\\' then [.broken] else [.ofPlain p]
  | p :: q :: ps =>
    if p = .char '\\' then .ofEscaped q :: cutMarks ps else .ofPlain p :: cutMarks (q :: ps)

/-- The marks of a text. -/
def marks (t : CodeText) : List Mark :=
  let ms := cutMarks t
  if ms.getLast? = some .broken then ms.dropLast.dropLast ++ [.broken] else ms

/-- The character of a plain mark. -/
def Mark.char? : Mark → Option Char
  | .plain c => some c
  | _ => none

/-- Whether a mark is a plain character of a kind. -/
def Mark.isPlain (kind : Char → Bool) (m : Mark) : Bool := (m.char?.map kind).getD false

/-- The plain characters of a kind that stand in front, and what follows them. -/
def spanPlain (kind : Char → Bool) (ms : List Mark) : List Char × List Mark :=
  let (taken, rest) := ms.span (Mark.isPlain kind)
  (taken.filterMap Mark.char?, rest)

/-- The same for so many characters at most. -/
def spanPlainUpTo (n : Nat) (kind : Char → Bool) (ms : List Mark) : List Char × List Mark :=
  let (taken, _) := spanPlain kind (ms.take n)
  (taken, ms.drop taken.length)

/-- Whether a character is an octal digit. -/
def isOctalDigit (c : Char) : Bool := '0' ≤ c && c ≤ '7'

/-! ## 2. Names -/

/-- What stands in front of a closing character, and what follows it. -/
def readUntil (closing : Char) (ms : List Mark) : Except Flaw (List Mark × List Mark) :=
  let (content, rest) := ms.span (· != .plain closing)
  match rest with
  | [] => .error .malformed
  | _ :: rest => .ok (content, rest)

/-- The characters in front of a closing character, all of them plain, and what follows it. -/
def readPlainUntil (closing : Char) (ms : List Mark) : Except Flaw (List Char × List Mark) := do
  let (content, rest) ← readUntil closing ms
  demand (content.all (Mark.isPlain fun _ => true))
  return (content.filterMap Mark.char?, rest)

/-- A name in front of a closing character, and what follows it. -/
def readName (closing : Char) (ms : List Mark) : Except Flaw (String × List Mark) := do
  let (name, rest) ← readPlainUntil closing ms
  demand (isIdentifier name)
  return (String.ofList name, rest)

/-! ## 3. Counts -/

/-- What an opening brace begins. -/
inductive Count where
  /-- Itself: no count follows. -/
  | brace
  /-- How often the part in front comes, and what follows the closing brace. -/
  | range (least most : Nat) (rest : List Mark)
  deriving Inhabited

/-- The number in digits, or another one if there are none. -/
def readCountNumber (default : Nat) (digits : List Char) : Except Flaw Nat :=
  if digits.isEmpty then .ok default
  else if maxNumeralLength < digits.length then .error (.longNumeral digits.length)
  else if Extent.unlimited ≤ readNumeral 10 digits then .error .wideCount
  else .ok (readNumeral 10 digits)

/-- The count behind an opening brace: one number, or two with a comma between them of which either
may be missing. -/
def readCount (ms : List Mark) : Except Flaw Count :=
  let (low, rest) := spanPlain isDigit ms
  let (high, rest) :=
    match rest with
    | .plain ',' :: rest => spanPlain isDigit rest
    | rest => (low, rest)
  match rest with
  | .plain '\x7d' :: rest =>
    if ms.head? = some (.plain '\x7d') then .ok .brace
    else do
      let least ← readCountNumber 0 low
      let most ← readCountNumber Extent.unlimited high
      demand (least ≤ most)
      return .range least most rest
  | _ => .ok .brace

/-! ## 4. Flags -/

/-- Flags in front of a part: the letters of those that are turned on and off, and whether they
hold for a group or for the whole pattern. -/
structure Flags where
  on : List Char
  off : List Char
  isGlobal : Bool
  deriving Inhabited

/-- Whether a letter is that of a flag. -/
def isFlag (c : Char) : Bool := "imsxaut".toList.contains c

/-- Whether a flag chooses between two alphabets, so that it cannot be turned off. -/
def isAlphabet (c : Char) : Bool := c = 'a' || c = 'u'

/-- The flag of a template, a pattern without counts.  It holds for the whole pattern or not at
all. -/
def templateFlag : Char := 't'

/-- The flags that stand behind `(?`, and what follows them. -/
def readFlags (ms : List Mark) : Except Flaw (Flags × List Mark) := do
  let (on, rest) := spanPlain isFlag ms
  demand (!(on.contains 'a' && on.contains 'u'))
  match rest with
  | .plain ')' :: rest =>
    demand !on.isEmpty
    return (⟨on, [], true⟩, rest)
  | .plain ':' :: rest =>
    demand !on.contains templateFlag
    return (⟨on, [], false⟩, rest)
  | .plain '-' :: rest =>
    let (off, rest) := spanPlain isFlag rest
    match rest with
    | .plain ':' :: rest =>
      demand (!off.isEmpty && !off.any isAlphabet && !off.any on.contains &&
        !(on ++ off).contains templateFlag)
      return (⟨on, off, false⟩, rest)
    | _ => .error .malformed
  | _ => .error .malformed

end Holdings.Pattern
