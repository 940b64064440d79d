/-
# Escapes and sets of characters

An escape is a character written by its code, a class of characters, a place between characters,
or a reference to what a group matched.  Within a set in brackets only the first two are
left: there a backslash and `b` is the backspace, and digits are always an octal code.

A letter of the Latin alphabet that means nothing after a backslash is an error, and any other
character stands for itself.
-/
import Holdings.Pattern.Mark
import Holdings.Text.CharName

namespace Holdings.Pattern

open Holdings.Text

/-! ## 1. Escapes -/

/-- What an escape stands for. -/
inductive Atom where
  | char (code : Nat)
  | family
  | place
  | group (index : Nat)
  deriving DecidableEq, Repr, Inhabited

/-- Whether a character is a hexadecimal digit. -/
def isHexDigit (c : Char) : Bool := isDigit c || 'a' ≤ c.toLower && c.toLower ≤ 'f'

/-- A code of exactly so many hexadecimal digits, and what follows it. -/
def readHexCode (width : Nat) (ms : List Mark) : Except Flaw (Nat × List Mark) := do
  let (digits, rest) := spanPlainUpTo width isHexDigit ms
  demand (digits.length = width)
  return (readNumeral 16 (digits.map Char.toLower), rest)

/-- The code of the character whose name stands in braces, and what follows them. -/
def readCharName : List Mark → Except Flaw (Nat × List Mark)
  | .plain '\x7b' :: ms => do
    let (name, rest) ← readPlainUntil '\x7d' ms
    return (← required (CharName.code? name), rest)
  | _ => .error .malformed

/-- The character that a letter stands for after a backslash. -/
def controlCode? (c : Char) : Option Nat :=
  [('a', 7), ('b', 8), ('f', 12), ('n', 10), ('r', 13), ('t', 9), ('v', 11)].lookup c

/-- Whether a letter stands for a class of characters after a backslash. -/
def isClassLetter (c : Char) : Bool := "dDsSwW".toList.contains c

/-- Whether a letter stands for a place between characters after a backslash. -/
def isPlaceLetter (c : Char) : Bool := "AbBZ".toList.contains c

/-- An escape that means the same within sets and outside. -/
def readCommonEscape (c : Char) (ms : List Mark) : Except Flaw (Atom × List Mark) :=
  let char (p : Nat × List Mark) : Atom × List Mark := (.char p.1, p.2)
  if isClassLetter c then .ok (.family, ms)
  else
    match controlCode? c with
    | some code => .ok (.char code, ms)
    | none =>
      if c = 'x' then (readHexCode 2 ms).map char
      else if c = 'u' then (readHexCode 4 ms).map char
      else if c = 'U' then do
        let (code, rest) ← readHexCode 8 ms
        demand (code < 0x110000)
        return (.char code, rest)
      else if c = 'N' then (readCharName ms).map char
      else if c.isAlpha then .error .malformed
      else .ok (.char c.toNat, ms)

/-- The character of an octal code, which is at most 255. -/
def octalAtom (digits : List Char) : Except Flaw Atom := do
  let code := readNumeral 8 digits
  demand (code < 256)
  return .char code

/-- An escape within a set: an octal code of up to three digits, or a common one. -/
def readSetEscape (c : Char) (ms : List Mark) : Except Flaw (Atom × List Mark) :=
  if isOctalDigit c then do
    let (digits, rest) := spanPlainUpTo 2 isOctalDigit ms
    return (← octalAtom (c :: digits), rest)
  else if isDigit c then .error .malformed
  else readCommonEscape c ms

/-- An escape outside of sets: a place, an octal code that starts with zero or has three digits, a
group of one or two digits, or a common one. -/
def readEscape (c : Char) (ms : List Mark) : Except Flaw (Atom × List Mark) :=
  if isPlaceLetter c then .ok (.place, ms)
  else if c = '0' then do
    let (digits, rest) := spanPlainUpTo 2 isOctalDigit ms
    return (← octalAtom (c :: digits), rest)
  else if isDigit c then
    let (octal, rest) := spanPlainUpTo 2 isOctalDigit ms
    if isOctalDigit c ∧ octal.length = 2 then do return (← octalAtom (c :: octal), rest)
    else
      let (second, rest) := spanPlainUpTo 1 isDigit ms
      .ok (.group (readNumeral 10 (c :: second)), rest)
  else readCommonEscape c ms

/-! ## 2. Sets -/

/-- A member of a set. -/
def readMember : Mark → List Mark → Except Flaw (Atom × List Mark)
  | .plain c, ms => .ok (.char c.toNat, ms)
  | .escaped c, ms => readSetEscape c ms
  | .half place, ms => .ok (.char (CodePoint.half place).code, ms)
  | .broken, _ => .error .malformed

/-- Whether two members may be the ends of a range. -/
def isRange : Atom → Atom → Bool
  | .char low, .char high => low ≤ high
  | _, _ => false

/-- What follows a set, whose members up to the closing bracket come next.  A bracket closes the
set only behind a member, and a hyphen in front of it stands for itself. -/
def skipMembers : Nat → Bool → List Mark → Except Flaw (List Mark)
  | 0, _, _ => .error .malformed
  | _ + 1, _, [] => .error .malformed
  | fuel + 1, hasMembers, m :: ms =>
    if m = .plain ']' ∧ hasMembers then .ok ms
    else do
      let (low, rest) ← readMember m ms
      match rest with
      | .plain '-' :: .plain ']' :: rest => return rest
      | .plain '-' :: m :: rest =>
        let (high, rest) ← readMember m rest
        demand (isRange low high)
        skipMembers fuel true rest
      | rest => skipMembers fuel true rest

/-- What follows a set behind its opening bracket. -/
def skipSet (ms : List Mark) : Except Flaw (List Mark) :=
  let members := if ms.head? = some (.plain '^') then ms.drop 1 else ms
  skipMembers members.length false members

end Holdings.Pattern
