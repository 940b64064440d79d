/-
# Names of characters

Every character has a name, and some have further ones; the case of letters does not count.  Most
names stand in tables.  A table is a list of lines of rows with commas between them, in the order of
the codes, and most rows are short, because names that follow each other begin alike (`Entry.next`):

    [code in hexadecimal digits] letter words

The letter says how many words the name shares with the one before, `a` for none; a row without a
code is that of the next code.

Syllables of the Korean script and unified ideographs are too many for a table.  A syllable has the
names of its sounds behind a heading, an ideograph its code (`syllable?`, `ideograph?`).  In these
two alone the case counts.
-/
import Holdings.Text.CharName.Aliases
import Holdings.Text.CharName.From0000
import Holdings.Text.CharName.From1000
import Holdings.Text.CharName.From2000
import Holdings.Text.CharName.From2800
import Holdings.Text.CharName.FromA000
import Holdings.Text.CharName.From10000
import Holdings.Text.CharName.From12000
import Holdings.Text.CharName.From1D000
import Holdings.Text.CharName.From1F000
import Holdings.Text.Digits
import Holdings.Text.Printable
import Holdings.Text.Split

namespace Holdings.Text.CharName

/-! ## 1. Tables -/

/-- A code and the words of its name. -/
structure Entry where
  code : Nat
  words : List (List Char)
  deriving DecidableEq, Repr, Inhabited

/-- Whether a character is a hexadecimal digit, with capital letters. -/
def isHexDigit (c : Char) : Bool := isDigit c || ('A' ≤ c && c ≤ 'F')

/-- The number that hexadecimal digits stand for. -/
def readHex (cs : List Char) : Nat := readNumeral 16 (cs.map Char.toLower)

/-- The entry of a row behind another entry. -/
def Entry.next (previous : Entry) (row : List Char) : Entry :=
  let (digits, rest) := row.span isHexDigit
  let shared := (rest.head?.getD 'a').toNat - 'a'.toNat
  ⟨if digits.isEmpty then previous.code + 1 else readHex digits,
    previous.words.take shared ++ split ' ' (rest.drop 1)⟩

/-- The code of a name among rows, behind an entry. -/
def findAfter (words : List (List Char)) : Entry → List (List Char) → Option Nat
  | _, [] => none
  | previous, row :: rows =>
    if (previous.next row).words = words then some (previous.next row).code
    else findAfter words (previous.next row) rows

/-- The code of a name in a table. -/
def findIn? (words : List (List Char)) (table : List String) : Option Nat :=
  findAfter words default (table.flatMap fun line => split ',' line.toList)

example : findIn? ["LATIN".toList, "B".toList] ["41aLATIN A,bB", "61aSMALL A"] = some 0x42 := by
  decide +kernel

/-- All tables. -/
def tables : List (List String) := [
  namesFrom0000, namesFrom1000, namesFrom2000, namesFrom2800, namesFromA000,
  namesFrom10000, namesFrom12000, namesFrom1D000, namesFrom1F000, aliases]

/-- The code of a name of capital letters that stands in a table. -/
def listed? (name : List Char) : Option Nat := tables.findSome? (findIn? (split ' ' name))

/-! ## 2. Names that end in their code -/

/-- The headings of names that end in their code, and the codes that have them. -/
def numbered : List (String × List (Nat × Nat)) := [
  ("CJK COMPATIBILITY IDEOGRAPH-", [(0xf900, 0xfa6d), (0xfa70, 0xfad9), (0x2f800, 0x2fa1d)]),
  ("KHITAN SMALL SCRIPT CHARACTER-", [(0x18b00, 0x18cd5)]),
  ("NUSHU CHARACTER-", [(0x1b170, 0x1b2fb)])]

/-- The text behind a heading. -/
def behind? : List Char → List Char → Option (List Char)
  | [], cs => some cs
  | _ :: _, [] => none
  | h :: hs, c :: cs => if h = c then behind? hs cs else none

/-- The code of a name of capital letters that ends in it. -/
def numbered? (name : List Char) : Option Nat :=
  numbered.findSome? fun family =>
    (behind? family.1.toList name).bind fun digits =>
      if digits.all isHexDigit && (numeral 16 (readHex digits)).map Char.toUpper = digits &&
        inRanges family.2 (readHex digits) then some (readHex digits) else none

/-! ## 3. Syllables and ideographs -/

/-- The first sounds of syllables; one is silent. -/
def firstSounds : List String := [
  "G", "GG", "N", "D", "DD", "R", "M", "B", "BB", "S", "SS", "", "J", "JJ", "C", "K", "T", "P", "H"]

/-- The vowels of syllables. -/
def vowels : List String := [
  "A", "AE", "YA", "YAE", "EO", "E", "YEO", "YE", "O", "WA", "WAE", "OE", "YO", "U", "WEO", "WE",
  "WI", "YU", "EU", "YI", "I"]

/-- The last sounds of syllables; most have none. -/
def lastSounds : List String := [
  "", "G", "GG", "GS", "N", "NJ", "NH", "D", "L", "LG", "LM", "LB", "LS", "LT", "LP", "LH", "M", "B",
  "BS", "S", "SS", "NG", "J", "C", "K", "T", "P", "H"]

/-- The place of the longest of some sounds that stands in front, and what follows it. -/
def readSound (sounds : List String) (cs : List Char) : Option (Nat × List Char) :=
  let found := sounds.zipIdx.filterMap fun s => (behind? s.1.toList cs).map fun rest => (s.2, rest)
  found.foldl (fun best s =>
    match best with
    | some b => if s.2.length < b.2.length then some s else some b
    | none => some s) none

/-- The heading of the names of syllables. -/
def syllableHeading : String := "HANGUL SYLLABLE "

/-- The code of the syllable of some sounds. -/
def syllable? (sounds : List Char) : Option Nat := do
  let (first, rest) ← readSound firstSounds sounds
  let (vowel, rest) ← readSound vowels rest
  let (last, rest) ← readSound lastSounds rest
  if rest.isEmpty then
    some (0xac00 + (first * vowels.length + vowel) * lastSounds.length + last)
  else none

/-- The codes of unified ideographs. -/
def ideographRanges : List (Nat × Nat) := [
  (0x3400, 0x4dbf), (0x4e00, 0x9fff), (0x20000, 0x2a6df), (0x2a700, 0x2b738), (0x2b740, 0x2b81d),
  (0x2b820, 0x2cea1), (0x2ceb0, 0x2ebe0), (0x30000, 0x3134a)]

/-- The heading of the names of unified ideographs. -/
def ideographHeading : String := "CJK UNIFIED IDEOGRAPH-"

/-- The code of the unified ideograph that four or five digits name. -/
def ideograph? (digits : List Char) : Option Nat :=
  if (digits.length = 4 ∨ digits.length = 5) ∧ digits.all isHexDigit ∧
    inRanges ideographRanges (readHex digits) then some (readHex digits) else none

/-! ## 4. All names -/

/-- The code of the character that has a name. -/
def code? (name : List Char) : Option Nat :=
  match behind? syllableHeading.toList name, behind? ideographHeading.toList name with
  | some sounds, _ => syllable? sounds
  | _, some digits => ideograph? digits
  | none, none =>
    let name := name.map Char.toUpper
    (numbered? name).orElse fun _ => listed? name

example : code? "HANGUL SYLLABLE GAG".toList = some 0xac01 := by decide +kernel
example : code? "CJK UNIFIED IDEOGRAPH-04E00".toList = some 0x4e00 := by decide +kernel
example : numbered? "NUSHU CHARACTER-1B170".toList = some 0x1b170 := by decide +kernel

end Holdings.Text.CharName
