/-
# Writing a document

The text of a document on one line: a comma and a blank between elements, a colon and a blank after
a key.  Quotes, backslashes, control characters and halves of pairs are escaped, every other
character stands for itself.
-/
import Holdings.Document
import Holdings.Number.Shortest
import Holdings.Text.Quoted

namespace Holdings.Document

open Holdings.Text

/-- One code point inside a text. -/
def writePoint : CodePoint → List Char
  | .char c =>
    if c = '"' ∨ c = '\\' then ['\\', c]
    else if c.toNat < 0x20 then codePointEscape 'u' 4 c.toNat
    else [c]
  | .half place => codePointEscape 'u' 4 (CodePoint.half place).code

/-- A text in quotes. -/
def writeText (t : CodeText) : List Char := '"' :: t.flatMap writePoint ++ ['"']

/-- The parts with a comma and a blank between them. -/
def writeParts : List (List Char) → List Char
  | [] => []
  | [p] => p
  | p :: ps => p ++ ',' :: ' ' :: writeParts ps

/-- A double-precision number. -/
def writeFloat : Binary64 → List Char
  | .nan => "NaN".toList
  | .infinite negative => (if negative then "-Infinity" else "Infinity").toList
  | x => x.text

mutual

/-- The text of a document. -/
def write : Document → List Char
  | .null => "null".toList
  | .bool b => (if b then "true" else "false").toList
  | .int n => signedDecimal n
  | .float x => writeFloat x
  | .text t => writeText t
  | .list xs => '[' :: writeParts (writeElements xs) ++ [']']
  | .record es => '\x7b' :: writeParts (writeEntries es) ++ ['\x7d']

/-- The text of every element. -/
def writeElements : List Document → List (List Char)
  | [] => []
  | x :: xs => x.write :: writeElements xs

/-- The text of every entry. -/
def writeEntries : List (CodeText × Document) → List (List Char)
  | [] => []
  | (key, x) :: es => (writeText key ++ ':' :: ' ' :: x.write) :: writeEntries es

end

end Holdings.Document
