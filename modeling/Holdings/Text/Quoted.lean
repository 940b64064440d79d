/-
# Quoted text

How a text, or a string of bytes, is shown inside a message.  It stands in single quotes, or in
double quotes when it holds a single quote and no double one; the quote in use and the backslash
are escaped, so the closing quote is always the first unescaped one.  Line feed, carriage
return and tab have letters of their own, and every other character that is not printable is
written by its code point: two hexadecimal digits below U+0100, four below U+10000, eight above.
-/
import Holdings.Text.Digits
import Holdings.Text.Printable

namespace Holdings.Text

/-! ## 1. The quote -/

/-- The quote for a text: single, unless only the single one would have to be escaped. -/
def quoteFor (cs : List Char) : Char :=
  if cs.contains '\'' && !cs.contains '"' then '"' else '\''

/-! ## 2. Escapes -/

/-- A code point in a fixed number of hexadecimal digits, after a backslash and a letter. -/
def codePointEscape (letter : Char) (width n : Nat) : List Char :=
  '\\' :: letter :: padLeft width '0' (numeral 16 n)

/-- One character inside a text quoted by `q`. -/
def escapeChar (q c : Char) : List Char :=
  if c = q ∨ c = '\\' then ['\\', c]
  else if c = '\n' then ['\\', 'n']
  else if c = '\r' then ['\\', 'r']
  else if c = '\t' then ['\\', 't']
  else if isPrintable c then [c]
  else if c.toNat < 0x100 then codePointEscape 'x' 2 c.toNat
  else if c.toNat < 0x10000 then codePointEscape 'u' 4 c.toNat
  else codePointEscape 'U' 8 c.toNat

/-- One byte inside a byte string quoted by `q`: ASCII as text, the rest by number. -/
def escapeByte (q : Char) (b : UInt8) : List Char :=
  if b.toNat < 0x80 then escapeChar q (Char.ofNat b.toNat) else codePointEscape 'x' 2 b.toNat

/-! ## 3. The quoted forms -/

/-- A text in quotes. -/
def quote (s : String) : String :=
  let q := quoteFor s.toList
  String.ofList (q :: s.toList.flatMap (escapeChar q) ++ [q])

/-- A string of bytes in quotes, marked by the letter `b`. -/
def quoteBytes (bytes : List UInt8) : String :=
  let q := quoteFor (bytes.map fun b => Char.ofNat b.toNat)
  String.ofList ('b' :: q :: bytes.flatMap (escapeByte q) ++ [q])

example : quote "it's" = "\"it's\"" := by decide +kernel
example : quote "a\n\u00e9\u00ad" = "'a\\n\u00e9\\xad'" := by decide +kernel
example : quoteBytes [0x61, 0x27, 0x22, 0xff] = "b'a\\'\"\\xff'" := by decide +kernel

end Holdings.Text
