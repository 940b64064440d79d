/-
# Values in messages

How a value is shown inside a message: texts in quotes, lists in brackets, dictionaries in braces
with `key: value` entries, numbers as `Text/Digits.lean` and `Number/Shortest.lean` write them.

A message cannot be put together if an integer in the value cannot be written, at whatever depth it
stands.  So what is shown of a value comes with the answer to that (`Shown`).
-/
import Holdings.Value
import Holdings.Text.Quoted
import Holdings.Number.Shortest

namespace Holdings.Value

variable {ω : Type}

/-! ## 1. Shown inside a message -/

/-- Texts one after the other, with a separator between. -/
def joinWith (separator : String) : List String → String
  | [] => ""
  | [s] => s
  | s :: t :: rest => s ++ separator ++ joinWith separator (t :: rest)

mutual

/-- A value as messages show it; `object` gives the text of an object. -/
def shown (object : ω → String) : Value ω → String
  | null => "None"
  | bool b => if b then "True" else "False"
  | int n => Text.ofInt n
  | float x => String.ofList x.text
  | text s => Text.quote s
  | bytes bs => Text.quoteBytes bs
  | list xs => "[" ++ joinWith ", " (shownAll object xs) ++ "]"
  | dict es => "\x7b" ++ joinWith ", " (shownEntries object es) ++ "\x7d"
  | .object o => object o

/-- The elements of a list as messages show them. -/
def shownAll (object : ω → String) : List (Value ω) → List String
  | [] => []
  | x :: xs => x.shown object :: shownAll object xs

/-- The entries of a dictionary as messages show them. -/
def shownEntries (object : ω → String) : List (String × Value ω) → List String
  | [] => []
  | (k, x) :: es => (Text.quote k ++ ": " ++ x.shown object) :: shownEntries object es

end

/-! ## 2. Whether it can be shown -/

mutual

/-- The integers in a value, in order; `object` gives those of an object. -/
def integers (object : ω → List Int) : Value ω → List Int
  | int n => [n]
  | list xs => integersOfAll object xs
  | dict es => integersOfEntries object es
  | .object o => object o
  | null => []
  | bool _ => []
  | float _ => []
  | text _ => []
  | bytes _ => []

/-- The integers in the elements of a list. -/
def integersOfAll (object : ω → List Int) : List (Value ω) → List Int
  | [] => []
  | x :: xs => x.integers object ++ integersOfAll object xs

/-- The integers in the values of a dictionary. -/
def integersOfEntries (object : ω → List Int) : List (String × Value ω) → List Int
  | [] => []
  | (_, x) :: es => x.integers object ++ integersOfEntries object es

end

/-- What a message shows of a value, and whether every integer in it can be written. -/
structure Shown where
  text : String
  isWritable : Bool
  deriving DecidableEq, Repr, Inhabited

/-! ## 3. On its own -/

/-- A value as text of its own: a text as it is, anything else as inside a message. -/
def display (object : ω → String) : Value ω → String
  | text s => s
  | v => v.shown object

end Holdings.Value
