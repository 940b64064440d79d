/-
# Documents

Data as a text can hold it: null, truth values, numbers, texts, lists, and records whose entries keep
their order.  A text in a document may hold halves of pairs, so it is a `CodeText`, and so is the
key of an entry.
-/
import Holdings.Number.Binary64
import Holdings.Text.CodePoint

namespace Holdings

open Text (CodeText)

/-- Data as a text can hold it. -/
inductive Document where
  | null
  | bool (b : Bool)
  | int (n : Int)
  | float (x : Binary64)
  | text (t : CodeText)
  | list (xs : List Document)
  | record (entries : List (CodeText × Document))
  deriving Inhabited

namespace Document

/-- A text of characters. -/
def string (s : String) : Document := text (.ofString s)

/-- A record whose keys are texts of characters. -/
def fields (entries : List (String × Document)) : Document :=
  record (entries.map fun e => (.ofString e.1, e.2))

mutual

/-- How many lists and records stand within each other. -/
def depth : Document → Nat
  | list xs => listDepth xs + 1
  | record es => recordDepth es + 1
  | _ => 0

/-- The same within the elements of a list. -/
def listDepth : List Document → Nat
  | [] => 0
  | x :: xs => max x.depth (listDepth xs)

/-- The same within the entries of a record. -/
def recordDepth : List (CodeText × Document) → Nat
  | [] => 0
  | (_, x) :: es => max x.depth (recordDepth es)

end

end Document

end Holdings
