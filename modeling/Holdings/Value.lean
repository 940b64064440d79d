/-
# Dynamic values

Data whose form is not known in advance: arguments of a constructor before they are checked,
documents before they meet a contract, variables of a script.  `Value ω` is plain data with
objects of a type `ω` among its leaves; a document has none, so its type is `Plain`.

Entries of a dictionary keep their order of insertion, and a key stands in it once.
-/
import Holdings.Number.Binary64

namespace Holdings

/-- Plain data with leaves of type `ω`. -/
inductive Value (ω : Type) where
  | null
  | bool (b : Bool)
  | int (n : Int)
  | float (x : Binary64)
  | text (s : String)
  | bytes (bs : List UInt8)
  | list (xs : List (Value ω))
  | dict (entries : List (String × Value ω))
  | object (o : ω)
  deriving Inhabited

/-- Data without objects. -/
abbrev Plain := Value Empty

namespace Value

variable {ω ω' : Type}

/-! ## 1. Entries -/

/-- Binds a key to a value: in place if the key is there already, else behind the others. -/
def putEntry [DecidableEq κ] (key : κ) (v : α) : List (κ × α) → List (κ × α)
  | [] => [(key, v)]
  | e :: es => if e.1 = key then (key, v) :: es else e :: putEntry key v es

/-- Entries in order, a later value for a key replacing an earlier one. -/
def entriesOf (pairs : List (String × α)) : List (String × α) :=
  pairs.foldl (fun es p => putEntry p.1 p.2 es) []

/-! ## 2. Replacing the objects -/

mutual

/-- The same data with every object replaced by other data. -/
def replace (f : ω → Value ω') : Value ω → Value ω'
  | null => null
  | bool b => bool b
  | int n => int n
  | float x => float x
  | text s => text s
  | bytes bs => bytes bs
  | list xs => list (replaceAll f xs)
  | dict es => dict (replaceEntries f es)
  | object o => f o

/-- Every element with its objects replaced. -/
def replaceAll (f : ω → Value ω') : List (Value ω) → List (Value ω')
  | [] => []
  | x :: xs => x.replace f :: replaceAll f xs

/-- Every entry with the objects of its value replaced. -/
def replaceEntries (f : ω → Value ω') : List (String × Value ω) → List (String × Value ω')
  | [] => []
  | (k, x) :: es => (k, x.replace f) :: replaceEntries f es

end

/-- The same data with every object replaced by another one. -/
def map (f : ω → ω') (v : Value ω) : Value ω' := v.replace fun o => object (f o)

/-- Data without objects, as data that might have some. -/
def ofPlain (v : Plain) : Value ω := v.replace Empty.elim

/-- Data with null in the place of every object. -/
def toPlain (v : Value ω) : Plain := v.replace fun _ => null

/-! ## 3. Kinds and truth -/

/-- The name of the kind of a value; `name` gives it for objects. -/
def kindName (name : ω → String) : Value ω → String
  | null => "NoneType"
  | bool _ => "bool"
  | int _ => "int"
  | float _ => "float"
  | text _ => "str"
  | bytes _ => "bytes"
  | list _ => "list"
  | dict _ => "dict"
  | object o => name o

/-- What counts as true: everything but null, false, zero and what has no elements. -/
def isTruthy : Value ω → Bool
  | null => false
  | bool b => b
  | int n => n != 0
  | float x => !x.isZero
  | text s => s != ""
  | bytes bs => !bs.isEmpty
  | list xs => !xs.isEmpty
  | dict es => !es.isEmpty
  | object _ => true

/-- An integer, a truth value counting as zero or one. -/
def asInt? : Value ω → Option Int
  | int n => some n
  | bool b => some (if b then 1 else 0)
  | _ => none

end Value

end Holdings
