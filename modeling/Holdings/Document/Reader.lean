/-
# Reading a document

A document is one value, and the tokens of its text are taken one by one.  What has been read so
far is the stack of the lists and records that are still open, innermost first, and what may
come next (`Reading`).  A value that is complete goes into the innermost of them (`place`), and
the document is complete when none is open.

In a record the last value of a key counts.  Nothing may follow the value, and no comma may stand
behind the last element of a list or record.  A text that breaks these rules holds no document.  One
that keeps them may still be refused, for an integer of too many digits or for lists and records
that are nested too deep; where a text has several faults, the first one is reported.
-/
import Holdings.Document.Token
import Holdings.Fault

namespace Holdings.Document

open Holdings.Text

/-! ## 1. What has been read -/

/-- A list or record around the value that comes next. -/
inductive Frame where
  /-- A list with these elements so far, last first. -/
  | list (elements : List Document)
  /-- A record with these entries so far, and the key of the value that comes next. -/
  | record (entries : List (CodeText × Document)) (key : CodeText)
  deriving Inhabited

/-- What may come next. -/
inductive Expected where
  /-- A value. -/
  | value
  /-- The first element of a list, or its end. -/
  | element
  /-- Another element after these ones, last first, or the end of the list. -/
  | moreElements (elements : List Document)
  /-- The first key of a record, or its end. -/
  | entry
  /-- Another entry after these ones, or the end of the record. -/
  | moreEntries (entries : List (CodeText × Document))
  /-- The key of another entry. -/
  | key (entries : List (CodeText × Document))
  /-- The colon after a key. -/
  | colon (entries : List (CodeText × Document)) (key : CodeText)
  /-- Nothing: the document is complete. -/
  | nothing (document : Document)
  deriving Inhabited

/-- A document that has been read in part. -/
structure Reading where
  around : List Frame
  expected : Expected
  deriving Inhabited

/-! ## 2. One token -/

/-- A complete value in its place. -/
def place (v : Document) : List Frame → Reading
  | [] => ⟨[], .nothing v⟩
  | .list xs :: around => ⟨around, .moreElements (v :: xs)⟩
  | .record es key :: around => ⟨around, .moreEntries (Value.putEntry key v es)⟩

/-- How many lists and records may stand within each other.  The runtime lets a thousand calls stand within each
other; the reader takes one for each list or record, and the other twelve are the calls around it.  So this is
no rule of the library: the number was calibrated for a schema that is loaded from a file, and another caller of the
reader would leave it another one. -/
def maxDepth : Nat := 988

/-- What has been read when a list or record begins. -/
def enter (around : List Frame) (expected : Expected) : Except Fault Reading :=
  if maxDepth ≤ around.length then .error .tooDeep else .ok ⟨around, expected⟩

/-- The first token of a value. -/
def startValue (around : List Frame) : Token → Except Fault Reading
  | .leaf v => .ok (place v around)
  | .overlong digits => .error (.refused (.longNumeral digits))
  | .openList => enter around .element
  | .openRecord => enter around .entry
  | _ => .error .notJson

/-- The key of an entry. -/
def startEntry (around : List Frame) (entries : List (CodeText × Document)) :
    Token → Except Fault Reading
  | .leaf (.text key) => .ok ⟨around, .colon entries key⟩
  | _ => .error .notJson

/-- What has been read after one more token, if it may come next. -/
def Reading.next (r : Reading) (t : Token) : Except Fault Reading :=
  match r.expected, t with
  | .value, t => startValue r.around t
  | .element, .closeList => .ok (place (.list []) r.around)
  | .element, t => startValue (.list [] :: r.around) t
  | .moreElements xs, .comma => .ok ⟨.list xs :: r.around, .value⟩
  | .moreElements xs, .closeList => .ok (place (.list xs.reverse) r.around)
  | .entry, .closeRecord => .ok (place (.record []) r.around)
  | .entry, t => startEntry r.around [] t
  | .moreEntries es, .comma => .ok ⟨r.around, .key es⟩
  | .moreEntries es, .closeRecord => .ok (place (.record es) r.around)
  | .key es, t => startEntry r.around es t
  | .colon es key, .colon => .ok ⟨.record es key :: r.around, .value⟩
  | _, _ => .error .notJson

/-! ## 3. The document -/

/-- The value of a document, once it is complete. -/
def Reading.document (r : Reading) : Except Fault Document :=
  match r.expected with
  | .nothing v => .ok v
  | _ => .error .notJson

/-- The document that tokens make up. -/
def ofTokens (ts : List Token) : Except Fault Document :=
  (ts.foldlM Reading.next ⟨[], .value⟩).bind Reading.document

/-- The document that a text holds. -/
def read (s : String) : Except Fault Document := ofTokens (tokens s.toList)

end Holdings.Document
