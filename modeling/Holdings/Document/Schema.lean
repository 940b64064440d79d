/-
# Valid schemas

A document is a valid schema when it is a truth value, or a record in which every keyword has a
value of the form that it wants.  Schemas stand within schemas, so this is one recursion over the
document.  `findings` lists everything that is wrong, in the order in which it is found: keyword by
keyword in their own order, and for each keyword whatever is wrong within its value.

The first finding decides.  Mostly the document is no schema then; but a pattern may have a flaw of
its own, and looking into schemas within schemas takes room, of which there is only so much.
-/
import Holdings.Document.Keyword
import Holdings.Fault
import Holdings.Pattern

namespace Holdings.Document

open Holdings.Text

/-! ## 1. Findings -/

/-- What can be wrong with a schema. -/
inductive Finding where
  /-- A value is not of the form that is wanted; it is nested so deep. -/
  | invalid (depth : Nat)
  /-- A pattern has a flaw of its own, or there is no room to look further. -/
  | flaw (f : Pattern.Flaw)
  deriving DecidableEq, Repr, Inhabited

/-- Whether a finding ends the search at once, also where there is another form to try. -/
def Finding.isFinal : Finding → Bool
  | invalid _ => false
  | flaw _ => true

/-- The findings of a value that is wanted to be so. -/
def expect (holds : Bool) (v : Document) : List Finding := if holds then [] else [.invalid v.depth]

/-- Findings put among others by their places. -/
def insertRanked (r : Nat × List Finding) : List (Nat × List Finding) → List (Nat × List Finding)
  | [] => [r]
  | s :: rest => if r.1 ≤ s.1 then r :: s :: rest else s :: insertRanked r rest

/-- The findings in the order of their places. -/
def inOrder (ranked : List (Nat × List Finding)) : List Finding :=
  (ranked.foldr insertRanked []).flatMap Prod.snd

/-- The findings of a value that may have one form or another: what is wrong with both, unless the
search ends in the first one. -/
def either (first second : List Finding) : List Finding :=
  match first.find? Finding.isFinal with
  | some f => [f]
  | none => if first.isEmpty then [] else second

/-! ## 2. Room

Room is counted in calls that stand within each other, of which the runtime has a limit.  That nesting has an end is
what the definitions below are about; where it ends is no rule of the library.  How many calls a part of a schema
takes was calibrated on one version of the validator and of the runtime, so the numbers are estimates. -/

/-- The room that there is around a whole schema: the limit of the runtime, unless it is told otherwise. -/
def fullRoom : Nat := 1000

/-- The room that a schema takes within another one: the calls from one to the other, as calibrated. -/
def schemaRoom : Nat := 8

/-- The room that a record around schemas takes, as calibrated. -/
def mapRoom : Nat := 2

/-- The room that a list around schemas takes, as calibrated. -/
def listRoom : Nat := 4

/-- The room that a schema needs for itself: the deepest calls for its own keywords, as calibrated. -/
def ownRoom : Nat := 14

/-- The room that a pattern needs for itself, as calibrated; each group within another takes `groupRoom`. -/
def patternRoom : Nat := 18

/-- The room that a group of a pattern takes: the two calls in which the reader of patterns comes back to itself. -/
def groupRoom : Nat := 2

/-- The findings of a pattern. -/
def patternFindings (room : Nat) (t : CodeText) : List Finding :=
  match Pattern.check ((room - patternRoom) / groupRoom) t with
  | .ok () => []
  | .error .malformed => [.invalid 0]
  | .error f => [.flaw f]

/-- The findings of a schema from those of its keywords, in so much room. -/
def inSchema (room : Nat) (ranked : List (Nat × List Finding)) : List Finding :=
  if room < ownRoom then [.flaw .tooDeep] else inOrder ranked

/-! ## 3. Schemas -/

mutual

/-- What is wrong with a value of which something is demanded, in so much room. -/
def findings (room : Nat) (d : Demand) : Document → List Finding
  | .record es =>
    match d with
    | .schema => inSchema (room - schemaRoom) (keywordFindings (room - schemaRoom) es)
    | .dependency =>
      either (inSchema (room - schemaRoom) (keywordFindings (room - schemaRoom) es))
        [.invalid (Document.record es).depth]
    | .schemaMap => entryFindings (room - mapRoom) .schema es
    | .patternMap =>
      entryFindings (room - mapRoom) .schema es ++
        es.flatMap fun e => patternFindings (room - mapRoom) e.1
    | .dependencies => entryFindings room .dependency es
    | d => expect (d.holdsOf (.record es)) (.record es)
  | .list xs =>
    match d with
    | .schemas => expect (!xs.isEmpty) (.list xs) ++ elementFindings (room - listRoom) .schema xs
    | .dependency => expect (areNames (.list xs)) (.list xs)
    | d => expect (d.holdsOf (.list xs)) (.list xs)
  | .bool b => expect ([.schema, .dependency].contains d || d.holdsOf (.bool b)) (.bool b)
  | .text t =>
    match d with
    | .pattern => patternFindings room t
    | d => expect (d.holdsOf (.text t)) (.text t)
  | v => expect (d.holdsOf v) v

/-- What is wrong with the elements of a list of which something is demanded. -/
def elementFindings (room : Nat) (d : Demand) : List Document → List Finding
  | [] => []
  | x :: xs => findings room d x ++ elementFindings room d xs

/-- What is wrong with the values of entries of which something is demanded. -/
def entryFindings (room : Nat) (d : Demand) : List (CodeText × Document) → List Finding
  | [] => []
  | (_, x) :: es => findings room d x ++ entryFindings room d es

/-- What is wrong with the values of entries of which each key demands something, with the places
of the keys among the keywords. -/
def keywordFindings (room : Nat) : List (CodeText × Document) → List (Nat × List Finding)
  | [] => []
  | (key, x) :: es =>
    (rankOf key, findings room (demandOf key) x) :: keywordFindings room es

end

/-! ## 4. The verdict -/

/-- How deep a value may be nested for a report about it.  The report shows the value, three calls for each level
within the limit of the runtime; the number was calibrated like those above. -/
def maxShownDepth : Nat := 329

/-- The failure of a schema of a name that a finding means. -/
def Finding.fault (name : String) : Finding → Fault
  | invalid depth => if maxShownDepth < depth then .tooDeep else .refused (.badSchema name)
  | flaw .malformed => .refused (.badSchema name)
  | flaw .wideCount => .wideIndex
  | flaw (.longNumeral digits) => .refused (.longNumeral digits)
  | flaw .twoAlphabets => .refused .twoAlphabets
  | flaw .wideLook => .wideLook
  | flaw .tooDeep => .tooDeep

/-- Whether a document is a valid schema. -/
def isSchema (v : Document) : Bool := (findings fullRoom .schema v).isEmpty

/-- Passes a document that is a valid schema; the first finding is the failure of another one. -/
def checkSchema (name : String) (v : Document) : Except Fault Unit :=
  match findings fullRoom .schema v with
  | [] => .ok ()
  | f :: _ => .error (f.fault name)

theorem checkSchema_eq_ok_iff {name : String} {v : Document} :
    checkSchema name v = .ok () ↔ isSchema v = true := by
  unfold checkSchema isSchema
  split <;> simp [*]

example : isSchema (.fields [("type", .list [.string "null", .string "null"])]) = false := by
  decide +kernel

example : isSchema (.fields [("not", .fields [("minimum", .int (-1)), ("unknown", .null)])]) = true := by
  decide +kernel

end Holdings.Document
