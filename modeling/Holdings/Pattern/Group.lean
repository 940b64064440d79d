/-
# Groups of a pattern

What has been read of a group that is still open: the alternatives that are complete, the pieces of
the one at hand, and how the group ends.  From the pieces only two things matter later: how long a
match can be, and whether the last piece can be repeated.
-/
import Holdings.Pattern.Extent
import Holdings.Pattern.Flaw

namespace Holdings.Pattern

/-- How a piece takes a count behind it. -/
inductive Repeating where
  /-- As a part that can come several times. -/
  | free
  /-- Not, for it is a place. -/
  | place
  /-- Not, for it has a count already. -/
  | counted
  deriving DecidableEq, Repr, Inhabited

/-- A part of an alternative. -/
structure Piece where
  extent : Extent
  repeating : Repeating
  deriving Inhabited

/-- What kind of group is open. -/
inductive Bracket where
  /-- The whole pattern. -/
  | whole
  /-- A group that can be referred to. -/
  | capture (index : Nat)
  /-- A group that cannot. -/
  | plain
  /-- A look ahead. -/
  | ahead
  /-- A look behind, within another one or not. -/
  | behind (isOutermost : Bool)
  /-- A choice that depends on a group, its second branch begun or not. -/
  | choice (hasSecond : Bool)
  deriving DecidableEq, Repr, Inhabited

/-- A group that is still open. -/
structure Group where
  bracket : Bracket
  /-- Whether blanks and comments may stand between the pieces. -/
  isSpaced : Bool
  /-- The alternatives that are complete. -/
  complete : Option Extent
  /-- The pieces of the alternative at hand, without the last one. -/
  before : Extent
  last : Option Piece
  deriving Inhabited

namespace Group

/-- A group of which nothing has been read. -/
def opened (bracket : Bracket) (isSpaced : Bool) : Group :=
  ⟨bracket, isSpaced, none, Extent.zero, none⟩

/-- Whether nothing has been read of a group. -/
def isEmpty (g : Group) : Bool := g.complete.isNone && g.last.isNone

/-- The extent of the alternative at hand. -/
def branch (g : Group) : Extent :=
  match g.last with
  | some p => g.before.append p.extent
  | none => g.before

/-- The extent of all alternatives. -/
def extent (g : Group) : Extent :=
  match g.complete with
  | some e => e.either g.branch
  | none => g.branch

/-- The group with one more piece. -/
def push (g : Group) (p : Piece) : Group := { g with before := g.branch, last := some p }

/-- The group with a count for its last piece. -/
def count (g : Group) (least most : Nat) : Except Flaw Group :=
  match g.last with
  | some ⟨e, .free⟩ => .ok { g with last := some ⟨e.times least most, .counted⟩ }
  | _ => .error .malformed

/-- The group with another alternative; a choice has two at most. -/
def next (g : Group) : Except Flaw Group :=
  let g' := { g with complete := some g.extent, before := Extent.zero, last := none }
  match g.bracket with
  | .choice true => .error .malformed
  | .choice false => .ok { g' with bracket := .choice true }
  | _ => .ok g'

/-- The extent that the group has for what is around it. -/
def outerExtent (g : Group) : Extent :=
  match g.bracket with
  | .whole | .capture _ | .plain | .choice true => g.extent
  | .ahead | .behind _ => Extent.zero
  | .choice false => g.extent.optional

end Group

end Holdings.Pattern
