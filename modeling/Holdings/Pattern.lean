/-
# Well-formed patterns

A pattern is read mark by mark.  What has been read so far are the groups that are still open,
innermost first (`Pattern/Group.lean`), and what matters for the pattern as a whole (`Reading`).

A pattern can be used when every piece is well formed, when every group is closed, and when

* something stands in front of each count, neither a place nor a part that is counted already;
* a reference goes to a group that is closed, and from behind a look to one in front of it;
* a look behind has a fixed length, which is not too large;
* names of groups are not used twice, and a condition asks for a group that exists;
* flags for the whole pattern stand in front of it, choose at most one alphabet, and make
  it a template only if it has no counts.

Looks behind, templates and alphabets are judged when everything has been read, so any other
flaw is found before one of these (`Reading.finish`).
-/
import Holdings.Pattern.Escape
import Holdings.Pattern.Group
import Holdings.Text.Integer

namespace Holdings.Pattern

open Holdings.Text

/-! ## 1. What has been read -/

/-- A group that can be referred to, with its extent once it is closed. -/
structure Capture where
  name : Option String
  extent : Option Extent
  deriving Inhabited

/-- A pattern that has been read in part. -/
structure Reading where
  group : Group
  around : List Group
  captures : List Capture
  /-- Within a look behind: how many groups there were in front of it. -/
  visible : Option Nat
  /-- The highest group that a condition asks for. -/
  demanded : Nat
  /-- The flags for the whole pattern. -/
  flags : List Char
  /-- Whether there is a count. -/
  hasCount : Bool
  /-- The extents of the looks behind. -/
  looks : List Extent
  /-- How many groups may be open within each other. -/
  room : Nat
  deriving Inhabited

namespace Reading

/-- A pattern of which nothing has been read. -/
def start (room : Nat) : Reading := ⟨Group.opened .whole false, [], [], none, 0, [], false, [], room⟩

/-! ## 2. Pieces -/

/-- One more piece. -/
def push (r : Reading) (p : Piece) : Reading := { r with group := r.group.push p }

/-- One more piece that can be repeated. -/
def pushExtent (r : Reading) (e : Extent) : Reading := r.push ⟨e, .free⟩

/-- The extent of a group that can be referred to from here. -/
def refer? (r : Reading) (index : Nat) : Option Extent :=
  if index ≤ r.visible.getD index then (r.captures[index - 1]?).bind Capture.extent else none

/-- The number of a group by its name. -/
def indexOf? (r : Reading) (name : String) : Option Nat :=
  (r.captures.findIdx? fun c => c.name = some name).map (· + 1)

/-- One more piece that an escape stands for. -/
def pushAtom (r : Reading) : Atom → Except Flaw Reading
  | .char _ => .ok (r.pushExtent Extent.one)
  | .family => .ok (r.pushExtent Extent.one)
  | .place => .ok (r.push ⟨Extent.zero, .place⟩)
  | .group index => (required (r.refer? index)).map r.pushExtent

/-- A count for the last piece; a mark behind it may say which match is tried first. -/
def count (r : Reading) (least most : Nat) (rest : List Mark) :
    Except Flaw (Reading × List Mark) := do
  let g ← r.group.count least most
  return ({ r with group := g, hasCount := true },
    if rest.head? = some (.plain '?') ∨ rest.head? = some (.plain '+') then rest.drop 1 else rest)

/-! ## 3. Groups -/

/-- A group within the one at hand. -/
def enter (r : Reading) (bracket : Bracket) (isSpaced : Bool) : Except Flaw Reading :=
  if r.room ≤ r.around.length then .error .tooDeep
  else .ok { r with group := Group.opened bracket isSpaced, around := r.group :: r.around }

/-- A group that can be referred to. -/
def enterCapture (r : Reading) (name : Option String) : Except Flaw Reading := do
  demand !(name.isSome && r.captures.any fun c => c.name = name)
  let r' : Reading := { r with captures := r.captures ++ [⟨name, none⟩] }
  r'.enter (.capture r'.captures.length) r.group.isSpaced

/-- A look behind. -/
def enterBehind (r : Reading) : Except Flaw Reading :=
  let r' : Reading := { r with visible := some (r.visible.getD r.captures.length) }
  r'.enter (.behind r.visible.isNone) r.group.isSpaced

/-- A choice that depends on a group. -/
def enterChoice (r : Reading) (index : Nat) : Except Flaw Reading := do
  demand (r.visible.isNone || (r.refer? index).isSome)
  let r' : Reading := { r with demanded := max r.demanded index }
  r'.enter (.choice false) r.group.isSpaced

/-- The numbers of groups stay below this one. -/
def groupLimit : Int := 1073741823

/-- The group that the condition of a choice names, by its name or its number. -/
def condition (r : Reading) (text : List Char) : Except Flaw Nat :=
  if isIdentifier text then required (r.indexOf? (String.ofList text))
  else do
    let n ← required (readInteger? text)
    demand (0 < n && n < groupLimit)
    return n.toNat

/-- Flags for a group that they open, or for the whole pattern. -/
def applyFlags (r : Reading) (flags : Flags) : Except Flaw Reading :=
  let isSpaced := (r.group.isSpaced || flags.on.contains 'x') && !flags.off.contains 'x'
  if !flags.isGlobal then r.enter .plain isSpaced
  else do
    demand (r.around.isEmpty && r.group.isEmpty)
    return { r with group := { r.group with isSpaced := isSpaced }, flags := r.flags ++ flags.on }

/-- What an opening parenthesis begins. -/
def openGroup (r : Reading) : List Mark → Except Flaw (Reading × List Mark)
  | .plain '?' :: .plain 'P' :: .plain '<' :: ms => do
    let (name, rest) ← readName '>' ms
    return (← r.enterCapture (some name), rest)
  | .plain '?' :: .plain 'P' :: .plain '=' :: ms => do
    let (name, rest) ← readName ')' ms
    let e ← required ((r.indexOf? name).bind r.refer?)
    return (r.pushExtent e, rest)
  | .plain '?' :: .plain ':' :: ms => do return (← r.enter .plain r.group.isSpaced, ms)
  | .plain '?' :: .plain '>' :: ms => do return (← r.enter .plain r.group.isSpaced, ms)
  | .plain '?' :: .plain '#' :: ms => do return (r, (← readUntil ')' ms).2)
  | .plain '?' :: .plain '=' :: ms => do return (← r.enter .ahead r.group.isSpaced, ms)
  | .plain '?' :: .plain '!' :: ms => do return (← r.enter .ahead r.group.isSpaced, ms)
  | .plain '?' :: .plain '<' :: .plain '=' :: ms => do return (← r.enterBehind, ms)
  | .plain '?' :: .plain '<' :: .plain '!' :: ms => do return (← r.enterBehind, ms)
  | .plain '?' :: .plain '(' :: ms => do
    let (text, rest) ← readPlainUntil ')' ms
    return (← r.enterChoice (← r.condition text), rest)
  | .plain '?' :: ms => do
    let (flags, rest) ← readFlags ms
    return (← r.applyFlags flags, rest)
  | ms => do return (← r.enterCapture none, ms)

/-! ## 4. The end -/

/-- The alphabets that are chosen for the whole pattern must agree. -/
def checkAlphabets (r : Reading) : Except Flaw Unit :=
  if r.flags.contains 'a' && r.flags.contains 'u' then .error .twoAlphabets else .ok ()

/-- The end of the group at hand.  The whole pattern has no closing parenthesis: at such a one it
is over, and malformed. -/
def closeGroup (r : Reading) : Except Flaw Reading :=
  match r.around with
  | [] => do
    r.checkAlphabets
    .error .malformed
  | outer :: around =>
    let r' : Reading := { r with group := outer, around := around }
    let r' : Reading :=
      match r.group.bracket with
      | .capture index =>
        { r' with
          captures := r.captures.modify (index - 1) fun c => { c with extent := some r.group.extent } }
      | .behind isOutermost =>
        { r' with
          looks := r.group.extent :: r.looks, visible := if isOutermost then none else r.visible }
      | _ => r'
    .ok (r'.pushExtent r.group.outerExtent)

/-- The length from which a look behind goes back too far. -/
def lookLimit : Nat := 2147483648

/-- What is judged when everything has been read. -/
def finish (r : Reading) : Except Flaw Unit := do
  demand r.around.isEmpty
  r.checkAlphabets
  demand (r.demanded ≤ r.captures.length)
  demand (r.looks.all Extent.isFixed && !(r.hasCount && r.flags.contains templateFlag))
  if r.looks.any fun e => lookLimit ≤ e.least then .error .wideLook

/-! ## 5. Marks -/

/-- Whether a character is blank where blanks may stand between pieces. -/
def isBlankMark (c : Char) : Bool := " \t\n\r\x0b\x0c".toList.contains c

/-- What follows a comment that ends with its line. -/
def skipLine (ms : List Mark) : Except Flaw (List Mark) :=
  let (comment, rest) := ms.span (· != .plain '\n')
  if comment.contains .broken then .error .malformed else .ok (rest.drop 1)

/-- What a plain character begins. -/
def nextPlain (r : Reading) (c : Char) (ms : List Mark) : Except Flaw (Reading × List Mark) :=
  if r.group.isSpaced && isBlankMark c then .ok (r, ms)
  else if r.group.isSpaced && c = '#' then (skipLine ms).map fun rest => (r, rest)
  else
    match c with
    | '[' => (skipSet ms).map fun rest => (r.pushExtent Extent.one, rest)
    | '(' => r.openGroup ms
    | ')' => r.closeGroup.map fun r => (r, ms)
    | '|' => r.group.next.map fun g => ({ r with group := g }, ms)
    | '^' => .ok (r.push ⟨Extent.zero, .place⟩, ms)
    | '$' => .ok (r.push ⟨Extent.zero, .place⟩, ms)
    | '?' => r.count 0 1 ms
    | '*' => r.count 0 Extent.unlimited ms
    | '+' => r.count 1 Extent.unlimited ms
    | '\x7b' => do
      match ← readCount ms with
      | .brace => return (r.pushExtent Extent.one, ms)
      | .range least most rest => r.count least most rest
    | _ => .ok (r.pushExtent Extent.one, ms)

/-- What a mark begins, and what follows that. -/
def next (r : Reading) : Mark → List Mark → Except Flaw (Reading × List Mark)
  | .plain c, ms => r.nextPlain c ms
  | .escaped c, ms => do
    let (atom, rest) ← readEscape c ms
    return (← r.pushAtom atom, rest)
  | .half _, ms => .ok (r.pushExtent Extent.one, ms)
  | .broken, _ => .error .malformed

/-- The pattern after all marks.  Each step takes one mark at least, so as many steps as there are
marks will do. -/
def run : Nat → Reading → List Mark → Except Flaw Reading
  | _, r, [] => .ok r
  | 0, _, _ :: _ => .error .malformed
  | steps + 1, r, m :: ms => do
    let (r, rest) ← r.next m ms
    run steps r rest

end Reading

/-- Passes a text that can be used as a pattern, where so many groups may be open within each
other. -/
def check (room : Nat) (t : CodeText) : Except Flaw Unit := do
  let ms := marks t
  ((← (Reading.start room).run ms.length ms)).finish

example : (check 9 (.ofString "^(a|b)*(?P<n>c)(?P=n)$") matches .ok ()) = true := by
  decide +kernel

example : (check 9 (.ofString "a\x7b4294967295\x7d(") matches .error .wideCount) = true := by
  decide +kernel

end Holdings.Pattern
