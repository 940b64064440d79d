/-
# Environment files

A file of `KEY=value` lines, with or without a byte order mark in front.  A line may start with
`export`, may hold blanks around the sign, and may end in a comment after a blank and `#`.  A value
in single or double quotes may run over several lines and has escapes: a backslash takes the
character behind it along, so the closing quote is the first one that none has taken; but a line
within quotes does not end in a backslash.  A key without a sign is named but not set.

What fits none of this is skipped, from where it stops fitting to the end of that line, and the
reader of the file is told the line where it began (`Statement.unreadable`).  The blanks and empty
lines in front of a statement belong to it, so that is where it begins.

Values may refer to variables as `$` and a name in braces, with a default after `:-`; the values of
the file itself come before those of the environment.
-/
import Holdings.Value
import Holdings.Text.Blank
import Holdings.Text.Digits

namespace Holdings.EnvFile

open Holdings.Text

/-! ## 1. Parts of a line -/

/-- A part that was read and what follows it, or what follows where reading stopped. -/
abbrev Read (α : Type) := Except (List Char) (α × List Char)

/-- The rest after the word `export` and blanks, if it stands in front. -/
def skipExport (cs : List Char) : List Char :=
  let word := "export".toList
  let rest := cs.drop word.length
  if cs.take word.length = word ∧ (rest.head?.map isInnerBlank).getD false then
    rest.dropWhile isInnerBlank
  else cs

/-- Whether a character may stand in a key without quotes. -/
def isKeyChar (c : Char) : Bool := c != '=' && c != '#' && !isBlank c

/-- A key, in single quotes or not; a comment has none. -/
def readKey : List Char → Read (Option (List Char))
  | '#' :: cs => .ok (none, '#' :: cs)
  | '\'' :: cs =>
    let (key, rest) := cs.span (· != '\'')
    match key, rest with
    | c :: key, _ :: rest => .ok (some (c :: key), rest)
    | _, _ => .error ('\'' :: cs)
  | cs =>
    let (key, rest) := cs.span isKeyChar
    if key.isEmpty then .error cs else .ok (some key, rest)

/-- The text up to the closing quote, and what follows the quote.  A backslash takes the character
behind it along, which is no line feed. -/
def splitAtQuote (q : Char) : List Char → Option (List Char × List Char)
  | [] => none
  | '\\' :: c :: cs =>
    if c = '\n' then none else (splitAtQuote q cs).map fun p => ('\\' :: c :: p.1, p.2)
  | c :: cs =>
    if c = q then some ([], cs) else (splitAtQuote q cs).map fun p => (c :: p.1, p.2)

/-- The character that an escape in single quotes stands for. -/
def singleEscape? (c : Char) : Option Char := if c = '\\' ∨ c = '\'' then some c else none

/-- The character that an escape in double quotes stands for. -/
def doubleEscape? (c : Char) : Option Char :=
  [('\\', '\\'), ('\'', '\''), ('"', '"'), ('a', '\x07'), ('b', '\x08'), ('f', '\x0c'),
    ('n', '\n'), ('r', '\r'), ('t', '\t'), ('v', '\x0b')].lookup c

/-- The text with its escapes replaced. -/
def unescape (escape? : Char → Option Char) : List Char → List Char
  | [] => []
  | [c] => [c]
  | c :: d :: cs =>
    match if c = '\\' then escape? d else none with
    | some e => e :: unescape escape? cs
    | none => c :: unescape escape? (d :: cs)

/-- A value in quotes, which stand in front of the text. -/
def readQuoted (q : Char) (escape? : Char → Option Char) (cs : List Char) : Read (List Char) :=
  match splitAtQuote q cs with
  | some (value, rest) => .ok (unescape escape? value, rest)
  | none => .error (q :: cs)

/-- The text up to a comment, which is a `#` behind a blank. -/
def cutComment : List Char → List Char
  | [] => []
  | c :: cs =>
    if isBlank c ∧ (cs.dropWhile isBlank).head? = some '#' then [] else c :: cutComment cs

/-- A value: in quotes, or the rest of the line up to a comment. -/
def readValue : List Char → Read (List Char)
  | '\'' :: cs => readQuoted '\'' singleEscape? cs
  | '"' :: cs => readQuoted '"' doubleEscape? cs
  | cs =>
    let (line, rest) := cs.span (!isLineEnd ·)
    .ok (trimEnd (cutComment line), rest)

/-- The rest after a comment, if there is one before the end of the line. -/
def skipComment (cs : List Char) : List Char :=
  let rest := cs.dropWhile isInnerBlank
  if rest.head? = some '#' then rest.dropWhile (!isLineEnd ·) else cs

/-- The rest after the end of the line, which must come next. -/
def readLineEnd (cs : List Char) : Read Unit :=
  match cs.dropWhile isInnerBlank with
  | [] => .ok ((), [])
  | c :: rest => if isLineEnd c then .ok ((), rest) else .error cs

/-- The rest after the line. -/
def skipLine (cs : List Char) : List Char := (cs.dropWhile (!isLineEnd ·)).drop 1

/-! ## 2. Statements -/

/-- A key and its value, if it is set. -/
abbrev Binding := String × Option String

/-- What a line binds, and what follows it. -/
def readBinding (cs : List Char) : Except (List Char) (Option Binding × List Char) := do
  let (key, rest) ← readKey (skipExport cs)
  let (value, rest) ←
    match rest.dropWhile isInnerBlank with
    | '=' :: rest => (readValue (rest.dropWhile isInnerBlank)).map fun p => (some p.1, p.2)
    | rest => .ok (none, rest)
  let (_, rest) ← readLineEnd (skipComment rest)
  return (key.map fun k => (String.ofList k, value.map String.ofList), rest)

/-- What stands in a file beside comments. -/
inductive Statement where
  | binding (b : Binding)
  /-- A statement that does not fit, with the line where it begins. -/
  | unreadable (line : Nat)
  deriving DecidableEq, Repr, Inhabited

/-- What a statement binds. -/
def Statement.binding? : Statement → Option Binding
  | binding b => some b
  | unreadable _ => none

/-- The line of a statement that does not fit. -/
def Statement.unreadableLine? : Statement → Option Nat
  | binding _ => none
  | unreadable line => some line

/-- The statement in front of a text that starts in a line, and what follows it. -/
def readStatement (line : Nat) (cs : List Char) : Option Statement × List Char :=
  match readBinding (cs.dropWhile isBlank) with
  | .ok (b, rest) => (b.map .binding, rest)
  | .error stopped => (some (.unreadable line), skipLine stopped)

/-- The statements of a text that starts in a line. -/
def readStatements (line : Nat) (cs : List Char) : List Statement :=
  if (cs.dropWhile isBlank).isEmpty then []
  else
    let (statement, rest) := readStatement line cs
    if rest.length < cs.length then
      statement.toList ++ readStatements (line + (cs.count '\n' - rest.count '\n')) rest
    else statement.toList
termination_by cs.length

/-- The text without a byte order mark in front. -/
def dropByteOrderMark (cs : List Char) : List Char :=
  if cs.head? = some '\ufeff' then cs.drop 1 else cs

/-- Line feeds for all ends of lines. -/
def normalizeLines : List Char → List Char
  | [] => []
  | '\r' :: '\n' :: cs => '\n' :: normalizeLines cs
  | '\r' :: cs => '\n' :: normalizeLines cs
  | c :: cs => c :: normalizeLines cs

/-! ## 3. References -/

/-- A reference: the name, the default and what follows the closing brace. -/
def readReference (cs : List Char) : Option (List Char × List Char × List Char) :=
  let (name, rest) := cs.span fun c => c != '\x7d' && c != ':'
  match rest with
  | ':' :: '-' :: rest =>
    let (fallback, rest) := rest.span (· != '\x7d')
    match rest with
    | [] => none
    | _ :: rest => some (name, fallback, rest)
  | '\x7d' :: rest => some (name, [], rest)
  | _ => none

/-- The text with every reference replaced by what it refers to. -/
def expand (value? : String → Option String) : List Char → List Char
  | [] => []
  | c :: cs =>
    match if c = '$' ∧ cs.head? = some '\x7b' then readReference (cs.drop 1) else none with
    | some (name, fallback, rest) =>
      let text := ((value? (String.ofList name)).map String.toList).getD fallback
      if rest.length < cs.length then text ++ expand value? rest else text
    | none => c :: expand value? cs
termination_by cs => cs.length

/-- The bindings with their references replaced, each by the values before it or by `outer?`. -/
def resolveReferences (outer? : String → Option String) (bindings : List Binding) : List Binding :=
  bindings.foldl (fun done b =>
    let value? := fun name =>
      match done.lookup name with
      | some v => some (v.getD "")
      | none => outer? name
    Value.putEntry b.1 (b.2.map fun v => String.ofList (expand value? v.toList)) done) []

/-- The statements of a file. -/
def statements (text : String) : List Statement :=
  readStatements 1 (normalizeLines (dropByteOrderMark text.toList))

/-- The keys that a file names, with their values; `outer?` are the variables around it. -/
def read (outer? : String → Option String) (text : String) : List Binding :=
  resolveReferences outer? ((statements text).filterMap Statement.binding?)

/-- What the reader of a file is told about it. -/
def notices (text : String) : List String :=
  ((statements text).filterMap Statement.unreadableLine?).map fun line =>
    "python-dotenv could not parse statement starting at line " ++ ofNat line

end Holdings.EnvFile
