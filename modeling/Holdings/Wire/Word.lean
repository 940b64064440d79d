/-
# Integers of fixed width

A word format says how many bytes an integer takes, in which order they stand, and whether the
highest bit is a sign.  An integer in the range of the format is written as its residue modulo
`256 ^ width`, so a negative one appears in two's complement.

Reading checks that enough bytes stand from the offset to the end.  An offset below zero counts
from the end; the word must then lie within the data and not reach past the end of it.  An offset
below the smallest signed word is not looked at.

Both may fail for a message that cannot be put together.  Writing has one for a value that does not
fit, and shows the value in it.  Reading has one ready before the length is checked, which tells the
offset and the number of bytes from there on.
-/
import Holdings.Wire.Bytes
import Holdings.Fault

namespace Holdings.Wire

/-! ## 1. Formats -/

/-- The order of the bytes of a word. -/
inductive ByteOrder where
  | little
  | big
  deriving DecidableEq, Repr, Inhabited

/-- The number of bytes of a word. -/
inductive Width where
  | one
  | two
  | four
  | eight
  deriving DecidableEq, Repr, Inhabited

/-- The number of bytes that a width stands for. -/
def Width.bytes : Width → Nat
  | one => 1
  | two => 2
  | four => 4
  | eight => 8

/-- How an integer is written in a fixed number of bytes. -/
structure WordFormat where
  order : ByteOrder
  signed : Bool
  width : Width
  deriving DecidableEq, Repr, Inhabited

namespace WordFormat

/-- The signed word of eight bytes that amounts are written in. -/
def int64 : WordFormat := ⟨.little, true, .eight⟩

/-- The unsigned word of eight bytes that symbols and identities are written in. -/
def uint64 : WordFormat := ⟨.little, false, .eight⟩

/-- The number of bytes. -/
def size (f : WordFormat) : Nat := f.width.bytes

/-- The number of words of the format. -/
def modulus (f : WordFormat) : Nat := Nat.pow 256 f.size

/-- The smallest integer of the format. -/
def lowest (f : WordFormat) : Int := if f.signed then -((f.modulus / 2 : Nat) : Int) else 0

/-- The largest integer of the format. -/
def highest (f : WordFormat) : Int :=
  if f.signed then ((f.modulus / 2 : Nat) : Int) - 1 else (f.modulus : Int) - 1

/-- Whether an integer is in the range of the format. -/
def fits (f : WordFormat) (n : Int) : Bool := f.lowest ≤ n && n ≤ f.highest

/-! ## 2. Names -/

/-- The letter of a width, small for signed words and capital for unsigned ones. -/
def letter (f : WordFormat) : Char :=
  match f.width, f.signed with
  | .one, true => 'b'
  | .one, false => 'B'
  | .two, true => 'h'
  | .two, false => 'H'
  | .four, true => 'i'
  | .four, false => 'I'
  | .eight, true => 'q'
  | .eight, false => 'Q'

/-- The mark of a byte order. -/
def mark (f : WordFormat) : Char :=
  match f.order with
  | .little => '<'
  | .big => '>'

/-- The name of a format: the mark of the order and the letter of the width. -/
def label (f : WordFormat) : String := String.ofList [f.mark, f.letter]

/-- Every format. -/
def all : List WordFormat :=
  [ByteOrder.little, .big].flatMap fun o =>
    [true, false].flatMap fun s => [Width.one, .two, .four, .eight].map (⟨o, s, ·⟩)

/-- The format of a name. -/
def ofLabel? (s : String) : Option WordFormat := all.find? fun f => f.label = s

theorem ofLabel?_label (f : WordFormat) : ofLabel? f.label = some f := by
  rcases f with ⟨o, s, w⟩
  cases o <;> cases s <;> cases w <;> decide +kernel

/-! ## 3. Why an integer does not fit -/

/-- The range of a format, under a name. -/
def rangeText (f : WordFormat) (name : String) : String :=
  name ++ " format requires " ++ Text.ofInt f.lowest ++ " <= number <= " ++ Text.ofInt f.highest

/-- The name of the format in a complaint about the range: the smallest formats have names of
their own, the others are called by their letter. -/
def rangeName (f : WordFormat) : String :=
  match f.order, f.width, f.signed with
  | _, .one, true => "byte"
  | _, .one, false => "ubyte"
  | .little, .two, true => "short"
  | .little, .two, false => "ushort"
  | _, _, _ => String.ofList ['\'', f.letter, '\'']

/-- Whether the argument is read into an unsigned machine word before it is compared with the
range, so that negative arguments do not get that far. -/
def readsUnsigned (f : WordFormat) : Bool :=
  match f.order, f.width, f.signed with
  | _, .four, false => true
  | .big, .two, false => true
  | _, _, _ => false

/-- Why an integer outside the range cannot be written. -/
def complaint (f : WordFormat) (n : Int) : String :=
  let machine := if f.readsUnsigned then uint64 else int64
  if f.width = .eight then
    match f.order with
    | .little => "argument out of range"
    | .big => "int too large to convert"
  else if machine.fits n then f.rangeText f.rangeName
  else "argument out of range"

/-! ## 4. Writing -/

/-- The bytes of a number in the order of the format. -/
def arrange (f : WordFormat) (bs : Bytes) : Bytes :=
  match f.order with
  | .little => bs
  | .big => bs.reverse

theorem arrange_arrange (f : WordFormat) (bs : Bytes) : f.arrange (f.arrange bs) = bs := by
  unfold arrange
  cases f.order <;> simp

/-- The bytes of an integer in the range of the format. -/
def encode? (f : WordFormat) (n : Int) : Option Bytes :=
  if f.fits n then some (f.arrange (digits f.size (n % f.modulus).toNat)) else none

/-- The refusal of a value, which is shown in it. -/
def refuse (f : WordFormat) (v : Datum) (why : String) : Except Fault Bytes := do
  let value ← v.shown.written
  throw (.aborted (.unencodable value f.label why))

/-- The bytes of a value, a truth value counting as zero or one. -/
def encode (f : WordFormat) (v : Datum) : Except Fault Bytes :=
  match v.asInt? with
  | none => f.refuse v "required argument is not an integer"
  | some n =>
    match f.encode? n with
    | some bs => .ok bs
    | none => f.refuse v (f.complaint n)

/-! ## 5. Reading -/

/-- The integer that the bytes of a word stand for. -/
def decodeBytes (f : WordFormat) (bs : Bytes) : Int :=
  let n := value (f.arrange bs)
  if f.signed && f.modulus / 2 ≤ n then (n : Int) - f.modulus else n

/-- Where a word at an offset starts: offsets below zero count from the end. -/
def start? (f : WordFormat) (length : Nat) (offset : Int) : Option Nat :=
  if 0 ≤ offset then some offset.toNat
  else if 0 < offset + f.size ∨ length + offset < 0 then none
  else some (length + offset).toNat

/-- Whether an offset can be told, with the number of bytes from there on.  Within the data, counted
from either end, both are counts of bytes, and these can always be written. -/
def isTellable (length : Nat) (offset : Int) : Bool :=
  offset.natAbs ≤ length || (Text.isWritable offset && Text.isWritable (length - offset))

/-- The integer at an offset, and the offset behind it. -/
def decode (f : WordFormat) (data : Bytes) (offset : Int) : Except Fault (Int × Int) := do
  let have_ := (data.length : Int) - offset
  requireWritable (isTellable data.length offset)
  liftAbort (Abort.require (f.size ≤ have_) (.truncated f.size offset have_))
  if offset < Amount.wordMin then .error .wideIndex
  else
    match f.start? data.length offset with
    | none => .error .badSpan
    | some i => .ok (f.decodeBytes ((data.drop i).take f.size), offset + f.size)

end WordFormat

end Holdings.Wire
