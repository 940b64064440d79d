/-
# How long a match can be

The least and the greatest number of characters that a part of a pattern can match.  Only these
two numbers decide whether a part has a fixed length, which looking behind requires.

Lengths are not followed beyond `unlimited`, which stands for having no limit; so a part whose least
length would reach it has no fixed length any more.
-/
namespace Holdings.Pattern

/-- The lengths of the matches of a part. -/
structure Extent where
  least : Nat
  most : Nat
  deriving DecidableEq, Repr, Inhabited

namespace Extent

/-- The length that stands for having no limit. -/
def unlimited : Nat := 4294967295

/-- Two lengths, as far as lengths are followed. -/
def capped (least most : Nat) : Extent := ⟨min least (unlimited - 1), min most unlimited⟩

/-- No characters. -/
def zero : Extent := ⟨0, 0⟩

/-- One character. -/
def one : Extent := ⟨1, 1⟩

/-- One part after another. -/
def append (a b : Extent) : Extent := capped (a.least + b.least) (a.most + b.most)

/-- One part or another. -/
def either (a b : Extent) : Extent := ⟨min a.least b.least, max a.most b.most⟩

/-- A part or nothing. -/
def optional (a : Extent) : Extent := ⟨0, a.most⟩

/-- A part so many times; what matches no characters stays short however often it comes. -/
def times (a : Extent) (least most : Nat) : Extent := capped (a.least * least) (a.most * most)

/-- Whether every match has the same length. -/
def isFixed (a : Extent) : Bool := a.least = a.most

end Extent

end Holdings.Pattern
