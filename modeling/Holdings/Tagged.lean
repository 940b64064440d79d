/-
# Objects that never change

Two objects of the same content are still two.  For objects whose content never changes a number
beside the content tells them apart, and no store of cells is needed.
-/
namespace Holdings

/-- An object that never changes: its content, and the number that tells it from others. -/
structure Tagged (α : Type) where
  tag : Nat
  val : α
  deriving DecidableEq, Repr, Inhabited

end Holdings
