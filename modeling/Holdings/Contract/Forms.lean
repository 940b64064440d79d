/-
# The contracts of quantities and holdings

The two forms of data that entities are written in and read from.  Each contract stands on its own:
the one for holdings spells out the form of a quantity again, as the published documents
do (`Contract/Documents.lean`).  Neither asks whether an amount is in range or a code is valid; the
entities themselves do.
-/
import Holdings.Contract.Schema

namespace Holdings.Contract

/-- The form of a symbol, as the contract for quantities shares it. -/
def symbolForm : Schema :=
  .record [("code", .text 7), ("precision", .integer (some 0) (some 255))]

/-- The form of a quantity. -/
def quantityForm : Schema :=
  .record [("amount", .integer none none), ("symbol", symbolForm)]

/-- The form of a holding. -/
def holdingForm : Schema :=
  .record [
    ("quantity", .record [
      ("amount", .integer none none),
      ("symbol", .record [
        ("code", .text 7),
        ("precision", .integer (some 0) (some 255))])]),
    ("owner", .record [
      ("value", .integer (some 0) (some 18446744073709551615))])]

end Holdings.Contract
