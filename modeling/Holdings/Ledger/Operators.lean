/-
# Operators

Operators between values.  Two quantities or two holdings follow `Quantity/Arithmetic.lean` and
`Holding/Arithmetic.lean`; a quantity and an integer are multiplied in either order, and the quantity
is divided by the integer; every other pair in which one of them stands is misuse, except that it
may be asked whether they are equal: they are not.  Plain data follows `Value/Arithmetic.lean` and
`Value/Comparison.lean`.

A binary operator gives a new object.  Its in-place form changes the left operand and gives it back,
where there is such a form: adding and subtracting alike, multiplying and dividing a quantity by an
integer, and making a list longer.  Elsewhere the in-place form is the binary one, and the variable
is bound to its result.
-/
import Holdings.Ledger.Construction
import Holdings.Holding.Arithmetic
import Holdings.Value.Arithmetic

namespace Holdings.Ledger

open Act

/-- The binary operators. -/
inductive BinaryOp where
  | add
  | sub
  | mul
  | div
  | floorDiv
  | compare (c : Comparison)
  deriving DecidableEq, Repr, Inhabited

/-! ## 1. Results as objects -/

/-- A new quantity with the symbol object of another. -/
def newLike (r : Nat) (q : Quantity) : Act Item := do
  let c ← quantityCell r
  return .object (.quantity (← newQuantity { c with amount := q.amount }))

/-- A new holding with the symbol and owner objects of another. -/
def newHoldingLike (r : Nat) (h : Holding) : Act Item := do
  let c ← holdingCell r
  let symbol := (← quantityCell c.quantity).symbol
  let q ← newQuantity ⟨h.quantity.amount, symbol⟩
  return .object (.holding (← newHolding ⟨q, c.owner⟩))

/-- The quantity itself, with the amount of another. -/
def assign (r : Nat) (q : Quantity) : Act Item := do
  writeAmount r q.amount
  return .object (.quantity r)

/-- The holding itself, with the amount of another. -/
def assignHolding (r : Nat) (h : Holding) : Act Item := do
  let c ← holdingCell r
  writeAmount c.quantity h.quantity.amount
  return .object (.holding r)

/-! ## 2. Quantities and holdings -/

/-- The sum or the difference of two quantities. -/
def combine (subtract : Bool) (q r : Quantity) : Except Abort Quantity :=
  if subtract then q.sub r else q.add r

/-- The sum or the difference of two holdings. -/
def combineHoldings (subtract : Bool) (h k : Holding) : Except Abort Holding :=
  if subtract then h.sub k else h.add k

/-- The multiple or the part of a quantity by an integer. -/
def rescale (divide : Bool) (q : Quantity) (k : Int) : Except Fault Quantity :=
  if divide then q.div k else q.mul k

/-- An operator between two quantities. -/
def onQuantities (op : BinaryOp) (r s : Nat) : Act Item := do
  let a ← quantity r
  let b ← quantity s
  match op with
  | .add => newLike r (← performAbort (combine false a b))
  | .sub => newLike r (← performAbort (combine true a b))
  | .mul => throw .wrongKind
  | .div | .floorDiv => return .int (← performAbort (a.ratio b))
  | .compare c => return .bool (← performAbort (a.compare c b))

/-- An operator between two holdings. -/
def onHoldings (op : BinaryOp) (r s : Nat) : Act Item := do
  let a ← holding r
  let b ← holding s
  match op with
  | .add => newHoldingLike r (← performAbort (combineHoldings false a b))
  | .sub => newHoldingLike r (← performAbort (combineHoldings true a b))
  | .mul | .div | .floorDiv => throw .wrongKind
  | .compare c => return .bool (← performAbort (a.compare c b))

/-! ## 3. Other pairs and lists -/

/-- Whether two objects that are neither both quantities nor both holdings are equal: identities
and symbols by content, settings by their fields. -/
def sameContent (h : Heap) (r s : Ref) : Bool :=
  match h.entity r, h.entity s with
  | .symbol a, .symbol b => a == b
  | .identity a, .identity b => a == b
  | .issuedSymbol a, .issuedSymbol b => a == b
  | .settings a, .settings b =>
    a.logLevel.equalPlain b.logLevel && a.logJson.equalPlain b.logJson
  | _, _ => false

/-- Whether two objects compare so. -/
def compareObjects (h : Heap) (c : Comparison) (r s : Ref) : Except Fault Bool :=
  match r, s with
  | .quantity r, .quantity s => liftAbort ((h.quantity r).compare c (h.quantity s))
  | .holding r, .holding s => liftAbort ((h.holding r).compare c (h.holding s))
  | r, s =>
    match c with
    | .eq => .ok (sameContent h r s)
    | .ne => .ok (!sameContent h r s)
    | _ => .error .wrongKind

/-- An operator between values of other kinds. -/
def onOthers (op : BinaryOp) (heap : Heap) (v w : Item) : Except Fault Item :=
  match op with
  | .add => v.add w
  | .sub => v.sub w
  | .mul => v.mul w
  | .div => v.div w
  | .floorDiv => v.floorDiv w
  | .compare c => (Value.compareWith (compareObjects heap) c v w).map .bool

/-- A binary operator. -/
def operate (op : BinaryOp) (v w : Item) : Act Item := do
  match v, w with
  | .object (.quantity r), .object (.quantity s) => onQuantities op r s
  | .object (.holding r), .object (.holding s) => onHoldings op r s
  | .object (.quantity r), .int k =>
    match op with
    | .mul => newLike r (← perform (rescale false (← quantity r) k))
    | .div | .floorDiv => newLike r (← perform (rescale true (← quantity r) k))
    | op => perform (onOthers op (← get).heap v w)
  | .int k, .object (.quantity r) =>
    match op with
    | .mul => newLike r (← perform (rescale false (← quantity r) k))
    | op => perform (onOthers op (← get).heap v w)
  | v, w => perform (onOthers op (← get).heap v w)

/-- What an operator in place makes of a list, if it changes lists at all. -/
def extend? (op : BinaryOp) (v w : Item) : Option (Except Fault Item) :=
  match op, v with
  | .add, .list xs =>
    some (w.elements?.elim (.error .wrongKind) fun ys => .ok (.list (xs ++ ys)))
  | .mul, .list _ => some (v.mul w)
  | _, _ => none

/-- An operator in its in-place form. -/
def operateInPlace (op : BinaryOp) (v w : Item) : Act Item := do
  match op, v, w with
  | .add, .object (.quantity r), .object (.quantity s) =>
    assign r (← performAbort (combine false (← quantity r) (← quantity s)))
  | .sub, .object (.quantity r), .object (.quantity s) =>
    assign r (← performAbort (combine true (← quantity r) (← quantity s)))
  | .mul, .object (.quantity r), .int k =>
    assign r (← perform (rescale false (← quantity r) k))
  | .div, .object (.quantity r), .int k =>
    assign r (← perform (rescale true (← quantity r) k))
  | .floorDiv, .object (.quantity r), .int k =>
    assign r (← perform (rescale true (← quantity r) k))
  | .add, .object (.holding r), .object (.holding s) =>
    assignHolding r (← performAbort (combineHoldings false (← holding r) (← holding s)))
  | .sub, .object (.holding r), .object (.holding s) =>
    assignHolding r (← performAbort (combineHoldings true (← holding r) (← holding s)))
  | op, v, w => operate op v w

/-- Unary minus. -/
def negate (v : Item) : Act Item := do
  match v with
  | .object (.quantity r) => newLike r (← performAbort (← quantity r).neg)
  | .object (.holding r) => newHoldingLike r (← performAbort (← holding r).neg)
  | .float x => return .float x.neg
  | v =>
    match v.asInt? with
    | some n => return .int (-n)
    | none => throw .wrongKind

/-! ## 4. Identity and number of distinct values -/

/-- Whether a value is plain data so small that there is only one object of it: null, truth values,
small integers, and texts and bytes of at most one unit. -/
def isShared : Item → Bool
  | .null => true
  | .bool _ => true
  | .int n => -5 ≤ n && n ≤ 256
  | .text s => s.length ≤ 1 && s.toList.all fun c => c.toNat < 256
  | .bytes bs => bs.length ≤ 1
  | _ => false

/-- Whether two values are one object.  Of plain data that may exist more than once the origin
decides. -/
def isSame (v w : Binding) : Bool :=
  match v.value, w.value with
  | .object r, .object s => r.isSame s
  | .object _, _ => false
  | _, .object _ => false
  | x, y =>
    if isShared x && isShared y then
      x.kindName (fun _ => "") == y.kindName (fun _ => "") &&
        Id.run (x.equal (fun _ _ => pure false) y)
    else v.origin = w.origin

/-- Whether a value may be a member of a set: its content never changes. -/
def isHashable : Item → Bool
  | .list _ => false
  | .dict _ => false
  | .object (.quantity _) => false
  | .object (.holding _) => false
  | .object (.settings _) => false
  | _ => true

/-- Whether a value is equal to one of others. -/
def isAmong (heap : Heap) (v : Item) (vs : List Item) : Bool :=
  vs.any fun w => Id.run (w.equal (fun r s => pure (sameContent heap r s)) v)

/-- The number of distinct values. -/
def countDistinct (heap : Heap) (vs : List Item) : Except Fault Nat :=
  if vs.all isHashable then
    .ok (vs.foldl (fun seen v => if isAmong heap v seen then seen else v :: seen) []).length
  else .error .wrongKind

end Holdings.Ledger
