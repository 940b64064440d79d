/-
# Acts that stay among objects and variables

Besides objects and variables a world has surroundings: the environment, the settings in use, and the log.  Only
the commands that are about one of the three reach it (`Command.Reaches`).  Every other command leaves all
surroundings as they were, whatever its operands are and whether it succeeds or fails (`Command.staysInside`).

An act is said to keep a part of the world if each of its runs leaves that part as it was (`Act.Keeps`).  The rules
for sequences hold for any part.  The acts are then gone through in the order of the library; those that add or
change a cell, or bind a variable, keep the surroundings by computation.

What a step does after its command is to bind a variable, so the surroundings after a step are those that its command
leaves (`Step.surroundings_run`), and scripts without the commands named above never change them
(`World.surroundings_after`).
-/
import Holdings.Proofs.Ledger.Separation

namespace Holdings.Ledger

open Act

/-! ## 1. Parts of a world -/

/-- Every run of the act leaves this part of the world as it was, whatever comes of it. -/
def Act.Keeps {α σ : Type} (part : World → σ) (x : Act α) : Prop :=
  ∀ w : World, part (x.final w) = part w

section Rules

variable {α β σ : Type} {part : World → σ} {x : Act α} {f : α → Act β} {w w' : World}

theorem keeps_pure (a : α) : (pure a : Act α).Keeps part := fun _ => rfl

theorem keeps_throw (g : Fault) : (throw g : Act α).Keeps part := fun _ => rfl

theorem keeps_get : (get : Act World).Keeps part := fun _ => rfl

theorem Act.Keeps.of_ok (h : x.Keeps part) {a : α} (hx : x w = .ok a w') : part w' = part w :=
  final_of_ok hx ▸ h w

theorem Act.Keeps.of_error (h : x.Keeps part) {g : Fault} (hx : x w = .error g w') :
    part w' = part w :=
  final_of_error hx ▸ h w

/-- **Sequences.** -/
theorem Act.Keeps.bind (hx : x.Keeps part) (hf : ∀ a, (f a).Keeps part) : (x >>= f).Keeps part := by
  intro w
  cases hr : x w with
  | ok a w₁ =>
    rw [final_bind_of_ok hr, hf a w₁]
    exact hx.of_ok hr
  | error g w₁ =>
    rw [final_of_error (bind_of_error hr)]
    exact hx.of_error hr

end Rules

/-! ## 2. Surroundings -/

/-- What a world has besides objects, variables and the reports of the step. -/
structure Surroundings where
  environment : Environment
  current : Option Nat
  logging : Logging

/-- The surroundings in a world. -/
def World.surroundings (w : World) : Surroundings := ⟨w.environment, w.current, w.logging⟩

/-- The act leaves the surroundings alone. -/
def Act.StaysInside {α : Type} (x : Act α) : Prop := x.Keeps World.surroundings

theorem Act.StaysInside.logging {α : Type} {x : Act α} (h : x.StaysInside) :
    x.Keeps World.logging :=
  fun w => congrArg Surroundings.logging (h w)

section Plain

variable {α β : Type} {x : Act α} {f : α → Act β}

theorem staysInside_pure (a : α) : (pure a : Act α).StaysInside := keeps_pure a

theorem staysInside_throw (g : Fault) : (throw g : Act α).StaysInside := keeps_throw g

theorem Act.StaysInside.bind (hx : x.StaysInside) (hf : ∀ a, (f a).StaysInside) :
    (x >>= f).StaysInside :=
  Act.Keeps.bind hx hf

/-- What is done with the world as it is. -/
theorem staysInside_get {f : World → Act β} (hf : ∀ w, (f w).StaysInside) :
    (get >>= f).StaysInside :=
  Act.Keeps.bind keeps_get hf

theorem staysInside_datum (v : Item) : (datum v).StaysInside := fun _ => rfl

/-- A failed check is reported, and that is all. -/
theorem staysInside_perform (r : Except Fault α) : (perform r).StaysInside := by
  intro w
  cases r with
  | ok a => rfl
  | error g =>
    rw [final_of_error (perform_error g w)]
    rfl

theorem staysInside_performAbort (r : Except Abort α) : (performAbort r).StaysInside :=
  staysInside_perform (liftAbort r)

end Plain

/-! ## 3. Building -/

section Build

theorem staysInside_newTagged {α : Type} (a : α) : (newTagged a).StaysInside := fun _ => rfl

theorem staysInside_newQuantity (c : QuantityCell) : (newQuantity c).StaysInside := fun _ => rfl

theorem staysInside_keepSymbol (given : Option Item) (s : Symbol) :
    (keepSymbol given s).StaysInside := by
  unfold keepSymbol
  split
  · exact staysInside_pure _
  · exact staysInside_newTagged s

theorem staysInside_keepIdentity (given : Option Item) (i : Identity) :
    (keepIdentity given i).StaysInside := by
  unfold keepIdentity
  split
  · exact staysInside_pure _
  · exact staysInside_newTagged i

theorem staysInside_copyQuantity (given : Item) (q : Quantity) :
    (copyQuantity given q).StaysInside := by
  unfold copyQuantity
  split
  · exact fun _ => rfl
  · exact (staysInside_keepSymbol _ _).bind fun t => staysInside_newQuantity _
  · exact (staysInside_newTagged _).bind fun t => staysInside_newQuantity _

theorem staysInside_placeEntity (e : Entity) : (placeEntity e).StaysInside := by
  cases e <;> exact fun _ => rfl

theorem staysInside_buildQuantity (amount symbol : Item) :
    (buildQuantity amount symbol).StaysInside := by
  unfold buildQuantity
  refine (staysInside_datum _).bind fun a => (staysInside_datum _).bind fun s => ?_
  refine (staysInside_perform _).bind fun q => (staysInside_keepSymbol _ _).bind fun t => ?_
  exact (staysInside_newQuantity _).bind fun r => staysInside_pure _

theorem staysInside_buildHolding (quantity owner : Item) :
    (buildHolding quantity owner).StaysInside := by
  unfold buildHolding
  refine (staysInside_datum _).bind fun q => (staysInside_datum _).bind fun o => ?_
  refine (staysInside_perform _).bind fun k => (staysInside_copyQuantity _ _).bind fun r => ?_
  exact (staysInside_keepIdentity _ _).bind fun t => fun _ => rfl

theorem staysInside_buildIssuedSymbol (named : List (String × Item)) :
    (buildIssuedSymbol named).StaysInside := by
  unfold buildIssuedSymbol
  refine staysInside_get fun w => (staysInside_perform _).bind fun s => ?_
  refine (staysInside_keepSymbol _ _).bind fun t => (staysInside_keepIdentity _ _).bind fun c => ?_
  exact fun _ => rfl

/-- Settings are looked up in the environment, and what there is to tell of its file is noted. -/
theorem staysInside_findSettings (named : Fields) : (findSettings named).StaysInside := by
  unfold findSettings
  refine (staysInside_perform _).bind fun o => staysInside_get fun w => ?_
  refine (staysInside_perform _).bind fun p => ?_
  exact Act.StaysInside.bind (fun _ => rfl) fun _ => staysInside_perform _

theorem staysInside_buildSettings (args : List Item) (named : List (String × Item)) :
    (buildSettings args named).StaysInside := by
  unfold buildSettings
  refine (staysInside_perform _).bind fun named' => staysInside_get fun w => ?_
  exact (staysInside_findSettings _).bind fun s _ => rfl

/-- **Building any object.** -/
theorem staysInside_build (kind : EntityKind) (args : List Item) (named : List (String × Item)) :
    (build kind args named).StaysInside := by
  have checked : ∀ kind : EntityKind, (do
      let w ← get
      let e ← perform (Entity.ofCall kind [] (dataOf w.heap named)).toExcept
      placeEntity e : Act Item).StaysInside := fun kind =>
    staysInside_get fun w => (staysInside_perform _).bind fun e => staysInside_placeEntity e
  cases kind with
  | quantity => exact (staysInside_perform _).bind fun p => staysInside_buildQuantity p.1 p.2
  | holding => exact (staysInside_perform _).bind fun p => staysInside_buildHolding p.1 p.2
  | settings => exact staysInside_buildSettings args named
  | issuedSymbol =>
    cases args with
    | nil => exact staysInside_buildIssuedSymbol named
    | cons a as => exact fun _ => rfl
  | symbol =>
    cases args with
    | nil => exact checked .symbol
    | cons a as => exact fun _ => rfl
  | identity =>
    cases args with
    | nil => exact checked .identity
    | cons a as => exact fun _ => rfl

theorem staysInside_readBytes (kind : EntityKind) (fields : List (String × Wire.Codec))
    (data : Wire.Bytes) : (readBytes kind fields data).StaysInside := by
  unfold readBytes
  refine (staysInside_perform _).bind fun p => ?_
  exact Act.StaysInside.bind (fun _ => rfl) fun _ => staysInside_placeEntity _

theorem staysInside_readQuantity (v : Datum) : (readQuantity v).StaysInside :=
  (staysInside_perform _).bind fun _ _ => rfl

theorem staysInside_readHolding (v : Datum) : (readHolding v).StaysInside :=
  (staysInside_perform _).bind fun _ _ => rfl

theorem staysInside_buildIssued (amount issued : Item) : (buildIssued amount issued).StaysInside := by
  unfold buildIssued
  split
  · exact (staysInside_buildQuantity amount _).bind fun q => staysInside_buildHolding q _
  · exact staysInside_throw _

end Build

/-! ## 4. Operands -/

section Operands

theorem staysInside_readBinding (name : String) : (readBinding name).StaysInside := by
  unfold readBinding
  refine staysInside_get fun w => ?_
  split
  · exact staysInside_pure _
  · exact staysInside_throw _

theorem staysInside_readVariable (name : String) : (readVariable name).StaysInside :=
  (staysInside_readBinding name).bind fun _ => staysInside_pure _

mutual

/-- **Evaluating a term.**  The induction is on the term. -/
theorem staysInside_eval : ∀ t : Term, t.eval.StaysInside
  | .plain v => by
    rw [Term.eval]
    exact staysInside_pure _
  | .list xs => by
    rw [Term.eval]
    exact (staysInside_evalAll xs).bind fun vs => staysInside_pure _
  | .dict es => by
    rw [Term.eval]
    exact (staysInside_evalEntries es).bind fun vs => staysInside_pure _
  | .var name => by
    rw [Term.eval]
    exact staysInside_readVariable name
  | .symbol code precision => by
    rw [Term.eval]
    refine (staysInside_eval code).bind fun c => (staysInside_eval precision).bind fun p => ?_
    exact staysInside_build _ _ _
  | .identity value => by
    rw [Term.eval]
    exact (staysInside_eval value).bind fun v => staysInside_build _ _ _
  | .quantity amount code precision => by
    rw [Term.eval]
    refine (staysInside_eval amount).bind fun a => (staysInside_eval code).bind fun c => ?_
    refine (staysInside_eval precision).bind fun p => (staysInside_build _ _ _).bind fun s => ?_
    exact staysInside_build _ _ _
  | .holding amount code precision owner => by
    rw [Term.eval]
    refine (staysInside_eval amount).bind fun a => (staysInside_eval code).bind fun c => ?_
    refine (staysInside_eval precision).bind fun p => (staysInside_eval owner).bind fun o => ?_
    refine (staysInside_build _ _ _).bind fun s => (staysInside_build _ _ _).bind fun q => ?_
    exact (staysInside_build _ _ _).bind fun i => staysInside_build _ _ _

/-- The same for terms in order. -/
theorem staysInside_evalAll : ∀ ts : List Term, (Term.evalAll ts).StaysInside
  | [] => by
    rw [Term.evalAll]
    exact staysInside_pure _
  | t :: ts => by
    rw [Term.evalAll]
    refine (staysInside_eval t).bind fun v => (staysInside_evalAll ts).bind fun vs => ?_
    exact staysInside_pure _

/-- The same for named terms in order. -/
theorem staysInside_evalEntries : ∀ es : List (String × Term), (Term.evalEntries es).StaysInside
  | [] => by
    rw [Term.evalEntries]
    exact staysInside_pure _
  | (k, t) :: es => by
    rw [Term.evalEntries]
    refine (staysInside_eval t).bind fun v => (staysInside_evalEntries es).bind fun vs => ?_
    exact staysInside_pure _

end

theorem staysInside_origin (t : Term) : t.origin.StaysInside := by
  unfold Term.origin
  split
  · exact (staysInside_readBinding _).bind fun b => staysInside_pure _
  · exact fun _ => rfl

theorem staysInside_originOfPart (field : String) (t : Term) :
    (t.originOfPart field).StaysInside := by
  unfold Term.originOfPart
  split
  · refine (staysInside_readVariable _).bind fun v => ?_
    split
    · exact staysInside_pure _
    · exact fun _ => rfl
  · exact fun _ => rfl

end Operands

/-! ## 5. Operators -/

section Operators

variable {β : Type}

/-- What is done with the content of a quantity. -/
theorem staysInside_quantity (r : Nat) {f : Quantity → Act β} (hf : ∀ q, (f q).StaysInside) :
    (quantity r >>= f).StaysInside :=
  Act.StaysInside.bind (fun _ => rfl) hf

/-- What is done with the content of a holding. -/
theorem staysInside_holding (r : Nat) {f : Holding → Act β} (hf : ∀ k, (f k).StaysInside) :
    (holding r >>= f).StaysInside :=
  Act.StaysInside.bind (fun _ => rfl) hf

theorem staysInside_newLike (r : Nat) (q : Quantity) : (newLike r q).StaysInside := fun _ => rfl

theorem staysInside_newHoldingLike (r : Nat) (k : Holding) : (newHoldingLike r k).StaysInside :=
  fun _ => rfl

theorem staysInside_assign (r : Nat) (q : Quantity) : (assign r q).StaysInside := fun _ => rfl

theorem staysInside_assignHolding (r : Nat) (k : Holding) : (assignHolding r k).StaysInside :=
  fun _ => rfl

theorem staysInside_onQuantities (op : BinaryOp) (r s : Nat) : (onQuantities op r s).StaysInside := by
  unfold onQuantities
  refine staysInside_quantity r fun a => staysInside_quantity s fun b => ?_
  cases op with
  | add => exact (staysInside_performAbort _).bind fun q => staysInside_newLike r q
  | sub => exact (staysInside_performAbort _).bind fun q => staysInside_newLike r q
  | mul => exact staysInside_throw _
  | div => exact (staysInside_performAbort _).bind fun n => staysInside_pure _
  | floorDiv => exact (staysInside_performAbort _).bind fun n => staysInside_pure _
  | compare c => exact (staysInside_performAbort _).bind fun b => staysInside_pure _

theorem staysInside_onHoldings (op : BinaryOp) (r s : Nat) : (onHoldings op r s).StaysInside := by
  unfold onHoldings
  refine staysInside_holding r fun a => staysInside_holding s fun b => ?_
  cases op with
  | add => exact (staysInside_performAbort _).bind fun k => staysInside_newHoldingLike r k
  | sub => exact (staysInside_performAbort _).bind fun k => staysInside_newHoldingLike r k
  | mul => exact staysInside_throw _
  | div => exact staysInside_throw _
  | floorDiv => exact staysInside_throw _
  | compare c => exact (staysInside_performAbort _).bind fun b => staysInside_pure _

/-- **Binary operators**, comparisons among them. -/
theorem staysInside_operate (op : BinaryOp) (v u : Item) : (operate op v u).StaysInside := by
  have scale : ∀ (divide : Bool) (r : Nat) (k : Int),
      (do newLike r (← perform (rescale divide (← quantity r) k)) : Act Item).StaysInside :=
    fun divide r k => staysInside_quantity r fun q =>
      (staysInside_perform _).bind fun q' => staysInside_newLike r q'
  have others : ∀ {op : BinaryOp} {v u : Item},
      (do let s ← get; perform (onOthers op s.heap v u) : Act Item).StaysInside :=
    staysInside_get fun w => staysInside_perform _
  unfold operate
  split
  · exact staysInside_onQuantities op _ _
  · exact staysInside_onHoldings op _ _
  · split
    · exact scale false _ _
    · exact scale true _ _
    · exact scale true _ _
    · exact others
  · split
    · exact scale false _ _
    · exact others
  · exact others

theorem staysInside_combine (subtract : Bool) (r s : Nat) :
    (do assign r (← performAbort (combine subtract (← quantity r) (← quantity s))) :
      Act Item).StaysInside :=
  staysInside_quantity r fun _ => staysInside_quantity s fun _ =>
    (staysInside_performAbort _).bind fun q => staysInside_assign r q

theorem staysInside_rescale (divide : Bool) (r : Nat) (k : Int) :
    (do assign r (← perform (rescale divide (← quantity r) k)) : Act Item).StaysInside :=
  staysInside_quantity r fun _ => (staysInside_perform _).bind fun q => staysInside_assign r q

theorem staysInside_combineHoldings (subtract : Bool) (r s : Nat) :
    (do assignHolding r (← performAbort (combineHoldings subtract (← holding r) (← holding s))) :
      Act Item).StaysInside :=
  staysInside_holding r fun _ => staysInside_holding s fun _ =>
    (staysInside_performAbort _).bind fun k => staysInside_assignHolding r k

/-- **Operators in place.** -/
theorem staysInside_operateInPlace (op : BinaryOp) (v u : Item) :
    (operateInPlace op v u).StaysInside := by
  unfold operateInPlace
  split
  · exact staysInside_combine false _ _
  · exact staysInside_combine true _ _
  · exact staysInside_rescale false _ _
  · exact staysInside_rescale true _ _
  · exact staysInside_rescale true _ _
  · exact staysInside_combineHoldings false _ _
  · exact staysInside_combineHoldings true _ _
  · exact staysInside_operate _ _ _

theorem staysInside_negate (v : Item) : (negate v).StaysInside := by
  unfold negate
  split
  · exact staysInside_quantity _ fun q =>
      (staysInside_performAbort _).bind fun q' => staysInside_newLike _ q'
  · exact staysInside_holding _ fun k =>
      (staysInside_performAbort _).bind fun k' => staysInside_newHoldingLike _ k'
  · exact staysInside_pure _
  · split
    · exact staysInside_pure _
    · exact staysInside_throw _

end Operators

/-! ## 6. Attributes and methods -/

section Methods

theorem staysInside_readAttribute (v : Item) (name : String) : (readAttribute v name).StaysInside := by
  unfold readAttribute
  split
  · refine staysInside_get fun w => ?_
    split
    · exact staysInside_pure _
    · exact staysInside_throw _
  · exact staysInside_throw _

theorem staysInside_setAttribute (target : Item) (name : String) (v : Item) :
    (setAttribute target name v).StaysInside := by
  unfold setAttribute
  split
  · split
    · exact (staysInside_datum v).bind fun d => (staysInside_perform _).bind fun a _ => rfl
    · split
      · exact staysInside_throw _
      · exact staysInside_throw _
  · split
    · refine (staysInside_datum v).bind fun d => (staysInside_perform _).bind fun q => ?_
      exact (staysInside_copyQuantity v q).bind fun n _ => rfl
    · split
      · exact staysInside_throw _
      · exact staysInside_throw _
  · refine staysInside_get fun w => ?_
    split
    · exact fun _ => rfl
    · split
      · exact fun _ => rfl
      · exact staysInside_throw _
  · exact staysInside_throw _
  · exact staysInside_throw _

theorem staysInside_combineAssign (subtract : Bool) (r : Nat) (v : Item) :
    (combineAssign subtract r v).StaysInside := by
  unfold combineAssign
  split
  · exact staysInside_combine subtract r _
  · exact staysInside_quantity r fun q =>
      (staysInside_performAbort _).bind fun _ => staysInside_throw _
  · exact staysInside_throw _

theorem staysInside_rescaleAssign (divide : Bool) (r : Nat) (v : Item) :
    (rescaleAssign divide r v).StaysInside := by
  unfold rescaleAssign
  exact (staysInside_datum v).bind fun d => (staysInside_perform _).bind fun k =>
    staysInside_rescale divide r k

theorem staysInside_combineHoldingAssign (subtract : Bool) (r : Nat) (v : Item) :
    (combineHoldingAssign subtract r v).StaysInside := by
  unfold combineHoldingAssign
  split
  · exact staysInside_combineHoldings subtract r _
  · exact staysInside_throw _

theorem staysInside_quantityMethod (r : Nat) (m : Method) (args : List Item) :
    (quantityMethod r m args).StaysInside := by
  unfold quantityMethod
  split
  · exact (staysInside_datum _).bind fun d => (staysInside_perform _).bind fun a _ => rfl
  · exact staysInside_combineAssign false r _
  · exact staysInside_combineAssign true r _
  · exact staysInside_rescaleAssign false r _
  · exact staysInside_rescaleAssign true r _
  · split
    · exact staysInside_quantity r fun a => staysInside_quantity _ fun b =>
        (staysInside_performAbort _).bind fun n => staysInside_pure _
    · exact staysInside_throw _
  · exact staysInside_negate _
  · exact staysInside_quantity r fun q => staysInside_newLike r q
  · exact staysInside_quantity r fun q => staysInside_pure _
  · exact staysInside_quantity r fun q => staysInside_pure _
  · exact staysInside_quantity r fun q => (staysInside_perform _).bind fun s => staysInside_pure _
  · exact staysInside_quantity r fun q => (staysInside_perform _).bind fun s _ => rfl
  · exact staysInside_quantity r fun q => staysInside_pure _
  · exact staysInside_quantity r fun q => (staysInside_perform _).bind fun d => staysInside_pure _
  all_goals exact staysInside_throw _

theorem staysInside_holdingMethod (r : Nat) (m : Method) (args : List Item) :
    (holdingMethod r m args).StaysInside := by
  unfold holdingMethod
  split
  · exact staysInside_combineHoldingAssign false r _
  · exact staysInside_combineHoldingAssign true r _
  · exact staysInside_negate _
  · exact staysInside_holding r fun k => (staysInside_perform _).bind fun s => staysInside_pure _
  · exact staysInside_holding r fun k => (staysInside_perform _).bind fun s _ => rfl
  · exact staysInside_holding r fun k => staysInside_pure _
  · exact staysInside_holding r fun k => (staysInside_perform _).bind fun d => staysInside_pure _
  · exact fun _ => rfl
  all_goals exact staysInside_throw _

/-- **Methods.** -/
theorem staysInside_callMethod (v : Item) (m : Method) (args : List Item) :
    (callMethod v m args).StaysInside := by
  unfold callMethod
  split
  · exact staysInside_quantityMethod _ m args
  · exact staysInside_holdingMethod _ m args
  · exact staysInside_perform _
  · split
    · exact staysInside_pure _
    · exact staysInside_pure _
    all_goals exact staysInside_throw _
  · exact staysInside_throw _

/-- **Makers.** -/
theorem staysInside_make (m : Maker) (args : List Item) : (make m args).StaysInside := by
  unfold make
  split
  · exact fun _ => rfl
  · unfold symbolOfRaw
    split
    · exact (staysInside_perform _).bind fun s _ => rfl
    · exact staysInside_throw _
  · exact fun _ => rfl
  · exact fun _ => rfl
  · exact (staysInside_datum _).bind fun d => staysInside_readQuantity d
  · exact (staysInside_datum _).bind fun d => staysInside_readHolding d
  · exact (staysInside_datum _).bind fun d =>
      (staysInside_perform _).bind fun b => staysInside_readBytes _ _ b
  · exact (staysInside_datum _).bind fun d =>
      (staysInside_perform _).bind fun b => staysInside_readBytes _ _ b
  · exact staysInside_buildIssued _ _
  · exact staysInside_throw _
  · exact staysInside_throw _

theorem staysInside_display (v : Item) : (display v).StaysInside := by
  unfold display
  split
  · exact staysInside_quantity _ fun q => (staysInside_perform _).bind fun s => staysInside_pure _
  · exact staysInside_holding _ fun k => (staysInside_perform _).bind fun s => staysInside_pure _
  · exact staysInside_pure _
  · exact staysInside_pure _
  · exact staysInside_pure _
  · exact staysInside_get fun w => (staysInside_perform _).bind fun s => staysInside_pure _
  · exact (staysInside_datum _).bind fun d => (staysInside_perform _).bind fun s => staysInside_pure _

theorem staysInside_roundTrip (v : Item) : (roundTrip v).StaysInside := by
  unfold roundTrip
  split
  · refine staysInside_quantity _ fun q => (staysInside_perform _).bind fun d => ?_
    refine (staysInside_readBytes _ _ d).bind fun a => ?_
    exact (staysInside_readQuantity _).bind fun b => staysInside_pure _
  · refine staysInside_holding _ fun k => (staysInside_perform _).bind fun d => ?_
    refine (staysInside_readBytes _ _ d).bind fun a => ?_
    exact (staysInside_readHolding _).bind fun b => staysInside_pure _
  · exact staysInside_throw _

end Methods

/-! ## 7. Commands and steps -/

/-- The commands that reach for the surroundings: to change one of them, or to have settings in use. -/
def Command.Reaches : Command → Prop
  | setVariable _ _ => True
  | writeEnvFile _ => True
  | currentSettings => True
  | clearSettings => True
  | configure _ => True
  | setUp _ => True
  | _ => False

section Commands

theorem staysInside_updateVariable (op : BinaryOp) (name : String) (b : Binding) (u : Item) :
    (updateVariable op name b u).StaysInside := by
  unfold updateVariable
  split
  · exact (staysInside_perform _).bind fun xs _ => rfl
  · exact (staysInside_operateInPlace op _ u).bind fun v _ => rfl

theorem staysInside_logState : logState.StaysInside := staysInside_get fun _ => staysInside_pure _

/-- Setting a variable of the environment changes nothing else; a refusal may be reported. -/
theorem final_setVariable (name : String) (v : Item) (w : World) :
    ∃ e events, (setVariable name v).final w = { w with environment := e, journal := events } := by
  have stored : ∀ r : Except Fault Environment, ∃ e events,
      (perform r >>= fun e => set { w with environment := e } >>= fun _ =>
        pure .null : Act Item).final w = { w with environment := e, journal := events } := by
    intro r
    cases r with
    | ok e => exact ⟨e, w.journal, rfl⟩
    | error g =>
      rw [final_of_error (bind_of_error (perform_error g w))]
      exact ⟨w.environment, _, rfl⟩
  cases v with
  | null => exact stored (.ok _)
  | text t => exact stored (w.environment.setVariable name t)
  | _ => exact ⟨w.environment, w.journal, rfl⟩

/-- **Every other command leaves the surroundings alone**, whether it succeeds or fails. -/
theorem Command.staysInside {c : Command} (hc : ¬ c.Reaches) : c.act.StaysInside := by
  cases c with
  | build kind args named =>
    refine (staysInside_evalAll args).bind fun as => ?_
    exact (staysInside_evalEntries named).bind fun ns => staysInside_build kind as ns
  | eval t => exact staysInside_eval t
  | make m args => exact (staysInside_evalAll args).bind fun as => staysInside_make m as
  | call on m args =>
    refine (staysInside_eval on).bind fun v => ?_
    exact (staysInside_evalAll args).bind fun as => staysInside_callMethod v m as
  | operate op a b =>
    refine (staysInside_eval a).bind fun v => ?_
    exact (staysInside_eval b).bind fun u => staysInside_operate op v u
  | negate a => exact (staysInside_eval a).bind fun v => staysInside_negate v
  | update op name b =>
    refine (staysInside_readBinding name).bind fun v => ?_
    exact (staysInside_eval b).bind fun u => staysInside_updateVariable op name v u
  | get on field => exact (staysInside_eval on).bind fun v => staysInside_readAttribute v field
  | set on field value =>
    refine (staysInside_eval on).bind fun v => ?_
    exact (staysInside_eval value).bind fun u => staysInside_setAttribute v field u
  | display on => exact (staysInside_eval on).bind fun v => staysInside_display v
  | same a b =>
    refine (staysInside_eval a).bind fun v => (staysInside_eval b).bind fun u => ?_
    refine (staysInside_origin a).bind fun o => (staysInside_origin b).bind fun p => ?_
    exact staysInside_pure _
  | countDistinct values =>
    refine (staysInside_evalAll values).bind fun vs => staysInside_get fun w => ?_
    exact (staysInside_perform _).bind fun n => staysInside_pure _
  | roundTrip on => exact (staysInside_eval on).bind fun v => staysInside_roundTrip v
  | logState => exact staysInside_logState
  | _ => exact absurd trivial hc

theorem Command.staysInside_origin (c : Command) : c.origin.StaysInside := by
  unfold Command.origin
  split
  · exact Ledger.staysInside_origin _
  · exact staysInside_originOfPart _ _
  · exact staysInside_originOfPart _ _
  · exact (staysInside_readBinding _).bind fun b => staysInside_pure _
  · exact fun _ => rfl

/-- Binding the result comes after the command, so the surroundings are those that the command leaves. -/
theorem Step.surroundings_run (s : Step) (w : World) :
    (s.run w).2.surroundings = (s.command.act.final w.cleared).surroundings := by
  cases hr : s.command.act w.cleared with
  | error f w₁ => rw [Step.run_of_error hr, final_of_error hr]
  | ok v w₁ =>
    rw [final_of_ok hr]
    cases hs : s.name with
    | none => rw [Step.run_of_unnamed hr hs]
    | some name =>
      cases ho : s.command.origin w₁ with
      | error f w₂ =>
        rw [Step.run_of_unknown hr hs ho]
        exact s.command.staysInside_origin.of_error ho
      | ok o w₂ =>
        rw [Step.run_of_named hr hs ho]
        show w₂.surroundings = w₁.surroundings
        exact s.command.staysInside_origin.of_ok ho

/-- **A step that does not reach for the surroundings leaves them alone.** -/
theorem Step.surroundings_of_not_reaches {s : Step} (hs : ¬ s.command.Reaches) (w : World) :
    (s.run w).2.surroundings = w.surroundings :=
  (s.surroundings_run w).trans (Command.staysInside hs w.cleared)

/-- **A script of such steps leaves the surroundings alone.**  The induction is on the steps. -/
theorem World.surroundings_after (steps : List Step) : ∀ {w : World},
    (∀ s ∈ steps, ¬ s.command.Reaches) → (w.after steps).surroundings = w.surroundings := by
  induction steps with
  | nil => exact fun _ => rfl
  | cons s rest ih =>
    intro w hs
    have hstep := Step.surroundings_of_not_reaches (hs s List.mem_cons_self) w
    exact (ih fun t ht => hs t (List.mem_cons_of_mem s ht)).trans hstep

end Commands

end Holdings.Ledger
