/-
# The audit of failed checks

Every command reports its failure as the rule of `Ledger/Reports.lean` says, with one gap: reading bytes misses
a code that goes on behind its end, and writing misses what it cannot write (`Command.misses`).  Every other
abort of every command is that of a check, and leaves one report at the end of the journal.

The acts are gone through in the order of the library.  Building, changing and asking come from pure operations
that abort by a check only (`Proofs/Checks`), so no reason is missed there, and their lemmas hold for any
reasons that a larger act may miss.  What an act adds to the heap does not count here: such acts are silent.

In one script the gap shows at sixteen bytes that are read as a quantity (`unpack_unreported`).
-/
import Holdings.Proofs.Checks.Values
import Holdings.Proofs.Ledger.Reports
import Holdings.Proofs.Ledger.Running

namespace Holdings.Ledger

open Act

variable {w : World} {missed : Abort → Bool}

/-! ## 1. Building -/

section Build

theorem silent_keepSymbol (given : Option Item) (s : Symbol) : (keepSymbol given s).Silent := by
  unfold keepSymbol
  split
  · exact silent_pure _
  · exact fun _ => ⟨_, _, rfl, rfl⟩

theorem silent_keepIdentity (given : Option Item) (i : Identity) : (keepIdentity given i).Silent := by
  unfold keepIdentity
  split
  · exact silent_pure _
  · exact fun _ => ⟨_, _, rfl, rfl⟩

theorem silent_copyQuantity (given : Item) (q : Quantity) : (copyQuantity given q).Silent := by
  unfold copyQuantity
  split
  · exact fun _ => ⟨_, _, rfl, rfl⟩
  · exact (silent_keepSymbol _ _).bind fun _ _ => ⟨_, _, rfl, rfl⟩
  · exact fun _ => ⟨_, _, rfl, rfl⟩

theorem silent_placeEntity (e : Entity) : (placeEntity e).Silent := by
  cases e <;> exact fun _ => ⟨_, _, rfl, rfl⟩

theorem audits_buildQuantity (amount symbol : Item) :
    (buildQuantity amount symbol).Audits w missed := by
  unfold buildQuantity
  refine audits_datum (audits_datum
    (audits_checked (Quantity.isChecked_check _ _).toExcept fun q _ => Silent.audits ?_))
  exact (silent_keepSymbol _ _).bind fun _ _ => ⟨_, _, rfl, rfl⟩

theorem audits_buildHolding (quantity owner : Item) :
    (buildHolding quantity owner).Audits w missed := by
  unfold buildHolding
  refine audits_datum (audits_datum
    (audits_checked (Holding.isChecked_check _ _).toExcept fun k _ => Silent.audits ?_))
  refine (silent_copyQuantity _ _).bind fun q => ?_
  exact (silent_keepIdentity _ _).bind fun _ _ => ⟨_, _, rfl, rfl⟩

theorem audits_buildIssuedSymbol (named : List (String × Item)) :
    (buildIssuedSymbol named).Audits w missed := by
  unfold buildIssuedSymbol
  refine audits_get
    (audits_checked (IssuedSymbol.isChecked_ofFields _).toExcept fun s _ => Silent.audits ?_)
  refine (silent_keepSymbol _ _).bind fun t => ?_
  exact (silent_keepIdentity _ _).bind fun _ _ => ⟨_, _, rfl, rfl⟩

theorem audits_findSettings (named : Fields) : (findSettings named).Audits w missed := by
  unfold findSettings
  refine audits_checked (Settings.Options.checked_ofNamed named) fun o _ => ?_
  refine audits_get (audits_checked (w.environment.checked_settings o named) fun p hp => ?_)
  have hv : Verdict.IsChecked p.1 := Environment.isChecked_of_settings hp
  exact Silent.audits_bind (fun _ => ⟨_, _, rfl, rfl⟩) fun _ w' =>
    audits_perform (hv.toExcept.but missed)

theorem audits_buildSettings (args : List Item) (named : List (String × Item)) :
    (buildSettings args named).Audits w missed := by
  unfold buildSettings
  refine audits_checked (Settings.Options.checked_nameAll args named) fun named' _ => audits_get ?_
  exact audits_bind (audits_findSettings _) fun s w' => Silent.audits fun _ => ⟨_, _, rfl, rfl⟩

/-- The fields of a symbol, an identity or an issued symbol are built by their check. -/
theorem audits_placeChecked (kind : EntityKind) (named : List (String × Item)) :
    (do
      let w ← get
      let e ← perform (Entity.ofCall kind [] (dataOf w.heap named)).toExcept
      placeEntity e : Act Item).Audits w missed :=
  audits_get (audits_checked (Entity.isChecked_ofCall kind [] _).toExcept fun e _ =>
    (silent_placeEntity e).audits)

/-- **Building any object** is aborted by a check only. -/
theorem audits_build (kind : EntityKind) (args : List Item) (named : List (String × Item)) :
    (build kind args named).Audits w missed := by
  cases kind with
  | quantity =>
    exact audits_checked (Fields.checked_bindTwo _ _ _ _) fun p _ => audits_buildQuantity p.1 p.2
  | holding =>
    exact audits_checked (Fields.checked_bindTwo _ _ _ _) fun p _ => audits_buildHolding p.1 p.2
  | settings => exact audits_buildSettings args named
  | issuedSymbol =>
    cases args with
    | nil => exact audits_buildIssuedSymbol named
    | cons a as => exact audits_of_misuse rfl nofun
  | symbol =>
    cases args with
    | nil => exact audits_placeChecked .symbol named
    | cons a as => exact audits_of_misuse rfl nofun
  | identity =>
    cases args with
    | nil => exact audits_placeChecked .identity named
    | cons a as => exact audits_of_misuse rfl nofun

/-- **Reading bytes** misses a code that goes on behind its end, and nothing else. -/
theorem audits_readBytes (kind : EntityKind) (fields : List (String × Wire.Codec))
    (data : Wire.Bytes) (hm : ∀ a, a.isOfReading = true → missed a = true) :
    (readBytes kind fields data).Audits w missed := by
  unfold readBytes
  refine audits_perform_bind ((Wire.checkedBut_decodeEntity kind fields data).mono hm) fun p _ => ?_
  refine audits_bind (audits_report ?_) fun _ w' => (silent_placeEntity _).audits
  show "decoded" ≠ "asset_check_failed"
  decide

theorem audits_readQuantity (v : Datum) : (readQuantity v).Audits w missed :=
  audits_checked (Quantity.checked_ofValue v) fun _ _ => Silent.audits fun _ => ⟨_, _, rfl, rfl⟩

theorem audits_readHolding (v : Datum) : (readHolding v).Audits w missed :=
  audits_checked (Holding.checked_ofValue v) fun _ _ => Silent.audits fun _ => ⟨_, _, rfl, rfl⟩

theorem audits_buildIssued (amount issued : Item) : (buildIssued amount issued).Audits w missed := by
  unfold buildIssued
  split
  · exact audits_bind (audits_buildQuantity amount _) fun q w' => audits_buildHolding q _
  · exact audits_throw nofun

end Build

/-! ## 2. Operands -/

section Operands

theorem audits_readBinding (name : String) : (readBinding name).Audits w missed := by
  unfold readBinding
  refine audits_get ?_
  split
  · exact audits_pure _
  · exact audits_throw nofun

theorem audits_readVariable (name : String) : (readVariable name).Audits w missed :=
  audits_bind (audits_readBinding name) fun _ _ => audits_pure _

mutual

/-- **Evaluating a term** is aborted by a check only.  The induction is on the term. -/
theorem audits_eval : ∀ (t : Term) (w : World), t.eval.Audits w missed
  | .plain v, w => by
    rw [Term.eval]
    exact audits_pure _
  | .list xs, w => by
    rw [Term.eval]
    exact audits_bind (audits_evalAll xs w) fun vs w' => audits_pure _
  | .dict es, w => by
    rw [Term.eval]
    exact audits_bind (audits_evalEntries es w) fun vs w' => audits_pure _
  | .var name, w => by
    rw [Term.eval]
    exact audits_readVariable name
  | .symbol code precision, w => by
    rw [Term.eval]
    refine audits_bind (audits_eval code w) fun c w₁ => ?_
    refine audits_bind (audits_eval precision w₁) fun p w₂ => ?_
    exact audits_build _ _ _
  | .identity value, w => by
    rw [Term.eval]
    exact audits_bind (audits_eval value w) fun v w₁ => audits_build _ _ _
  | .quantity amount code precision, w => by
    rw [Term.eval]
    refine audits_bind (audits_eval amount w) fun a w₁ => ?_
    refine audits_bind (audits_eval code w₁) fun c w₂ => ?_
    refine audits_bind (audits_eval precision w₂) fun p w₃ => ?_
    exact audits_bind (audits_build _ _ _) fun s w₄ => audits_build _ _ _
  | .holding amount code precision owner, w => by
    rw [Term.eval]
    refine audits_bind (audits_eval amount w) fun a w₁ => ?_
    refine audits_bind (audits_eval code w₁) fun c w₂ => ?_
    refine audits_bind (audits_eval precision w₂) fun p w₃ => ?_
    refine audits_bind (audits_eval owner w₃) fun o w₄ => ?_
    refine audits_bind (audits_build _ _ _) fun s w₅ => ?_
    refine audits_bind (audits_build _ _ _) fun q w₆ => ?_
    exact audits_bind (audits_build _ _ _) fun i w₇ => audits_build _ _ _

/-- The same for terms in order. -/
theorem audits_evalAll : ∀ (ts : List Term) (w : World), (Term.evalAll ts).Audits w missed
  | [], w => by
    rw [Term.evalAll]
    exact audits_pure _
  | t :: ts, w => by
    rw [Term.evalAll]
    refine audits_bind (audits_eval t w) fun v w₁ => ?_
    exact audits_bind (audits_evalAll ts w₁) fun vs w₂ => audits_pure _

/-- The same for named terms in order. -/
theorem audits_evalEntries :
    ∀ (es : List (String × Term)) (w : World), (Term.evalEntries es).Audits w missed
  | [], w => by
    rw [Term.evalEntries]
    exact audits_pure _
  | (k, t) :: es, w => by
    rw [Term.evalEntries]
    refine audits_bind (audits_eval t w) fun v w₁ => ?_
    exact audits_bind (audits_evalEntries es w₁) fun vs w₂ => audits_pure _

end

end Operands

/-! ## 3. Operators -/

section Operators

theorem silent_newLike (r : Nat) (q : Quantity) : (newLike r q).Silent := fun _ => ⟨_, _, rfl, rfl⟩

theorem silent_newHoldingLike (r : Nat) (k : Holding) : (newHoldingLike r k).Silent :=
  fun _ => ⟨_, _, rfl, rfl⟩

theorem silent_assign (r : Nat) (q : Quantity) : (assign r q).Silent := fun _ => ⟨_, _, rfl, rfl⟩

theorem silent_assignHolding (r : Nat) (k : Holding) : (assignHolding r k).Silent :=
  fun _ => ⟨_, _, rfl, rfl⟩

theorem audits_onQuantities (op : BinaryOp) (r s : Nat) : (onQuantities op r s).Audits w missed := by
  unfold onQuantities
  refine audits_quantity (audits_quantity ?_)
  cases op with
  | add =>
    exact audits_checkedAbort (checkedAbort_combine false _ _) fun q => (silent_newLike r q).audits
  | sub =>
    exact audits_checkedAbort (checkedAbort_combine true _ _) fun q => (silent_newLike r q).audits
  | mul => exact audits_throw nofun
  | div => exact audits_checkedAbort (Quantity.checkedAbort_ratio _ _) fun n => audits_pure _
  | floorDiv => exact audits_checkedAbort (Quantity.checkedAbort_ratio _ _) fun n => audits_pure _
  | compare c => exact audits_checkedAbort (Quantity.checkedAbort_compare _ _ c) fun b => audits_pure _

theorem audits_onHoldings (op : BinaryOp) (r s : Nat) : (onHoldings op r s).Audits w missed := by
  unfold onHoldings
  refine audits_holding (audits_holding ?_)
  cases op with
  | add =>
    exact audits_checkedAbort (checkedAbort_combineHoldings false _ _) fun k =>
      (silent_newHoldingLike r k).audits
  | sub =>
    exact audits_checkedAbort (checkedAbort_combineHoldings true _ _) fun k =>
      (silent_newHoldingLike r k).audits
  | mul => exact audits_throw nofun
  | div => exact audits_throw nofun
  | floorDiv => exact audits_throw nofun
  | compare c => exact audits_checkedAbort (Holding.checkedAbort_compare _ _ c) fun b => audits_pure _

/-- **Binary operators**, comparisons among them. -/
theorem audits_operate (op : BinaryOp) (v u : Item) : (operate op v u).Audits w missed := by
  have scale : ∀ (divide : Bool) (r : Nat) (k : Int),
      (do newLike r (← perform (rescale divide (← quantity r) k)) : Act Item).Audits w missed :=
    fun divide r k => audits_quantity (audits_checked (checked_rescale divide _ k) fun q _ =>
      (silent_newLike r q).audits)
  have others : ∀ {op : BinaryOp} {v u : Item},
      (do let s ← get; perform (onOthers op s.heap v u) : Act Item).Audits w missed :=
    audits_get (audits_perform ((checked_onOthers _ _ _ _).but missed))
  unfold operate
  split
  · exact audits_onQuantities op _ _
  · exact audits_onHoldings op _ _
  · split
    · exact scale false _ _
    · exact scale true _ _
    · exact scale true _ _
    · exact others
  · split
    · exact scale false _ _
    · exact others
  · exact others

theorem audits_combine (subtract : Bool) (r s : Nat) :
    (do assign r (← performAbort (combine subtract (← quantity r) (← quantity s))) :
      Act Item).Audits w missed :=
  audits_quantity (audits_quantity (audits_checkedAbort (checkedAbort_combine subtract _ _) fun q =>
    (silent_assign r q).audits))

theorem audits_rescale (divide : Bool) (r : Nat) (k : Int) :
    (do assign r (← perform (rescale divide (← quantity r) k)) : Act Item).Audits w missed :=
  audits_quantity (audits_checked (checked_rescale divide _ k) fun q _ => (silent_assign r q).audits)

theorem audits_combineHoldings (subtract : Bool) (r s : Nat) :
    (do assignHolding r (← performAbort (combineHoldings subtract (← holding r) (← holding s))) :
      Act Item).Audits w missed :=
  audits_holding (audits_holding (audits_checkedAbort (checkedAbort_combineHoldings subtract _ _)
    fun k => (silent_assignHolding r k).audits))

/-- **Operators in place.** -/
theorem audits_operateInPlace (op : BinaryOp) (v u : Item) :
    (operateInPlace op v u).Audits w missed := by
  unfold operateInPlace
  split
  · exact audits_combine false _ _
  · exact audits_combine true _ _
  · exact audits_rescale false _ _
  · exact audits_rescale true _ _
  · exact audits_rescale true _ _
  · exact audits_combineHoldings false _ _
  · exact audits_combineHoldings true _ _
  · exact audits_operate _ _ _

theorem audits_negate (v : Item) : (negate v).Audits w missed := by
  unfold negate
  split
  · exact audits_quantity (audits_checkedAbort (Quantity.checkedAbort_withAmount _ _) fun q =>
      (silent_newLike _ q).audits)
  · exact audits_holding (audits_checkedAbort (Holding.checkedAbort_neg _) fun k =>
      (silent_newHoldingLike _ k).audits)
  · exact audits_pure _
  · split
    · exact audits_pure _
    · exact audits_throw nofun

end Operators

/-! ## 4. Attributes and methods -/

section Methods

theorem audits_readAttribute (v : Item) (name : String) : (readAttribute v name).Audits w missed := by
  unfold readAttribute
  split
  · refine audits_get ?_
    split
    · exact audits_pure _
    · exact audits_throw nofun
  · exact audits_throw nofun

theorem audits_setAttribute (target : Item) (name : String) (v : Item) :
    (setAttribute target name v).Audits w missed := by
  have refused : ∀ d, (throw (attributeDefect name d) : Act Item).Audits w missed :=
    fun d => audits_throw nofun
  unfold setAttribute
  split
  · split
    · refine audits_datum (audits_checked ((Datum.isChecked_checkAmount _).under _).toExcept ?_)
      exact fun a _ => Silent.audits fun _ => ⟨_, _, rfl, rfl⟩
    · split
      · exact refused _
      · exact refused _
  · split
    · refine audits_datum (audits_checked ((Datum.isChecked_checkQuantity _).under _).toExcept ?_)
      exact fun q _ => (silent_copyQuantity _ _).audits_bind fun n w' =>
        Silent.audits fun _ => ⟨_, _, rfl, rfl⟩
    · split
      · exact refused _
      · exact refused _
  · refine audits_get ?_
    split
    · exact Silent.audits fun _ => ⟨_, _, rfl, rfl⟩
    · split
      · exact Silent.audits fun _ => ⟨_, _, rfl, rfl⟩
      · exact audits_throw nofun
  · exact refused _
  · exact audits_throw nofun

theorem audits_combineAssign (subtract : Bool) (r : Nat) (v : Item) :
    (combineAssign subtract r v).Audits w missed := by
  unfold combineAssign
  split
  · exact audits_combine subtract r _
  · exact audits_quantity (audits_checkedAbort (Quantity.checkedAbort_requireSame _ _ _) fun _ =>
      audits_throw nofun)
  · exact audits_throw nofun

theorem audits_rescaleAssign (divide : Bool) (r : Nat) (v : Item) :
    (rescaleAssign divide r v).Audits w missed := by
  unfold rescaleAssign
  exact audits_datum (audits_checked (Scalar.checked_ofDatum _ _) fun k _ => audits_rescale divide r k)

theorem audits_combineHoldingAssign (subtract : Bool) (r : Nat) (v : Item) :
    (combineHoldingAssign subtract r v).Audits w missed := by
  unfold combineHoldingAssign
  split
  · exact audits_combineHoldings subtract r _
  · exact audits_throw nofun

/-- A method of a quantity misses only what `pack` cannot write. -/
theorem audits_quantityMethod (r : Nat) (m : Method) (args : List Item)
    (hm : m = .pack → ∀ a, a.isOfWriting = true → missed a = true) :
    (quantityMethod r m args).Audits w missed := by
  unfold quantityMethod
  split
  · exact audits_datum (audits_checked (checked_amountToSet _) fun a _ =>
      Silent.audits fun _ => ⟨_, _, rfl, rfl⟩)
  · exact audits_combineAssign false r _
  · exact audits_combineAssign true r _
  · exact audits_rescaleAssign false r _
  · exact audits_rescaleAssign true r _
  · split
    · exact audits_quantity (audits_quantity
        (audits_checkedAbort (Quantity.checkedAbort_ratio _ _) fun n => audits_pure _))
    · exact audits_throw nofun
  · exact audits_negate _
  · exact audits_quantity (silent_newLike r _).audits
  · exact audits_quantity (audits_pure _)
  · exact audits_quantity (audits_pure _)
  · exact audits_quantity (audits_checked (Quantity.checked_text _) fun s _ => audits_pure _)
  · refine audits_quantity (audits_checked (Quantity.checked_text _) fun s _ => ?_)
    refine audits_bind (audits_report ?_) fun _ w' => audits_pure _
    show "quantity" ≠ "asset_check_failed"
    decide
  · exact audits_quantity (audits_pure _)
  · exact audits_quantity (audits_perform_bind ((Quantity.checkedBut_pack _).mono (hm rfl)) fun d _ =>
      audits_pure _)
  all_goals exact audits_throw nofun

/-- A method of a holding misses only what `pack` cannot write. -/
theorem audits_holdingMethod (r : Nat) (m : Method) (args : List Item)
    (hm : m = .pack → ∀ a, a.isOfWriting = true → missed a = true) :
    (holdingMethod r m args).Audits w missed := by
  unfold holdingMethod
  split
  · exact audits_combineHoldingAssign false r _
  · exact audits_combineHoldingAssign true r _
  · exact audits_negate _
  · exact audits_holding (audits_checked (Holding.checked_text _) fun s _ => audits_pure _)
  · refine audits_holding (audits_checked (Holding.checked_text _) fun s _ => ?_)
    refine audits_bind (audits_report ?_) fun _ w' => audits_pure _
    show "owned_quantity" ≠ "asset_check_failed"
    decide
  · exact audits_holding (audits_pure _)
  · exact audits_holding (audits_perform_bind ((Holding.checkedBut_pack _).mono (hm rfl)) fun d _ =>
      audits_pure _)
  · exact Silent.audits fun _ => ⟨_, _, rfl, rfl⟩
  all_goals exact audits_throw nofun

/-- **Methods.** -/
theorem audits_callMethod (v : Item) (m : Method) (args : List Item)
    (hm : m = .pack → ∀ a, a.isOfWriting = true → missed a = true) :
    (callMethod v m args).Audits w missed := by
  unfold callMethod
  split
  · exact audits_quantityMethod _ m args hm
  · exact audits_holdingMethod _ m args hm
  · exact audits_perform ((checked_symbolMethod _ _ _).but missed)
  · split
    · exact audits_pure _
    · exact audits_pure _
    all_goals exact audits_throw nofun
  · exact audits_throw nofun

/-- **Makers** miss only what reading bytes misses. -/
theorem audits_make (m : Maker) (args : List Item)
    (hm : ∀ kind, m = .unpack kind → ∀ a, a.isOfReading = true → missed a = true) :
    (make m args).Audits w missed := by
  unfold make
  split
  · exact Silent.audits fun _ => ⟨_, _, rfl, rfl⟩
  · unfold symbolOfRaw
    split
    · exact audits_checked (Symbol.checked_ofRaw _) fun s _ => Silent.audits fun _ => ⟨_, _, rfl, rfl⟩
    · exact audits_throw nofun
  · exact Silent.audits fun _ => ⟨_, _, rfl, rfl⟩
  · exact Silent.audits fun _ => ⟨_, _, rfl, rfl⟩
  · exact audits_datum (audits_readQuantity _)
  · exact audits_datum (audits_readHolding _)
  · exact audits_datum (audits_checked (checked_bytesOf _) fun d _ =>
      audits_readBytes _ _ d (hm _ rfl))
  · exact audits_datum (audits_checked (checked_bytesOf _) fun d _ =>
      audits_readBytes _ _ d (hm _ rfl))
  · exact audits_buildIssued _ _
  · exact audits_throw nofun
  · exact audits_throw nofun

theorem audits_display (v : Item) : (display v).Audits w missed := by
  unfold display
  split
  · exact audits_quantity (audits_checked (Quantity.checked_text _) fun s _ => audits_pure _)
  · exact audits_holding (audits_checked (Holding.checked_text _) fun s _ => audits_pure _)
  · exact audits_pure _
  · exact audits_pure _
  · exact audits_pure _
  · exact audits_get (audits_checked (Value.Shown.checked_written _) fun s _ => audits_pure _)
  · exact audits_datum (audits_checked (Value.Shown.checked_written _) fun s _ => audits_pure _)

/-- A round trip writes and reads bytes, and then reads a record. -/
theorem audits_roundTrip (v : Item) (hm : ∀ a, a.isAudited = false → missed a = true) :
    (roundTrip v).Audits w missed := by
  have hwrite : ∀ a, a.isOfWriting = true → missed a = true :=
    fun a ha => hm a (Abort.isAudited_eq_false_iff.mpr (Or.inl ha))
  have hread : ∀ a, a.isOfReading = true → missed a = true :=
    fun a ha => hm a (Abort.isAudited_eq_false_iff.mpr (Or.inr ha))
  unfold roundTrip
  split
  · refine audits_quantity (audits_perform_bind ((Quantity.checkedBut_pack _).mono hwrite) fun d _ => ?_)
    refine audits_bind (audits_readBytes _ _ d hread) fun a w₁ => ?_
    exact audits_bind (audits_readQuantity _) fun b w₂ => audits_pure _
  · refine audits_holding (audits_perform_bind ((Holding.checkedBut_pack _).mono hwrite) fun d _ => ?_)
    refine audits_bind (audits_readBytes _ _ d hread) fun a w₁ => ?_
    exact audits_bind (audits_readHolding _) fun b w₂ => audits_pure _
  · exact audits_throw nofun

end Methods

/-! ## 5. Settings and the log -/

section Configuration

theorem audits_currentSettings : currentSettings.Audits w missed := by
  unfold currentSettings
  refine audits_get ?_
  split
  · exact audits_pure _
  · exact audits_bind (audits_findSettings _) fun s w₁ => Silent.audits fun _ => ⟨_, _, rfl, rfl⟩

theorem audits_setVariable (name : String) (v : Item) : (setVariable name v).Audits w missed := by
  have store : ∀ e : Environment,
      (do set { w with environment := e }; return .null : Act Item).Audits w missed := fun e =>
    audits_of_same rfl rfl
  unfold setVariable
  refine audits_get ?_
  split
  · exact store _
  · exact audits_checked (w.environment.checked_setVariable name _) fun e _ => store e
  · exact audits_throw nofun

theorem audits_logState : logState.Audits w missed := audits_get (audits_pure _)

theorem audits_configureLog (level : Datum) (json : Bool) :
    (configureLog level json).Audits w missed := by
  unfold configureLog
  refine audits_get (audits_bind ?_ fun _ w₁ => ?_)
  · exact audits_of_same rfl rfl
  · exact audits_checked (w.logging.checked_configure level json) fun _ _ => audits_logState

theorem audits_configureNamed (named : List (String × Item)) :
    (configureNamed named).Audits w missed := by
  unfold configureNamed
  split
  · exact audits_throw nofun
  · exact audits_datum (audits_configureLog _ _)

theorem audits_setUpLog (args : List Item) : (setUpLog args).Audits w missed := by
  have output : ∀ (r : Nat) (w : World),
      (do
        let s := (← get).heap.settings.get r
        configureLog (.ofPlain s.logLevel) s.logJson.isTruthy : Act Item).Audits w missed :=
    fun r w => audits_get (audits_configureLog _ _)
  unfold setUpLog
  dsimp only
  split
  -- with more than one argument nothing is run
  case h_3 => exact audits_of_misuse rfl nofun
  all_goals
    refine audits_bind (audits_pure _) fun given w₁ => ?_
    split
    · split
      · exact audits_bind (audits_pure _) output
      · exact audits_bind (audits_throw nofun) output
    · exact audits_bind audits_currentSettings output

end Configuration

/-! ## 6. Commands and steps -/

/-- The reasons that a command may be aborted for without a report: reading bytes does not report a code that
goes on behind its end, and writing does not report what it cannot write. -/
def Command.misses : Command → Abort → Bool
  | make (.unpack _) _, a => a.isOfReading
  | call _ .pack _, a => a.isOfWriting
  | roundTrip _, a => a.isOfWriting || a.isOfReading
  | _, _ => false

theorem Command.isAudited_of_misses {c : Command} {a : Abort} (h : c.misses a = true) :
    a.isAudited = false := by
  rw [Abort.isAudited_eq_false_iff]
  unfold misses at h
  split at h
  · exact Or.inr h
  · exact Or.inl h
  · exact (Bool.or_eq_true _ _).mp h
  · cases h

section Commands

theorem audits_origin (t : Term) : t.origin.Audits w missed := by
  unfold Term.origin
  split
  · exact audits_bind (audits_readBinding _) fun b w₁ => audits_pure _
  · exact Silent.audits fun _ => ⟨_, _, rfl, rfl⟩

theorem audits_originOfPart (field : String) (t : Term) : (t.originOfPart field).Audits w missed := by
  unfold Term.originOfPart
  split
  · refine audits_bind (audits_readVariable _) fun v w₁ => ?_
    split
    · exact audits_pure _
    · exact Silent.audits fun _ => ⟨_, _, rfl, rfl⟩
  · exact Silent.audits fun _ => ⟨_, _, rfl, rfl⟩

theorem audits_updateVariable (op : BinaryOp) (name : String) (b : Binding) (u : Item) :
    (updateVariable op name b u).Audits w missed := by
  unfold updateVariable
  split
  · rename_i grown hgrown
    exact audits_checked (checked_extend hgrown) fun xs _ => Silent.audits fun _ => ⟨_, _, rfl, rfl⟩
  · exact audits_bind (audits_operateInPlace op _ u) fun v w₁ =>
      Silent.audits fun _ => ⟨_, _, rfl, rfl⟩

/-- **Every command** is aborted by a check, or for a reason that it misses. -/
theorem Command.audits (c : Command) : c.act.Audits w c.misses := by
  cases c with
  | build kind args named =>
    refine audits_bind (audits_evalAll args w) fun as w₁ => ?_
    exact audits_bind (audits_evalEntries named w₁) fun ns w₂ => audits_build kind as ns
  | eval t => exact audits_eval t w
  | make m args =>
    refine audits_bind (audits_evalAll args w) fun as w₁ => audits_make m as ?_
    rintro kind rfl a ha
    exact ha
  | call on m args =>
    refine audits_bind (audits_eval on w) fun v w₁ => ?_
    refine audits_bind (audits_evalAll args w₁) fun as w₂ => audits_callMethod v m as ?_
    rintro rfl a ha
    exact ha
  | operate op a b =>
    refine audits_bind (audits_eval a w) fun v w₁ => ?_
    exact audits_bind (audits_eval b w₁) fun u w₂ => audits_operate op v u
  | negate a => exact audits_bind (audits_eval a w) fun v w₁ => audits_negate v
  | update op name b =>
    refine audits_bind (audits_readBinding name) fun v w₁ => ?_
    exact audits_bind (audits_eval b w₁) fun u w₂ => audits_updateVariable op name v u
  | get on field => exact audits_bind (audits_eval on w) fun v w₁ => audits_readAttribute v field
  | set on field value =>
    refine audits_bind (audits_eval on w) fun v w₁ => ?_
    exact audits_bind (audits_eval value w₁) fun u w₂ => audits_setAttribute v field u
  | display on => exact audits_bind (audits_eval on w) fun v w₁ => audits_display v
  | same a b =>
    refine audits_bind (audits_eval a w) fun v w₁ => audits_bind (audits_eval b w₁) fun u w₂ => ?_
    refine audits_bind (audits_origin a) fun o w₃ => audits_bind (audits_origin b) fun p w₄ => ?_
    exact audits_pure _
  | countDistinct values =>
    refine audits_bind (audits_evalAll values w) fun vs w₁ => audits_get ?_
    exact audits_checked (checked_countDistinct _ vs) fun n _ => audits_pure _
  | roundTrip on =>
    refine audits_bind (audits_eval on w) fun v w₁ => audits_roundTrip v fun a ha => ?_
    exact (Bool.or_eq_true _ _).mpr (Abort.isAudited_eq_false_iff.mp ha)
  | setVariable name value => exact audits_bind (audits_eval value w) fun v w₁ => audits_setVariable name v
  | writeEnvFile text => exact Silent.audits fun _ => ⟨_, _, rfl, rfl⟩
  | currentSettings => exact audits_bind audits_currentSettings fun r w₁ => audits_pure _
  | clearSettings => exact Silent.audits fun _ => ⟨_, _, rfl, rfl⟩
  | configure named => exact audits_bind (audits_evalEntries named w) fun ns w₁ => audits_configureNamed ns
  | setUp args => exact audits_bind (audits_evalAll args w) fun as w₁ => audits_setUpLog as
  | logState => exact audits_logState

theorem Command.audits_origin (c : Command) : c.origin.Audits w missed := by
  unfold Command.origin
  split
  · exact Ledger.audits_origin _
  · exact audits_originOfPart _ _
  · exact audits_originOfPart _ _
  · exact audits_bind (audits_readBinding _) fun b w₁ => audits_pure _
  · exact Silent.audits fun _ => ⟨_, _, rfl, rfl⟩

/-- **Every step accounts for what it comes to**; the journal holds its events alone, because it is empty when
the command starts. -/
theorem Step.accounts (s : Step) (w : World) :
    Accounts s.command.misses (s.run w).2.journal (s.run w).1 := by
  have hact : s.command.act.Audits w.cleared s.command.misses := s.command.audits
  have hmissed : ∀ a, s.command.misses a = true → a.isAudited = false :=
    fun a ha => Command.isAudited_of_misses ha
  cases hr : s.command.act w.cleared with
  | error f w₁ =>
    obtain ⟨hf, told, hq, hj⟩ := hact.error f w₁ hr
    have hj : w₁.journal = told ++ reports f := hj
    rw [Step.run_of_error hr, hj]
    exact accounts_of_reports hq hf hmissed
  | ok v w₁ =>
    obtain ⟨told, hq, hj⟩ := hact.ok v w₁ hr
    have hj : w₁.journal = told := hj
    cases hs : s.name with
    | none =>
      rw [Step.run_of_unnamed hr hs, hj]
      exact hq
    | some name =>
      have horigin : s.command.origin.Audits w₁ s.command.misses := s.command.audits_origin
      cases ho : s.command.origin w₁ with
      | ok o w₂ =>
        obtain ⟨told', hq', hj'⟩ := horigin.ok o w₂ ho
        rw [Step.run_of_named hr hs ho]
        show Quiet w₂.journal
        rw [hj', hj]
        exact hq.append hq'
      | error f w₂ =>
        obtain ⟨hf, told', hq', hj'⟩ := horigin.error f w₂ ho
        rw [Step.run_of_unknown hr hs ho, hj', hj]
        exact accounts_of_reports (hq.append hq') hf hmissed

end Commands

/-! ## 7. The result -/

theorem accounted_of_checkedAbort {α : Type} {x : Except Abort α} (hx : CheckedAbort x) :
    (performAbort x).Accounted noneMissed :=
  accounted_of_audits (fun _ => audits_perform (hx.lift.but _)) fun _ h => nomatch h

theorem accounted_of_isOfWriting {α : Type} {x : Except Fault α}
    (hx : x.FailsOnly Fault.IsOfWriting) : (perform x).Accounted Abort.isOfWriting :=
  accounted_of_audits (fun _ => audits_perform (checkedBut_of_isOfWriting hx))
    fun _ ha => Abort.isAudited_eq_false_iff.mpr (Or.inl ha)

/-- **Every abort of every operation is reported once, at the end of its events**, and no other failed check is
reported; only bytes are an exception.  This holds of every step of a script, in any world, of the check itself,
with any kind and text, and of checked arithmetic on plain integers.  Of writing with any codec and any fields no
abort is reported at all.  Of reading, an abort is reported unless a code goes on behind its end. -/
theorem aborts_audited (s : Step) (w : World) (condition : Bool) (k : AbortKind) (text : String)
    (a b : Int) (c : Wire.Codec) (fields : List (String × Wire.Codec)) (v : Datum) (kind : EntityKind)
    (data : Wire.Bytes) (offset : Int) :
    Accounts s.command.misses (s.run w).2.journal (s.run w).1 ∧
    (performAbort (Abort.require condition (.stated k text))).Accounted noneMissed ∧
    (∀ x ∈ [Amount.check a, Amount.add a b, Amount.sub a b, Amount.mul a b, Amount.div a b],
      (performAbort x).Accounted noneMissed) ∧
    (∀ x ∈ [c.encode v, Wire.Codec.encodeFields fields v],
      (perform x).Accounted Abort.isOfWriting ∧
      ∀ r, x = .error (.aborted r) → r.isOfWriting = true) ∧
    (perform (c.decode data offset)).Accounted Abort.isOfReading ∧
    (readBytes kind fields data).Accounted Abort.isOfReading := by
  have hreading : ∀ r : Abort, r.isOfReading = true → r.isAudited = false :=
    fun r hr => Abort.isAudited_eq_false_iff.mpr (Or.inr hr)
  refine ⟨s.accounts w, accounted_of_checkedAbort (checkedAbort_require rfl condition), ?_, ?_, ?_, ?_⟩
  · intro x hx
    simp only [List.mem_cons, List.not_mem_nil, or_false] at hx
    rcases hx with rfl | rfl | rfl | rfl | rfl
    · exact accounted_of_checkedAbort (Amount.checkedAbort_check a)
    · exact accounted_of_checkedAbort (Amount.checkedAbort_checkResult .addition _)
    · exact accounted_of_checkedAbort (Amount.checkedAbort_checkResult .subtraction _)
    · exact accounted_of_checkedAbort (Amount.checkedAbort_checkResult .multiplication _)
    · exact accounted_of_checkedAbort (Amount.checkedAbort_div a b)
  · intro x hx
    have hw : x.FailsOnly Fault.IsOfWriting := by
      simp only [List.mem_cons, List.not_mem_nil, or_false] at hx
      rcases hx with rfl | rfl
      · exact Wire.Codec.encode_failsOnly c v
      · exact Wire.Codec.encodeFields_failsOnly fields v
    exact ⟨accounted_of_isOfWriting hw, fun r hr => hw _ hr r rfl⟩
  · exact accounted_of_audits
      (fun _ => audits_perform (Wire.Codec.checkedBut_decode c data offset)) hreading
  · exact accounted_of_audits (fun _ => audits_readBytes kind fields data fun _ h => h) hreading

/-- The bytes of an amount and of a symbol whose code goes on behind its end. -/
def hiddenCode : Wire.Bytes := [0, 0, 0, 0, 0, 0, 0, 0, 4, 65, 0, 66, 0, 0, 0, 0]

/-- They are read as a quantity. -/
def readsHiddenCode : Step := ⟨.make (.unpack .quantity) [.plain (.bytes hiddenCode)], none⟩

/-- **An abort without a report**: the step is aborted as a failure of a codec, and the journal is empty. -/
theorem unpack_unreported :
    (readsHiddenCode.run World.initial).1 = .error (.aborted (.codeAfterEnd 0x42004104)) ∧
    (readsHiddenCode.run World.initial).2.journal = [] ∧
    ¬ Accounts noneMissed (readsHiddenCode.run World.initial).2.journal
      (readsHiddenCode.run World.initial).1 := by
  have hunpack : Quantity.unpack hiddenCode = .error (.aborted (.codeAfterEnd 0x42004104)) := by
    decide +kernel
  have hread : Wire.decodeEntity .quantity Wire.quantityFields hiddenCode =
      .error (.aborted (.codeAfterEnd 0x42004104)) := by
    unfold Quantity.unpack at hunpack
    split at hunpack
    · cases hunpack
    · cases hunpack
    · rename_i f hf
      rw [hf, Except.error.inj hunpack]
  have hrun : readsHiddenCode.run World.initial =
      (.error (.aborted (.codeAfterEnd 0x42004104)), World.initial) := by
    refine Step.run_of_error ?_
    show (perform (Wire.decodeEntity .quantity Wire.quantityFields hiddenCode) >>= _) _ = _
    rw [hread]
    exact bind_of_error (perform_error _ _)
  rw [hrun]
  refine ⟨rfl, rfl, ?_⟩
  rintro ⟨told, e, h, -⟩
  exact List.append_ne_nil_of_right_ne_nil told (List.cons_ne_nil e []) h.symm

end Holdings.Ledger
