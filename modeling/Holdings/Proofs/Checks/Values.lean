/-
# Plain values, settings and the log

Nothing of this is aborted at all, except that the comparison of two values may meet two objects in them whose
comparison is; and the comparison of objects aborts by a check.
-/
import Holdings.Proofs.Checks
import Holdings.Ledger.Methods
import Holdings.Settings.Resolution

namespace Holdings

variable {α : Type}

/-! ## 1. Plain values -/

namespace Value

variable {ω : Type} (v w : Value ω)

theorem checked_toFloat : Checked v.toFloat := by
  unfold toFloat
  split
  · exact Except.failsOnly_ok _
  · split
    · rename_i n _
      cases Binary64.ofInt? n with
      | none => exact Except.failsOnly_error trivial
      | some x => exact Except.failsOnly_ok x
    · exact Except.failsOnly_error trivial

theorem checked_onNumbers {ints : Int → Int → Except Fault (Value ω)}
    {floats : Binary64 → Binary64 → Except Fault (Value ω)} (hints : ∀ a b, Checked (ints a b))
    (hfloats : ∀ x y, Checked (floats x y)) : Checked (onNumbers ints floats v w) := by
  unfold onNumbers
  split
  · exact hints _ _
  · split
    · exact v.checked_toFloat.bind fun x => w.checked_toFloat.bind fun y => hfloats x y
    · exact Except.failsOnly_error trivial

theorem checked_quotient (a b : Int) : Checked (quotient a b : Except Fault (Value ω)) := by
  unfold quotient
  split
  · exact Except.failsOnly_error trivial
  · split
    · exact Except.failsOnly_error trivial
    · exact Except.failsOnly_ok _

theorem checked_dividing (f : Binary64 → Binary64 → Binary64) (x y : Binary64) :
    Checked (dividing f x y : Except Fault (Value ω)) := by
  unfold dividing
  split
  · exact Except.failsOnly_error trivial
  · exact Except.failsOnly_ok _

theorem checked_repeated (xs : List α) (n : Int) : Checked (repeated xs n) := by
  unfold repeated
  split
  · exact Except.failsOnly_error trivial
  · split
    · exact Except.failsOnly_error trivial
    · exact Except.failsOnly_ok _

theorem checked_times (n : Int) : Checked (v.times n) := by
  unfold times
  split
  · exact (checked_repeated _ n).map
  · exact (checked_repeated _ n).map
  · exact (checked_repeated _ n).map
  · exact Except.failsOnly_error trivial

theorem checked_add : Checked (v.add w) := by
  unfold add
  split
  · exact Except.failsOnly_ok _
  · exact Except.failsOnly_ok _
  · exact Except.failsOnly_ok _
  · exact checked_onNumbers _ _ (fun _ _ => Except.failsOnly_ok _) fun _ _ => Except.failsOnly_ok _

theorem checked_sub : Checked (v.sub w) :=
  checked_onNumbers _ _ (fun _ _ => Except.failsOnly_ok _) fun _ _ => Except.failsOnly_ok _

theorem checked_mul : Checked (v.mul w) := by
  unfold mul
  split
  · exact v.checked_times _
  · exact w.checked_times _
  · exact checked_onNumbers _ _ (fun _ _ => Except.failsOnly_ok _) fun _ _ => Except.failsOnly_ok _

theorem checked_div : Checked (v.div w) :=
  checked_onNumbers _ _ checked_quotient (checked_dividing _)

theorem checked_floorDiv : Checked (v.floorDiv w) := by
  refine checked_onNumbers _ _ (fun a b => ?_) (checked_dividing _)
  split
  · exact Except.failsOnly_error trivial
  · exact Except.failsOnly_ok _

variable {same : ω → ω → Except Fault Bool} {objects : Comparison → ω → ω → Except Fault Bool}

/-! Values are compared from the outside inwards, and the comparison of two objects in them may abort. -/

mutual

theorem checked_equal (hs : ∀ o p, Checked (same o p)) :
    ∀ v w : Value ω, Checked (v.equal same w)
  | .list xs, w => by
    unfold equal
    split
    · split
      · exact checked_equalAll hs xs _
      · exact Except.failsOnly_ok false
    · exact Except.failsOnly_ok false
  | .dict es, w => by
    unfold equal
    split
    · split
      · exact checked_equalEntries hs es _
      · exact Except.failsOnly_ok false
    · exact Except.failsOnly_ok false
  | .object o, w => by
    unfold equal
    split
    · exact hs o _
    · exact Except.failsOnly_ok false
  | .text s, w => by
    unfold equal
    split <;> exact Except.failsOnly_ok _
  | .bytes s, w => by
    unfold equal
    split <;> exact Except.failsOnly_ok _
  | .null, w => by
    unfold equal
    split <;> exact Except.failsOnly_ok _
  | .bool b, w => Except.failsOnly_ok _
  | .int n, w => Except.failsOnly_ok _
  | .float x, w => Except.failsOnly_ok _

theorem checked_equalAll (hs : ∀ o p, Checked (same o p)) :
    ∀ xs ys : List (Value ω), Checked (equalAll same xs ys)
  | [], ys => Except.failsOnly_ok _
  | x :: xs, [] => Except.failsOnly_ok _
  | x :: xs, y :: ys => by
    rw [equalAll]
    refine (checked_equal hs x y).bind fun b => ?_
    split
    · exact checked_equalAll hs xs ys
    · exact Except.failsOnly_ok false

theorem checked_equalEntries (hs : ∀ o p, Checked (same o p)) :
    ∀ es fs : List (String × Value ω), Checked (equalEntries same es fs)
  | [], fs => Except.failsOnly_ok _
  | (k, x) :: es, fs => by
    rw [equalEntries]
    split
    · refine (checked_equal hs x _).bind fun b => ?_
      split
      · exact checked_equalEntries hs es fs
      · exact Except.failsOnly_ok false
    · exact Except.failsOnly_ok false

end

mutual

theorem checked_ordered (ho : ∀ c o p, Checked (objects c o p)) (c : Comparison) :
    ∀ v w : Value ω, Checked (v.ordered objects c w)
  | .list xs, w => by
    unfold ordered
    split
    · exact checked_orderedAll ho c xs _
    · exact Except.failsOnly_error trivial
  | .object o, w => by
    unfold ordered
    split
    · exact ho c o _
    · exact Except.failsOnly_error trivial
  | .text s, w => by
    unfold ordered
    split
    · exact Except.failsOnly_ok _
    · exact Except.failsOnly_error trivial
  | .bytes s, w => by
    unfold ordered
    split
    · exact Except.failsOnly_ok _
    · exact Except.failsOnly_error trivial
  | .null, w => Except.failsOnly_error trivial
  | .dict es, w => Except.failsOnly_error trivial
  | .bool b, w => by
    unfold ordered
    split
    · exact Except.failsOnly_ok _
    · exact Except.failsOnly_error trivial
  | .int n, w => by
    unfold ordered
    split
    · exact Except.failsOnly_ok _
    · exact Except.failsOnly_error trivial
  | .float x, w => by
    unfold ordered
    split
    · exact Except.failsOnly_ok _
    · exact Except.failsOnly_error trivial

theorem checked_orderedAll (ho : ∀ c o p, Checked (objects c o p)) (c : Comparison) :
    ∀ xs ys : List (Value ω), Checked (orderedAll objects c xs ys)
  | [], ys => Except.failsOnly_ok _
  | x :: xs, [] => Except.failsOnly_ok _
  | x :: xs, y :: ys => by
    rw [orderedAll]
    refine (checked_equal (ho .eq) x y).bind fun b => ?_
    split
    · exact checked_orderedAll ho c xs ys
    · exact checked_ordered ho c x y

end

theorem checked_compareWith (ho : ∀ c o p, Checked (objects c o p)) (c : Comparison) :
    Checked (compareWith objects c v w) := by
  unfold compareWith
  split
  · exact checked_equal (ho .eq) v w
  · exact (checked_equal (ho .eq) v w).map
  · exact checked_ordered ho _ v w

end Value

/-! ## 2. Settings and the log -/

theorem Settings.Options.checked_nameAll (args : List α) (named : List (String × α)) :
    Checked (Settings.Options.nameAll args named) := by
  unfold nameAll
  dsimp only
  split
  · exact Except.failsOnly_error trivial
  · exact Except.failsOnly_ok _

theorem Settings.Options.checked_fileNames (v : Datum) : Checked (fileNames v) := by
  unfold fileNames
  split
  · exact Except.failsOnly_ok _
  · refine Except.failsOnly_mapM (fun x => ?_) _
    split
    · exact Except.failsOnly_ok _
    · exact Except.failsOnly_error trivial
  · exact Except.failsOnly_ok _
  · exact Except.failsOnly_ok _
  · exact Except.failsOnly_error trivial

theorem Settings.Options.checked_ofNamed (named : Fields) : Checked (ofNamed named) := by
  have hbeginning : ∀ v, Checked (beginningOf v) := by
    intro v
    unfold beginningOf
    split
    · exact Except.failsOnly_ok _
    · exact Except.failsOnly_ok _
    · exact Except.failsOnly_error trivial
  have hfiles : ∀ v, Checked (filesOf v) := by
    intro v
    unfold filesOf
    split
    · exact Except.failsOnly_ok _
    · exact Except.failsOnly_ok _
    · exact checked_fileNames _
  exact (hbeginning _).bind fun _ => (hfiles _).bind fun _ => Except.failsOnly_ok _

namespace Environment

variable (e : Environment)

theorem checked_setVariable (name text : String) : Checked (e.setVariable name text) := by
  unfold setVariable
  split
  · exact Except.failsOnly_error trivial
  · split
    · exact Except.failsOnly_error trivial
    · split
      · exact Except.failsOnly_error trivial
      · exact Except.failsOnly_ok _

theorem checked_fileText? (name : String) : Checked (e.fileText? name) := by
  unfold fileText?
  split
  · split
    · exact Except.failsOnly_ok _
    · exact Except.failsOnly_error trivial
  · split
    · exact Except.failsOnly_ok _
    · exact Except.failsOnly_error trivial
    · exact Except.failsOnly_ok _

theorem checked_settings (o : Settings.Options) (named : Fields) : Checked (e.settings o named) := by
  have htexts : Checked (e.fileTexts o.files) :=
    (Except.failsOnly_mapM e.checked_fileText? o.files).bind fun _ => Except.failsOnly_ok _
  exact htexts.map

end Environment

theorem Datum.isChecked_checkLevel (v : Datum) : v.checkLevel.IsChecked := by
  unfold checkLevel
  split
  · split
    · exact Verdict.isChecked_valid _
    · exact Verdict.isChecked_defect _
  · exact Verdict.isChecked_defect _

theorem Datum.isChecked_flagVerdict (b : Option Bool) : (flagVerdict b).IsChecked := by
  cases b with
  | none => exact Verdict.isChecked_defect _
  | some b => exact Verdict.isChecked_valid b

theorem Datum.isChecked_checkFlag (v : Datum) : v.checkFlag.IsChecked := by
  have hwhole : ∀ n, (checkWholeFlag n).IsChecked := by
    intro n
    unfold checkWholeFlag
    split
    · exact isChecked_flagVerdict _
    · exact Verdict.isChecked_defect _
  unfold checkFlag
  split
  · exact Verdict.isChecked_valid _
  · exact hwhole _
  · split
    · split
      · exact Verdict.isChecked_defect _
      · exact hwhole _
    · exact Verdict.isChecked_defect _
  · exact isChecked_flagVerdict _
  · exact isChecked_flagVerdict _
  · exact Verdict.isChecked_defect _

theorem Settings.isChecked_ofFound (find? : String → Option Datum) :
    (Settings.ofFound find?).IsChecked := by
  have hsetting : ∀ {γ : Type} (name : String) (default : γ) {check : Datum → Verdict γ},
      (∀ v, (check v).IsChecked) → (settingOr name default check (find? name)).IsChecked := by
    intro γ name default check hcheck
    unfold settingOr
    split
    · exact (hcheck _).under name
    · exact Verdict.isChecked_valid default
  exact ((hsetting _ _ Datum.isChecked_checkLevel).both (hsetting _ _ Datum.isChecked_checkFlag)).map

/-- What is found for settings is checked, whatever they are read from. -/
theorem Environment.isChecked_of_settings {e : Environment} {o : Settings.Options} {named : Fields}
    {verdict : Verdict Settings} {notices : List String}
    (h : e.settings o named = .ok (verdict, notices)) : verdict.IsChecked := by
  unfold Environment.settings at h
  obtain ⟨texts, -, hv⟩ := Except.map_eq_ok_iff.mp h
  obtain ⟨rfl, -⟩ := Prod.mk.inj hv
  exact Settings.isChecked_ofFound _

theorem Logging.checked_configure (l : Logging) (level : Datum) (json : Bool) :
    Checked (l.configure level json).1 := by
  have hlevel : Checked (Threshold.ofDatum level) := by
    unfold Threshold.ofDatum
    split
    · exact Except.failsOnly_ok _
    · exact Except.failsOnly_ok _
    · split
      · exact Except.failsOnly_ok _
      · exact Except.failsOnly_error trivial
    · exact Except.failsOnly_error trivial
  unfold configure
  dsimp only
  split
  · exact Except.failsOnly_ok ()
  · rename_i f hf
    exact Except.failsOnly_error (hlevel f hf)

/-! ## 3. Objects of a script -/

namespace Ledger

theorem checked_compareObjects (h : Heap) (c : Comparison) (r s : Ref) :
    Checked (compareObjects h c r s) := by
  unfold compareObjects
  split
  · exact ((h.quantity _).checkedAbort_compare _ c).lift
  · exact ((h.holding _).checkedAbort_compare _ c).lift
  · split
    · exact Except.failsOnly_ok _
    · exact Except.failsOnly_ok _
    · exact Except.failsOnly_error trivial

theorem checked_onOthers (op : BinaryOp) (h : Heap) (v w : Item) : Checked (onOthers op h v w) := by
  cases op with
  | add => exact v.checked_add w
  | sub => exact v.checked_sub w
  | mul => exact v.checked_mul w
  | div => exact v.checked_div w
  | floorDiv => exact v.checked_floorDiv w
  | compare c => exact (v.checked_compareWith w (checked_compareObjects h) c).map

theorem checked_extend {op : BinaryOp} {v w : Item} {grown : Except Fault Item}
    (h : extend? op v w = some grown) : Checked grown := by
  unfold extend? at h
  split at h
  · cases h
    cases w.elements? with
    | none => exact Except.failsOnly_error trivial
    | some ys => exact Except.failsOnly_ok _
  · cases h
    exact Value.checked_mul _ w
  · cases h

theorem checked_countDistinct (h : Heap) (vs : List Item) : Checked (countDistinct h vs) := by
  unfold countDistinct
  split
  · exact Except.failsOnly_ok _
  · exact Except.failsOnly_error trivial

theorem checked_amountToSet (v : Datum) : Checked (amountToSet v) := by
  have hcompares : Checked (comparesInRange v) := by
    unfold comparesInRange
    split
    · exact Except.failsOnly_ok _
    · split
      · exact Except.failsOnly_ok _
      · exact Except.failsOnly_error trivial
  exact hcompares.bind fun b => (checked_require rfl b).bind fun _ =>
    (v.isChecked_checkAmount.under "amount").toExcept

theorem checked_symbolMethod (s : Symbol) (m : Method) (args : List Item) :
    Checked (symbolMethod s m args) := by
  have hraw : Checked s.raw := by
    unfold Symbol.raw
    split
    · exact Except.failsOnly_ok _
    · exact Except.failsOnly_error trivial
  unfold symbolMethod
  split
  · exact Except.failsOnly_ok _
  · exact Except.failsOnly_ok _
  · exact Except.failsOnly_ok _
  · exact (hraw.bind fun _ => Except.failsOnly_ok _).map
  all_goals exact Except.failsOnly_error trivial

theorem checked_bytesOf (v : Datum) : Checked (bytesOf v) := by
  unfold bytesOf
  split
  · exact Except.failsOnly_ok _
  · refine Except.failsOnly_mapM (fun x => ?_) _
    split
    · split
      · exact Except.failsOnly_ok _
      · exact Except.failsOnly_error trivial
    · exact Except.failsOnly_error trivial
  · exact Except.failsOnly_ok _
  · split
    · split
      · exact Except.failsOnly_error trivial
      · split
        · exact Except.failsOnly_error trivial
        · exact Except.failsOnly_ok _
    · exact Except.failsOnly_error trivial

end Ledger

theorem Symbol.checked_ofRaw (raw : Int) : Checked (Symbol.ofRaw raw) := by
  unfold Symbol.ofRaw
  split
  · exact Except.failsOnly_ok _
  · exact Except.failsOnly_error trivial
  · exact Except.failsOnly_error trivial

end Holdings
