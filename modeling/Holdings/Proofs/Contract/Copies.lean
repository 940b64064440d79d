/-
# Two copies of one contract

The form of a quantity is published twice: on its own, where the symbol is referred to, and again within the
form of a holding, where it is spelled out.  Nothing ties the two together but that they mean the same
(`Contract/Published.lean`).  So a holding is checked like its quantity, and then like its owner: what is
found in the quantity is the same, one name further out, and what is found in the owner does not
depend on the quantity.  This holds of the violations; a list of them is had only if all of them can be told,
so the list for a holding is missing if the one for its quantity is, and also if the owner has a violation
that cannot be told.

A contract is only the first check of what is read.  The checks that follow have other faults
(`Quantity.ofValue_contract_iff`), so the fault tells which of them failed.
-/
import Holdings.Proofs.Contract.Published
import Holdings.Proofs.Record.Refusal

namespace Holdings

open Contract

/-! ## 1. Records with all their fields -/

namespace Contract

/-- With all fields there and no others, only what is in the fields counts. -/
theorem Schema.record_violations_of_fields {forms : List (String × Schema)} {es : Fields}
    (hfound : ∀ n ∈ forms.map Prod.fst, ∃ x, List.lookup n es = some x)
    (honly : ∀ k, (List.lookup k es).isSome = true → k ∈ forms.map Prod.fst) :
    (Schema.record forms).violations (.dict es) = Schema.fieldViolations forms es := by
  rw [Schema.violations, missingViolations_eq_nil_iff.mpr hfound, foreignViolations_eq_nil_iff.mpr honly]
  rfl

/-- The violations of an owner, seen from the holding. -/
def ownerViolations (w : Datum) : List Violation :=
  (ownerForm.violations w).map (Violation.under "owner")

/-- **A holding has the violations of its quantity, and then those of its owner.** -/
theorem holdingForm_violations {v w obj : Datum}
    (h : obj.IsRecord [("quantity", (· = v)), ("owner", (· = w))]) :
    holdingForm.violations obj =
      (quantityForm.violations v).map (Violation.under "quantity") ++ ownerViolations w := by
  obtain ⟨es, rfl, hf, honly⟩ := h
  have hlook : List.lookup "quantity" es = some v ∧ List.lookup "owner" es = some w := by
    simpa using hf
  rw [holdingForm_eq, Schema.record_violations_of_fields (by simp [hlook]) honly,
    Schema.fieldViolations, Schema.fieldViolations, Schema.fieldViolations, hlook.1, hlook.2]
  dsimp only
  rw [List.append_nil]
  rfl

/-- Whether a violation can be told is the same from one name further out. -/
theorem untold_under {name : String} {v obj : Datum} {fields : List (String × (Datum → Prop))}
    (h : obj.IsRecord fields) (hv : (name, (· = v)) ∈ fields) {x : Violation} :
    Untold obj (x.under name) ↔ Untold v x := by
  obtain ⟨es, rfl, hf, -⟩ := h
  obtain ⟨u, hlook, rfl⟩ := hf _ hv
  have hat : Datum.at? (.dict es) (name :: x.path) = Datum.at? u x.path := by
    rw [Datum.at?, hlook]
    rfl
  unfold Untold Violation.under
  dsimp only
  rw [hat]

/-- What a list of violations was told from can be told. -/
theorem Tells.told_of_report {form : Schema} {v : Datum} (h : Tells form v) {xs : List Violation}
    (hxs : form.report v = .ok xs) : xs = form.violations v ∧ ∀ x ∈ xs, ¬ Untold v x := by
  have htold : ∀ x ∈ form.violations v, ¬ Untold v x := by
    intro x hx hu
    rw [h.unlisted ⟨x, hx, hu⟩] at hxs
    cases hxs
  rw [h.listed htold, Except.ok.injEq] at hxs
  exact ⟨hxs.symm, hxs ▸ htold⟩

/-- Without a list there is a violation that cannot be told. -/
theorem Tells.untold_of_report {form : Schema} {v : Datum} (h : Tells form v) {f : Fault}
    (hf : form.report v = .error f) : ∃ x ∈ form.violations v, Untold v x := by
  by_contra hnone
  rw [h.listed fun x hx hu => hnone ⟨x, hx, hu⟩] at hf
  cases hf

end Contract

/-! ## 2. The fault of a contract -/

variable {v : Datum}

/-- **A reader that holds data against a contract first** has a fault of the contract exactly for a first
violation that fails with it, if none of its other causes does. -/
theorem Classified.error_iff {α : Type} {outcome : Except Fault α} {violations : List Violation} {f : Fault}
    (hbreach : ∀ first rest g, violations = first :: rest → FailsWith v first g → outcome = .error g)
    (hrest : violations = [] → ∃ (Result : α → Prop) (causes : List (Prop × Fault)),
      Classified outcome Result causes ∧ ∀ c ∈ causes, c.2 ≠ f) :
    outcome = .error f ↔ ∃ first rest, violations = first :: rest ∧ FailsWith v first f := by
  refine ⟨fun hf => ?_, fun ⟨first, rest, hfirst, hfails⟩ => hbreach _ _ _ hfirst hfails⟩
  cases hv : violations with
  | nil =>
    obtain ⟨Result, causes, hclassified, hother⟩ := hrest hv
    obtain ⟨cause, hmem, -, hfault⟩ := hclassified.of_error hf
    exact absurd hfault (hother cause hmem)
  | cons first rest =>
    refine ⟨first, rest, rfl, ?_⟩
    by_cases hu : Untold v first
    · have hg := hbreach _ _ _ hv (Or.inr ⟨hu, rfl⟩)
      rw [hf] at hg
      exact Or.inr ⟨hu, Except.error.inj hg⟩
    · have hg := hbreach _ _ _ hv (Or.inl ⟨hu, rfl⟩)
      rw [hf] at hg
      exact Or.inl ⟨hu, Except.error.inj hg⟩

/-- The faults of a contract: a violation, or one that cannot be told. -/
def Fault.OfContract (f : Fault) : Prop := (∃ x, f = .contract x) ∨ f = .refused .longNumber

/-- The causes at the leaves, and the details, have other faults. -/
theorem Quantity.leafCauses_ne_contract {amount precision : Datum} {code : String} {applies : Prop}
    {details : List Detail} {f : Fault} (hf : f.OfContract) :
    ∀ c ∈ Quantity.leafCauses amount code precision ++ [(applies, Fault.invalid details)], c.2 ≠ f := by
  intro c hc
  simp only [Quantity.leafCauses, List.cons_append, List.nil_append, List.mem_cons,
    List.not_mem_nil, or_false] at hc
  rcases hf with ⟨x, rfl⟩ | rfl <;> rcases hc with rfl | rfl | rfl <;> simp

/-- A quantity is refused for its contract exactly when it has a violation. -/
theorem Quantity.ofValue_contract_iff {f : Fault} (hf : f.OfContract) :
    Quantity.ofValue v = .error f ↔
      ∃ first rest, quantityForm.violations v = first :: rest ∧ FailsWith v first f := by
  refine Classified.error_iff (fun _ _ _ h => Quantity.ofValue_of_breach h) fun hnil => ?_
  obtain ⟨a, c, p, hv, hleaves⟩ := quantity_conforms_iff.mp hnil
  exact ⟨_, _, Quantity.ofValue_classified hv hleaves, Quantity.leafCauses_ne_contract hf⟩

/-- A holding is refused for its contract exactly when it has a violation. -/
theorem Holding.ofValue_contract_iff {f : Fault} (hf : f.OfContract) :
    Holding.ofValue v = .error f ↔
      ∃ first rest, holdingForm.violations v = first :: rest ∧ FailsWith v first f := by
  refine Classified.error_iff (fun _ _ _ h => Holding.ofValue_of_breach h) fun hnil => ?_
  obtain ⟨a, c, p, o, hv, hleaves, ho⟩ := holding_conforms_iff.mp hnil
  exact ⟨_, _, Holding.ofValue_classified hv hleaves ho, Quantity.leafCauses_ne_contract hf⟩

/-! ## 3. The copies agree -/

namespace Contract

/-- A holding of a value, seen beside this value: `ofOwner` are the violations of its owner. -/
structure Follows (ofOwner : List Violation) (v obj : Datum) : Prop where
  /-- The violations of the quantity, one name further out, and then those of the owner. -/
  violations : holdingForm.violations obj =
    (quantityForm.violations v).map (Violation.under "quantity") ++ ofOwner
  /-- So do the documents report. -/
  reported : ∀ xs, ReportedBy quantityDocument v xs →
    ReportedBy holdingDocument obj (xs.map (Violation.under "quantity") ++ ofOwner)
  /-- The list is had if it is had of the quantity, and if all of the owner can be told. -/
  listed : ∀ xs, quantityForm.report v = .ok xs → (∀ x ∈ ofOwner, ¬ Untold obj x) →
    holdingForm.report obj = .ok (xs.map (Violation.under "quantity") ++ ofOwner)
  /-- Otherwise there is none. -/
  unlisted : ((∃ f, quantityForm.report v = .error f) ∨ ∃ x ∈ ofOwner, Untold obj x) →
    holdingForm.report obj = .error (.refused .longNumber)

/-- A holding that belongs to a word is refused for its contract as its quantity is. -/
structure RefusedAlike (v obj : Datum) : Prop where
  passed : holdingForm.check obj = .ok () ↔ quantityForm.check v = .ok ()
  contract : ∀ x, Holding.ofValue obj = .error (.contract x) ↔
    ∃ y, x = y.under "quantity" ∧ Quantity.ofValue v = .error (.contract y)
  untold : Holding.ofValue obj = .error (.refused .longNumber) ↔
    Quantity.ofValue v = .error (.refused .longNumber)

theorem untold_quantity {v w obj : Datum}
    (h : obj.IsRecord [("quantity", (· = v)), ("owner", (· = w))]) {x : Violation} :
    Untold obj (x.under "quantity") ↔ Untold v x := untold_under h List.mem_cons_self

theorem untold_owner {v w obj : Datum}
    (h : obj.IsRecord [("quantity", (· = v)), ("owner", (· = w))]) {x : Violation} :
    Untold obj (x.under "owner") ↔ Untold w x :=
  untold_under h (List.mem_cons_of_mem _ List.mem_cons_self)

theorem follows_of_isRecord {v w obj : Datum}
    (h : obj.IsRecord [("quantity", (· = v)), ("owner", (· = w))]) :
    Follows (ownerViolations w) v obj where
  violations := holdingForm_violations h
  reported := by
    intro xs hxs
    rw [quantityDocument_means.reportedBy_iff] at hxs
    rw [holdingDocument_means.reportedBy_iff, hxs, holdingForm_violations h]
  listed := by
    intro xs hxs howner
    obtain ⟨rfl, htold⟩ := quantityDocument_means.tells.told_of_report hxs
    rw [← holdingForm_violations h]
    refine holdingDocument_means.tells.listed fun x hx => ?_
    rw [holdingForm_violations h] at hx
    rcases List.mem_append.mp hx with hx | hx
    · obtain ⟨y, hy, rfl⟩ := List.mem_map.mp hx
      rw [untold_quantity h]
      exact htold y hy
    · exact howner x hx
  unlisted := by
    intro hfail
    refine holdingDocument_means.tells.unlisted ?_
    rw [holdingForm_violations h]
    rcases hfail with ⟨f, hf⟩ | ⟨x, hx, hu⟩
    · obtain ⟨y, hy, hu⟩ := quantityDocument_means.tells.untold_of_report hf
      exact ⟨_, List.mem_append_left _ (List.mem_map_of_mem hy), (untold_quantity h).mpr hu⟩
    · exact ⟨x, List.mem_append_right _ hx, hu⟩

theorem refusedAlike_of_described {v w obj : Datum}
    (h : obj.IsRecord [("quantity", (· = v)), ("owner", (· = w))]) (hw : Identity.Described w) :
    RefusedAlike v obj := by
  have hlist : holdingForm.violations obj =
      (quantityForm.violations v).map (Violation.under "quantity") := by
    rw [holdingForm_violations h, ownerViolations, ownerForm_accepts_iff.mpr hw, List.map_nil,
      List.append_nil]
  -- the first violation of the holding is the first one of the quantity
  have hfirst : ∀ f, (∃ first rest, holdingForm.violations obj = first :: rest ∧ FailsWith obj first f) ↔
      ∃ first rest, quantityForm.violations v = first :: rest ∧
        FailsWith obj (first.under "quantity") f := by
    intro f
    rw [hlist]
    cases quantityForm.violations v <;> simp
  refine ⟨?_, fun x => ?_, ?_⟩
  · rw [Schema.check_eq_ok_iff, Schema.check_eq_ok_iff, hlist, List.map_eq_nil_iff]
  · rw [Holding.ofValue_contract_iff (Or.inl ⟨x, rfl⟩), hfirst]
    constructor
    · rintro ⟨y, rest, hy, ⟨ht, hx⟩ | ⟨-, hx⟩⟩
      · rw [Fault.contract.injEq] at hx
        refine ⟨y, hx, (Quantity.ofValue_contract_iff (Or.inl ⟨y, rfl⟩)).mpr ⟨y, rest, hy, ?_⟩⟩
        exact Or.inl ⟨mt (untold_quantity h).mpr ht, rfl⟩
      · cases hx
    · rintro ⟨y, rfl, hy⟩
      obtain ⟨y', rest, hy', ⟨ht, hx⟩ | ⟨-, hx⟩⟩ :=
        (Quantity.ofValue_contract_iff (Or.inl ⟨y, rfl⟩)).mp hy
      · cases hx
        exact ⟨y, rest, hy', Or.inl ⟨mt (untold_quantity h).mp ht, rfl⟩⟩
      · cases hx
  · rw [Holding.ofValue_contract_iff (Or.inr rfl), Quantity.ofValue_contract_iff (Or.inr rfl), hfirst]
    simp [FailsWith, untold_quantity h]

/-- **The two published forms of a quantity agree.**  Whatever the document for quantities reports of a
value, the document for holdings reports of a holding of it, with the same breaches in the same order and one
name more in front of each path; what it reports besides depends on the owner alone.  The list for the holding is had
exactly when the one for the quantity is and the owner has no violation that cannot be told.  So if the owner
is a word, a holding passes its contract exactly when the quantity does, and is refused for the same violation or
for want of its text. -/
theorem copies_of_quantity_agree :
    ∃ ofOwner : Datum → List Violation,
      (∀ w, ∀ x ∈ ofOwner w, ∃ path, x.path = "owner" :: path) ∧
      ∀ v w obj : Datum, obj.IsRecord [("quantity", (· = v)), ("owner", (· = w))] →
        (∀ x ∈ ofOwner w, ¬ w.HoldsLong → ¬ Untold obj x) ∧
        Follows (ofOwner w) v obj ∧ (Identity.Described w → RefusedAlike v obj) := by
  refine ⟨ownerViolations, fun w x hx => ?_, fun v w obj h =>
    ⟨fun x hx hw => ?_, follows_of_isRecord h, refusedAlike_of_described h⟩⟩
  · obtain ⟨y, -, rfl⟩ := List.mem_map.mp hx
    exact ⟨y.path, rfl⟩
  · obtain ⟨y, -, rfl⟩ := List.mem_map.mp hx
    rw [untold_owner h]
    exact not_untold hw y

/-- A holding is given by what it is a holding of and by its owner. -/
theorem isRecord_holding (v w : Datum) : Datum.IsRecord (.dict [("owner", w), ("quantity", v)])
    [("quantity", (· = v)), ("owner", (· = w))] := by
  refine ⟨_, rfl, by simp [Value.lookup_entry_cons], fun k hk => ?_⟩
  rw [Value.isSome_lookup_iff] at hk
  simpa [or_comm] using hk

/-- A holding of null that belongs to the word seven, and one of the empty quantity. -/
theorem copies_of_quantity_agree_at_null_and_empty :
    Holding.ofValue (.dict [("owner", .dict [("value", .int 7)]), ("quantity", .null)]) =
      .error (.contract ⟨["quantity"], .wrongType ⟨"None", true⟩ "object"⟩) ∧
    holdingForm.check
      (.dict [("owner", .dict [("value", .int 7)]), ("quantity", Quantity.empty.toValue)]) = .ok () := by
  obtain ⟨ofOwner, -, h⟩ := copies_of_quantity_agree
  have howner : Identity.Described (.dict [("value", .int 7)]) := ownerForm_accepts_iff.mp (by rfl)
  have hnull := (h _ _ _ (isRecord_holding .null _)).2.2 howner
  have hempty := (h _ _ _ (isRecord_holding Quantity.empty.toValue _)).2.2 howner
  exact ⟨(hnull.contract _).mpr ⟨⟨[], .wrongType ⟨"None", true⟩ "object"⟩, rfl, rfl⟩,
    hempty.passed.mpr (by rfl)⟩

/-- The only violation of an owner that is too long a number. -/
theorem ownerForm_violations_of_long {n : Int} (hn : 0 ≤ n) (h : Text.IsLong n) :
    ownerForm.violations (.dict [("value", .int n)]) =
      [⟨["value"], .above (Datum.shown (.int n)) 18446744073709551615⟩] := by
  have hword : wordForm.violations (.int n) =
      [here (.above (Datum.shown (.int n)) 18446744073709551615)] :=
    Schema.bounded_violations_of_isLong hn h (by decide)
  simp [ownerForm, Schema.violations, Schema.fieldViolations, missingViolations, foreignViolations,
    here, Violation.under, List.lookup_cons, ↓hword]

/-- **The lists do not agree for every owner**: if it has one digit too many, there is no list for the holding,
although there is one for its quantity. -/
theorem no_list_of_long_owner :
    ∃ w obj : Datum, w = .dict [("value", .int (10 ^ 4300))] ∧
      obj = .dict [("owner", w), ("quantity", Quantity.empty.toValue)] ∧
      quantityForm.report Quantity.empty.toValue = .ok [] ∧
      holdingForm.report obj = .error (.refused .longNumber) ∧
      ¬ ∃ ofOwner : Datum → List Violation, ∀ v w obj : Datum,
        obj.IsRecord [("quantity", (· = v)), ("owner", (· = w))] →
        ∀ xs, quantityForm.report v = .ok xs →
          holdingForm.report obj = .ok (xs.map (Violation.under "quantity") ++ ofOwner w) := by
  have hlong : Text.IsLong (10 ^ 4300) := Text.isLong_of_natAbs_eq (Text.natAbs_ten_pow 4300)
  have howner := ownerForm_violations_of_long (Int.pow_nonneg (by decide)) hlong
  have huntold : Untold (.dict [("value", .int (10 ^ 4300))])
      ⟨["value"], .above (Datum.shown (.int (10 ^ 4300))) 18446744073709551615⟩ :=
    ⟨by simp [Breach.keyword, showingKeywords], _, rfl, _, .int _, hlong⟩
  have hrecord := isRecord_holding Quantity.empty.toValue (.dict [("value", .int (10 ^ 4300))])
  have hlisted : quantityForm.report Quantity.empty.toValue = .ok [] := rfl
  have hunlisted := (follows_of_isRecord hrecord).unlisted (Or.inr ⟨_,
    List.mem_map_of_mem (howner ▸ List.mem_singleton_self _), (untold_owner hrecord).mpr huntold⟩)
  refine ⟨_, _, rfl, rfl, hlisted, hunlisted, ?_⟩
  rintro ⟨ofOwner, hall⟩
  have hlist := hall _ _ _ hrecord [] hlisted
  rw [hunlisted] at hlist
  cases hlist

end Contract

end Holdings
