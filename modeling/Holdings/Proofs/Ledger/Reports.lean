/-
# What a run reports

What the journal says of an operation that was aborted.  Where a check has found the reason, the journal ends
with the report of it, and before that there is no other; where an operation succeeds or fails otherwise, no
failed check is reported at all.  The three reasons that no check finds break the rule: the operation is
aborted, and the journal says nothing.  `Accounts` is the rule, with the reasons that are missed.

An act tells of its failure what `perform` tells of the pure operation that failed (`Act.Audits`).  The report
comes at the end of the run, because a failure ends it, and what was told before is never a failed check: the
part of a run that went before gave a result.  The rules of this module follow the way acts are put together.
-/
import Holdings.Proofs.Checks.Bytes
import Holdings.Proofs.Ledger.Acts

namespace Holdings.Ledger

open Act

/-! ## 1. What the journal says -/

/-- No failed check is reported. -/
def Quiet (events : List Event) : Prop := ∀ e ∈ events, e.name ≠ "asset_check_failed"

/-- The last event is the report of a failed check, with kind and text of this reason, and it is the only one. -/
def EndsWithReport (a : Abort) (events : List Event) : Prop :=
  ∃ told e, events = told ++ [e] ∧ Quiet told ∧ e.name = "asset_check_failed" ∧
    e.fields = [("kind", .text a.kind.label), ("reason", .text a.reason)]

/-- **The rule of the audit**, with the reasons that it misses: an abort is reported once and at the end, and
nothing else is reported as a failed check. -/
def Accounts {α : Type} (missed : Abort → Bool) (events : List Event) : Except Fault α → Prop
  | .error (.aborted a) => if missed a then Quiet events else EndsWithReport a events
  | _ => Quiet events

/-- In every world, the events that a run adds to the journal account for what it comes to. -/
def Act.Accounted {α : Type} (x : Act α) (missed : Abort → Bool) : Prop :=
  ∀ w, ∃ events, match x w with
    | .ok a w' => w'.journal = w.journal ++ events ∧ Accounts missed events (.ok a)
    | .error f w' => w'.journal = w.journal ++ events ∧ Accounts missed events (.error f : Except Fault α)

/-- No reason is missed. -/
def noneMissed : Abort → Bool := fun _ => false

theorem quiet_nil : Quiet [] := by
  intro e he
  cases he

theorem Quiet.append {first rest : List Event} (h : Quiet first) (h' : Quiet rest) :
    Quiet (first ++ rest) := by
  intro e he
  rcases List.mem_append.mp he with he | he
  · exact h e he
  · exact h' e he

/-! ## 2. Audited runs -/

variable {α β : Type} {w : World} {missed : Abort → Bool}

/-- **What a run tells.**  A result comes without the report of a failed check; a failure is reported as it is
performed, at the end of events without such a report. -/
structure Act.Audits (x : Act α) (w : World) (missed : Abort → Bool) : Prop where
  ok : ∀ a w', x w = .ok a w' → ∃ told, Quiet told ∧ w'.journal = w.journal ++ told
  error : ∀ f w', x w = .error f w' → f.IsCheckedBut missed ∧
    ∃ told, Quiet told ∧ w'.journal = w.journal ++ told ++ reports f

/-- The act gives a result in every world and tells nothing. -/
def Act.Silent (x : Act α) : Prop := ∀ w, ∃ a w', x w = .ok a w' ∧ w'.journal = w.journal

namespace Act

variable {x : Act α} {f : α → Act β}

/-- Only the run in this world counts. -/
theorem Audits.congr {y : Act α} (h : y.Audits w missed) (hxy : x w = y w) : x.Audits w missed :=
  ⟨fun a w' hx => h.ok a w' (hxy ▸ hx), fun g w' hx => h.error g w' (hxy ▸ hx)⟩

/-- A run that is known to give a result. -/
theorem audits_of_ok {a : α} {w' : World} {told : List Event} (hx : x w = .ok a w')
    (hq : Quiet told) (hj : w'.journal = w.journal ++ told) : x.Audits w missed := by
  refine ⟨?_, ?_⟩
  · intro b w'' h
    rw [hx] at h
    cases h
    exact ⟨told, hq, hj⟩
  · intro g w'' h
    rw [hx] at h
    cases h

/-- A run that is known to fail. -/
theorem audits_of_error {g : Fault} {w' : World} (hx : x w = .error g w')
    (hg : g.IsCheckedBut missed) (hj : w'.journal = w.journal ++ reports g) :
    x.Audits w missed := by
  refine ⟨?_, ?_⟩
  · intro b w'' h
    rw [hx] at h
    cases h
  · intro g' w'' h
    rw [hx] at h
    cases h
    exact ⟨hg, [], quiet_nil, by rw [List.append_nil, hj]⟩

/-- A run that is known to give a result and tell nothing. -/
theorem audits_of_same {a : α} {w' : World} (hx : x w = .ok a w') (hj : w'.journal = w.journal) :
    x.Audits w missed :=
  audits_of_ok hx quiet_nil (by rw [List.append_nil, hj])

theorem Silent.audits (h : x.Silent) : x.Audits w missed := by
  obtain ⟨a, w', hx, hj⟩ := h w
  exact audits_of_same hx hj

theorem silent_pure (a : α) : (pure a : Act α).Silent := fun w => ⟨a, w, rfl, rfl⟩

theorem Silent.bind (hx : x.Silent) (hf : ∀ a, (f a).Silent) : (x >>= f).Silent := by
  intro w
  obtain ⟨a, w₁, ha, hj⟩ := hx w
  obtain ⟨b, w₂, hb, hj'⟩ := hf a w₁
  exact ⟨b, w₂, by rw [bind_of_ok ha, hb], hj'.trans hj⟩

theorem audits_pure (a : α) : (pure a : Act α).Audits w missed := (silent_pure a).audits

/-- A failure that is no abort needs no report. -/
theorem audits_of_misuse {g : Fault} (hx : x w = .error g w) (hg : ∀ a, g ≠ .aborted a) :
    x.Audits w missed := by
  have hr : reports g = [] := by
    cases g with
    | aborted a => exact absurd rfl (hg a)
    | _ => rfl
  refine audits_of_error hx (fun a ha => absurd ha (hg a)) ?_
  rw [hr, List.append_nil]

theorem audits_throw {g : Fault} (hg : ∀ a, g ≠ .aborted a) : (throw g : Act α).Audits w missed :=
  audits_of_misuse rfl hg

/-- **Sequences.**  The first act reports a failed check only if it fails, and then the second does not run. -/
theorem audits_bind (hx : x.Audits w missed) (hf : ∀ a w', (f a).Audits w' missed) :
    (x >>= f).Audits w missed := by
  cases hr : x w with
  | error g w' =>
    obtain ⟨hg, told, hq, hj⟩ := hx.error g w' hr
    refine ⟨?_, ?_⟩
    · intro b w'' h
      rw [bind_of_error hr] at h
      cases h
    · intro g' w'' h
      rw [bind_of_error hr] at h
      cases h
      exact ⟨hg, told, hq, hj⟩
  | ok a w' =>
    -- the first act told of no failed check, so what it told may stand before the rest
    obtain ⟨told, hq, hj⟩ := hx.ok a w' hr
    refine ⟨?_, ?_⟩
    · intro b w'' h
      rw [bind_of_ok hr] at h
      obtain ⟨told', hq', hj'⟩ := (hf a w').ok b w'' h
      exact ⟨told ++ told', hq.append hq', by rw [hj', hj, List.append_assoc]⟩
    · intro g w'' h
      rw [bind_of_ok hr] at h
      obtain ⟨hg, told', hq', hj'⟩ := (hf a w').error g w'' h
      exact ⟨hg, told ++ told', hq.append hq', by rw [hj', hj, List.append_assoc w.journal]⟩

/-- What follows a silent act tells all. -/
theorem Silent.audits_bind (hx : x.Silent) (hf : ∀ a w', (f a).Audits w' missed) :
    (x >>= f).Audits w missed :=
  Act.audits_bind hx.audits hf

/-! ## 3. Pure operations -/

/-- **What fails is reported as it is performed.**  What follows a result runs in the same world. -/
theorem audits_perform_bind {r : Except Fault α} (hr : CheckedBut missed r)
    (hf : ∀ a, r = .ok a → (f a).Audits w missed) : (perform r >>= f).Audits w missed := by
  cases r with
  | ok a => exact (hf a rfl).congr rfl
  | error g => exact audits_of_error (bind_of_error (perform_error g w)) (hr g rfl) rfl

theorem audits_perform {r : Except Fault α} (hr : CheckedBut missed r) :
    (perform r).Audits w missed := by
  have h : (perform r >>= pure).Audits w missed := audits_perform_bind hr fun a _ => audits_pure a
  rwa [bind_pure] at h

theorem audits_checked {r : Except Fault α} (hr : Checked r)
    (hf : ∀ a, r = .ok a → (f a).Audits w missed) : (perform r >>= f).Audits w missed :=
  audits_perform_bind (hr.but missed) hf

theorem audits_checkedAbort {r : Except Abort α} (hr : CheckedAbort r)
    (hf : ∀ a, (f a).Audits w missed) : (performAbort r >>= f).Audits w missed :=
  audits_checked hr.lift fun a _ => hf a

/-! ## 4. Reading and other events -/

theorem audits_get {f : World → Act β} (h : (f w).Audits w missed) : (get >>= f).Audits w missed :=
  h.congr rfl

theorem audits_datum {f : Datum → Act β} {v : Item} (h : (f (w.heap.datum v)).Audits w missed) :
    (datum v >>= f).Audits w missed :=
  h.congr rfl

theorem audits_quantity {f : Quantity → Act β} {r : Nat}
    (h : (f (w.heap.quantity r)).Audits w missed) : (quantity r >>= f).Audits w missed :=
  h.congr rfl

theorem audits_holding {f : Holding → Act β} {r : Nat}
    (h : (f (w.heap.holding r)).Audits w missed) : (holding r >>= f).Audits w missed :=
  h.congr rfl

/-- Another event may be reported. -/
theorem audits_report {e : Event} (he : e.name ≠ "asset_check_failed") :
    (report e).Audits w missed := by
  have hq : Quiet [e] := by
    intro e' he'
    rwa [List.mem_singleton.mp he']
  exact audits_of_ok rfl hq rfl

/-! ## 5. What a run accounts for -/

theorem reports_of_isAudited {a : Abort} (ha : a.isAudited = true) :
    reports (.aborted a) = [.checkFailed a] := by
  simp only [reports, if_pos ha]

theorem reports_of_not_isAudited {a : Abort} (ha : a.isAudited = false) :
    reports (.aborted a) = [] := by
  simp [reports, ha]

/-- The events of a failed run that is audited account for the failure, when no check finds what is missed. -/
theorem accounts_of_reports {f : Fault} {told : List Event} (hq : Quiet told)
    (hf : f.IsCheckedBut missed) (hm : ∀ a, missed a = true → a.isAudited = false) :
    Accounts missed (told ++ reports f) (.error f : Except Fault α) := by
  cases f with
  | aborted a =>
    show if missed a then Quiet (told ++ reports (.aborted a)) else
      EndsWithReport a (told ++ reports (.aborted a))
    cases ha : missed a with
    | true =>
      rw [if_pos rfl, reports_of_not_isAudited (hm a ha), List.append_nil]
      exact hq
    | false =>
      have hchecked : a.isAudited = true := (hf a rfl).resolve_right (by simp [ha])
      rw [if_neg Bool.false_ne_true, reports_of_isAudited hchecked]
      exact ⟨told, .checkFailed a, rfl, hq, rfl, rfl⟩
  | _ =>
    refine (List.append_nil told).symm ▸ ?_
    exact hq

theorem accounted_of_audits {x : Act α} (h : ∀ w, x.Audits w missed)
    (hm : ∀ a, missed a = true → a.isAudited = false) : x.Accounted missed := by
  intro w
  cases hr : x w with
  | ok a w' =>
    obtain ⟨told, hq, hj⟩ := (h w).ok a w' hr
    exact ⟨told, hj, hq⟩
  | error f w' =>
    obtain ⟨hf, told, hq, hj⟩ := (h w).error f w' hr
    exact ⟨told ++ reports f, by rw [hj, List.append_assoc], accounts_of_reports hq hf hm⟩

end Act

end Holdings.Ledger
