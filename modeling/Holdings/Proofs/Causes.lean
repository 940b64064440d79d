/-
# The first cause that applies

Reading looks for one thing after another that may be wrong, and stops at the first.  What it comes to is
told by a list of causes in the order in which they are looked for, each with the fault that it leads to.
`Classified x Result causes` says that `x` fails with the fault of the first cause that applies,
whichever of the later ones apply too, and gives a result as described if none does.  So no outcome is
left open: neither another fault nor another precedence among those listed.

A reader that is a sequence of two has the causes of the first and then those of the second
(`Classified.bind`).

The check of a record does not stop at a field that is only invalid: it collects the details of all of them,
and any later cause to stop hides what was collected.  So a verdict has causes to stop and details
(`Verdict.Settled`), and the verdict on two fields has the causes of both and the details of both, each in
the order of the fields (`Verdict.Settled.both`).
-/
import Holdings.Entity.Verdict

namespace Holdings

variable {α β : Type}

/-! ## 1. Operations -/

/-- The outcome is told by the first cause that applies; it is a result if none does. -/
def Classified (x : Except Fault α) (Result : α → Prop) : List (Prop × Fault) → Prop
  | [] => ∃ a, x = .ok a ∧ Result a
  | (applies, fault) :: rest =>
    (applies → x = .error fault) ∧ (¬ applies → Classified x Result rest)

namespace Classified

variable {x : Except Fault α} {Result : α → Prop} {causes : List (Prop × Fault)}

/-- **Sequences.**  The causes of the second part count only when none of the first part does. -/
theorem bind {f : α → Except Fault β} {Result' : β → Prop} {causes' : List (Prop × Fault)}
    (hx : Classified x Result causes) (hf : ∀ a, Result a → Classified (f a) Result' causes') :
    Classified (x >>= f) Result' (causes ++ causes') := by
  induction causes with
  | nil =>
    obtain ⟨a, rfl, ha⟩ := hx
    exact hf a ha
  | cons c causes ih =>
    obtain ⟨happ, hrest⟩ := hx
    refine ⟨fun h => ?_, fun h => ih (hrest h)⟩
    rw [happ h]
    rfl

/-- A result may be described otherwise. -/
theorem mono {Result' : α → Prop} (hx : Classified x Result causes) (hr : ∀ a, Result a → Result' a) :
    Classified x Result' causes := by
  induction causes with
  | nil =>
    obtain ⟨a, rfl, ha⟩ := hx
    exact ⟨a, rfl, hr a ha⟩
  | cons c causes ih => exact ⟨hx.1, fun h => ih (hx.2 h)⟩

/-- A result that is known is as described. -/
theorem of_ok (hx : Classified x Result causes) {a : α} (ha : x = .ok a) : Result a := by
  induction causes with
  | nil =>
    obtain ⟨b, hb, hr⟩ := hx
    rw [ha] at hb
    exact Except.ok.inj hb ▸ hr
  | cons c causes ih =>
    have hc : ¬ c.1 := by
      intro h
      rw [hx.1 h] at ha
      cases ha
    exact ih (hx.2 hc)

/-- A fault that is known is that of a cause that applies. -/
theorem of_error (hx : Classified x Result causes) {e : Fault} (he : x = .error e) :
    ∃ c ∈ causes, c.1 ∧ c.2 = e := by
  induction causes with
  | nil =>
    obtain ⟨b, hb, -⟩ := hx
    rw [he] at hb
    cases hb
  | cons c causes ih =>
    by_cases hc : c.1
    · have hfault := hx.1 hc
      rw [he] at hfault
      exact ⟨c, List.mem_cons_self, hc, (Except.error.inj hfault).symm⟩
    · obtain ⟨d, hd, happ⟩ := ih (hx.2 hc)
      exact ⟨d, List.mem_cons_of_mem c hd, happ⟩

end Classified

/-! ## 2. Checks of fields -/

namespace Verdict

/-- The check is stopped by the first cause that applies.  If none does, it reports the details when there
are some, and lets a value through as described when there are none. -/
def Settled (v : Verdict α) (Result : α → Prop) (details : List Detail) : List (Prop × Fault) → Prop
  | [] => (details ≠ [] → v = invalid details) ∧ (details = [] → ∃ a, v = valid a ∧ Result a)
  | (applies, fault) :: rest =>
    (applies → v = stopped fault) ∧ (¬ applies → Settled v Result details rest)

namespace Settled

variable {v : Verdict α} {w : Verdict β} {Result : α → Prop} {Result' : β → Prop}
  {details details' : List Detail} {causes causes' : List (Prop × Fault)}

/-- The check as an operation: the details count behind all causes to stop. -/
theorem classified (hv : v.Settled Result details causes) :
    Classified v.toExcept Result (causes ++ [(details ≠ [], .invalid details)]) := by
  induction causes with
  | nil =>
    refine ⟨fun h => ?_, fun h => ?_⟩
    · rw [hv.1 h]
      rfl
    · obtain ⟨a, rfl, ha⟩ := hv.2 (Decidable.not_not.mp h)
      exact ⟨a, rfl, ha⟩
  | cons c causes ih =>
    refine ⟨fun h => ?_, fun h => ih (hv.2 h)⟩
    rw [hv.1 h]
    rfl

/-- The check of a part has the same causes, and its details are seen from the field. -/
theorem under (hv : v.Settled Result details causes) (field : String) :
    (v.under field).Settled Result (details.map (Detail.under field)) causes := by
  induction causes with
  | nil =>
    refine ⟨fun h => ?_, fun h => ?_⟩
    · rw [hv.1 fun hd => h (by rw [hd, List.map_nil])]
      rfl
    · obtain ⟨a, rfl, ha⟩ := hv.2 (List.map_eq_nil_iff.mp h)
      exact ⟨a, rfl, ha⟩
  | cons c causes ih =>
    refine ⟨fun h => ?_, fun h => ih (hv.2 h)⟩
    rw [hv.1 h]
    rfl

/-- A value that is only turned into another keeps causes and details. -/
theorem map (hv : v.Settled Result details causes) {f : α → β} (hf : ∀ a, Result a → Result' (f a)) :
    (v.map f).Settled Result' details causes := by
  induction causes with
  | nil =>
    refine ⟨fun h => ?_, fun h => ?_⟩
    · rw [hv.1 h]
      rfl
    · obtain ⟨a, rfl, ha⟩ := hv.2 h
      exact ⟨f a, rfl, hf a ha⟩
  | cons c causes ih =>
    refine ⟨fun h => ?_, fun h => ih (hv.2 h)⟩
    rw [hv.1 h]
    rfl

/-- A field without a cause to stop, and another one behind it. -/
theorem both_collected (hv : v.Settled Result details []) (hw : w.Settled Result' details' causes') :
    (both v w).Settled (fun p => Result p.1 ∧ Result' p.2) (details ++ details') causes' := by
  have hcases : v = invalid details ∧ details ≠ [] ∨ ∃ a, v = valid a ∧ Result a ∧ details = [] := by
    by_cases hd : details = []
    · obtain ⟨a, ha, hr⟩ := hv.2 hd
      exact Or.inr ⟨a, ha, hr, hd⟩
    · exact Or.inl ⟨hv.1 hd, hd⟩
  induction causes' with
  | nil =>
    obtain ⟨hbad, hgood⟩ := hw
    rcases hcases with ⟨rfl, hd⟩ | ⟨a, rfl, ha, rfl⟩
    · refine ⟨fun _ => ?_, fun h => absurd (List.append_eq_nil_iff.mp h).1 hd⟩
      by_cases hd' : details' = []
      · obtain ⟨b, rfl, -⟩ := hgood hd'
        rw [hd', List.append_nil]
        rfl
      · rw [hbad hd']
        rfl
    · rw [List.nil_append]
      refine ⟨fun h => ?_, fun h => ?_⟩
      · rw [hbad h]
        rfl
      · obtain ⟨b, rfl, hb⟩ := hgood h
        exact ⟨(a, b), rfl, ha, hb⟩
  | cons c causes' ih =>
    refine ⟨fun h => ?_, fun h => ih (hw.2 h)⟩
    rw [hw.1 h]
    rcases hcases with ⟨rfl, -⟩ | ⟨a, rfl, -, -⟩ <;> rfl

/-- **Two fields.**  The causes of the first count before those of the second, and all of them before any
detail; the details of both are collected in order. -/
theorem both (hv : v.Settled Result details causes) (hw : w.Settled Result' details' causes') :
    (both v w).Settled (fun p => Result p.1 ∧ Result' p.2) (details ++ details') (causes ++ causes') := by
  induction causes with
  | nil => exact hv.both_collected hw
  | cons c causes ih =>
    refine ⟨fun h => ?_, fun h => ih (hv.2 h)⟩
    rw [hv.1 h]
    rfl

end Settled

end Verdict

end Holdings
