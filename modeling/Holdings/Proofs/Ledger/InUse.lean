/-
# The settings in use over a script

The settings in use are made when they are first asked for, and kept.  A step asks for them by asking for the
settings themselves, or by setting up the log without settings of its own (`Step.Asks`).

* While none are in use, a step that asks gets the settings that the environment has at that moment
  (`Step.gets_of_resolves`); if it has none, the step fails and nothing is kept (`Step.fails_of_unresolved`).
* Once some are in use, every step about settings leaves them in use, with the content that they have, whatever it
  does to the environment (`World.InUse.step`).
* A step that does not ask changes neither (`Step.current_of_not_asks`).

So over a script in which the settings are not cleared the object is the one made by the first step that asked and
succeeded, and its content is what the environment had then (`settings_kept`).  The environment has the variables and
the file that were set last, and the file is read as its lines say (`World.FollowsEnvironment`).
-/
import Holdings.Proofs.EnvLines
import Holdings.Proofs.Ledger.Setup

namespace Holdings.Ledger

open Act

/-! ## 1. Steps about settings -/

/-- The commands about settings, the environment and the log. -/
def Command.ConcernsSettings : Command → Prop
  | build .settings _ _ => True
  | eval _ => True
  | setVariable _ _ => True
  | writeEnvFile _ => True
  | currentSettings => True
  | configure _ => True
  | setUp _ => True
  | logState => True
  | _ => False

/-- Whether a step asks for the settings in use: as such, or to set up the log where none are given. -/
def Step.Asks (s : Step) (w : World) : Prop :=
  s.command = .currentSettings ∨
    ∃ args vs w', s.command = .setUp args ∧ Term.evalAll args w.cleared = .ok vs w' ∧ SayNothing vs

/-- Every run of the act leaves the settings in use alone. -/
def Act.KeepsCurrent {α : Type} (x : Act α) : Prop := ∀ w : World, (x.final w).current = w.current

section Commands

variable {α β : Type} {x : Act α} {f : α → Act β} {w w' : World} {c : Command} {s : Step}

theorem Act.KeepsSetup.keepsCurrent (h : x.KeepsSetup) : x.KeepsCurrent := fun w => (h w).current

theorem Act.KeepsSetup.bind_keepsCurrent (hx : x.KeepsSetup) (hf : ∀ a, (f a).KeepsCurrent) :
    (x >>= f).KeepsCurrent := by
  intro w
  have h := (hx w).current
  cases hr : x w with
  | ok a w₁ =>
    rw [final_of_ok hr] at h
    rw [final_bind_of_ok hr, hf a w₁, h]
  | error g w₁ =>
    rw [final_of_error hr] at h
    rw [final_of_error (bind_of_error hr), h]

theorem keepsCurrent_setVariable (name : String) (v : Item) : (setVariable name v).KeepsCurrent := by
  intro w
  obtain ⟨e, events, hrun⟩ := final_setVariable name v w
  rw [hrun]

/-- **A step that does not ask leaves the settings in use alone.** -/
theorem Step.current_of_not_asks (hc : s.command.ConcernsSettings) (ha : ¬ s.Asks w) :
    (s.command.act.final w.cleared).current = w.current := by
  have keeps : ∀ {x : Act Item}, x.KeepsCurrent → (x.final w.cleared).current = w.current :=
    fun h => h w.cleared
  cases hs : s.command with
  | build kind args named =>
    refine keeps (Act.StaysInside.keepsSetup ?_).keepsCurrent
    exact Command.staysInside (c := .build kind args named) id
  | eval t => exact keeps (staysInside_eval t).keepsSetup.keepsCurrent
  | setVariable name value =>
    exact keeps ((staysInside_eval value).keepsSetup.bind_keepsCurrent (keepsCurrent_setVariable name))
  | writeEnvFile text => rfl
  | currentSettings => exact absurd (Or.inl hs) ha
  | configure named =>
    exact keeps ((staysInside_evalEntries named).keepsSetup.bind keepsSetup_configureNamed).keepsCurrent
  | setUp args =>
    cases hr : Term.evalAll args w.cleared with
    | ok vs w₁ =>
      have hn : ¬ SayNothing vs := fun h => ha (Or.inr ⟨args, vs, w₁, hs, hr, h⟩)
      have hrun : (Command.setUp args).act.final w.cleared = (setUpLog vs).final w₁ := final_bind_of_ok hr
      rw [hrun, (keepsSetup_setUpLog hn w₁).current]
      exact ((staysInside_evalAll args).keepsSetup.of_ok hr).current
    | error g w₁ =>
      have hrun : (Command.setUp args).act.final w.cleared = w₁ := final_of_error (bind_of_error hr)
      have h := ((staysInside_evalAll args).keepsSetup w.cleared).current
      rw [final_of_error hr] at h
      rw [hrun, h]
      rfl
  | logState => exact keeps staysInside_logState.keepsSetup.keepsCurrent
  | _ =>
    rw [hs] at hc
    exact hc.elim

/-- **What a step that asks does**: it gets the settings in use, in a world that has grown, and goes on with them. -/
theorem Step.act_of_asks (hw : w.Sound) (ha : s.Asks w) :
    ∃ w₁, w.cleared.Grown w₁ ∧ w.cleared.SameSetup w₁ ∧
      (s.command = .currentSettings ∧ s.command.act w.cleared =
          (currentSettings >>= fun r => pure (.object (.settings r)) : Act Item) w₁ ∨
        (∃ args, s.command = .setUp args) ∧
          s.command.act w.cleared = (currentSettings >>= applySettings) w₁) := by
  have hclear := hw.grown_cleared.sound
  rcases ha with hs | ⟨args, vs, w₁, hs, hr, hn⟩
  · exact ⟨w.cleared, World.Grown.refl hclear, ⟨rfl, rfl⟩, Or.inl ⟨hs, by rw [hs]; rfl⟩⟩
  · refine ⟨w₁, ((grows_evalAll args hclear).of_ok hr).1,
      (staysInside_evalAll args).keepsSetup.of_ok hr, Or.inr ⟨⟨args, hs⟩, ?_⟩⟩
    rw [hs, act_setUp_of_ok hr, setUpLog_of_sayNothing hn]

end Commands

/-! ## 2. One step -/

section Steps

variable {w : World} {s : Step} {r : Nat} {level : LogLevel} {json : Bool}

theorem Step.current_run (s : Step) (w : World) :
    (s.run w).2.current = (s.command.act.final w.cleared).current :=
  congrArg Surroundings.current (s.surroundings_run w)

/-- A step about settings changes no settings that are there. -/
theorem Step.settings_run (hw : w.Sound) (hc : s.command.ConcernsSettings)
    (hr : r < w.heap.settings.next) :
    (s.run w).2.heap.settings.get r = w.heap.settings.get r := by
  have hx : w.heap.Extends (s.run w).2.heap := by
    rcases Step.run_spec hw s with ⟨f, w', hrun, hg⟩ | ⟨v, w', hrun, -, -, e, he, hch⟩
    · rw [hrun]
      exact hg.heap
    · rw [hrun]
      refine Heap.extends_iff_changed.mpr ?_
      have hnone : e = .none := by
        cases e with
        | none => rfl
        | _ =>
          cases hs : s.command <;> rw [hs] at hc he <;> first | exact hc.elim | exact he.elim
      exact hnone ▸ hch
  exact Store.get_eq_of_isPrefix hx.settings hr

/-- These settings are in use, and this is their content. -/
structure World.InUse (w : World) (r : Nat) (level : LogLevel) (json : Bool) : Prop where
  current : w.current = some r
  content : w.heap.settings.get r = .ofLevel level json

/-- **What a step gets that asks for the settings in use**: the object itself, or a log that is set by it; and the
object is in use afterwards. -/
structure Step.Gets (s : Step) (w : World) (r : Nat) (level : LogLevel) (json : Bool) : Prop where
  inUse : (s.run w).2.InUse r level json
  object : s.command = .currentSettings → (s.run w).1 = .ok (.object (.settings r))
  log : (∃ args, s.command = .setUp args) →
    (s.run w).1 = .ok (Logging.ofSettings level json).toValue ∧
      (s.run w).2.logging = Logging.ofSettings level json

/-- A step that asks gets what its command is given. -/
theorem Step.gets_of_act {w₁ w₂ : World} (hw : w.Sound)
    (hact : s.command = .currentSettings ∧ s.command.act w.cleared =
        (currentSettings >>= fun r => pure (.object (.settings r)) : Act Item) w₁ ∨
      (∃ args, s.command = .setUp args) ∧
        s.command.act w.cleared = (currentSettings >>= applySettings) w₁)
    (hget : currentSettings w₁ = .ok r w₂) (hu : w₂.InUse r level json) :
    s.Gets w r level json := by
  rcases hact with ⟨hcmd, hact⟩ | ⟨⟨args, hcmd⟩, hact⟩
  · rw [bind_of_ok hget] at hact
    obtain ⟨n, bs, hrun⟩ := Step.run_of_act hw hact
    refine ⟨?_, fun _ => by rw [hrun], ?_⟩
    · rw [hrun]
      exact ⟨hu.current, hu.content⟩
    · rintro ⟨args, hargs⟩
      rw [hcmd] at hargs
      cases hargs
  · rw [bind_of_ok hget, applySettings_run hu.content] at hact
    obtain ⟨n, bs, hrun⟩ := Step.run_of_act hw hact
    refine ⟨?_, ?_, fun _ => ?_⟩
    · rw [hrun]
      exact ⟨hu.current, hu.content⟩
    · intro hcur
      rw [hcmd] at hcur
      cases hcur
    · rw [hrun]
      exact ⟨rfl, rfl⟩

/-- A step that asks and gets settings succeeds. -/
theorem Step.Gets.ok (h : s.Gets w r level json) (ha : s.Asks w) : ∃ v, (s.run w).1 = .ok v := by
  rcases ha with hs | ⟨args, vs, w', hs, -, -⟩
  · exact ⟨_, h.object hs⟩
  · exact ⟨_, (h.log ⟨args, hs⟩).1⟩

/-- **A step that asks while settings are in use gets them.** -/
theorem World.InUse.gets (h : w.InUse r level json) (hw : w.Sound) (ha : s.Asks w) :
    s.Gets w r level json := by
  obtain ⟨w₁, hg, hs, hact⟩ := Step.act_of_asks hw ha
  have hcur : w₁.current = some r := hs.current.trans h.current
  refine Step.gets_of_act hw hact (currentSettings_of_some hcur) ⟨hcur, ?_⟩
  rw [Store.get_eq_of_isPrefix hg.heap.settings (hw.current r h.current)]
  exact h.content

/-- **Settings in use stay in use**, with the content that they have. -/
theorem World.InUse.step (h : w.InUse r level json) (hw : w.Sound)
    (hc : s.command.ConcernsSettings) : (s.run w).2.InUse r level json := by
  by_cases ha : s.Asks w
  · exact (h.gets hw ha).inUse
  · refine ⟨?_, ?_⟩
    · rw [Step.current_run, Step.current_of_not_asks hc ha]
      exact h.current
    · rw [Step.settings_run hw hc (hw.current r h.current)]
      exact h.content

/-- **A step that asks while no settings are in use** gets those of the environment, in an object that was not
there before. -/
theorem Step.gets_of_resolves (hw : w.Sound) (hn : w.current = none) (ha : s.Asks w)
    (he : w.environment.Resolves level json) :
    ∃ r, w.heap.settings.next ≤ r ∧ s.Gets w r level json := by
  obtain ⟨w₁, hg, hs, hact⟩ := Step.act_of_asks hw ha
  have hres : w₁.environment.resolved = .ok (.ofLevel level json) := by
    rw [hs.environment]
    exact Environment.resolved_eq_ok_iff.mpr ⟨level, json, he, rfl⟩
  refine ⟨w₁.heap.settings.next, Store.next_le_of_isPrefix hg.heap.settings, ?_⟩
  exact Step.gets_of_act hw hact (currentSettings_of_ok (hs.current.trans hn) hres)
    ⟨rfl, get_withSettings w₁ _⟩

/-- Where the environment has no settings, a step that asks fails, and nothing is kept. -/
theorem Step.fails_of_unresolved {f : Fault} (hw : w.Sound) (hn : w.current = none) (ha : s.Asks w)
    (he : w.environment.resolved = .error f) :
    (s.run w).1 = .error f ∧ (s.run w).2.current = none := by
  obtain ⟨w₁, hg, hs, hact⟩ := Step.act_of_asks hw ha
  have hcur : w₁.current = none := hs.current.trans hn
  have hget : currentSettings w₁ = .error f (withEvents w₁.informed (reports f)) :=
    currentSettings_of_error hcur (by rw [hs.environment]; exact he)
  rcases hact with ⟨-, hact⟩ | ⟨-, hact⟩
  all_goals
    rw [bind_of_error hget] at hact
    rw [Step.run_of_error hact]
    exact ⟨rfl, hcur⟩

/-- Settings that are built are those of the environment, in a new object; the settings in use stay as they are. -/
theorem Step.built_run (hw : w.Sound) (hs : s.command = .build .settings [] []) :
    (∀ level json, w.environment.Resolves level json →
      (s.run w).1 = .ok (.object (.settings w.heap.settings.next)) ∧
        (s.run w).2.heap.settings.get w.heap.settings.next = .ofLevel level json) ∧
    (∀ f, w.environment.resolved = .error f → (s.run w).1 = .error f) ∧
    (s.run w).2.current = w.current := by
  have hact : s.command.act w.cleared = buildSettings [] [] w.cleared := by
    rw [hs]
    rfl
  refine ⟨?_, ?_, ?_⟩
  · intro level json he
    have hres : w.cleared.environment.resolved = .ok (.ofLevel level json) :=
      Environment.resolved_eq_ok_iff.mpr ⟨level, json, he, rfl⟩
    rw [buildSettings_of_ok hres] at hact
    obtain ⟨n, bs, hrun⟩ := Step.run_of_act hw hact
    rw [hrun]
    exact ⟨rfl, get_withSettings w.cleared _⟩
  · intro f hf
    have hres : w.cleared.environment.resolved = .error f := hf
    rw [buildSettings_of_error hres] at hact
    rw [Step.run_of_error hact]
  · rw [Step.current_run, final_congr hact]
    exact ((staysInside_buildSettings [] []).keepsSetup _).current

/-- Settings that are given set the log; the settings in use stay as they are. -/
theorem Step.given_run {args : List Term} {q : Nat} {w' : World} (hw : w.Sound)
    (hs : s.command = .setUp args)
    (hr : Term.evalAll args w.cleared = .ok [.object (.settings q)] w')
    (hq : w'.heap.settings.get q = .ofLevel level json) :
    (s.run w).1 = .ok (Logging.ofSettings level json).toValue ∧
      (s.run w).2.logging = Logging.ofSettings level json ∧ (s.run w).2.current = w.current := by
  have hact : s.command.act w.cleared = .ok (Logging.ofSettings level json).toValue
      { w' with logging := Logging.ofSettings level json } := by
    rw [hs, act_setUp_of_ok hr, setUpLog_settings, applySettings_run hq]
  obtain ⟨n, bs, hrun⟩ := Step.run_of_act hw hact
  rw [hrun]
  exact ⟨rfl, rfl, ((staysInside_evalAll args).keepsSetup.of_ok hr).current⟩

end Steps

/-! ## 3. The environment -/

/-- The commands that change the environment. -/
def Command.ChangesEnvironment : Command → Prop
  | setVariable _ _ => True
  | writeEnvFile _ => True
  | _ => False

section Changes

variable {w : World} {s : Step}

theorem Act.KeepsSetup.environment {α : Type} {x : Act α} (h : x.KeepsSetup) : x.Keeps World.environment :=
  fun w => (h w).environment

theorem keepsEnvironment_currentSettings : Ledger.currentSettings.Keeps World.environment := by
  unfold Ledger.currentSettings
  refine keeps_get.bind fun w => ?_
  split
  · exact keeps_pure _
  · exact (staysInside_findSettings []).keepsSetup.environment.bind fun t _ => rfl

/-- The settings are read from the environment, and none of their commands changes it otherwise. -/
theorem Command.keepsEnvironment {c : Command} (hc : c.ConcernsSettings) (hn : ¬ c.ChangesEnvironment) :
    c.act.Keeps World.environment := by
  cases c with
  | build kind args named =>
    cases kind with
    | settings => exact (Command.staysInside (c := .build .settings args named) id).keepsSetup.environment
    | _ => exact hc.elim
  | eval t => exact (staysInside_eval t).keepsSetup.environment
  | currentSettings => exact keepsEnvironment_currentSettings.bind fun r => keeps_pure _
  | configure named =>
    exact ((staysInside_evalEntries named).keepsSetup.bind keepsSetup_configureNamed).environment
  | setUp args =>
    refine (staysInside_evalAll args).keepsSetup.environment.bind fun vs => ?_
    by_cases hv : SayNothing vs
    · rw [setUpLog_of_sayNothing hv]
      exact keepsEnvironment_currentSettings.bind fun r => (keepsSetup_applySettings r).environment
    · exact (keepsSetup_setUpLog hv).environment
  | logState => exact staysInside_logState.keepsSetup.environment
  | setVariable name value => exact absurd trivial hn
  | writeEnvFile text => exact absurd trivial hn
  | _ => exact hc.elim

theorem Step.environment_run (s : Step) (w : World) :
    (s.run w).2.environment = (s.command.act.final w.cleared).environment :=
  congrArg Surroundings.environment (s.surroundings_run w)

/-- **The environment over a script**, and how the file in it is read. -/
structure World.FollowsEnvironment (w : World) : Prop where
  /-- A variable that is set has the text from then on, and no other variable changes. -/
  set : ∀ (s : Step) name text v, s.command = .setVariable name (.plain (.text text)) →
    (s.run w).1 = .ok v → (s.run w).2.environment.envFile = w.environment.envFile ∧
      ∀ other, (s.run w).2.environment.values.lookup other =
        if other = name then some text else w.environment.values.lookup other
  /-- A variable that is taken away is there no more. -/
  unset : ∀ (s : Step) name, s.command = .setVariable name (.plain .null) →
    (s.run w).2.environment.envFile = w.environment.envFile ∧
      ∀ other, (s.run w).2.environment.values.lookup other =
        if other = name then none else w.environment.values.lookup other
  /-- A file that is written is there from then on. -/
  written : ∀ (s : Step) text, s.command = .writeEnvFile text →
    (s.run w).2.environment = ⟨w.environment.values, some text⟩
  /-- No other step about settings changes the environment. -/
  kept : ∀ s : Step, s.command.ConcernsSettings → ¬ s.command.ChangesEnvironment →
    (s.run w).2.environment = w.environment
  /-- Of a file in plain spelling the keys and values are read that its lines hold. -/
  read : ∀ lines : List EnvFile.Line, (∀ l ∈ lines, l.Plain) →
    w.environment.envFile = some (EnvFile.fileText lines) →
      w.environment.fileEntries = Value.entriesOf (lines.filterMap EnvFile.Line.binding?)
  /-- Nothing is read where there is no file. -/
  unread : w.environment.envFile = none → w.environment.fileEntries = []

theorem World.followsEnvironment (w : World) : w.FollowsEnvironment where
  set := by
    intro s name text v hs hv
    have hact : s.command.act w.cleared = (perform (w.environment.setVariable name text) >>= fun e =>
        set { w.cleared with environment := e } >>= fun _ => pure .null : Act Item) w.cleared := by
      rw [hs]
      rfl
    cases hset : w.environment.setVariable name text with
    | error f =>
      rw [hset, bind_of_error (perform_error f w.cleared)] at hact
      rw [Step.run_of_error hact] at hv
      cases hv
    | ok e =>
      rw [hset] at hact
      rw [Step.environment_run, final_of_ok hact]
      exact Environment.of_setVariable hset
  unset := by
    intro s name hs
    rw [Step.environment_run, hs]
    exact ⟨rfl, fun other => Value.lookup_filter_ne other name _⟩
  written := by
    intro s text hs
    rw [Step.environment_run, hs]
    rfl
  kept := by
    intro s hc hn
    rw [Step.environment_run]
    exact Command.keepsEnvironment hc hn w.cleared
  read := by
    intro lines hl hfile
    unfold Environment.fileEntries Environment.fileBindings
    rw [hfile]
    show EnvFile.read _ (EnvFile.fileText lines) ++ [] = _
    rw [EnvFile.read_lines _ hl, List.append_nil]
  unread := by
    intro hfile
    unfold Environment.fileEntries Environment.fileBindings
    rw [hfile]
    rfl

end Changes

/-! ## 4. Scripts -/

section Scripts

variable {w : World} {r : Nat} {level : LogLevel} {json : Bool}

/-- **Settings in use stay in use** over every script about settings in which they are not cleared.  The induction
is on the steps. -/
theorem World.InUse.after (steps : List Step) : ∀ {w : World}, w.InUse r level json → w.Sound →
    (∀ s ∈ steps, s.command.ConcernsSettings) → (w.after steps).InUse r level json := by
  induction steps with
  | nil => exact fun h _ _ => h
  | cons s rest ih =>
    intro w h hw hc
    exact ih (h.step hw (hc s List.mem_cons_self)) (hw.step s) fun t ht => hc t (List.mem_cons_of_mem s ht)

/-- Every step of a script that asks for the settings in use fails. -/
def World.AsksInVain (w : World) (steps : List Step) : Prop :=
  ∀ before s later, steps = before ++ s :: later → s.Asks (w.after before) →
    ∃ f, (s.run (w.after before)).1 = .error f

/-- **Steps that ask in vain keep nothing.**  The induction is on the steps. -/
theorem World.current_after_of_asksInVain (steps : List Step) : ∀ {w : World}, w.Sound →
    w.current = none → (∀ s ∈ steps, s.command.ConcernsSettings) → w.AsksInVain steps →
      (w.after steps).current = none := by
  induction steps with
  | nil => exact fun _ hn _ _ => hn
  | cons s rest ih =>
    intro w hw hn hc hvain
    have hstep : (s.run w).2.current = none := by
      by_cases ha : s.Asks w
      · obtain ⟨f, hf⟩ := hvain [] s rest rfl ha
        cases hres : w.environment.resolved with
        | error g => exact (Step.fails_of_unresolved hw hn ha hres).2
        | ok t =>
          -- the settings were there to get, so the step has not failed
          obtain ⟨level, json, he, -⟩ := Environment.resolved_eq_ok_iff.mp hres
          obtain ⟨r, -, hgets⟩ := Step.gets_of_resolves hw hn ha he
          obtain ⟨v, hv⟩ := hgets.ok ha
          exact absurd (hv.symm.trans hf) (by simp)
      · rw [Step.current_run, Step.current_of_not_asks (hc s List.mem_cons_self) ha]
        exact hn
    refine ih (hw.step s) hstep (fun t ht => hc t (List.mem_cons_of_mem s ht)) ?_
    intro before t later hrest ha
    exact hvain (s :: before) t later (by rw [hrest, List.cons_append]) ha

/-- **What becomes of the settings in a script** from a world in which none are in use. -/
structure World.KeepsSettings (w : World) (steps : List Step) : Prop where
  /-- The first step that asks and succeeds gets the settings that the environment has at that moment, in a new
  object; from then on this object is in use, with this content, and every step that asks gets it. -/
  first : ∀ before s later v, steps = before ++ s :: later → w.AsksInVain before →
    s.Asks (w.after before) → (s.run (w.after before)).1 = .ok v →
      ∃ r level json, (w.after before).environment.Resolves level json ∧
        (w.after before).heap.settings.next ≤ r ∧ s.Gets (w.after before) r level json ∧
        (w.after steps).InUse r level json ∧
        ∀ t : Step, t.Asks (w.after steps) → t.Gets (w.after steps) r level json
  /-- As long as all that asked failed, the next step that asks reads the environment as it is then: it gets the
  settings that there are, or fails and nothing is kept. -/
  unasked : w.AsksInVain steps → ∀ s : Step, s.Asks (w.after steps) →
    (∀ level json, (w.after steps).environment.Resolves level json →
      ∃ r, (w.after steps).heap.settings.next ≤ r ∧ s.Gets (w.after steps) r level json) ∧
    ∀ f, (w.after steps).environment.resolved = .error f →
      (s.run (w.after steps)).1 = .error f ∧ (s.run (w.after steps)).2.current = none
  /-- Settings that are built are those of the environment as it is then, in a new object, and do not change which
  are in use. -/
  built : ∀ s : Step, s.command = .build .settings [] [] →
    (∀ level json, (w.after steps).environment.Resolves level json →
      (s.run (w.after steps)).1 = .ok (.object (.settings (w.after steps).heap.settings.next)) ∧
        (s.run (w.after steps)).2.heap.settings.get (w.after steps).heap.settings.next =
          .ofLevel level json) ∧
    (∀ f, (w.after steps).environment.resolved = .error f → (s.run (w.after steps)).1 = .error f) ∧
    (s.run (w.after steps)).2.current = (w.after steps).current
  /-- Settings that are given set the log, and do not change which are in use. -/
  given : ∀ (s : Step) args q w' level json, s.command = .setUp args →
    Term.evalAll args (w.after steps).cleared = .ok [.object (.settings q)] w' →
    w'.heap.settings.get q = .ofLevel level json →
      (s.run (w.after steps)).1 = .ok (Logging.ofSettings level json).toValue ∧
        (s.run (w.after steps)).2.logging = Logging.ofSettings level json ∧
        (s.run (w.after steps)).2.current = (w.after steps).current
  /-- No step that does not ask changes which settings are in use, if any. -/
  others : ∀ s : Step, s.command.ConcernsSettings → ¬ s.Asks (w.after steps) →
    (s.run (w.after steps)).2.current = (w.after steps).current

theorem World.Sound.keepsSettings (hw : w.Sound) (hn : w.current = none) {steps : List Step}
    (hc : ∀ s ∈ steps, s.command.ConcernsSettings) : w.KeepsSettings steps := by
  have hend : (w.after steps).Sound := hw.after steps
  refine ⟨?first, ?unasked, fun s => Step.built_run hend, ?given, ?others⟩
  case first =>
    intro before s later v hsteps hvain ha hv
    have hbefore : ∀ t ∈ before, t.command.ConcernsSettings := fun t ht =>
      hc t (hsteps ▸ List.mem_append_left _ ht)
    have hlater : ∀ t ∈ later, t.command.ConcernsSettings := fun t ht =>
      hc t (hsteps ▸ List.mem_append_right _ (List.mem_cons_of_mem s ht))
    have hw₁ := hw.after before
    have hn₁ := World.current_after_of_asksInVain before hw hn hbefore hvain
    cases hres : (w.after before).environment.resolved with
    | error f =>
      have hf := (Step.fails_of_unresolved hw₁ hn₁ ha hres).1
      exact absurd (hv.symm.trans hf) (by simp)
    | ok t =>
      obtain ⟨level, json, he, -⟩ := Environment.resolved_eq_ok_iff.mp hres
      obtain ⟨r, hr, hgets⟩ := Step.gets_of_resolves hw₁ hn₁ ha he
      have huse : (w.after steps).InUse r level json := by
        rw [hsteps, World.after_append]
        exact hgets.inUse.after later (hw₁.step s) hlater
      exact ⟨r, level, json, he, hr, hgets, huse, fun t ht => huse.gets hend ht⟩
  case unasked =>
    intro hvain s ha
    have hn₁ := World.current_after_of_asksInVain steps hw hn hc hvain
    exact ⟨fun level json he => Step.gets_of_resolves hend hn₁ ha he,
      fun f hf => Step.fails_of_unresolved hend hn₁ ha hf⟩
  case given =>
    intro s args q w' level json hs hr hq
    exact Step.given_run hend hs hr hq
  case others =>
    intro s hcs ha
    rw [Step.current_run, Step.current_of_not_asks hcs ha]

/-- **The settings in use**, since the start of a script or since they were last cleared, whatever came before, and
the environment that they are read from. -/
theorem settings_kept (earlier recent : List Step)
    (he : earlier = [] ∨ ∃ first s, earlier = first ++ [s] ∧ s.command = .clearSettings)
    (hc : ∀ s ∈ recent, s.command.ConcernsSettings) :
    (World.initial.after earlier).KeepsSettings recent ∧
      ((World.initial.after earlier).after recent).FollowsEnvironment := by
  have hw : (World.initial.after earlier).Sound := World.sound_initial.after earlier
  refine ⟨hw.keepsSettings ?_ hc, World.followsEnvironment _⟩
  rcases he with rfl | ⟨first, s, rfl, hs⟩
  · rfl
  · have hfirst : (World.initial.after first).Sound := World.sound_initial.after first
    rw [World.after_append]
    show (s.run (World.initial.after first)).2.current = none
    rw [Step.current_run, hs]
    rfl

/-- The lines of an environment file with another level than the environment has. -/
def levelLines : List EnvFile.Line :=
  [.comment " for tests", .binding "LEDGER_ASSETS_LOG_LEVEL" "DEBUG",
    .binding "LEDGER_ASSETS_LOG_JSON" "yes"]

/-- A script that asks for the settings between two changes of a variable and of the file; the second level is
not known. -/
def changingScript : List Step :=
  [⟨.setVariable "LEDGER_ASSETS_LOG_LEVEL" (.plain (.text "INFO")), none⟩,
    ⟨.writeEnvFile "# for tests\nLEDGER_ASSETS_LOG_LEVEL=DEBUG\nLEDGER_ASSETS_LOG_JSON=yes\n", none⟩,
    ⟨.currentSettings, some "s"⟩,
    ⟨.setVariable "LEDGER_ASSETS_LOG_LEVEL" (.plain (.text "noise")), none⟩,
    ⟨.writeEnvFile "", none⟩]

/-- After it, whoever asks gets the settings of the first level, which is that of the variable, and the form that the
first file has. -/
theorem settings_kept_between_changes :
    ∃ r, ∀ t : Step, t.Asks ((World.initial.after [⟨.clearSettings, none⟩]).after changingScript) →
      t.Gets ((World.initial.after [⟨.clearSettings, none⟩]).after changingScript) r .info true := by
  have hcleared : ([⟨.clearSettings, none⟩] : List Step) = [] ∨
      ∃ first s, ([⟨.clearSettings, none⟩] : List Step) = first ++ [s] ∧ s.command = .clearSettings :=
    Or.inr ⟨[], ⟨.clearSettings, none⟩, rfl, rfl⟩
  have hconcerns : ∀ s ∈ changingScript, s.command.ConcernsSettings := by
    simp [changingScript, Command.ConcernsSettings]
  have hkept := (settings_kept [⟨.clearSettings, none⟩] changingScript hcleared hconcerns).1
  obtain ⟨hfirst, hread⟩ := settings_kept [⟨.clearSettings, none⟩] (changingScript.take 2) hcleared
    fun s hs => hconcerns s (List.mem_of_mem_take hs)
  have henv : ((World.initial.after [⟨.clearSettings, none⟩]).after (changingScript.take 2)).environment =
      ⟨[("LEDGER_ASSETS_LOG_LEVEL", "INFO")], some (EnvFile.fileText levelLines)⟩ := by
    decide +kernel
  generalize World.initial.after [⟨.clearSettings, none⟩] = w at hkept hfirst hread henv ⊢
  have hentries := hread.read levelLines (by decide +kernel) (by rw [henv])
  have hres : (w.after (changingScript.take 2)).environment.Resolves .info true := by
    refine ⟨⟨some "INFO", .variable ?_, by decide +kernel⟩,
      ⟨some "yes", .file ?_ ?_, by decide +kernel⟩⟩
    · rw [henv]
      exact ⟨[], _, [], rfl, by decide +kernel, by simp⟩
    · rw [henv]
      decide +kernel
    · rw [hentries]
      exact ⟨[("LEDGER_ASSETS_LOG_LEVEL", some "DEBUG")], "LEDGER_ASSETS_LOG_JSON", [],
        by decide +kernel, by decide +kernel, by simp⟩
  have hvain : w.AsksInVain (changingScript.take 2) := by
    intro before s later hsplit ha
    have hs : s ∈ changingScript.take 2 := by simp [hsplit]
    have hsilent : s.command ≠ .currentSettings ∧ ∀ args, s.command ≠ .setUp args := by
      simp only [changingScript, List.take_succ_cons, List.take_zero, List.mem_cons, List.not_mem_nil,
        or_false] at hs
      rcases hs with rfl | rfl <;> simp
    rcases ha with h | ⟨args, vs, w', h, -, -⟩
    · exact absurd h hsilent.1
    · exact absurd h (hsilent.2 args)
  obtain ⟨q, -, hgets⟩ := (hfirst.unasked hvain ⟨.currentSettings, some "s"⟩ (Or.inl rfl)).1 _ _ hres
  obtain ⟨v, hv⟩ := hgets.ok (Or.inl rfl)
  obtain ⟨r, level, json, he, -, -, -, hall⟩ := hkept.first _ _ _ v rfl hvain (Or.inl rfl) hv
  obtain ⟨rfl, rfl⟩ := he.unique hres
  exact ⟨r, hall⟩

end Scripts

end Holdings.Ledger
