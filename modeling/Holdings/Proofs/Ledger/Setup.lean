/-
# Acts that leave the environment and the settings in use alone

Settings are read from the environment, and those in use are kept by their place.  Building an object changes
neither, and evaluating an operand builds at most objects (`Ledger/Surroundings.lean`); setting the log changes
neither.  So what comes of the settings in a step is decided by the act of its command alone (`Act.KeepsSetup`).

The acts about settings are then told exactly.  Each reads the environment through `Environment.resolved`, and
`currentSettings` does so only while no settings are in use.  The act that sets the log sets all of it by a level that
is known (`Threshold.Denoted`), and the output alone by one that is not.
-/
import Holdings.Proofs.Ledger.Surroundings
import Holdings.Proofs.Precedence

namespace Holdings

/-! ## 1. Levels -/

/-- The level that a value denotes: a number or a truth value as it is, a text by the name that it is. -/
inductive Threshold.Denoted : Datum → Threshold → Prop where
  | number (n : Int) : Denoted (.int n) (.number n)
  | truth (b : Bool) : Denoted (.bool b) (.truth b)
  | name {s : String} {n : Int} (h : (s, n) ∈ Threshold.named) : Denoted (.text s) (.number n)

/-- The failure of a value that denotes no level. -/
def Threshold.refusal : Datum → Fault
  | .text s => .refused (.unknownLevel s)
  | _ => .wrongKind

theorem Threshold.ofDatum_of_denoted {v : Datum} {t : Threshold} (h : Denoted v t) :
    ofDatum v = .ok t := by
  cases h with
  | number n => rfl
  | truth b => rfl
  | name h => rw [ofDatum, Value.lookup_of_mem (by decide) h]

/-- A known level sets the whole log, whatever it was before. -/
theorem Logging.configure_of_denoted {v : Datum} {t : Threshold} (h : Threshold.Denoted v t)
    (l : Logging) (json : Bool) : l.configure v json = (.ok (), ⟨.stream json, t, false⟩) := by
  rw [configure, Threshold.ofDatum_of_denoted h]

/-- The rank of a level that may be set. -/
def LogLevel.rank : LogLevel → Int
  | .debug => 10
  | .info => 20
  | .warning => 30
  | .error => 40
  | .critical => 50

theorem LogLevel.denoted (level : LogLevel) :
    Threshold.Denoted (.text level.name) (.number level.rank) := by
  cases level <;> exact .name (by decide)

/-- The log as settings of a known level set it. -/
def Logging.ofSettings (level : LogLevel) (json : Bool) : Logging :=
  ⟨.stream json, .number level.rank, false⟩

end Holdings

namespace Holdings.Ledger

open Act

/-! ## 2. Rules -/

/-- The same environment, and the same settings in use. -/
structure World.SameSetup (w w' : World) : Prop where
  environment : w'.environment = w.environment
  current : w'.current = w.current

theorem World.SameSetup.trans {w w' w'' : World} (h : w.SameSetup w') (h' : w'.SameSetup w'') :
    w.SameSetup w'' :=
  ⟨h'.environment.trans h.environment, h'.current.trans h.current⟩

/-- Every run of the act leaves environment and settings in use alone, whatever comes of it. -/
def Act.KeepsSetup {α : Type} (x : Act α) : Prop := ∀ w : World, w.SameSetup (x.final w)

section Rules

variable {α β : Type} {x : Act α} {f : α → Act β} {w w' : World}

theorem Act.KeepsSetup.of_ok (h : x.KeepsSetup) {a : α} (hx : x w = .ok a w') : w.SameSetup w' :=
  final_of_ok hx ▸ h w

/-- An act that leaves all surroundings alone leaves these two alone. -/
theorem Act.StaysInside.keepsSetup (h : x.StaysInside) : x.KeepsSetup := fun w =>
  ⟨congrArg Surroundings.environment (h w), congrArg Surroundings.current (h w)⟩

/-- **Sequences.** -/
theorem Act.KeepsSetup.bind (hx : x.KeepsSetup) (hf : ∀ a, (f a).KeepsSetup) :
    (x >>= f).KeepsSetup := by
  intro w
  have h := hx w
  cases hr : x w with
  | ok a w₁ =>
    rw [final_of_ok hr] at h
    rw [final_bind_of_ok hr]
    exact h.trans (hf a w₁)
  | error g w₁ =>
    rw [final_of_error hr] at h
    rw [final_of_error (bind_of_error hr)]
    exact h

end Rules

/-! ## 3. Settings -/

section Settings

variable {w : World} {r : Nat} {t : Settings} {f : Fault}

/-- The world after the notices about the environment file. -/
def World.informed (w : World) : World :=
  { w with notices := w.notices ++ w.environment.envFile.toList.flatMap EnvFile.notices }

/-- **Finding settings** reads the environment as it is. -/
theorem findSettings_nil (w : World) :
    findSettings [] w = perform w.environment.resolved w.informed := by
  show (perform (w.environment.settings Settings.Options.default []) >>= fun p =>
    notify p.2 >>= fun _ => perform p.1.toExcept) w = _
  rw [Environment.settings_default]
  rfl

theorem findSettings_of_ok (h : w.environment.resolved = .ok t) :
    findSettings [] w = .ok t w.informed := by
  rw [findSettings_nil, h]
  rfl

theorem findSettings_of_error (h : w.environment.resolved = .error f) :
    findSettings [] w = .error f (withEvents w.informed (reports f)) := by
  rw [findSettings_nil, h, perform_error]

/-- The world with new settings. -/
def World.withSettings (w : World) (t : Settings) : World :=
  w.informed.withHeap (w.heap.withSettings t)

theorem get_withSettings (w : World) (t : Settings) :
    (w.withSettings t).heap.settings.get w.heap.settings.next = t :=
  Store.get_add_next _ _

/-- Settings that are built without saying anything are those of the environment, in a new object. -/
theorem buildSettings_of_ok (h : w.environment.resolved = .ok t) :
    buildSettings [] [] w = .ok (.object (.settings w.heap.settings.next)) (w.withSettings t) := by
  show (findSettings [] >>= placeSettings) w = _
  rw [bind_of_ok (findSettings_of_ok h)]
  rfl

theorem buildSettings_of_error (h : w.environment.resolved = .error f) :
    buildSettings [] [] w = .error f (withEvents w.informed (reports f)) := by
  show (findSettings [] >>= placeSettings) w = _
  rw [bind_of_error (findSettings_of_error h)]

theorem currentSettings_of_some (h : w.current = some r) : currentSettings w = .ok r w := by
  have hget : (get : Act World) w = .ok w w := rfl
  unfold currentSettings
  rw [bind_of_ok hget, h]
  rfl

theorem currentSettings_of_none (hn : w.current = none) :
    currentSettings w = (findSettings [] >>= fun t => newSettings t >>= fun r =>
      modify (fun w => { w with current := some r }) >>= fun _ => pure r) w := by
  have hget : (get : Act World) w = .ok w w := rfl
  unfold currentSettings
  rw [bind_of_ok hget, hn]

/-- While no settings are in use, those of the environment are taken, and kept. -/
theorem currentSettings_of_ok (hn : w.current = none) (h : w.environment.resolved = .ok t) :
    currentSettings w = .ok w.heap.settings.next
      { w.withSettings t with current := some w.heap.settings.next } := by
  rw [currentSettings_of_none hn, bind_of_ok (findSettings_of_ok h)]
  rfl

/-- Nothing is kept of settings that the environment does not have. -/
theorem currentSettings_of_error (hn : w.current = none) (h : w.environment.resolved = .error f) :
    currentSettings w = .error f (withEvents w.informed (reports f)) := by
  rw [currentSettings_of_none hn, bind_of_error (findSettings_of_error h)]

end Settings

/-! ## 4. Setting up the log -/

section Log

variable {w : World} {r : Nat} {level : LogLevel} {json : Bool} {vs : List Item}

/-- The log is set first; then comes what setting it came to. -/
theorem configureLog_eq (v : Datum) (json : Bool) (w : World) : configureLog v json w =
    (perform (w.logging.configure v json).1 >>= fun _ => logState)
      { w with logging := (w.logging.configure v json).2 } := rfl

theorem keepsSetup_configureLog (level : Datum) (json : Bool) :
    (configureLog level json).KeepsSetup := by
  intro w
  have hset : w.SameSetup { w with logging := (w.logging.configure level json).2 } := ⟨rfl, rfl⟩
  have hrest : (perform (w.logging.configure level json).1 >>= fun _ => logState).StaysInside :=
    (staysInside_perform _).bind fun _ => staysInside_logState
  exact hset.trans (hrest.keepsSetup _)

theorem keepsSetup_configureNamed (named : List (String × Item)) :
    (configureNamed named).KeepsSetup := by
  unfold configureNamed
  split
  · exact (staysInside_throw _).keepsSetup
  · exact (staysInside_datum _).keepsSetup.bind fun level => keepsSetup_configureLog _ _

/-- A known level sets the log and gives its state. -/
theorem configureLog_of_denoted {v : Datum} {t : Threshold} (h : Threshold.Denoted v t) (json : Bool)
    (w : World) : configureLog v json w =
      .ok (Logging.toValue ⟨.stream json, t, false⟩) { w with logging := ⟨.stream json, t, false⟩ } := by
  rw [configureLog_eq, Logging.configure_of_denoted h]
  rfl

/-- Sets the log by the settings of a place. -/
def applySettings (r : Nat) : Act Item := do
  let s := (← get).heap.settings.get r
  configureLog (.ofPlain s.logLevel) s.logJson.isTruthy

theorem keepsSetup_applySettings (r : Nat) : (applySettings r).KeepsSetup :=
  fun w => keepsSetup_configureLog _ _ w

theorem applySettings_eq (r : Nat) (w : World) : applySettings r w =
    configureLog (.ofPlain (w.heap.settings.get r).logLevel)
      (w.heap.settings.get r).logJson.isTruthy w := rfl

/-- Settings with a known level set the log. -/
theorem applySettings_run (h : w.heap.settings.get r = .ofLevel level json) :
    applySettings r w = .ok (Logging.ofSettings level json).toValue
      { w with logging := Logging.ofSettings level json } := by
  rw [applySettings_eq, h]
  exact configureLog_of_denoted level.denoted json w

/-- Whether values given for the log say nothing, so that the settings in use are asked for. -/
def SayNothing (vs : List Item) : Prop := vs = [] ∨ ∃ v, vs = [v] ∧ v.isTruthy = false

/-- Without settings that are given, those in use set the log. -/
theorem setUpLog_of_sayNothing (h : SayNothing vs) :
    setUpLog vs = currentSettings >>= applySettings := by
  rcases h with rfl | ⟨v, rfl, hv⟩
  · rfl
  · show (if v.isTruthy = true then _ else currentSettings >>= applySettings) = _
    rw [hv]
    rfl

/-- Settings that are given set the log. -/
theorem setUpLog_settings (r : Nat) : setUpLog [.object (.settings r)] = applySettings r := rfl

theorem act_setUp_of_ok {args : List Term} {w' : World} (h : Term.evalAll args w = .ok vs w') :
    (Command.setUp args).act w = setUpLog vs w' :=
  bind_of_ok h

/-- Anything else that is given is misuse. -/
theorem setUpLog_of_misuse (h : ¬ SayNothing vs) (hr : ∀ r, vs ≠ [.object (.settings r)]) :
    ∃ f, setUpLog vs = throw f := by
  rcases vs with _ | ⟨v, _ | ⟨u, us⟩⟩
  · exact absurd (Or.inl rfl) h
  · have hv : v.isTruthy = true := by
      by_contra hv
      exact h (Or.inr ⟨v, rfl, by simpa using hv⟩)
    refine ⟨.noAttribute, ?_⟩
    show (if v.isTruthy = true then _ else currentSettings >>= applySettings : Act Item) = _
    rw [if_pos hv]
    split
    · exact absurd rfl (hr _)
    · rfl
  · exact ⟨.wrongKind, rfl⟩

/-- **Settings that are given leave those in use alone**, and so does anything else that is given. -/
theorem keepsSetup_setUpLog (h : ¬ SayNothing vs) : (setUpLog vs).KeepsSetup := by
  by_cases hr : ∃ r, vs = [.object (.settings r)]
  · obtain ⟨r, rfl⟩ := hr
    exact keepsSetup_applySettings r
  · obtain ⟨f, hf⟩ := setUpLog_of_misuse h (not_exists.mp hr)
    rw [hf]
    exact (staysInside_throw f).keepsSetup

end Log

end Holdings.Ledger
