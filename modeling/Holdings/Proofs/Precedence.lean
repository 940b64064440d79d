/-
# Which source a setting comes from

Where a call says nothing, a setting is what a variable of the environment says, else what the environment file
says, else its default, and this is decided for each setting on its own.  `Environment.Provides` tells the text
that counts: names agree up to the case of their letters, and of several that agree the last one counts
(`NamedLast`).  A key of the file that is named but not set provides nothing.

The settings of an environment are then those of two texts: `resolved_eq_ok_iff`.  They depend on the environment
alone.
-/
import Holdings.Proofs.Entries
import Holdings.Proofs.Outcome
import Holdings.Settings.Resolution

namespace Holdings

open Settings (Options)

/-! ## 1. The last of a name -/

/-- Whether a name is that of a setting. -/
def Settings.Names (setting name : String) : Prop :=
  Text.lowerAscii name = Text.lowerAscii ("LEDGER_ASSETS_" ++ setting)

instance (setting name : String) : Decidable (Settings.Names setting name) :=
  inferInstanceAs (Decidable (_ = _))

/-- What the last of the bindings that have the name of a setting says. -/
def Settings.NamedLast {α : Type} (setting : String) (bindings : List (String × α)) (a : α) : Prop :=
  ∃ before name after, bindings = before ++ (name, a) :: after ∧ Settings.Names setting name ∧
    ∀ b ∈ after, ¬ Settings.Names setting b.1

namespace Settings.Options

variable {α : Type} {bindings : List (String × α)} {setting : String} {a : α}

theorem fold_default_eq_iff {name : String} :
    default.fold name = default.fold (default.beginning ++ setting) ↔ Settings.Names setting name :=
  Iff.rfl

theorem lastMatch_eq_some_iff :
    default.lastMatch (default.beginning ++ setting) bindings = some a ↔
      Settings.NamedLast setting bindings a := by
  unfold lastMatch
  constructor
  · intro h
    obtain ⟨b, hb, rfl⟩ := Option.map_eq_some_iff.mp h
    obtain ⟨hn, behind, front, hsplit, hother⟩ := List.find?_eq_some_iff_append.mp hb
    refine ⟨front.reverse, b.1, behind.reverse, ?_, ?_, ?_⟩
    · rw [← List.reverse_reverse bindings, hsplit]
      simp
    · exact fold_default_eq_iff.mp (by simpa using hn)
    · intro c hc hcn
      have hne := hother c (List.mem_reverse.mp hc)
      simp only [Bool.not_eq_true', decide_eq_false_iff_not] at hne
      exact hne (fold_default_eq_iff.mpr hcn)
  · rintro ⟨before, name, after, rfl, hn, hother⟩
    refine Option.map_eq_some_iff.mpr ⟨(name, a), ?_, rfl⟩
    refine List.find?_eq_some_iff_append.mpr ⟨?_, after.reverse, before.reverse, by simp, ?_⟩
    · exact decide_eq_true (fold_default_eq_iff.mpr hn)
    · intro c hc
      have hne := hother c (List.mem_reverse.mp hc)
      simp only [Bool.not_eq_true', decide_eq_false_iff_not]
      exact fun h => hne (fold_default_eq_iff.mp h)

theorem lastMatch_eq_none_iff :
    default.lastMatch (default.beginning ++ setting) bindings = none ↔
      ∀ b ∈ bindings, ¬ Settings.Names setting b.1 := by
  unfold lastMatch
  rw [Option.map_eq_none_iff, List.find?_eq_none]
  constructor
  · intro h b hb hn
    exact h b (List.mem_reverse.mpr hb) (decide_eq_true (fold_default_eq_iff.mpr hn))
  · intro h b hb hn
    exact h b (List.mem_reverse.mp hb) (fold_default_eq_iff.mp (of_decide_eq_true hn))

end Settings.Options

/-! ## 2. The text that counts -/

namespace Environment

variable {e : Environment} {setting : String}

/-- The keys of the environment file, with their values. -/
def fileEntries (e : Environment) : List EnvFile.Binding := e.fileBindings e.envFile.toList

/-- **The text that an environment provides for a setting**: that of a variable, else that of the file, else
none. -/
inductive Provides (e : Environment) (setting : String) : Option String → Prop where
  | variable {text : String} (h : Settings.NamedLast setting e.values text) :
      Provides e setting (some text)
  | file {text : String} (hv : ∀ b ∈ e.values, ¬ Settings.Names setting b.1)
      (h : Settings.NamedLast setting e.fileEntries (some text)) : Provides e setting (some text)
  | nowhere (hv : ∀ b ∈ e.values, ¬ Settings.Names setting b.1)
      (h : ∀ text, ¬ Settings.NamedLast setting e.fileEntries (some text)) : Provides e setting none

theorem filter_counts (bindings : List EnvFile.Binding) :
    bindings.filter (counts Options.default) = bindings :=
  List.filter_eq_self.mpr fun _ _ => rfl

/-- The value that the variables have for a setting. -/
theorem valueIn?_values (e : Environment) (setting : String) :
    valueIn? Options.default setting (e.values.map fun p => (p.1, some p.2)) =
      (Options.default.lastMatch (Options.default.beginning ++ setting) e.values).map Value.text := by
  have hlast : Options.default.lastMatch (Options.default.beginning ++ setting)
      (e.values.map fun p => (p.1, some p.2)) =
        (Options.default.lastMatch (Options.default.beginning ++ setting) e.values).map some := by
    unfold Options.lastMatch
    rw [← List.map_reverse, List.find?_map, Option.map_map, Option.map_map]
    rfl
  unfold valueIn?
  rw [filter_counts, hlast]
  cases Options.default.lastMatch (Options.default.beginning ++ setting) e.values <;> rfl

theorem valueIn?_entries (bindings : List EnvFile.Binding) (setting : String) :
    valueIn? Options.default setting bindings =
      (Options.default.lastMatch (Options.default.beginning ++ setting) bindings).join.map Value.text := by
  unfold valueIn?
  rw [filter_counts]
  rfl

/-- **What is found for a setting** is the text that the environment provides. -/
theorem find?_of_provides {x : Option String} (h : e.Provides setting x) :
    e.find? Options.default e.fileEntries [] setting = x.map Value.text := by
  unfold find?
  rw [valueIn?_values, valueIn?_entries]
  cases h with
  | «variable» h =>
    rw [Options.lastMatch_eq_some_iff.mpr h]
    rfl
  | file hv h =>
    rw [Options.lastMatch_eq_none_iff.mpr hv, Options.lastMatch_eq_some_iff.mpr h]
    rfl
  | nowhere hv h =>
    rw [Options.lastMatch_eq_none_iff.mpr hv]
    cases hl : Options.default.lastMatch (Options.default.beginning ++ setting) e.fileEntries with
    | none => rfl
    | some y =>
      cases y with
      | none => rfl
      | some text => exact absurd (Options.lastMatch_eq_some_iff.mp hl) (h text)

/-- An environment provides one text for a setting, or none. -/
theorem exists_provides (e : Environment) (setting : String) : ∃ x, e.Provides setting x := by
  cases hv : Options.default.lastMatch (Options.default.beginning ++ setting) e.values with
  | some text => exact ⟨some text, .variable (Options.lastMatch_eq_some_iff.mp hv)⟩
  | none =>
    have hv' := Options.lastMatch_eq_none_iff.mp hv
    by_cases hf : ∃ text, Settings.NamedLast setting e.fileEntries (some text)
    · obtain ⟨text, hf⟩ := hf
      exact ⟨some text, .file hv' hf⟩
    · exact ⟨none, .nowhere hv' fun text h => hf ⟨text, h⟩⟩

theorem Provides.unique {x y : Option String} (hx : e.Provides setting x) (hy : e.Provides setting y) :
    x = y := by
  have h := (find?_of_provides hx).symm.trans (find?_of_provides hy)
  cases x <;> cases y <;> simp_all

/-! ## 3. The settings of an environment -/

/-- The level that a text means; where there is none, warnings. -/
def levelOf? : Option String → Option LogLevel
  | some s => LogLevel.ofName? s
  | none => some .warning

/-- The form that a text means; where there is none, lines. -/
def flagOf? : Option String → Option Bool
  | some s => Datum.flagOfWord? s
  | none => some false

/-- **The settings of an environment**: each one is what the text provided for it means. -/
structure Resolves (e : Environment) (level : LogLevel) (json : Bool) : Prop where
  level : ∃ x, e.Provides "log_level" x ∧ levelOf? x = some level
  json : ∃ x, e.Provides "log_json" x ∧ flagOf? x = some json

/-- An environment has no two settings. -/
theorem Resolves.unique {level level' : LogLevel} {json json' : Bool} (h : e.Resolves level json)
    (h' : e.Resolves level' json') : level = level' ∧ json = json' := by
  obtain ⟨⟨x, hx, hl⟩, ⟨y, hy, hj⟩⟩ := h
  obtain ⟨⟨x', hx', hl'⟩, ⟨y', hy', hj'⟩⟩ := h'
  rw [hx.unique hx'] at hl
  rw [hy.unique hy'] at hj
  exact ⟨Option.some.inj (hl.symm.trans hl'), Option.some.inj (hj.symm.trans hj')⟩

/-- The settings that an environment has, where a call says nothing. -/
def resolved (e : Environment) : Except Fault Settings :=
  (Settings.ofFound (e.find? Options.default e.fileEntries [])).toExcept

theorem settingOr_level_eq_valid_iff {x : Option String} {level : LogLevel} :
    settingOr "log_level" .warning Datum.checkLevel (x.map Value.text) = .valid level ↔
      levelOf? x = some level := by
  cases x with
  | none => simp [settingOr, levelOf?]
  | some s =>
    show (Datum.checkLevel (.text s)).under "log_level" = .valid level ↔ LogLevel.ofName? s = some level
    rw [Verdict.under_eq_valid_iff]
    simp only [Datum.checkLevel]
    cases LogLevel.ofName? s <;> simp [Verdict.defect]

theorem settingOr_json_eq_valid_iff {x : Option String} {json : Bool} :
    settingOr "log_json" false Datum.checkFlag (x.map Value.text) = .valid json ↔
      flagOf? x = some json := by
  cases x with
  | none => simp [settingOr, flagOf?]
  | some s =>
    show (Datum.checkFlag (.text s)).under "log_json" = .valid json ↔ Datum.flagOfWord? s = some json
    rw [Verdict.under_eq_valid_iff]
    show Datum.flagVerdict (Datum.flagOfWord? s) = .valid json ↔ _
    cases Datum.flagOfWord? s <;> simp [Datum.flagVerdict, Verdict.defect]

/-- **An environment has settings** iff both texts mean something, and then it has those. -/
theorem resolved_eq_ok_iff {t : Settings} :
    e.resolved = .ok t ↔ ∃ level json, e.Resolves level json ∧ t = .ofLevel level json := by
  obtain ⟨x, hx⟩ := e.exists_provides "log_level"
  obtain ⟨y, hy⟩ := e.exists_provides "log_json"
  unfold resolved Settings.ofFound
  rw [find?_of_provides hx, find?_of_provides hy, Verdict.toExcept_eq_ok_iff, Verdict.map_eq_valid_iff]
  constructor
  · rintro ⟨⟨level, json⟩, h, rfl⟩
    obtain ⟨hl, hj⟩ := Verdict.both_eq_valid_iff.mp h
    exact ⟨level, json, ⟨⟨x, hx, settingOr_level_eq_valid_iff.mp hl⟩,
      ⟨y, hy, settingOr_json_eq_valid_iff.mp hj⟩⟩, rfl⟩
  · rintro ⟨level, json, ⟨⟨x', hx', hl⟩, ⟨y', hy', hj⟩⟩, rfl⟩
    obtain rfl := hx'.unique hx
    obtain rfl := hy'.unique hy
    exact ⟨(level, json), Verdict.both_eq_valid_iff.mpr
      ⟨settingOr_level_eq_valid_iff.mpr hl, settingOr_json_eq_valid_iff.mpr hj⟩, rfl⟩

/-! ## 4. The environment file -/

/-- The name of the environment file leads to its place. -/
theorem follow_envFileName (f : Folder) :
    f.follow Options.envFileName = .ok (f.spot ⟨.around 0, Options.envFileName⟩) := by
  have hpath : Path.ofText Options.envFileName = ⟨false, [Options.envFileName]⟩ := by decide +kernel
  have hzero : ¬ Options.envFileName.toList.contains '\x00' := by decide +kernel
  have hsize : ¬ Path.maxSize ≤ Path.size ⟨false, [Options.envFileName]⟩ := by decide +kernel
  have hup : Options.envFileName ≠ ".." := by decide +kernel
  have hname : ¬ Path.maxNameSize < Options.envFileName.utf8ByteSize := by decide +kernel
  unfold Folder.follow
  dsimp only
  rw [hpath, if_neg hzero, if_neg hsize]
  show (f.step (.folder (.around 0)) Options.envFileName >>= fun s => pure s) = _
  rw [bind_pure, Folder.step, if_neg hup, if_neg hname]

theorem fileText?_envFileName (e : Environment) : e.fileText? Options.envFileName = .ok e.envFile := by
  have huser : (Path.ofText Options.envFileName).user? = none := by decide +kernel
  unfold fileText? Folder.read
  rw [huser, follow_envFileName]
  unfold folder
  cases e.envFile with
  | none => rfl
  | some text => simp [Folder.spot, Folder.within?]

/-- The one environment file is found by its name. -/
theorem fileTexts_default (e : Environment) :
    e.fileTexts Options.default.files = .ok e.envFile.toList := by
  show ([Options.envFileName].mapM e.fileText?).map (fun texts => texts.filterMap id) = _
  rw [List.mapM_cons, fileText?_envFileName]
  cases e.envFile <;> rfl

/-- **The settings of an environment where a call says nothing.** -/
theorem settings_default (e : Environment) :
    e.settings Options.default [] =
      .ok (Settings.ofFound (e.find? Options.default e.fileEntries []),
        e.envFile.toList.flatMap EnvFile.notices) := by
  unfold settings
  rw [fileTexts_default]
  rfl

/-! ## 5. Changes -/

/-- A variable that is set has the text, and nothing else changes. -/
theorem of_setVariable {e' : Environment} {name text : String} (h : e.setVariable name text = .ok e') :
    e'.envFile = e.envFile ∧ ∀ other, e'.values.lookup other =
      if other = name then some text else e.values.lookup other := by
  unfold setVariable at h
  split at h
  · cases h
  split at h
  · cases h
  split at h
  · cases h
  · cases h
    exact ⟨rfl, fun other => Value.lookup_putEntry other name text e.values⟩

end Environment

end Holdings
