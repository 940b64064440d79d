/-
# What the file of a schema says

What is read under a path by which a file was written is what was written, and nothing is read under one by
which a file was deleted: a change of a file leaves alone the names of folders, so paths lead where they led
(`Folder.follow_of_names`).

The schema of a name is told by the content of its file alone.  `FileGives` says how, content by content, and is
a function of the content (`FileGives.eq_fromContent`).  Beside the three failures that say what is wrong with
a file there are failures that only say what kept the file from being looked at; these are `Hindered`.
-/
import Holdings.Document.Library
import Holdings.Proofs.Checks
import Holdings.Proofs.Entries

namespace Holdings

/-! ## 1. Files that change

A path leads to a place by the names of folders alone.  So a change of a file does not change where paths
lead, and what is read under the path by which a file was changed is what was written there. -/

/-- The place of a file, or of a name that is vacant. -/
def Spot.place? : Spot → Option Place
  | .folder _ => none
  | .file p _ => some p
  | .vacant p => some p

namespace Folder

variable {f g : Folder}

theorem within?_of_names (h : g.names = f.names) (l : Level) (name : String) :
    g.within? l name = f.within? l name := by
  cases l with
  | root => rfl
  | around n =>
    cases n with
    | zero => rfl
    | succ n => simp only [within?, h]

/-- What lies at a place where there is no folder. -/
def fileSpot (f : Folder) (p : Place) : Spot :=
  match f.files.lookup p with
  | some text => .file p text
  | none => .vacant p

theorem place?_fileSpot (f : Folder) (p : Place) : (f.fileSpot p).place? = some p := by
  unfold fileSpot
  split <;> rfl

/-- A step from a folder leads to a folder, also where other files are, or to what its name is there. -/
theorem step_of_names (hn : g.names = f.names) {l : Level} {name : String} {t : Spot}
    (h : f.step (.folder l) name = .ok t) :
    (∃ l', t = .folder l' ∧ g.step (.folder l) name = .ok (.folder l')) ∨
      t = f.fileSpot ⟨l, name⟩ ∧ g.step (.folder l) name = .ok (g.fileSpot ⟨l, name⟩) := by
  have hstep : ∀ d : Folder, d.step (.folder l) name =
      if name = ".." then .ok (.folder l.up)
      else if Path.maxNameSize < name.utf8ByteSize then .error .badName
      else .ok (d.spot ⟨l, name⟩) := fun _ => rfl
  rw [hstep] at h ⊢
  split at h
  · rename_i hup
    cases h
    rw [if_pos hup]
    exact Or.inl ⟨l.up, rfl, rfl⟩
  · rename_i hup
    split at h
    · cases h
    · rename_i hlong
      cases h
      rw [if_neg hup, if_neg hlong]
      unfold spot
      rw [within?_of_names hn]
      cases f.within? l name with
      | some l' => exact Or.inl ⟨l', rfl, rfl⟩
      | none => exact Or.inr ⟨rfl, rfl⟩

/-- Nothing lies within a file or beyond a vacant name. -/
theorem steps_of_place {s t : Spot} {p : Place} (hs : s.place? = some p) {steps : List String}
    (h : steps.foldlM f.step s = .ok t) : steps = [] := by
  cases steps with
  | nil => rfl
  | cons name rest =>
    rw [List.foldlM_cons] at h
    obtain ⟨u, hu, -⟩ := Except.bind_eq_ok_iff.mp h
    cases s with
    | folder l => cases hs
    | file q text => cases hu
    | vacant q => cases hu

/-- Steps that lead to a place lead there in every folder with the same names around. -/
theorem steps_of_names (hn : g.names = f.names) {s : Spot} {p : Place} (hp : s.place? = some p)
    {steps : List String} : ∀ {l : Level}, steps.foldlM f.step (.folder l) = .ok s →
      steps.foldlM g.step (.folder l) = .ok (g.fileSpot p) := by
  induction steps with
  | nil =>
    intro l h
    cases h
    cases hp
  | cons name rest ih =>
    intro l h
    rw [List.foldlM_cons] at h ⊢
    obtain ⟨t, ht, hrest⟩ := Except.bind_eq_ok_iff.mp h
    rcases step_of_names hn ht with ⟨l', rfl, hg⟩ | ⟨rfl, hg⟩
    · rw [hg]
      exact ih hrest
    · have hplace := f.place?_fileSpot ⟨l, name⟩
      obtain rfl := steps_of_place hplace hrest
      cases hrest
      rw [hplace] at hp
      cases hp
      rw [hg]
      rfl

/-- A path that leads to a place leads there in every folder with the same names around. -/
theorem follow_of_names (hn : g.names = f.names) {path : String} {s : Spot} {p : Place}
    (h : f.follow path = .ok s) (hp : s.place? = some p) :
    g.follow path = .ok (g.fileSpot p) := by
  unfold follow at h ⊢
  dsimp only at h ⊢
  split at h
  · cases h
  · split at h
    · cases h
    · rename_i h₀ h₁
      rw [if_neg h₀, if_neg h₁]
      exact steps_of_names hn hp h

/-- **What was written is read.** -/
theorem read_write {path text : String} (h : f.write path text = .ok g) : g.read path = .ok text := by
  have written : ∀ {s : Spot} {p : Place}, f.follow path = .ok s → s.place? = some p →
      g = { f with files := Value.putEntry p text f.files } → g.read path = .ok text := by
    intro s p hs hp hg
    have hfollow := follow_of_names (g := g) (by rw [hg]) hs hp
    have hspot : g.fileSpot p = .file p text := by
      simp [fileSpot, hg, Value.lookup_putEntry]
    unfold read
    rw [hfollow, hspot]
  unfold write at h
  split at h
  · rename_i p t hs
    exact written hs rfl (Except.ok.inj h).symm
  · rename_i p hs
    exact written hs rfl (Except.ok.inj h).symm
  · cases h
  · cases h

/-- **What was deleted is not there.** -/
theorem read_remove {path : String} (h : f.remove path = .ok g) : g.read path = .error .noFile := by
  unfold remove at h
  split at h
  · rename_i p t hs
    have hg : g = { f with files := f.files.filter fun e => e.1 != p } := (Except.ok.inj h).symm
    have hfollow := follow_of_names (g := g) (by rw [hg]) hs rfl
    have hnone : (f.files.filter fun e => e.1 != p).lookup p = none := by
      rw [List.lookup_eq_none_iff]
      intro e he
      have hne : e.1 ≠ p := by simpa using (List.mem_filter.mp he).2
      exact bne_iff_ne.mpr (Ne.symm hne)
    have hspot : g.fileSpot p = .vacant p := by
      unfold fileSpot
      rw [hg, hnone]
    unfold read
    rw [hfollow, hspot]
  · cases h
  · cases h
  · cases h

end Folder

namespace Document

open Text (CodeText)

/-! ## 2. What a file says -/

/-- Why reading a text ends: it is no document, or it is one beyond the limits of what is read. -/
def ReadingEnds (f : Fault) : Prop := f = .notJson ∨ f = .tooDeep ∨ ∃ n, f = .refused (.longNumeral n)

section Reading

variable {around : List Frame} {expected : Expected} {entries : List (CodeText × Document)} {t : Token}

theorem failsOnly_enter : (enter around expected).FailsOnly ReadingEnds := by
  unfold enter
  split
  · exact Except.failsOnly_error (Or.inr (Or.inl rfl))
  · exact Except.failsOnly_ok _

theorem failsOnly_startValue : (startValue around t).FailsOnly ReadingEnds := by
  unfold startValue
  split
  · exact Except.failsOnly_ok _
  · exact Except.failsOnly_error (Or.inr (Or.inr ⟨_, rfl⟩))
  · exact failsOnly_enter
  · exact failsOnly_enter
  · exact Except.failsOnly_error (Or.inl rfl)

theorem failsOnly_startEntry : (startEntry around entries t).FailsOnly ReadingEnds := by
  unfold startEntry
  split
  · exact Except.failsOnly_ok _
  · exact Except.failsOnly_error (Or.inl rfl)

/-- One more token starts a value or an entry, goes on without fail, or may not come next. -/
theorem failsOnly_next (r : Reading) : (r.next t).FailsOnly ReadingEnds := by
  unfold Reading.next
  split
  all_goals
    first
    | exact failsOnly_startValue
    | exact failsOnly_startEntry
    | exact Except.failsOnly_ok _
    | exact Except.failsOnly_error (Or.inl rfl)

theorem failsOnly_document (r : Reading) : r.document.FailsOnly ReadingEnds := by
  unfold Reading.document
  split
  · exact Except.failsOnly_ok _
  · exact Except.failsOnly_error (Or.inl rfl)

theorem failsOnly_tokens (ts : List Token) :
    ∀ r : Reading, (ts.foldlM Reading.next r).FailsOnly ReadingEnds := by
  induction ts with
  | nil => exact fun r => Except.failsOnly_ok r
  | cons t ts ih =>
    intro r
    rw [List.foldlM_cons]
    exact (failsOnly_next r).bind ih

/-- **Reading a text** fails for one of three reasons. -/
theorem failsOnly_read (s : String) : (read s).FailsOnly ReadingEnds :=
  (failsOnly_tokens (tokens s.toList) ⟨[], .value⟩).bind failsOnly_document

end Reading

/-- **Opening a file** fails for one of three reasons. -/
theorem failsOnly_readFolder (f : Folder) (path : String) :
    (f.read path).FailsOnly fun e => e = .noFile ∨ e = .isFolder ∨ e = .badName := by
  unfold Folder.read
  split
  · exact Except.failsOnly_ok _
  · exact Except.failsOnly_error (Or.inr (Or.inl rfl))
  · exact Except.failsOnly_error (Or.inl rfl)
  · exact Except.failsOnly_error (Or.inr (Or.inr rfl))
  · exact Except.failsOnly_error (Or.inl rfl)

/-- What keeps a load from a verdict about the content of a file: a folder or a name that no file can have,
data beyond the limits of what is read, or a finding that ends the check with a failure of its own. -/
inductive Hindered (name : String) : Except Fault String → Fault → Prop where
  | unopened {f : Fault} (h : f = .isFolder ∨ f = .badName) : Hindered name (.error f) f
  | unread {text : String} {f : Fault} (h : Document.read text = .error f)
      (hf : f = .tooDeep ∨ ∃ n, f = .refused (.longNumeral n)) : Hindered name (.ok text) f
  | unchecked {text : String} {v : Document} {x : Finding} {rest : List Finding}
      (h : Document.read text = .ok v) (hx : findings fullRoom .schema v = x :: rest)
      (hf : x.fault name ≠ .refused (.badSchema name)) : Hindered name (.ok text) (x.fault name)

/-- **What a file says about the schema of a name**, by its content alone: there is no file, it holds no
document, its document is no valid schema, or the document is the schema. -/
inductive FileGives (name : String) : Except Fault String → Except Fault Document → Prop where
  | absent : FileGives name (.error .noFile) (.error .noFile)
  | notDocument {text : String} (h : Document.read text = .error .notJson) :
      FileGives name (.ok text) (.error .notJson)
  | notSchema {text : String} {v : Document} {x : Finding} {rest : List Finding}
      (h : Document.read text = .ok v) (hx : findings fullRoom .schema v = x :: rest)
      (hf : x.fault name = .refused (.badSchema name)) :
      FileGives name (.ok text) (.error (.refused (.badSchema name)))
  | schema {text : String} {v : Document} (h : Document.read text = .ok v) (hs : isSchema v = true) :
      FileGives name (.ok text) (.ok v)
  | hindered {content : Except Fault String} {f : Fault} (h : Hindered name content f) :
      FileGives name content (.error f)

/-- The schema of a name, told by the content of its file. -/
def fromContent (name : String) (content : Except Fault String) : Except Fault Document :=
  content >>= fun text => Document.read text >>= fun v => (checkSchema name v).map fun _ => v

theorem checkSchema_of_cons {name : String} {v : Document} {x : Finding} {rest : List Finding}
    (hx : findings fullRoom .schema v = x :: rest) : checkSchema name v = .error (x.fault name) := by
  unfold checkSchema
  rw [hx]

/-- What a content gives is one thing. -/
theorem FileGives.eq_fromContent {name : String} {content : Except Fault String}
    {result : Except Fault Document} (h : FileGives name content result) :
    result = fromContent name content := by
  cases h with
  | absent => rfl
  | notDocument h => simp [fromContent, bind, Except.bind, h]
  | notSchema h hx hf => simp [fromContent, bind, Except.bind, h, checkSchema_of_cons hx, hf, Except.map]
  | schema h hs => simp [fromContent, bind, Except.bind, h, checkSchema_eq_ok_iff.mpr hs, Except.map]
  | hindered h =>
    cases h with
    | unopened h => rfl
    | unread h hf => simp [fromContent, bind, Except.bind, h]
    | unchecked h hx hf => simp [fromContent, bind, Except.bind, h, checkSchema_of_cons hx, Except.map]

/-- Each content gives something. -/
theorem fileGives_fromContent (f : Folder) (path name : String) :
    FileGives name (f.read path) (fromContent name (f.read path)) := by
  cases hc : f.read path with
  | error e =>
    show FileGives name (.error e) (.error e)
    rcases failsOnly_readFolder f path e hc with rfl | he
    · exact .absent
    · exact .hindered (.unopened he)
  | ok text =>
    show FileGives name (.ok text) (Document.read text >>= fun v => (checkSchema name v).map fun _ => v)
    cases hr : Document.read text with
    | error e =>
      show FileGives name (.ok text) (.error e)
      rcases failsOnly_read text e hr with rfl | he
      · exact .notDocument hr
      · exact .hindered (.unread hr he)
    | ok v =>
      show FileGives name (.ok text) ((checkSchema name v).map fun _ => v)
      cases hx : findings fullRoom .schema v with
      | nil =>
        have hs : isSchema v = true := by
          unfold isSchema
          rw [hx]
          rfl
        rw [checkSchema_eq_ok_iff.mpr hs]
        exact .schema hr hs
      | cons x rest =>
        rw [checkSchema_of_cons hx]
        by_cases hf : x.fault name = .refused (.badSchema name)
        · rw [hf]
          exact .notSchema hr hx hf
        · exact .hindered (.unchecked hr hx hf)

theorem Library.readFile_eq (l : Library) (name : String) :
    l.readFile name = fromContent name (l.folder.read (name ++ ".json")) := by
  unfold Library.readFile fromContent
  cases l.folder.read (name ++ ".json") with
  | error f => rfl
  | ok text =>
    show (Document.read text >>= fun v => checkSchema name v >>= fun _ => pure v) =
      (Document.read text >>= fun v => (checkSchema name v).map fun _ => v)
    refine congrArg (Document.read text >>= ·) (funext fun v => ?_)
    cases checkSchema name v <;> rfl

/-- What the file of a name gives is told by its content alone. -/
theorem fileGives_readFile (l : Library) (name : String) :
    FileGives name (l.folder.read (name ++ ".json")) (l.readFile name) := by
  rw [l.readFile_eq]
  exact fileGives_fromContent l.folder _ name

end Document

end Holdings
