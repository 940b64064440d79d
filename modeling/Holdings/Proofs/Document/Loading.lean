/-
# Schemas once loaded

A desk answers requests to load schemas while files are written and deleted.  Two things decide what a load
of a name comes to: what has been loaded under the name, and what its file holds now.

* What has been loaded stays what it is: only a load that succeeds adds to it, under its own name
  (`Desk.kept?_serve`).  So by induction on the requests a name that was loaded once gives the same object ever
  after (`Desk.kept?_after_of_some`), and one of which no load has succeeded is still not there
  (`Desk.kept?_after_of_none`).
* A name that is not there is looked up in its file, and what comes of that is told by the content of the
  file alone (`FileGives`).

Objects are told apart by their numbers, and a desk says of each object it hands out whether it is the one
handed out last under the name; `Desk.Sound` is what makes that right in every run.  To one name the loads of
other names are as if they had not been (`Desk.SameTo.after_filter`).  `Desk.loads_after` puts all of this
together.

A file that holds a document which is no valid schema is refused for that reason, with one exception.  The check
stops at the first finding, and a pattern may be beyond the limits of what can be checked; this ends the check
with a failure of its own (`Hindered`), also where the document is no valid schema for another reason
(`wide_count_escapes`).
-/
import Holdings.Proofs.Document.Files

namespace Holdings.Document

/-! ## 1. One load -/

namespace Desk

variable {k : Desk} {name : String}

/-- What a load of a name comes to: an object, or a failure. -/
def outcome (k : Desk) (name : String) : Except Fault (Tagged Document) := (k.library.load name).1

/-- What has been loaded under a name. -/
def kept? (k : Desk) (name : String) : Option (Tagged Document) := k.library.loaded.lookup name

theorem outcome_of_some {d : Tagged Document} (h : k.kept? name = some d) : k.outcome name = .ok d := by
  unfold outcome
  rw [Library.load_of_loaded h]

theorem outcome_of_none (h : k.kept? name = none) :
    k.outcome name = (k.library.readFile name).map fun v => ⟨k.library.nextTag, v⟩ := by
  have hl : k.library.loaded.lookup name = none := h
  unfold outcome Library.load
  rw [hl]
  cases k.library.readFile name <;> rfl

/-- The desk after an object was handed out under a name. -/
def handOut (k : Desk) (name : String) (tag : Nat) : Desk :=
  { k with handedOut := Value.putEntry name tag k.handedOut }

/-- **What a load does**: it hands out the object that is kept, or keeps and hands out the one in the file,
or fails and leaves the desk as it was. -/
theorem serve_load_cases (k : Desk) (name : String) :
    (∃ d, k.kept? name = some d ∧
        k.serve (.load name) =
          (.ok (.schema d.val (decide (k.handedOut.lookup name = some d.tag))), k.handOut name d.tag)) ∨
      (∃ v, k.kept? name = none ∧ k.library.readFile name = .ok v ∧
        k.serve (.load name) =
          (.ok (.schema v (decide (k.handedOut.lookup name = some k.library.nextTag))),
            { k with library := k.library.keep name v }.handOut name k.library.nextTag)) ∨
      ∃ f, k.kept? name = none ∧ k.library.readFile name = .error f ∧ k.serve (.load name) = (.error f, k) := by
  cases hk : k.kept? name with
  | some d =>
    refine Or.inl ⟨d, rfl, ?_⟩
    unfold serve
    dsimp only
    rw [Library.load_of_loaded hk]
    rfl
  | none =>
    have hl : k.library.loaded.lookup name = none := hk
    cases hr : k.library.readFile name with
    | ok v =>
      refine Or.inr (Or.inl ⟨v, rfl, rfl, ?_⟩)
      have hload : k.library.load name = (.ok ⟨k.library.nextTag, v⟩, k.library.keep name v) := by
        unfold Library.load
        rw [hl, hr]
      unfold serve
      dsimp only
      rw [hload]
      rfl
    | error f =>
      refine Or.inr (Or.inr ⟨f, rfl, rfl, ?_⟩)
      have hload : k.library.load name = (.error f, k.library) := by
        unfold Library.load
        rw [hl, hr]
      unfold serve
      dsimp only
      rw [hload]

/-- A load that fails leaves the desk as it was. -/
theorem serve_of_error {f : Fault} (h : k.outcome name = .error f) :
    k.serve (.load name) = (.error f, k) := by
  rcases k.serve_load_cases name with ⟨d, hk, -⟩ | ⟨v, hk, hr, -⟩ | ⟨e, hk, hr, hs⟩
  · rw [outcome_of_some hk] at h
    cases h
  · rw [outcome_of_none hk, hr] at h
    cases h
  · rw [outcome_of_none hk, hr] at h
    cases h
    exact hs

/-! ## 2. One request -/

/-- A change of files leaves alone what has been loaded and handed out. -/
theorem loaded_change (k : Desk) (x : Except Fault Folder) :
    (k.change x).2.library.loaded = k.library.loaded ∧
      (k.change x).2.library.nextTag = k.library.nextTag ∧ (k.change x).2.handedOut = k.handedOut := by
  unfold change
  cases x with
  | error e => exact ⟨rfl, rfl, rfl⟩
  | ok f => cases k.beside <;> exact ⟨rfl, rfl, rfl⟩

/-- **A request keeps what has been loaded**, and only a load that succeeds adds to it. -/
theorem kept?_serve (k : Desk) (r : Request) (key : String) :
    (k.serve r).2.kept? key = if r = .load key then (k.outcome key).toOption else k.kept? key := by
  cases r with
  | load name =>
    by_cases hn : name = key
    · rw [if_pos (congrArg Request.load hn), hn]
      rcases k.serve_load_cases key with ⟨d, hk, hs⟩ | ⟨v, hk, hr, hs⟩ | ⟨f, hk, hr, hs⟩
      · rw [hs, outcome_of_some hk]
        exact hk
      · rw [hs, outcome_of_none hk, hr]
        exact (Value.lookup_entry_cons key key _ _).trans (if_pos rfl)
      · rw [hs, outcome_of_none hk, hr]
        exact hk
    · rw [if_neg fun h => hn (Request.load.inj h)]
      rcases k.serve_load_cases name with ⟨d, -, hs⟩ | ⟨v, -, -, hs⟩ | ⟨f, -, -, hs⟩
      · rw [hs]
        rfl
      · rw [hs]
        exact (Value.lookup_entry_cons key name _ _).trans (if_neg (Ne.symm hn))
      · rw [hs]
  | write file text =>
    rw [if_neg (by simp)]
    exact congrArg (List.lookup key) (k.loaded_change _).1
  | delete file =>
    rw [if_neg (by simp)]
    exact congrArg (List.lookup key) (k.loaded_change _).1

/-! ## 3. Runs -/

theorem after_append (k : Desk) (rs rest : List Request) :
    k.after (rs ++ rest) = (k.after rs).after rest :=
  List.foldl_append

/-- What has been loaded stays there.  The induction is on the requests that follow. -/
theorem kept?_after_of_some {d : Tagged Document} (rs : List Request) :
    ∀ {k : Desk}, k.kept? name = some d → (k.after rs).kept? name = some d := by
  induction rs with
  | nil => exact fun h => h
  | cons r rs ih =>
    intro k h
    refine ih ?_
    rw [kept?_serve, outcome_of_some h]
    split
    · rfl
    · exact h

/-- A name of which no load succeeds is not there.  The induction is on the requests, and each load is one
of the run. -/
theorem kept?_after_of_none (rs : List Request) :
    ∀ {k : Desk}, k.kept? name = none →
      (∀ before later, rs = before ++ .load name :: later → ∃ f, (k.after before).outcome name = .error f) →
      (k.after rs).kept? name = none := by
  induction rs with
  | nil => exact fun h _ => h
  | cons r rs ih =>
    intro k h hfail
    refine ih ?_ fun before later hrs => hfail (r :: before) later (by rw [hrs, List.cons_append])
    rw [kept?_serve]
    split
    · rename_i hr
      obtain ⟨f, hf⟩ := hfail [] rs (by rw [hr, List.nil_append])
      have hf' : k.outcome name = .error f := hf
      rw [hf']
      rfl
    · exact h

/-- A load that has succeeded is kept through all that follows. -/
theorem kept?_after_load {d : Tagged Document} {before later : List Request}
    (h : (k.after before).outcome name = .ok d) :
    (k.after (before ++ .load name :: later)).kept? name = some d := by
  rw [after_append]
  refine kept?_after_of_some later ?_
  rw [kept?_serve, if_pos rfl, h]
  rfl

/-! ## 4. Objects that are told apart

What was handed out last under a name is what is kept under it, and objects that were loaded under different
names are different. -/

/-- What was handed out is what is kept, and no two objects that are kept have one number. -/
structure Sound (k : Desk) : Prop where
  handed : ∀ name, k.handedOut.lookup name = (k.kept? name).map Tagged.tag
  below : ∀ name d, k.kept? name = some d → d.tag < k.library.nextTag
  apart : ∀ m n d e, k.kept? m = some d → k.kept? n = some e → d.tag = e.tag → m = n

theorem sound_ofLibrary (folder : Folder) (beside : Option Folder) :
    (ofLibrary ⟨folder, [], 0⟩ beside).Sound where
  handed _ := rfl
  below _ _ h := by cases h
  apart _ _ _ _ h := by cases h

/-- A change of files keeps a desk sound. -/
theorem Sound.change (h : k.Sound) (x : Except Fault Folder) : (k.change x).2.Sound := by
  obtain ⟨hl, ht, hh⟩ := k.loaded_change x
  have hkept : ∀ n, (k.change x).2.kept? n = k.kept? n := fun n => congrArg (List.lookup n) hl
  refine ⟨fun n => ?_, fun n d hd => ?_, fun m n d e hd he htag => ?_⟩
  · rw [hh, hkept]
    exact h.handed n
  · rw [hkept] at hd
    rw [ht]
    exact h.below n d hd
  · rw [hkept] at hd he
    exact h.apart m n d e hd he htag

/-- Handing out what is kept keeps a desk sound. -/
theorem Sound.handOut (h : k.Sound) {d : Tagged Document} (hk : k.kept? name = some d) :
    (k.handOut name d.tag).Sound where
  handed n := by
    show (Value.putEntry name d.tag k.handedOut).lookup n = (k.kept? n).map Tagged.tag
    rw [Value.lookup_putEntry]
    split
    · rename_i hn
      rw [hn, hk]
      rfl
    · exact h.handed n
  below := h.below
  apart := h.apart

theorem kept?_keep (k : Desk) (name key : String) (v : Document) :
    ({ k with library := k.library.keep name v } : Desk).kept? key =
      if key = name then some ⟨k.library.nextTag, v⟩ else k.kept? key :=
  Value.lookup_entry_cons key name _ _

/-- An object that is new has a number of its own. -/
theorem Sound.keep (h : k.Sound) (name : String) (v : Document) :
    ({ k with library := k.library.keep name v }.handOut name k.library.nextTag : Desk).Sound where
  handed n := by
    show (Value.putEntry name k.library.nextTag k.handedOut).lookup n =
      (({ k with library := k.library.keep name v } : Desk).kept? n).map Tagged.tag
    rw [Value.lookup_putEntry, kept?_keep]
    split
    · rfl
    · exact h.handed n
  below n d hd := by
    have hd' := (k.kept?_keep name n v).symm.trans hd
    show d.tag < k.library.nextTag + 1
    split at hd'
    · cases hd'
      exact Nat.lt_succ_self _
    · exact Nat.lt_succ_of_lt (h.below n d hd')
  apart m n d e hd he htag := by
    have hd' := (k.kept?_keep name m v).symm.trans hd
    have he' := (k.kept?_keep name n v).symm.trans he
    split at hd' <;> split at he'
    · rename_i hm hn
      exact hm.trans hn.symm
    · cases hd'
      exact absurd htag (Nat.ne_of_gt (h.below n e he'))
    · cases he'
      exact absurd htag (Nat.ne_of_lt (h.below m d hd'))
    · exact h.apart m n d e hd' he' htag

theorem Sound.serve (h : k.Sound) (r : Request) : (k.serve r).2.Sound := by
  cases r with
  | load name =>
    rcases k.serve_load_cases name with ⟨d, hk, hs⟩ | ⟨v, -, -, hs⟩ | ⟨f, -, -, hs⟩
    · rw [hs]
      exact h.handOut hk
    · rw [hs]
      exact h.keep name v
    · rw [hs]
      exact h
  | write file text => exact h.change _
  | delete file => exact h.change _

/-- Every run keeps a desk sound. -/
theorem Sound.after (rs : List Request) : ∀ {k : Desk}, k.Sound → (k.after rs).Sound := by
  induction rs with
  | nil => exact fun h => h
  | cons r rs ih => exact fun h => ih (h.serve r)

/-- The answer to a load tells what comes of it, and whether the object was there before. -/
theorem Sound.answer (h : k.Sound) (name : String) :
    (k.serve (.load name)).1 =
      (k.outcome name).map fun d => .schema d.val (k.kept? name).isSome := by
  have hhanded := h.handed name
  rcases k.serve_load_cases name with ⟨d, hk, hs⟩ | ⟨v, hk, hr, hs⟩ | ⟨f, hk, hr, hs⟩
  · rw [hk] at hhanded
    rw [hs, outcome_of_some hk, hhanded, hk]
    simp [Except.map]
  · rw [hk] at hhanded
    rw [hs, outcome_of_none hk, hr, hhanded, hk]
    simp [Except.map]
  · rw [hs, outcome_of_none hk, hr]
    rfl

/-- The answer to a load of a name that is not there. -/
theorem Sound.answer_of_none {name : String} {result : Except Fault Document} (h : k.Sound)
    (hk : k.kept? name = none) (hout : (k.outcome name).map Tagged.val = result) :
    (k.serve (.load name)).1 = result.map fun v => .schema v false := by
  rw [h.answer, hk, ← hout]
  cases k.outcome name <;> rfl

end Desk

/-! ## 5. Loads of other names

Two desks with the same files that keep the same schema under a name, or keep none, are the same to that
name.  A load of another name leaves a desk the same to it, and the loads of a run that are of other names
can be left out. -/

/-- Whether a request loads a name or changes a file, so that it matters to the name. -/
def Request.Regards (name : String) : Request → Bool
  | .load other => other = name
  | .write .. | .delete _ => true

namespace Desk

variable {k k' : Desk} {name : String}

/-- Desks that are the same to a name. -/
structure SameTo (name : String) (k k' : Desk) : Prop where
  folder : k.library.folder = k'.library.folder
  beside : k.beside = k'.beside
  kept : (k.kept? name).map Tagged.val = (k'.kept? name).map Tagged.val

theorem SameTo.outcome (h : SameTo name k k') :
    (k.outcome name).map Tagged.val = (k'.outcome name).map Tagged.val := by
  have hkept := h.kept
  cases hk : k.kept? name with
  | some d =>
    cases hk' : k'.kept? name with
    | some e =>
      rw [hk, hk'] at hkept
      rw [outcome_of_some hk, outcome_of_some hk']
      exact congrArg Except.ok (Option.some.inj hkept)
    | none =>
      rw [hk, hk'] at hkept
      cases hkept
  | none =>
    cases hk' : k'.kept? name with
    | some e =>
      rw [hk, hk'] at hkept
      cases hkept
    | none =>
      have hfile : k.library.readFile name = k'.library.readFile name := by
        rw [Library.readFile_eq, Library.readFile_eq, h.folder]
      rw [outcome_of_none hk, outcome_of_none hk', hfile]
      cases k'.library.readFile name <;> rfl

theorem folder_serve_load (k : Desk) (other : String) :
    (k.serve (.load other)).2.library.folder = k.library.folder ∧
      (k.serve (.load other)).2.beside = k.beside := by
  rcases k.serve_load_cases other with ⟨d, -, hs⟩ | ⟨v, -, -, hs⟩ | ⟨f, -, -, hs⟩
  all_goals
    rw [hs]
    exact ⟨rfl, rfl⟩

/-- A load of another name. -/
theorem SameTo.serve_other {other : String} (h : SameTo name k k') (hne : other ≠ name) :
    SameTo name (k.serve (.load other)).2 k' := by
  obtain ⟨hfolder, hbeside⟩ := k.folder_serve_load other
  refine ⟨hfolder.trans h.folder, hbeside.trans h.beside, ?_⟩
  rw [kept?_serve, if_neg fun hr => hne (Request.load.inj hr)]
  exact h.kept

/-- A load of the name. -/
theorem SameTo.serve_load (h : SameTo name k k') :
    SameTo name (k.serve (.load name)).2 (k'.serve (.load name)).2 := by
  obtain ⟨hfolder, hbeside⟩ := k.folder_serve_load name
  obtain ⟨hfolder', hbeside'⟩ := k'.folder_serve_load name
  refine ⟨hfolder.trans (h.folder.trans hfolder'.symm), hbeside.trans (h.beside.trans hbeside'.symm), ?_⟩
  rw [kept?_serve, kept?_serve, if_pos rfl, if_pos rfl]
  have hout := h.outcome
  generalize k.outcome name = x at hout ⊢
  generalize k'.outcome name = y at hout ⊢
  cases x with
  | error f =>
    cases y with
    | error g => rfl
    | ok e => cases hout
  | ok d =>
    cases y with
    | error g => cases hout
    | ok e => exact congrArg some (Except.ok.inj hout)

/-- A change of files. -/
theorem SameTo.change (h : SameTo name k k') (x : Except Fault Folder) :
    SameTo name (k.change x).2 (k'.change x).2 := by
  cases x with
  | error e => exact h
  | ok f =>
    obtain ⟨hfolder, hbeside, hkept⟩ := h
    unfold Desk.change
    rw [hbeside]
    cases k'.beside with
    | some g => exact ⟨hfolder, rfl, hkept⟩
    | none => exact ⟨rfl, rfl, hkept⟩

theorem SameTo.files (h : SameTo name k k') : k.files = k'.files := by
  unfold Desk.files
  rw [h.beside, h.folder]

/-- **The loads of other names can be left out.**  The induction is on the requests. -/
theorem SameTo.after_filter (rs : List Request) :
    ∀ {k k' : Desk}, SameTo name k k' →
      SameTo name (k.after rs) (k'.after (rs.filter (Request.Regards name))) := by
  induction rs with
  | nil => exact fun h => h
  | cons r rs ih =>
    intro k k' h
    cases r with
    | load other =>
      by_cases ho : other = name
      · rw [List.filter_cons_of_pos (by simpa [Request.Regards] using ho), ho]
        exact ih h.serve_load
      · rw [List.filter_cons_of_neg (by simpa [Request.Regards] using ho)]
        exact ih (h.serve_other ho)
    | write file text =>
      have hstep : SameTo name (k.serve (.write file text)).2 (k'.serve (.write file text)).2 := by
        unfold Desk.serve
        rw [h.files]
        exact h.change _
      exact ih hstep
    | delete file =>
      have hstep : SameTo name (k.serve (.delete file)).2 (k'.serve (.delete file)).2 := by
        unfold Desk.serve
        rw [h.files]
        exact h.change _
      exact ih hstep

theorem SameTo.answer (h : SameTo name k k') (hk : k.Sound) (hk' : k'.Sound) :
    (k.serve (.load name)).1 = (k'.serve (.load name)).1 := by
  have hsome : (k.kept? name).isSome = (k'.kept? name).isSome := by
    simpa using congrArg Option.isSome h.kept
  have hmap : ∀ (x : Except Fault (Tagged Document)) (b : Bool),
      (x.map fun d => Answer.schema d.val b) = (x.map Tagged.val).map fun v => Answer.schema v b := by
    intro x b
    cases x <;> rfl
  rw [hk.answer, hk'.answer, hsome, hmap, hmap, h.outcome]

/-! ## 6. What loads come to -/

/-- **What becomes of loads in a run.** -/
structure Loads (k : Desk) (rs : List Request) : Prop where
  /-- A name that was loaded gives the same object ever after. -/
  kept : ∀ before later name d, rs = before ++ .load name :: later →
    (k.after before).outcome name = .ok d →
      (k.after rs).outcome name = .ok d ∧
        ((k.after rs).serve (.load name)).1 = .ok (.schema d.val true)
  /-- A name of which no load has succeeded gives what its file says now, in an object that is new. -/
  unloaded : ∀ name,
    (∀ before later, rs = before ++ .load name :: later →
      ∃ f, (k.after before).outcome name = .error f) →
    FileGives name ((k.after rs).library.folder.read (name ++ ".json"))
        (((k.after rs).outcome name).map Tagged.val) ∧
      ((k.after rs).serve (.load name)).1 =
        ((k.after rs).outcome name).map fun d => .schema d.val false
  /-- A load that fails changes nothing. -/
  failed : ∀ name f, (k.after rs).outcome name = .error f →
    (k.after rs).serve (.load name) = (.error f, k.after rs)
  /-- After a load that fails, a file that is mended loads. -/
  mended : ∀ name f text v g, k.beside = none → (k.after rs).outcome name = .error f →
    (k.after rs).library.folder.write (name ++ ".json") text = .ok g → Document.read text = .ok v →
    isSchema v = true →
      ((k.after (rs ++ [.load name, .write (name ++ ".json") text])).serve (.load name)).1 =
        .ok (.schema v false)
  /-- A file that is deleted before its name was loaded is not there to load. -/
  deleted : ∀ name g, k.beside = none →
    (∀ before later, rs = before ++ .load name :: later →
      ∃ f, (k.after before).outcome name = .error f) →
    (k.after rs).library.folder.remove (name ++ ".json") = .ok g →
      ((k.after (rs ++ [.delete (name ++ ".json")])).serve (.load name)).1 = .error .noFile
  /-- Loads of other names do not matter. -/
  apart : ∀ name, ((k.after rs).serve (.load name)).1 =
    ((k.after (rs.filter (Request.Regards name))).serve (.load name)).1
  /-- Objects that were loaded under different names are different. -/
  distinct : ∀ before later before' later' m n d e,
    rs = before ++ .load m :: later → (k.after before).outcome m = .ok d →
    rs = before' ++ .load n :: later' → (k.after before').outcome n = .ok e →
      d.tag = e.tag → m = n

/-- No run takes away the folder beside a library, or puts one there. -/
theorem beside_after_of_none (rs : List Request) :
    ∀ {k : Desk}, k.beside = none → (k.after rs).beside = none := by
  induction rs with
  | nil => exact fun h => h
  | cons r rs ih =>
    intro k h
    refine ih ?_
    have hchange : ∀ x, (k.change x).2.beside = none := by
      intro x
      unfold Desk.change
      cases x with
      | error e => exact h
      | ok f =>
        rw [h]
    cases r with
    | load other => exact (k.folder_serve_load other).2.trans h
    | write file text => exact hchange _
    | delete file => exact hchange _

theorem files_of_none (h : k.beside = none) : k.files = k.library.folder := by
  unfold Desk.files
  rw [h]
  rfl

/-- What a load of a name that is not there gives after its file was changed. -/
theorem outcome_change {x : Except Fault Folder} {g : Folder} (hb : k.beside = none)
    (hk : k.kept? name = none) (hx : x = .ok g) :
    (k.change x).2.kept? name = none ∧
      ((k.change x).2.outcome name).map Tagged.val = fromContent name (g.read (name ++ ".json")) := by
  have hkept : (k.change x).2.kept? name = none :=
    (congrArg (List.lookup name) (k.loaded_change x).1).trans hk
  have hfolder : (k.change x).2.library.folder = g := by
    unfold Desk.change
    rw [hx, hb]
    rfl
  refine ⟨hkept, ?_⟩
  rw [outcome_of_none hkept, Library.readFile_eq, hfolder]
  cases fromContent name (g.read (name ++ ".json")) <;> rfl

theorem kept?_of_error {f : Fault} (h : k.outcome name = .error f) : k.kept? name = none := by
  cases hk : k.kept? name with
  | none => rfl
  | some d =>
    rw [outcome_of_some hk] at h
    cases h

/-- A file that is written is what its name loads next, if the name is not there. -/
theorem Sound.answer_write {text : String} {v : Document} {g : Folder} (h : k.Sound)
    (hb : k.beside = none) (hk : k.kept? name = none)
    (hw : k.library.folder.write (name ++ ".json") text = .ok g) (hr : Document.read text = .ok v)
    (hs : isSchema v = true) :
    ((k.serve (.write (name ++ ".json") text)).2.serve (.load name)).1 = .ok (.schema v false) := by
  have hwrite : k.files.write (name ++ ".json") text = .ok g := by
    rw [files_of_none hb]
    exact hw
  obtain ⟨hkept, hout⟩ := outcome_change hb hk hwrite
  rw [Folder.read_write hw, ← (FileGives.schema hr hs).eq_fromContent] at hout
  exact (h.serve (.write (name ++ ".json") text)).answer_of_none hkept hout

/-- A file that is deleted is not there to load, if the name is not there either. -/
theorem Sound.answer_delete {g : Folder} (h : k.Sound) (hb : k.beside = none) (hk : k.kept? name = none)
    (hw : k.library.folder.remove (name ++ ".json") = .ok g) :
    ((k.serve (.delete (name ++ ".json"))).2.serve (.load name)).1 = .error .noFile := by
  have hremove : k.files.remove (name ++ ".json") = .ok g := by
    rw [files_of_none hb]
    exact hw
  obtain ⟨hkept, hout⟩ := outcome_change hb hk hremove
  rw [Folder.read_remove hw] at hout
  exact (h.serve (.delete (name ++ ".json"))).answer_of_none hkept hout

/-- **What becomes of loads**, for a library in any folder and in every run of requests. -/
theorem loads_after (folder : Folder) (beside : Option Folder) (rs : List Request) :
    (ofLibrary ⟨folder, [], 0⟩ beside).Loads rs := by
  generalize hk : ofLibrary ⟨folder, [], 0⟩ beside = k
  have hsound : k.Sound := hk ▸ sound_ofLibrary folder beside
  have hnone : ∀ name, k.kept? name = none := fun name => by
    rw [← hk]
    rfl
  have hend : (k.after rs).Sound := hsound.after rs
  have hloaded : ∀ before later name d, rs = before ++ .load name :: later →
      (k.after before).outcome name = .ok d → (k.after rs).kept? name = some d :=
    fun before later name d hrs h => hrs ▸ kept?_after_load h
  refine ⟨?kept, ?unloaded, fun name f => serve_of_error, ?mended, ?deleted, ?apart, ?distinct⟩
  case kept =>
    intro before later name d hrs h
    have hd := hloaded before later name d hrs h
    refine ⟨outcome_of_some hd, ?_⟩
    rw [hend.answer, outcome_of_some hd, hd]
    rfl
  case unloaded =>
    intro name hfail
    have hn := kept?_after_of_none rs (hnone name) hfail
    constructor
    · have hfile := fileGives_readFile (k.after rs).library name
      rw [outcome_of_none hn]
      cases hr : (k.after rs).library.readFile name <;> rw [hr] at hfile <;> exact hfile
    · rw [hend.answer, hn]
      rfl
  case mended =>
    intro name f text v g hb hf hw hr hs
    have hrun : k.after (rs ++ [.load name, .write (name ++ ".json") text]) =
        ((k.after rs).serve (.write (name ++ ".json") text)).2 := by
      rw [after_append]
      show (((k.after rs).serve (.load name)).2.serve _).2 = _
      rw [serve_of_error hf]
    rw [hrun]
    exact hend.answer_write (beside_after_of_none rs hb) (kept?_of_error hf) hw hr hs
  case deleted =>
    intro name g hb hfail hw
    rw [after_append]
    exact hend.answer_delete (beside_after_of_none rs hb) (kept?_after_of_none rs (hnone name) hfail) hw
  case apart =>
    intro name
    have hsame : SameTo name k k := ⟨rfl, rfl, rfl⟩
    exact (hsame.after_filter rs).answer hend (hsound.after _)
  case distinct =>
    intro before later before' later' m n d e hrs hd hrs' he htag
    exact hend.apart m n d e (hloaded before later m d hrs hd) (hloaded before' later' n e hrs' he) htag

end Desk

/-! ## 7. A check that is cut short -/

/-- A document that is no valid schema, since what it requires is a number and its title another.  Its
pattern asks for more repetitions than can be counted. -/
def wideText : String :=
  "\x7b\"pattern\": \"a\x7b4294967295\x7d\", \"required\": 5, \"title\": 5\x7d"

/-- A folder with that document as its one file. -/
def wideFolder : Folder := ⟨[], [(⟨.around 0, "s0.json"⟩, wideText)]⟩

/-- **Not every document that is no valid schema is refused as one**: the check meets a pattern beyond its
limits before the rest, and ends with the failure of the pattern. -/
theorem wide_count_escapes :
    ¬ ∀ (folder : Folder) (name text : String) (v : Document),
      folder.read (name ++ ".json") = .ok text → Document.read text = .ok v → isSchema v = false →
        (Desk.ofLibrary ⟨folder, [], 0⟩ none).outcome name = .error (.refused (.badSchema name)) := by
  intro h
  have hread : wideFolder.read ("s0" ++ ".json") = .ok wideText := by decide +kernel
  have hinvalid : (Document.read wideText).map isSchema = .ok false := by decide +kernel
  have hwide : ((Desk.ofLibrary ⟨wideFolder, [], 0⟩ none).outcome "s0").map Tagged.tag =
      .error .wideIndex := by
    decide +kernel
  obtain ⟨v, hv, hs⟩ := Except.map_eq_ok_iff.mp hinvalid
  rw [h wideFolder "s0" wideText v hread hv hs] at hwide
  cases hwide

end Holdings.Document
