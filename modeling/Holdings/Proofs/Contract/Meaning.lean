/-
# What a written contract reports

A written contract is a record of keywords.  What it reports of a value is told here keyword by keyword, for
those keywords that ask something; all others only describe (`silent_of_not_mem`).  Most of them ask about
the value itself, and only of values of their own kind: a bound asks nothing of a text, and a length nothing
of a number (`ReportsHere`).  Two of them lead on.  `properties` leads into the fields of the value that
the contract declares, and `$ref` to another form of the same document, whose reports then stand at the
place of the reference.  What can be reached in this way is the least relation closed under these steps
(`Reports`), so a form that leads back to itself would do no harm.

A document means a form when the violations of the form are the list of what the document reports, in the
order of the file, for every value (`Means`).
-/
import Holdings.Contract.Documents
import Holdings.Proofs.Contract.Numbers
import Holdings.Proofs.Contract.Placed
import Holdings.Proofs.Entries
import Holdings.Proofs.Text.Shown

namespace Holdings

open Text (CodeText)

/-! ## 1. Entries of a document -/

namespace Document

/-- The entry at a place of a record, its key being a text of characters. -/
def entryAt? : Document → Nat → Option (String × Document)
  | record es, i => es[i]?.bind fun e => e.1.toString?.map fun name => (name, e.2)
  | _, _ => none

/-- What stands under a name in a record. -/
def member? : Document → String → Option Document
  | record es, name => es.lookup (.ofString name)
  | _, _ => none

/-- The names in a record. -/
def names : Document → List String
  | record es => es.filterMap fun e => e.1.toString?
  | _ => []

/-- The names of the fields that a contract declares. -/
def declared (d : Document) : List String := ((d.member? "properties").map names).getD []

/-- The form that a document shares under a name. -/
def shared? (d : Document) (name : String) : Option Document :=
  (d.member? "$defs").bind fun defs => defs.member? name

theorem ofString_inj {s t : String} : CodeText.ofString s = CodeText.ofString t ↔ s = t := by
  refine ⟨fun h => ?_, congrArg CodeText.ofString⟩
  have hs := CodeText.toString?_ofString s
  rw [h, CodeText.toString?_ofString, Option.some.injEq] at hs
  exact hs.symm

theorem string_inj {s t : String} : string s = string t ↔ s = t := by
  rw [string, string, text.injEq, ofString_inj]

variable (es : List (String × Document))

theorem entryAt?_fields (i : Nat) : (fields es).entryAt? i = es[i]? := by
  rw [fields, entryAt?, List.getElem?_map]
  cases es[i]? with
  | none => rfl
  | some e => simp [CodeText.toString?_ofString]

theorem member?_fields (name : String) : (fields es).member? name = es.lookup name := by
  rw [fields, member?]
  induction es with
  | nil => rfl
  | cons e es ih =>
    obtain ⟨k, d⟩ := e
    have hkey : (CodeText.ofString name == CodeText.ofString k) = (name == k) := by
      rw [Bool.eq_iff_iff, beq_iff_eq, beq_iff_eq, ofString_inj]
    rw [List.map_cons, List.lookup_cons, List.lookup_cons, ih, hkey]

theorem names_fields : (fields es).names = es.map Prod.fst := by
  rw [fields, names, List.filterMap_map]
  induction es with
  | nil => rfl
  | cons e es ih => simp [CodeText.toString?_ofString]

end Document

/-- What is found in nested dictionaries under one name after the other. -/
def Datum.at? : Datum → List String → Option Datum
  | v, [] => some v
  | .dict es, name :: path => (List.lookup name es).bind fun w => Datum.at? w path
  | _, _ :: _ => none

/-- What stands in a part of a value stands in the value. -/
theorem Datum.HoldsLong.of_at? {w : Datum} (h : w.HoldsLong) : ∀ {path : List String} {v : Datum},
    v.at? path = some w → v.HoldsLong
  | [], v, hat => by
    rw [Datum.at?, Option.some.injEq] at hat
    rwa [hat]
  | name :: path, .dict es, hat => by
    rw [Datum.at?] at hat
    obtain ⟨u, hu, hat⟩ := Option.bind_eq_some_iff.mp hat
    obtain ⟨n, hn, hlong⟩ := Datum.HoldsLong.of_at? h hat
    obtain ⟨l₁, l₂, rfl, -⟩ := List.lookup_eq_some_iff.mp hu
    exact ⟨n, .entry (List.mem_append_right l₁ List.mem_cons_self) hn, hlong⟩

namespace Contract

/-! ## 2. Reports -/

/-- Whether a value is of a kind that contracts name. -/
def HasKind (v : Datum) : String → Prop
  | "string" => ∃ s, v = .text s
  | "integer" => ∃ n : Int, v.place? = some (.place n)
  | "object" => ∃ es, v = .dict es
  | _ => False

theorem hasKind_string_iff {v : Datum} : HasKind v "string" ↔ ∃ s, v = .text s := Iff.rfl

theorem hasKind_integer_iff {v : Datum} :
    HasKind v "integer" ↔ ∃ n : Int, v.place? = some (.place n) := Iff.rfl

theorem hasKind_object_iff {v : Datum} : HasKind v "object" ↔ ∃ es, v = .dict es := Iff.rfl

/-- What a keyword reports of the value itself, for a contract that declares fields of these names. -/
def ReportsHere (declared : List String) (v : Datum) : String → Document → Reporting
  | "type", sub, r, x => ∃ kind, sub = .string kind ∧ r = [] ∧ ¬ HasKind v kind ∧
      x = here (.wrongType v.shown kind)
  | "maxLength", sub, r, x => ∃ n s, sub = .int n ∧ v = .text s ∧ r = [] ∧ n < s.toList.length ∧
      x = here (.tooLong v.shown)
  | "minimum", sub, r, x => ∃ n, sub = .int n ∧ r = [] ∧ (∃ p, v.place? = some p ∧ p < .place n) ∧
      x = here (.below v.shown n)
  | "maximum", sub, r, x => ∃ n, sub = .int n ∧ r = [] ∧ (∃ p, v.place? = some p ∧ .place n < p) ∧
      x = here (.above v.shown n)
  | "required", sub, r, x => ∃ names es j name, sub = .list names ∧ v = .dict es ∧ r = [j] ∧
      names[j]? = some (.string name) ∧ List.lookup name es = none ∧ x = here (.missing name)
  | "additionalProperties", sub, r, x => ∃ es foreign, sub = .bool false ∧ v = .dict es ∧ r = [] ∧
      foreign ≠ [] ∧ foreign.Perm ((es.map Prod.fst).filter fun k => !declared.contains k) ∧
      foreign.Pairwise (· ≤ ·) ∧ x = here (.unexpected foreign)
  | _, _, _, _ => False

section Single

variable {declared : List String} {v : Datum} {sub : Document} {r : List Nat} {x : Violation}

theorem reportsHere_maxLength_iff : ReportsHere declared v "maxLength" sub r x ↔
    ∃ n s, sub = .int n ∧ v = .text s ∧ r = [] ∧ n < s.toList.length ∧ x = here (.tooLong v.shown) :=
  Iff.rfl

theorem reportsHere_minimum_iff : ReportsHere declared v "minimum" sub r x ↔
    ∃ n, sub = .int n ∧ r = [] ∧ (∃ p, v.place? = some p ∧ p < .place n) ∧
      x = here (.below v.shown n) := Iff.rfl

theorem reportsHere_maximum_iff : ReportsHere declared v "maximum" sub r x ↔
    ∃ n, sub = .int n ∧ r = [] ∧ (∃ p, v.place? = some p ∧ .place n < p) ∧
      x = here (.above v.shown n) := Iff.rfl

theorem reportsHere_required_iff : ReportsHere declared v "required" sub r x ↔
    ∃ names es j name, sub = .list names ∧ v = .dict es ∧ r = [j] ∧
      names[j]? = some (.string name) ∧ List.lookup name es = none ∧ x = here (.missing name) := Iff.rfl

theorem reportsHere_additionalProperties_iff : ReportsHere declared v "additionalProperties" sub r x ↔
    ∃ es foreign, sub = .bool false ∧ v = .dict es ∧ r = [] ∧ foreign ≠ [] ∧
      foreign.Perm ((es.map Prod.fst).filter fun k => !declared.contains k) ∧
      foreign.Pairwise (· ≤ ·) ∧ x = here (.unexpected foreign) := Iff.rfl

/-- The two keywords that lead on report nothing of the value itself. -/
theorem not_reportsHere_properties : ¬ ReportsHere declared v "properties" sub r x := id

theorem not_reportsHere_reference : ¬ ReportsHere declared v "$ref" sub r x := id

end Single

/-- A keyword reports the violation of the value that its path leads to. -/
def Located (v : Datum) (x : Violation) : Prop :=
  ∃ w declared name sub r, v.at? x.path = some w ∧ ReportsHere declared w name sub r (here x.breach)

theorem ReportsHere.eq_here {declared : List String} {v : Datum} {name : String} {sub : Document}
    {r : List Nat} {x : Violation} (h : ReportsHere declared v name sub r x) : x = here x.breach := by
  unfold ReportsHere at h
  split at h
  · obtain ⟨_, -, -, -, rfl⟩ := h
    rfl
  · obtain ⟨_, _, -, -, -, -, rfl⟩ := h
    rfl
  · obtain ⟨_, -, -, -, rfl⟩ := h
    rfl
  · obtain ⟨_, -, -, -, rfl⟩ := h
    rfl
  · obtain ⟨_, _, _, _, -, -, -, -, -, rfl⟩ := h
    rfl
  · obtain ⟨_, _, -, -, -, -, -, -, rfl⟩ := h
    rfl
  · exact h.elim

/-- **What a contract reports of a value**, with the document that it is part of. -/
inductive Reports (root : Document) : Document → Datum → Reporting
  /-- A keyword reports of the value itself. -/
  | own {d sub : Document} {v : Datum} {i : Nat} {name : String} {r : List Nat} {x : Violation}
      (entry : d.entryAt? i = some (name, sub)) (here : ReportsHere d.declared v name sub r x) :
      Reports root d v (i :: r) x
  /-- The form of a declared field reports of the value of the field. -/
  | field {d sub form : Document} {es : Fields} {w : Datum} {i j : Nat} {name : String} {r : List Nat}
      {x : Violation} (entry : d.entryAt? i = some ("properties", sub))
      (property : sub.entryAt? j = some (name, form)) (value : List.lookup name es = some w)
      (inside : Reports root form w r x) : Reports root d (.dict es) (i :: j :: r) (x.under name)
  /-- A form that is referred to reports of the value. -/
  | reference {d form : Document} {v : Datum} {i : Nat} {name : String} {r : List Nat} {x : Violation}
      (entry : d.entryAt? i = some ("$ref", .string ("#/$defs/" ++ name)))
      (definition : root.shared? name = some form) (there : Reports root form v r x) :
      Reports root d v (i :: r) x

/-- The keywords whose violations show the value, which may hold integers. -/
def showingKeywords : List String := ["type", "minimum", "maximum"]

/-- The violation cannot be told: the value that it shows holds an integer that is too long.  Names can always be
told, and so can a text. -/
def Untold (v : Datum) (x : Violation) : Prop :=
  x.breach.keyword ∈ showingKeywords ∧ ∃ w, v.at? x.path = some w ∧ w.HoldsLong

/-- A violation of a value shows all of it, or nothing that could be too long. -/
theorem ReportsHere.isWritable_eq {declared : List String} {w : Datum} {name : String} {sub : Document}
    {r : List Nat} {x : Violation} (h : ReportsHere declared w name sub r x) :
    (x.breach.keyword ∈ showingKeywords ∧ x.breach.isWritable = w.isWritable) ∨
      (x.breach.keyword ∉ showingKeywords ∧ x.breach.isWritable = true) := by
  unfold ReportsHere at h
  split at h
  · obtain ⟨_, -, -, -, rfl⟩ := h
    exact Or.inl ⟨by simp [here, Breach.keyword, showingKeywords], rfl⟩
  · obtain ⟨_, _, -, rfl, -, -, rfl⟩ := h
    exact Or.inr ⟨by simp [here, Breach.keyword, showingKeywords], rfl⟩
  · obtain ⟨_, -, -, -, rfl⟩ := h
    exact Or.inl ⟨by simp [here, Breach.keyword, showingKeywords], rfl⟩
  · obtain ⟨_, -, -, -, rfl⟩ := h
    exact Or.inl ⟨by simp [here, Breach.keyword, showingKeywords], rfl⟩
  · obtain ⟨_, _, _, _, -, -, -, -, -, rfl⟩ := h
    exact Or.inr ⟨by simp [here, Breach.keyword, showingKeywords], rfl⟩
  · obtain ⟨_, _, -, -, -, -, -, -, rfl⟩ := h
    exact Or.inr ⟨by simp [here, Breach.keyword, showingKeywords], rfl⟩
  · exact h.elim

/-- **Whether a violation can be told** is decided by the value at its path. -/
theorem Located.isWritable_eq_false_iff {v : Datum} {x : Violation} (h : Located v x) :
    x.breach.isWritable = false ↔ Untold v x := by
  obtain ⟨w, declared, name, sub, r, hat, hhere⟩ := h
  have hvalue : (∃ u, v.at? x.path = some u ∧ u.HoldsLong) ↔ w.HoldsLong := by
    rw [hat]
    simp only [Option.some.injEq, exists_eq_left']
  rw [Untold, hvalue]
  rcases hhere.isWritable_eq with ⟨hk, hw⟩ | ⟨hk, hw⟩
  · rw [show x.breach.isWritable = w.isWritable from hw, Datum.isWritable_eq_false_iff]
    exact (and_iff_right hk).symm
  · rw [show x.breach.isWritable = true from hw]
    exact iff_of_false Bool.noConfusion fun h' => hk h'.1

/-- Everything can be told of a value without integers that are too long. -/
theorem not_untold {v : Datum} (h : ¬ v.HoldsLong) (x : Violation) : ¬ Untold v x := by
  rintro ⟨-, w, hat, hw⟩
  exact h (hw.of_at? hat)

/-- **The path of a report leads to the value that it is about.** -/
theorem Reports.located {root d : Document} {v : Datum} {r : List Nat} {x : Violation}
    (h : Reports root d v r x) : Located v x := by
  induction h with
  | @own d sub v i name r x entry hhere =>
    have hx := hhere.eq_here
    exact ⟨v, d.declared, name, sub, r, by rw [hx]; rfl, hx ▸ hhere⟩
  | field entry property value inside ih =>
    obtain ⟨w, declared, name, sub, r, hat, hhere⟩ := ih
    exact ⟨w, declared, name, sub, r, by rw [Violation.under, Datum.at?, value]; exact hat, hhere⟩
  | reference entry definition there ih => exact ih

/-- What a declared field reports of the entries of a value. -/
def FieldReports (root : Document) (es : Fields) (p : String × Document) : Reporting := fun r x =>
  ∃ w, List.lookup p.1 es = some w ∧ ∃ y, Reports root p.2 w r y ∧ x = y.under p.1

/-- What a single keyword reports. -/
def KeywordReports (root : Document) (declared : List String) (v : Datum) (e : String × Document) :
    Reporting := fun r x =>
  ReportsHere declared v e.1 e.2 r x ∨
  (e.1 = "properties" ∧ ∃ es j r' p, v = .dict es ∧ r = j :: r' ∧ e.2.entryAt? j = some p ∧
    FieldReports root es p r' x) ∨
  (e.1 = "$ref" ∧ ∃ name form, e.2 = .string ("#/$defs/" ++ name) ∧ root.shared? name = some form ∧
    Reports root form v r x)

/-- The keywords that report something. -/
def reportingKeywords : List String :=
  ["type", "maxLength", "minimum", "maximum", "required", "additionalProperties", "properties", "$ref"]

variable {root : Document} {declared : List String} {v : Datum}

/-- Any other keyword only describes. -/
theorem silent_of_not_mem {e : String × Document} (h : e.1 ∉ reportingKeywords) (r : List Nat)
    (x : Violation) : ¬ KeywordReports root declared v e r x := by
  rintro (h' | ⟨h', -⟩ | ⟨h', -⟩)
  · unfold ReportsHere at h'
    split at h' <;> simp_all [reportingKeywords]
  · simp [h', reportingKeywords] at h
  · simp [h', reportingKeywords] at h

/-- **A contract reports what its keywords report**, each at its own place. -/
theorem reports_fields_iff {es : List (String × Document)} {r : List Nat} {x : Violation} :
    Reports root (.fields es) v r x ↔
      Parts (KeywordReports root (Document.fields es).declared v) 0 es r x := by
  constructor
  · intro h
    cases h with
    | own entry here =>
      rw [Document.entryAt?_fields] at entry
      exact ⟨_, _, _, by rw [Nat.zero_add], entry, Or.inl here⟩
    | field entry property value inside =>
      rw [Document.entryAt?_fields] at entry
      exact ⟨_, _, _, by rw [Nat.zero_add], entry,
        Or.inr (Or.inl ⟨rfl, _, _, _, _, rfl, rfl, property, _, value, _, inside, rfl⟩)⟩
    | reference entry definition there =>
      rw [Document.entryAt?_fields] at entry
      exact ⟨_, _, _, by rw [Nat.zero_add], entry,
        Or.inr (Or.inr ⟨rfl, _, _, rfl, definition, there⟩)⟩
  · rintro ⟨i, r', ⟨name, sub⟩, rfl, he, h⟩
    rw [Nat.zero_add]
    rw [← Document.entryAt?_fields] at he
    rcases h with h | ⟨rfl, fs, j, r'', p, rfl, rfl, hp, w, hw, y, hy, rfl⟩ |
      ⟨rfl, n, form, rfl, hn, hr⟩
    · exact .own he h
    · exact .field he hp hw hy
    · exact .reference he hn hr

/-- Two keywords lead on; any other one reports of the value itself. -/
theorem keywordReports_iff_here {name : String} {sub : Document} (hp : name ≠ "properties")
    (hr : name ≠ "$ref") {r : List Nat} {x : Violation} :
    KeywordReports root declared v (name, sub) r x ↔ ReportsHere declared v name sub r x := by
  simp [KeywordReports, hp, hr]

/-- A document means a form if it reports the violations of the form, in this order, of every value. -/
def Means (root d : Document) (form : Schema) : Prop := ∀ v, Lists (Reports root d v) (form.violations v)

/-- The keywords of a record report the violations of a form one after the other. -/
def KeywordsMean (root : Document) (es : List (String × Document)) (form : Schema) : Prop :=
  ∀ v, InTurn (KeywordReports root (Document.fields es).declared v) es (form.violations v)

end Contract

end Holdings
