/-
# The published contracts

The two published documents are taken apart here, and what they ask of a value is said in full: which
dictionaries, with which fields, and which numbers and texts in them (`Quantity.Described`,
`Holding.Described`).  A document that means a form (`Means`) reports its violations, so the three ways to
use a contract agree: to list the violations, to ask whether there is any, and to stop at the first (`Tells`).
Where a violation cannot be told, they fail as soon as they come to it.

The documents differ in how they are written.  The one for quantities refers to the form of a symbol, the
one for holdings spells out everything, and both put descriptions around their keywords.
-/
import Holdings.Proofs.Contract.Keywords
import Holdings.Proofs.Record.Forms

namespace Holdings

open Contract

/-! ## 1. What the contracts ask -/

namespace Datum

/-- A text of at most so many characters. -/
def IsTextUpTo (n : Nat) (v : Datum) : Prop := ∃ s, v = .text s ∧ s.toList.length ≤ n

/-- A number whose exact value is an integer. -/
def IsInteger (v : Datum) : Prop := ∃ n : Int, v.place? = some (.place n)

/-- A number whose exact value is an integer from a range. -/
def IsIntegerIn (low high : Int) (v : Datum) : Prop :=
  ∃ n : Int, v.place? = some (.place n) ∧ low ≤ n ∧ n ≤ high

/-- Descriptions of the same fields that say the same of each describe the same records. -/
theorem isRecord_congr {v : Datum} {fs gs : List (String × (Datum → Prop))}
    (h : List.Forall₂ (fun f g => f.1 = g.1 ∧ ∀ x, f.2 x ↔ g.2 x) fs gs) :
    v.IsRecord fs ↔ v.IsRecord gs := by
  have heq : fs = gs := by
    induction h with
    | nil => rfl
    | @cons f g fs gs hfg _ ih =>
      have hfirst : f = g := Prod.ext hfg.1 (funext fun x => propext (hfg.2 x))
      rw [hfirst, ih]
  rw [heq]

end Datum

/-- A record of a short code and a byte. -/
def Symbol.Described (v : Datum) : Prop :=
  v.IsRecord [("code", Datum.IsTextUpTo 7), ("precision", Datum.IsIntegerIn 0 255)]

/-- A record of an integer and a symbol. -/
def Quantity.Described (v : Datum) : Prop :=
  v.IsRecord [("amount", Datum.IsInteger), ("symbol", Symbol.Described)]

/-- A record of a word of sixty-four bits. -/
def Identity.Described (v : Datum) : Prop :=
  v.IsRecord [("value", Datum.IsIntegerIn 0 (2 ^ 64 - 1))]

/-- A record of a quantity and its owner. -/
def Holding.Described (v : Datum) : Prop :=
  v.IsRecord [("quantity", Quantity.Described), ("owner", Identity.Described)]

namespace Contract

variable {v : Datum}

/-- **An integer with bounds**, all compared by exact value. -/
theorem Schema.bounded_violations_eq_nil_iff {low high : Int} :
    (Schema.integer (some low) (some high)).violations v = [] ↔ v.IsIntegerIn low high := by
  have hlow : lowViolations v (some low) = [] ↔ ¬ ∃ r, v.place? = some r ∧ r < .place low := by
    rw [← isBelow_iff, lowViolations]
    cases isBelow low v <;> simp
  have hhigh : highViolations v (some high) = [] ↔ ¬ ∃ r, v.place? = some r ∧ .place high < r := by
    rw [← isAbove_iff, highViolations]
    cases isAbove high v <;> simp
  -- a number that stands at an integer is on no other side of a bound than this integer
  have hsides : ∀ n : Int, v.place? = some (.place n) →
      ((¬ ∃ r, v.place? = some r ∧ r < .place low) ↔ low ≤ n) ∧
      ((¬ ∃ r, v.place? = some r ∧ .place high < r) ↔ n ≤ high) := by
    intro n hn
    simp [hn, Line.place_lt_place]
  rw [Schema.integer_violations_eq_nil_iff, isInteger_iff, hlow, hhigh]
  constructor
  · rintro ⟨⟨n, hn⟩, hl, hh⟩
    exact ⟨n, hn, (hsides n hn).1.mp hl, (hsides n hn).2.mp hh⟩
  · rintro ⟨n, hn, hl, hh⟩
    exact ⟨⟨n, hn⟩, (hsides n hn).1.mpr hl, (hsides n hn).2.mpr hh⟩

/-- A number that is too long breaks nothing but its upper bound. -/
theorem Schema.bounded_violations_of_isLong {n high : Int} (hn : 0 ≤ n) (h : Text.IsLong n)
    (hhigh : high < 2 ^ 128) : (Schema.integer (some 0) (some high)).violations (.int n) =
      [here (.above (Datum.shown (.int n)) high)] := by
  have habove : high < n := Text.lt_of_isLong hn h hhigh
  have hlow : ¬ n < 0 := by omega
  simp [Schema.violations, lowViolations, highViolations, isInteger, isBelow, isAbove, habove, hlow]

theorem symbolForm_accepts_iff : symbolForm.violations v = [] ↔ Symbol.Described v :=
  Schema.record_violations_eq_nil_iff.trans (Datum.isRecord_congr
    (.cons ⟨rfl, fun _ => Schema.text_violations_eq_nil_iff⟩
      (.cons ⟨rfl, fun _ => Schema.bounded_violations_eq_nil_iff⟩ .nil)))

/-- **The contract for quantities accepts what it describes.** -/
theorem quantityForm_accepts_iff : quantityForm.violations v = [] ↔ Quantity.Described v :=
  Schema.record_violations_eq_nil_iff.trans (Datum.isRecord_congr
    (.cons ⟨rfl, fun _ => Schema.unbounded_violations_eq_nil_iff.trans isInteger_iff⟩
      (.cons ⟨rfl, fun _ => symbolForm_accepts_iff⟩ .nil)))

/-- The form of an owner. -/
def ownerForm : Schema := .record [("value", wordForm)]

/-- The form of a holding is made of the form of a quantity and that of its owner. -/
theorem holdingForm_eq : holdingForm = .record [("quantity", quantityForm), ("owner", ownerForm)] := rfl

theorem ownerForm_accepts_iff : ownerForm.violations v = [] ↔ Identity.Described v :=
  Schema.record_violations_eq_nil_iff.trans (Datum.isRecord_congr
    (.cons ⟨rfl, fun _ => Schema.bounded_violations_eq_nil_iff⟩ .nil))

/-- **The contract for holdings accepts what it describes.** -/
theorem holdingForm_accepts_iff : holdingForm.violations v = [] ↔ Holding.Described v := by
  rw [holdingForm_eq]
  exact Schema.record_violations_eq_nil_iff.trans (Datum.isRecord_congr
    (.cons ⟨rfl, fun _ => quantityForm_accepts_iff⟩
      (.cons ⟨rfl, fun _ => ownerForm_accepts_iff⟩ .nil)))

/-! ## 2. The published contracts -/

/-- The violations that a document reports of a value, each once, in the order of the file. -/
def ReportedBy (d : Document) (v : Datum) (xs : List Violation) : Prop := Lists (Reports d d v) xs

/-- What a document means is what it reports. -/
theorem Means.reportedBy_iff {d : Document} {form : Schema} (h : Means d d form) {xs : List Violation} :
    ReportedBy d v xs ↔ xs = form.violations v := by
  constructor
  · intro hx
    exact hx.unique (h v)
  · rintro rfl
    exact h v

theorem describes_heading (title description : String) : Describes (heading title description) := by
  intro e he
  simp only [heading, List.mem_cons, List.not_mem_nil, or_false] at he
  rcases he with rfl | rfl | rfl | rfl <;> simp [reportingKeywords]

theorem describes_single {name : String} {sub : Document} (h : name ∉ reportingKeywords) :
    Describes [(name, sub)] := by
  intro e he
  rw [List.mem_singleton] at he
  rw [he]
  exact h

/-- **The contract for quantities**, with a symbol that is referred to. -/
theorem quantityDocument_means : Means quantityDocument quantityDocument quantityForm := by
  have hshared : quantityDocument.shared? "symbol" = some (.fields symbolForm.keywords) := by
    unfold Document.shared? quantityDocument
    rw [Document.member?_fields]
    rfl
  have hsymbol : Means quantityDocument (.fields [("$ref", .string "#/$defs/symbol")]) symbolForm := by
    have hturn : KeywordsMean quantityDocument [("$ref", .string ("#/$defs/" ++ "symbol"))] symbolForm :=
      fun v => .only (lists_reference hshared (Schema.keywordsMean symbolForm).means_bare) .nil
    exact hturn.means_bare
  have hamount : Means quantityDocument (.fields ((Schema.integer none none).keywords ++
      [("description", .string "Amount scaled by 10^precision")])) (.integer none none) :=
    (keywordsMean_integer none none).means describes_nil (describes_single (by simp [reportingKeywords]))
  have hfields : FieldsMean quantityDocument [
      ("amount", .fields ((Schema.integer none none).keywords ++
        [("description", .string "Amount scaled by 10^precision")])),
      ("symbol", .fields [("$ref", .string "#/$defs/symbol")])]
      [("amount", .integer none none), ("symbol", symbolForm)] :=
    .cons ⟨rfl, hamount⟩ (.cons ⟨rfl, hsymbol⟩ .nil)
  exact (keywordsMean_record hfields).means (describes_heading _ _)
    (describes_single (by simp [reportingKeywords]))

/-- **The contract for holdings**, which spells everything out. -/
theorem holdingDocument_means : Means holdingDocument holdingDocument holdingForm := by
  have hmeans : Means holdingDocument (.fields (heading "owned_quantity"
      "JSON form of an OwnedQuantity: a quantity and the identity of its owner." ++
        holdingForm.keywords ++ [])) holdingForm :=
    (Schema.keywordsMean holdingForm).means (describes_heading _ _) describes_nil
  rwa [List.append_nil] at hmeans

/-! ## 3. Telling violations -/

/-- Each violation of a form that a document means is one of the value that its path leads to. -/
theorem Means.located {d : Document} {form : Schema} (h : Means d d form) {x : Violation}
    (hx : x ∈ form.violations v) : Located v x := by
  obtain ⟨placed, hsnd, -, hmem⟩ := h v
  rw [← hsnd] at hx
  obtain ⟨p, hp, rfl⟩ := List.mem_map.mp hx
  exact ((hmem p.1 p.2).mp hp).located

theorem Located.tell_of_told {x : Violation} (h : Located v x) (ht : ¬ Untold v x) : x.tell = .ok x := by
  refine Violation.tell_of_isWritable (Bool.eq_true_of_not_eq_false fun hw => ?_)
  exact ht (h.isWritable_eq_false_iff.mp hw)

theorem Located.tell_of_untold {x : Violation} (h : Located v x) (hu : Untold v x) :
    x.tell = .error (.refused .longNumber) :=
  Violation.tell_of_not_isWritable (h.isWritable_eq_false_iff.mpr hu)

/-- Violations that can all be told are told one after the other. -/
theorem tellAll_of_told {xs : List Violation} (h : ∀ x ∈ xs, x.tell = .ok x) :
    xs.mapM Violation.tell = .ok xs := by
  induction xs with
  | nil => rfl
  | cons x xs ih =>
    rw [List.mapM_cons, h x List.mem_cons_self, ih fun y hy => h y (List.mem_cons_of_mem x hy)]
    rfl

/-- One that cannot be told ends the telling. -/
theorem tellAll_of_untold {xs : List Violation} (hall : ∀ x ∈ xs, Located v x)
    (h : ∃ x ∈ xs, Untold v x) : xs.mapM Violation.tell = .error (.refused .longNumber) := by
  induction xs with
  | nil =>
    obtain ⟨x, hx, -⟩ := h
    exact absurd hx List.not_mem_nil
  | cons x xs ih =>
    have hx := hall x List.mem_cons_self
    rw [List.mapM_cons]
    by_cases hu : Untold v x
    · rw [hx.tell_of_untold hu]
      rfl
    · obtain ⟨y, hy, huy⟩ := h
      have hrest : y ∈ xs := (List.mem_cons.mp hy).resolve_left fun he => hu (he ▸ huy)
      rw [hx.tell_of_told hu, ih (fun z hz => hall z (List.mem_cons_of_mem x hz)) ⟨y, hrest, huy⟩]
      rfl

/-! ## 4. Lists of violations -/

/-- **Telling the violations of a value**, all of them or only the first. -/
structure Tells (form : Schema) (v : Datum) : Prop where
  /-- All of them are listed if each of them can be told. -/
  listed : (∀ x ∈ form.violations v, ¬ Untold v x) → form.report v = .ok (form.violations v)
  /-- One that cannot be told fails, and there is no list. -/
  unlisted : (∃ x ∈ form.violations v, Untold v x) → form.report v = .error (.refused .longNumber)
  /-- A value without violations passes the check. -/
  passed : form.violations v = [] → form.check v = .ok () ∧ form.isValid v = .ok true
  /-- The check fails with the first violation. -/
  first : ∀ x rest, form.violations v = x :: rest → ¬ Untold v x →
    form.check v = .error (.contract x) ∧ form.isValid v = .ok false
  /-- If that one cannot be told, the check fails for want of its text, and nothing is told of the others. -/
  silent : ∀ x rest, form.violations v = x :: rest → Untold v x →
    form.check v = .error (.refused .longNumber) ∧ form.isValid v = .error (.refused .longNumber)

theorem Means.tells {d : Document} {form : Schema} (h : Means d d form) : Tells form v where
  listed := fun htold => tellAll_of_told fun x hx => (h.located hx).tell_of_told (htold x hx)
  unlisted := tellAll_of_untold fun _ => h.located
  passed := by
    intro hnil
    unfold Schema.check Schema.isValid
    rw [hnil]
    exact ⟨rfl, rfl⟩
  first := by
    intro x rest hx ht
    have htell := (h.located (hx ▸ List.mem_cons_self)).tell_of_told ht
    unfold Schema.check Schema.isValid
    rw [hx]
    dsimp only
    rw [htell]
    exact ⟨rfl, rfl⟩
  silent := by
    intro x rest hx hu
    have htell := (h.located (hx ▸ List.mem_cons_self)).tell_of_untold hu
    unfold Schema.check Schema.isValid
    rw [hx]
    dsimp only
    rw [htell]
    exact ⟨rfl, rfl⟩

/-- A form and the document that is published for it, seen from one value: what the form accepts, which violations
it has, and what is told of them. -/
structure Faithful (d : Document) (form : Schema) (Described : Datum → Prop) (v : Datum) : Prop where
  /-- There is no violation exactly when the value is as described. -/
  accepted : form.violations v = [] ↔ Described v
  /-- The violations are the only list that has each report of the document once and in the order of the file. -/
  reported : ∀ xs, ReportedBy d v xs ↔ xs = form.violations v
  /-- Each violation is one of the value that its path leads to. -/
  located : ∀ x ∈ form.violations v, Located v x
  /-- A value without integers that are too long has no violation that cannot be told. -/
  told : ¬ v.HoldsLong → ∀ x ∈ form.violations v, ¬ Untold v x
  /-- They are told together or only the first of them, if they can be told. -/
  tells : Tells form v
  /-- The check fails exactly when there is a violation. -/
  raises : (∃ e, form.check v = .error e) ↔ form.violations v ≠ []
  /-- The question whether a value is accepted has the same answer. -/
  accepts : form.accepts v = true ↔ form.violations v = []

theorem Means.faithful {d : Document} {form : Schema} {Described : Datum → Prop} (h : Means d d form)
    (hd : form.violations v = [] ↔ Described v) : Faithful d form Described v where
  accepted := hd
  reported := fun _ => h.reportedBy_iff
  located := fun _ => h.located
  told := fun hshort x _ => not_untold hshort x
  tells := h.tells
  raises := by
    rw [Ne, ← Schema.check_eq_ok_iff]
    cases form.check v <;> simp
  accepts := by
    unfold Schema.accepts
    exact List.isEmpty_iff

/-- **The published contracts accept exactly what they describe, and report everything else.**  For any
value, the violations are the reports of the document, each of them once, in the order of the file, and at the value
that its path leads to.  They are listed if all of them can be told; the check fails with the first one, and only if
there is one.  A violation that shows an integer that is too long cannot be told: then there is no list, and
if it is the first one the check fails for that. -/
theorem contracts_report_every_violation (v : Datum) :
    Faithful quantityDocument quantityForm Quantity.Described v ∧
    Faithful holdingDocument holdingForm Holding.Described v :=
  ⟨quantityDocument_means.faithful quantityForm_accepts_iff,
    holdingDocument_means.faithful holdingForm_accepts_iff⟩

/-- What is reported of a quantity without an amount, whose symbol is wrong in three ways. -/
theorem contracts_report_three_faults_of_symbol :
    ReportedBy quantityDocument
      (.dict [("symbol", .dict [("precision", .int 256), ("scale", .null)])]) [
        ⟨[], .missing "amount"⟩, ⟨["symbol"], .missing "code"⟩,
        ⟨["symbol"], .unexpected ["scale"]⟩, ⟨["symbol", "precision"], .above ⟨"256", true⟩ 255⟩] ∧
    Holding.Described Holding.empty.toValue := by
  refine ⟨((contracts_report_every_violation _).1.reported _).mpr ?_, ?_⟩
  · decide +kernel
  · exact (contracts_report_every_violation _).2.accepted.mp (by decide +kernel)

/-- **Not every violation is told**: an integer of one digit too many is no quantity, but neither the list of its
violations nor the check can say so. -/
theorem untold_violation_of_integer :
    quantityForm.report (.int (10 ^ 4300)) = .error (.refused .longNumber) ∧
    ¬ ∀ v x rest, quantityForm.violations v = x :: rest →
      quantityForm.report v = .ok (quantityForm.violations v) ∧
        quantityForm.check v = .error (.contract x) := by
  have hviolations : quantityForm.violations (.int (10 ^ 4300)) =
      [here (.wrongType (Datum.shown (.int (10 ^ 4300))) "object")] := rfl
  have huntold : Untold (.int (10 ^ 4300))
      (here (.wrongType (Datum.shown (.int (10 ^ 4300))) "object")) :=
    ⟨List.mem_cons_self, _, rfl, _, .int _, Text.isLong_of_natAbs_eq (Text.natAbs_ten_pow 4300)⟩
  have hlist := quantityDocument_means.tells.unlisted
    ⟨_, hviolations ▸ List.mem_singleton_self _, huntold⟩
  refine ⟨hlist, fun h => ?_⟩
  have hall := (h _ _ _ hviolations).1
  rw [hlist] at hall
  cases hall

end Contract

end Holdings
