/-
# The keywords of a form

Each kind of form is written down in keywords of its own (`Schema.keywords`), and each of these keywords has a
list of reports that the violations of the form are put together from: the wrong kind of value, then the
missing names one by one, then the foreign names all at once, then what is found in the fields.  A keyword
that asks something of another kind of value has nothing to report, so after a wrong kind nothing follows
but bounds.

The keywords stand in the order in which the violations are collected.  So going through them in turn
gives the violations (`Schema.keywordsMean`), with descriptions before and behind them if there are any
(`KeywordsMean.means`).  The induction is on the form.
-/
import Holdings.Proofs.Contract.Meaning

namespace Holdings.Contract

variable {root : Document} {declared : List String} {v : Datum}

/-! ## 1. Single keywords -/

theorem lists_type_of_hasKind {kind : String} (h : HasKind v kind) :
    Lists (KeywordReports root declared v ("type", .string kind)) [] := by
  refine Lists.none fun r x hr => ?_
  rw [keywordReports_iff_here (by decide) (by decide)] at hr
  obtain ⟨kind', hk, -, hnot, -⟩ := hr
  exact hnot (Document.string_inj.mp hk ▸ h)

theorem lists_type_of_not_hasKind {kind : String} (h : ¬ HasKind v kind) :
    Lists (KeywordReports root declared v ("type", .string kind)) [here (.wrongType v.shown kind)] := by
  refine Lists.one fun r x => ?_
  rw [keywordReports_iff_here (by decide) (by decide)]
  constructor
  · rintro ⟨kind', hk, rfl, -, rfl⟩
    exact ⟨rfl, by rw [Document.string_inj.mp hk]⟩
  · rintro ⟨rfl, rfl⟩
    exact ⟨kind, rfl, rfl, h, rfl⟩

/-- A length is asked of a text. -/
theorem lists_maxLength_text {n : Nat} {s : String} :
    Lists (KeywordReports root declared (.text s) ("maxLength", .int n))
      (if n < s.toList.length then [here (.tooLong (Datum.shown (.text s)))] else []) := by
  refine Lists.oneIf fun r x => ?_
  rw [keywordReports_iff_here (by decide) (by decide), reportsHere_maxLength_iff]
  simp

theorem lists_maxLength_of_not_text {n : Nat} (h : ∀ s, v ≠ .text s) :
    Lists (KeywordReports root declared v ("maxLength", .int n)) [] := by
  refine Lists.none fun r x hr => ?_
  rw [keywordReports_iff_here (by decide) (by decide)] at hr
  obtain ⟨_, s, -, hv, -⟩ := hr
  exact h s hv

/-- A bound that is given is asked of a number. -/
theorem inTurn_minimum (bound : Option Int) :
    InTurn (KeywordReports root declared v) (boundEntry "minimum" bound) (lowViolations v bound) := by
  cases bound with
  | none => exact .nil
  | some n =>
    refine .only (Lists.oneIf fun r x => ?_) .nil
    rw [keywordReports_iff_here (by decide) (by decide), isBelow_iff, reportsHere_minimum_iff]
    simp

theorem inTurn_maximum (bound : Option Int) :
    InTurn (KeywordReports root declared v) (boundEntry "maximum" bound) (highViolations v bound) := by
  cases bound with
  | none => exact .nil
  | some n =>
    refine .only (Lists.oneIf fun r x => ?_) .nil
    rw [keywordReports_iff_here (by decide) (by decide), isAbove_iff, reportsHere_maximum_iff]
    simp

/-- The keywords about dictionaries ask nothing of other values. -/
theorem lists_of_not_dict {name : String} {sub : Document}
    (hn : name ∈ ["required", "additionalProperties", "properties"]) (hv : ∀ es, v ≠ .dict es) :
    Lists (KeywordReports root declared v (name, sub)) [] := by
  refine Lists.none fun r x hr => ?_
  simp only [List.mem_cons, List.not_mem_nil, or_false] at hn
  rcases hn with rfl | rfl | rfl
  · rw [keywordReports_iff_here (by decide) (by decide)] at hr
    obtain ⟨_, es, _, _, -, hes, -⟩ := hr
    exact hv es hes
  · rw [keywordReports_iff_here (by decide) (by decide)] at hr
    obtain ⟨es, _, -, hes, -⟩ := hr
    exact hv es hes
  · rcases hr with hhere | ⟨-, es, _, _, _, hes, -⟩ | ⟨hname, -⟩
    · exact not_reportsHere_properties hhere
    · exact hv es hes
    · simp at hname

/-- The names that are missing, each one at its own place. -/
theorem lists_required {names : List String} {es : Fields} :
    Lists (KeywordReports root declared (.dict es) ("required", .list (names.map .string)))
      (missingViolations names es) := by
  have hturn : InTurn (fun name r x => r = [] ∧ List.lookup name es = none ∧ x = here (.missing name))
      names (missingViolations names es) := by
    induction names with
    | nil => exact .nil
    | cons name names ih =>
      have hfirst : missingViolations (name :: names) es =
          (if List.lookup name es = none then [here (.missing name)] else []) ++
            missingViolations names es := by
        unfold missingViolations
        rw [List.filter_cons]
        cases List.lookup name es <;> simp
      rw [hfirst]
      exact .cons (Lists.oneIf fun r x => Iff.rfl) ih
  refine (hturn.lists 0).congr fun r x => ?_
  rw [keywordReports_iff_here (by decide) (by decide), reportsHere_required_iff]
  constructor
  · rintro ⟨j, r', name, rfl, hn, rfl, hl, rfl⟩
    refine ⟨_, _, j, name, rfl, rfl, by rw [Nat.zero_add], ?_, hl, rfl⟩
    rw [List.getElem?_map, hn]
    rfl
  · rintro ⟨ns, es', j, name, hns, hes, rfl, hn, hl, rfl⟩
    cases hns
    cases hes
    rw [List.getElem?_map] at hn
    obtain ⟨name', hn', hs⟩ := Option.map_eq_some_iff.mp hn
    rw [Document.string_inj] at hs
    exact ⟨j, [], name, by rw [Nat.zero_add], hs ▸ hn', rfl, hl, rfl⟩

/-- The names in their order are the only such row of them. -/
theorem eq_sortNames_iff {names sorted : List String} :
    sorted = sortNames names ↔ sorted.Perm names ∧ sorted.Pairwise (· ≤ ·) := by
  have hle : ∀ a b : String, (!decide (b < a)) = true ↔ a ≤ b := by
    intro a b
    rw [Bool.not_eq_true', decide_eq_false_iff_not, String.not_lt]
  have hsorted : (sortNames names).Pairwise (· ≤ ·) := by
    have hpair : (sortNames names).Pairwise fun a b => (!decide (b < a)) = true :=
      List.pairwise_mergeSort (fun a b c hab hbc => (hle a c).mpr (String.le_trans ((hle a b).mp hab)
          ((hle b c).mp hbc)))
        (fun a b => by
          rw [Bool.or_eq_true, hle, hle]
          exact String.le_total a b) names
    exact hpair.imp fun h => (hle _ _).mp h
  constructor
  · rintro rfl
    exact ⟨List.mergeSort_perm _ _, hsorted⟩
  · rintro ⟨hperm, hpair⟩
    exact (hperm.trans (List.mergeSort_perm _ _).symm).eq_of_pairwise
      (fun a b _ _ => String.le_antisymm) hpair hsorted

/-- The foreign names, all of them at once and in their order. -/
theorem lists_additionalProperties {es : Fields} :
    Lists (KeywordReports root declared (.dict es) ("additionalProperties", .bool false))
      (foreignViolations declared es) := by
  have hforeign : foreignViolations declared es =
      if (es.map Prod.fst).filter (fun k => !declared.contains k) ≠ [] then
        [here (.unexpected (sortNames ((es.map Prod.fst).filter fun k => !declared.contains k)))]
      else [] := by
    unfold foreignViolations
    split <;> rename_i h
    · rw [if_neg (not_not.mpr h)]
    · rw [h, if_pos (List.cons_ne_nil _ _)]
  rw [hforeign]
  refine Lists.oneIf fun r x => ?_
  rw [keywordReports_iff_here (by decide) (by decide), reportsHere_additionalProperties_iff]
  constructor
  · rintro ⟨es', foreign, -, hes, rfl, hne, hperm, hpair, rfl⟩
    cases hes
    refine ⟨rfl, fun hnil => ?_, by rw [eq_sortNames_iff.mpr ⟨hperm, hpair⟩]⟩
    rw [hnil, List.perm_nil] at hperm
    exact hne hperm
  · rintro ⟨rfl, hne, rfl⟩
    obtain ⟨hperm, hpair⟩ := eq_sortNames_iff.mp rfl
    refine ⟨es, _, rfl, rfl, rfl, fun hnil => ?_, hperm, hpair, rfl⟩
    rw [hnil] at hperm
    exact hne (List.nil_perm.mp hperm)

/-- The fields of a contract mean the fields of a form, name by name. -/
abbrev FieldsMean (root : Document) (props : List (String × Document))
    (forms : List (String × Schema)) : Prop :=
  List.Forall₂ (fun p f => p.1 = f.1 ∧ Means root p.2 f.2) props forms

/-- The violations inside the fields, field by field. -/
theorem lists_properties {props : List (String × Document)} {forms : List (String × Schema)}
    (h : FieldsMean root props forms) {es : Fields} :
    Lists (KeywordReports root declared (.dict es) ("properties", .fields props))
      (Schema.fieldViolations forms es) := by
  have hturn : InTurn (FieldReports root es) props (Schema.fieldViolations forms es) := by
    induction h with
    | nil => exact .nil
    | @cons p f props forms hpf hrest ih =>
      obtain ⟨name, form⟩ := f
      obtain ⟨rfl, hmeans⟩ := hpf
      rw [Schema.fieldViolations]
      refine .cons ?_ ih
      cases hl : List.lookup p.1 es with
      | none =>
        refine Lists.none ?_
        rintro r x ⟨w, hw, -⟩
        rw [hl] at hw
        cases hw
      | some w =>
        refine ((hmeans w).map _).congr fun r x => ?_
        simp [FieldReports, hl]
  refine (hturn.lists 0).congr fun r x => ?_
  constructor
  · rintro ⟨j, r', p, rfl, hp, hf⟩
    refine Or.inr (Or.inl ⟨rfl, es, j, r', p, rfl, by rw [Nat.zero_add], ?_, hf⟩)
    rw [Document.entryAt?_fields]
    exact hp
  · rintro (h' | ⟨-, es', j, r', p, hes, rfl, hp, hf⟩ | ⟨h', -⟩)
    · exact absurd h' not_reportsHere_properties
    · cases hes
      rw [Document.entryAt?_fields] at hp
      exact ⟨j, r', p, by rw [Nat.zero_add], hp, hf⟩
    · simp at h'

/-- A reference reports what the form reports that is referred to. -/
theorem lists_reference {name : String} {d : Document} {form : Schema}
    (hd : root.shared? name = some d) (h : Means root d form) :
    Lists (KeywordReports root declared v ("$ref", .string ("#/$defs/" ++ name)))
      (form.violations v) := by
  refine (h v).congr fun r x => ?_
  constructor
  · intro hr
    exact Or.inr (Or.inr ⟨rfl, name, d, rfl, hd, hr⟩)
  · rintro (h' | ⟨h', -⟩ | ⟨-, name', d', hs, hd', hr⟩)
    · exact absurd h' not_reportsHere_reference
    · simp at h'
    · rw [Document.string_inj, String.append_right_inj] at hs
      rw [← hs, hd, Option.some.injEq] at hd'
      exact hd' ▸ hr

/-! ## 2. Records of keywords -/

/-- Entries that only describe. -/
def Describes (es : List (String × Document)) : Prop := ∀ e ∈ es, e.1 ∉ reportingKeywords

theorem Describes.lookup {es : List (String × Document)} (h : Describes es) {name : String}
    (hn : name ∈ reportingKeywords) : es.lookup name = none := by
  rw [List.lookup_eq_none_iff]
  intro e he
  have hne : name ≠ e.1 := fun heq => h e he (heq ▸ hn)
  simpa using hne

theorem describes_nil : Describes [] := fun _ he => absurd he List.not_mem_nil

/-- **A record of keywords means what its keywords mean**, with any description around them. -/
theorem KeywordsMean.means {front es back : List (String × Document)} {form : Schema}
    (h : KeywordsMean root es form) (hfront : Describes front) (hback : Describes back) :
    Means root (.fields (front ++ es ++ back)) form := by
  have hdeclared : (Document.fields (front ++ es ++ back)).declared = (Document.fields es).declared := by
    have hmem : "properties" ∈ reportingKeywords := by decide
    unfold Document.declared
    rw [Document.member?_fields, Document.member?_fields, List.lookup_append, List.lookup_append,
      hfront.lookup hmem, hback.lookup hmem, Option.none_or, Option.or_none]
  have hsilent : ∀ {part : List (String × Document)} {declared : List String} {v : Datum},
      Describes part → InTurn (KeywordReports root declared v) part [] := fun hpart =>
    .silent fun e he => silent_of_not_mem (hpart e he)
  intro v
  have hturn := ((hsilent hfront).append (h v)).append (hsilent hback)
  rw [List.nil_append, List.append_nil] at hturn
  refine (hturn.lists 0).congr fun r x => ?_
  rw [reports_fields_iff, hdeclared]

theorem keywordsMean_text (n : Nat) : KeywordsMean root (Schema.text n).keywords (.text n) := by
  intro v
  rw [Schema.keywords]
  cases v with
  | text s =>
    exact .skip (lists_type_of_hasKind (hasKind_string_iff.mpr ⟨s, rfl⟩)) (.only lists_maxLength_text .nil)
  | _ =>
    refine .only (lists_type_of_not_hasKind ?_) (.skip (lists_maxLength_of_not_text ?_) .nil) <;>
      simp [hasKind_string_iff]

theorem keywordsMean_integer (lowest highest : Option Int) :
    KeywordsMean root (Schema.integer lowest highest).keywords (.integer lowest highest) := by
  intro v
  rw [Schema.keywords, Schema.violations]
  refine .append (.cons ?_ (inTurn_minimum lowest)) (inTurn_maximum highest)
  have hkind : HasKind v "integer" ↔ isInteger v = true := hasKind_integer_iff.trans isInteger_iff.symm
  split <;> rename_i h
  · exact lists_type_of_hasKind (hkind.mpr h)
  · exact lists_type_of_not_hasKind fun hk => h (hkind.mp hk)

/-- **The keywords of a record of fields** mean the record of the forms of the fields. -/
theorem keywordsMean_record {props : List (String × Document)} {forms : List (String × Schema)}
    (h : FieldsMean root props forms) :
    KeywordsMean root (recordKeywords (forms.map Prod.fst) props) (.record forms) := by
  have hdeclared : (Document.fields (recordKeywords (forms.map Prod.fst) props)).declared =
      forms.map Prod.fst := by
    have hnames : props.map Prod.fst = forms.map Prod.fst := by
      induction h with
      | nil => rfl
      | cons hpf _ ih => rw [List.map_cons, List.map_cons, hpf.1, ih]
    unfold Document.declared
    rw [Document.member?_fields, ← hnames, ← Document.names_fields]
    rfl
  intro v
  rw [hdeclared]
  cases v with
  | dict es =>
    rw [Schema.violations, List.append_assoc]
    exact .skip (lists_type_of_hasKind (hasKind_object_iff.mpr ⟨es, rfl⟩)) (.cons lists_required
      (.cons lists_additionalProperties (.only (lists_properties h) .nil)))
  -- nothing but the kind is asked of what is no dictionary
  | _ =>
    refine .only (lists_type_of_not_hasKind ?_) (.skip (lists_of_not_dict (by simp) ?_)
      (.skip (lists_of_not_dict (by simp) ?_) (.skip (lists_of_not_dict (by simp) ?_) .nil))) <;>
      simp [hasKind_object_iff]

/-- A record of keywords without a description around them. -/
theorem KeywordsMean.means_bare {es : List (String × Document)} {form : Schema}
    (h : KeywordsMean root es form) : Means root (.fields es) form := by
  have hmeans := h.means describes_nil describes_nil
  rwa [List.nil_append, List.append_nil] at hmeans

mutual

/-- **The keywords of a form mean the form**, in any document. -/
theorem Schema.keywordsMean : ∀ form : Schema, KeywordsMean root form.keywords form
  | .text n => keywordsMean_text n
  | .integer lowest highest => keywordsMean_integer lowest highest
  | .record fields => by
    rw [Schema.keywords]
    exact keywordsMean_record (Schema.fieldEntries_mean fields)

theorem Schema.fieldEntries_mean : ∀ forms, FieldsMean root (Schema.fieldEntries forms) forms
  | [] => by
    rw [Schema.fieldEntries]
    exact .nil
  | (name, form) :: rest => by
    rw [Schema.fieldEntries]
    exact .cons ⟨rfl, (Schema.keywordsMean form).means_bare⟩ (Schema.fieldEntries_mean rest)

end

end Holdings.Contract
