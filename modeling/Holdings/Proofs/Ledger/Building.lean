/-
# Building only adds

Every act of `Ledger/Construction.lean` only adds objects, and what it adds is sound: a quantity has
passed its check or was copied, and a holding gets a quantity that is added together with it.

An object that was given is shared only where its content is what the check took it for: the symbol
of a new quantity reads as the checked symbol, though it may be an older object (`keepSymbol_run`).
For a quantity given by its fields this needs that looking up a field and reading its content commute.

Operands are terms, and a term builds what it describes; so evaluating one only adds objects too.
-/
import Holdings.Proofs.Ledger.Acts
import Holdings.Ledger.Term

namespace Holdings.Ledger

open Act

/-! ## 1. What is kept

These acts cannot fail, so each has one equation for its run.  The number of the tags that were given
out does not matter and stays open. -/

/-- The world with another heap. -/
def World.withHeap (w : World) (h : Heap) : World := { w with heap := h }

/-- The world after some tags were given out. -/
def World.withTags (w : World) (n : Nat) : World := w.withHeap { w.heap with nextTag := n }

/-- A new quantity reads the symbol that was checked, new or kept. -/
theorem keepSymbol_run (given : Option Item) (s : Symbol) (w : World) :
    ∃ t n, keepSymbol given s w = .ok t (w.withTags n) ∧
      ((∀ u, given = some (.object (.symbol u)) → u.val = s) → t.val = s) := by
  by_cases h : ∃ u, given = some (.object (.symbol u))
  · obtain ⟨u, rfl⟩ := h
    exact ⟨u, w.heap.nextTag, rfl, fun hu => hu u rfl⟩
  · refine ⟨⟨w.heap.nextTag, s⟩, w.heap.nextTag + 1, ?_, fun _ => rfl⟩
    unfold keepSymbol
    split
    · rename_i u
      exact absurd ⟨u, rfl⟩ h
    · rfl

theorem keepIdentity_run (given : Option Item) (i : Identity) (w : World) :
    ∃ t n, keepIdentity given i w = .ok t (w.withTags n) ∧
      ((∀ u, given = some (.object (.identity u)) → u.val = i) → t.val = i) := by
  by_cases h : ∃ u, given = some (.object (.identity u))
  · obtain ⟨u, rfl⟩ := h
    exact ⟨u, w.heap.nextTag, rfl, fun hu => hu u rfl⟩
  · refine ⟨⟨w.heap.nextTag, i⟩, w.heap.nextTag + 1, ?_, fun _ => rfl⟩
    unfold keepIdentity
    split
    · rename_i u
      exact absurd ⟨u, rfl⟩ h
    · rfl

/-- A symbol given as an object was checked as the symbol that it is. -/
theorem symbol_of_checkSymbol {h : Heap} {u : Tagged Symbol} {s : Symbol}
    (hs : (h.datum (.object (.symbol u))).checkSymbol = .valid s) : u.val = s := by
  rw [Heap.datum_object] at hs
  exact Verdict.valid.inj hs

/-- The symbol among the fields of a quantity that was checked is the symbol of that quantity. -/
theorem symbol_of_fields {h : Heap} {fields : List (String × Item)} {q : Quantity}
    (hq : (h.datum (.dict fields)).checkQuantity = .valid q) {u : Tagged Symbol}
    (hu : fields.lookup "symbol" = some (.object (.symbol u))) : u.val = q.symbol := by
  have hd : h.datum (.dict fields) =
      .dict (Value.replaceEntries (fun o => .object (h.entity o)) fields) := by
    simp [Heap.datum, Value.map, Value.replace]
  rw [hd] at hq
  simp only [Datum.checkQuantity, Quantity.ofCall] at hq
  split at hq
  · rename_i amount symbol hb
    have hl := (Fields.of_bindTwo hb).2.resolve_left (by simp)
    rw [Value.lookup_replaceEntries, hu, Option.map_some, Option.some.injEq] at hl
    have hs : symbol = h.datum (.object (.symbol u)) := hl.symm
    have hc := (Quantity.of_check hq).2.2
    rw [hs] at hc
    exact symbol_of_checkSymbol hc
  · cases hq

/-- **A copy is a new quantity with the content that was checked.** -/
theorem copyQuantity_run {w : World} {given : Item} {q : Quantity}
    (hq : (w.heap.datum given).checkQuantity = .valid q) :
    ∃ t n, t.val = q.symbol ∧ copyQuantity given q w =
      .ok w.heap.quantities.next (w.withHeap (w.heap.withQuantity ⟨q.amount, t⟩ n)) := by
  have fresh : ∃ t n, t.val = q.symbol ∧
      (newTagged q.symbol >>= fun t => newQuantity ⟨q.amount, t⟩) w =
        .ok w.heap.quantities.next (w.withHeap (w.heap.withQuantity ⟨q.amount, t⟩ n)) :=
    ⟨⟨w.heap.nextTag, q.symbol⟩, w.heap.nextTag + 1, rfl, rfl⟩
  unfold copyQuantity
  split
  · rename_i r
    have hv : w.heap.quantity r = q := by
      rw [Heap.datum_object] at hq
      exact Verdict.valid.inj hq
    refine ⟨(w.heap.quantities.get r).symbol, w.heap.nextTag, ?_, rfl⟩
    rw [← hv]
    rfl
  · rename_i fields
    obtain ⟨t, n, hrun, ht⟩ := keepSymbol_run (fields.lookup "symbol") q.symbol w
    refine ⟨t, n, ht fun u hu => symbol_of_fields hq hu, ?_⟩
    rw [bind_of_ok hrun]
    rfl
  · exact fresh

/-! ## 2. What one act adds -/

section Adding

variable {w : World} {x : Act Item}

theorem World.Sound.grown_withTags (hw : w.Sound) (n : Nat) : w.Grown (w.withTags n) :=
  hw.grown_of_same ⟨rfl, rfl, rfl⟩ rfl rfl

theorem World.Sound.grown_withQuantity (hw : w.Sound) {c : QuantityCell} (hc : c.value.Admissible)
    (n : Nat) : w.Grown (w.withHeap (w.heap.withQuantity c n)) :=
  hw.grown (w.heap.extends_withQuantity c n) (hw.heap.withQuantity hc n) rfl rfl

/-- An act that gives a quantity which it has added. -/
theorem grows_of_quantity (hw : w.Sound) {c : QuantityCell} (hc : c.value.Admissible) {n : Nat}
    (hx : x w = .ok (.object (.quantity w.heap.quantities.next))
      (w.withHeap (w.heap.withQuantity c n))) : x.Grows w Value.objects := by
  refine grows_of_ok hx (hw.grown_withQuantity hc n) ?_
  simp [Ref.IsLive, World.withHeap, Heap.withQuantity]

/-- An act that gives a holding which it has added with its quantity. -/
theorem grows_of_holding (hw : w.Sound) {c : QuantityCell} (hc : c.value.Admissible)
    {i : Tagged Identity} {n : Nat}
    (hx : x w = .ok (.object (.holding w.heap.holdings.next))
      (w.withHeap (w.heap.withHolding c i n))) : x.Grows w Value.objects := by
  refine grows_of_ok hx (hw.grown (w.heap.extends_withHolding c i n) ?_ rfl rfl) ?_
  · exact hw.heap.withHolding hc i n
  · simp [Ref.IsLive, World.withHeap, Heap.withHolding]

theorem grows_newSettings (hw : w.Sound) (s : Settings) :
    (newSettings s).Grows w fun r => [.settings r] := by
  have hs : (w.heap.withSettings s).Sound :=
    ⟨hw.heap.admissible, hw.heap.inner_lt, hw.heap.inner_nodup⟩
  have hg : w.Grown (w.withHeap (w.heap.withSettings s)) :=
    hw.grown (w.heap.extends_withSettings s) hs rfl rfl
  refine grows_of_ok rfl hg ?_
  simp [Ref.IsLive]

end Adding

/-! ## 3. Objects of a known content -/

section Place

variable {w : World}

theorem grows_placeSymbol (hw : w.Sound) (s : Symbol) : (placeSymbol s).Grows w Value.objects :=
  grows_of_ok rfl (hw.grown_withTags _) (by simp [Ref.IsLive])

theorem grows_placeIdentity (hw : w.Sound) (i : Identity) :
    (placeIdentity i).Grows w Value.objects :=
  grows_of_ok rfl (hw.grown_withTags _) (by simp [Ref.IsLive])

theorem grows_placeIssuedSymbol (hw : w.Sound) (s : Tagged Symbol) (c : Tagged Identity) :
    (placeIssuedSymbol s c).Grows w Value.objects :=
  grows_of_ok rfl (hw.grown_withTags _) (by simp [Ref.IsLive])

theorem grows_placeSettings (hw : w.Sound) (s : Settings) :
    (placeSettings s).Grows w Value.objects :=
  confined_map (grows_newSettings hw s) fun r h hl => by simpa using hl

theorem placeQuantity_run (q : Quantity) (w : World) :
    placeQuantity q w = .ok (.object (.quantity w.heap.quantities.next)) (w.withHeap
      (w.heap.withQuantity ⟨q.amount, ⟨w.heap.nextTag, q.symbol⟩⟩ (w.heap.nextTag + 1))) :=
  rfl

theorem placeHolding_run (k : Holding) (w : World) :
    placeHolding k w = .ok (.object (.holding w.heap.holdings.next)) (w.withHeap
      (w.heap.withHolding ⟨k.quantity.amount, ⟨w.heap.nextTag, k.quantity.symbol⟩⟩
        ⟨w.heap.nextTag + 1, k.owner⟩ (w.heap.nextTag + 2))) :=
  rfl

/-- A quantity that was placed reads as what it was placed for. -/
theorem outcome_placeQuantity (q : Quantity) (w : World) :
    (placeQuantity q).outcome w = .ok (.object (.quantity q)) := by
  rw [outcome_of_ok (placeQuantity_run q w), Heap.datum_object]
  show Except.ok (Value.object (Entity.quantity
    ((w.heap.withQuantity _ _).quantity w.heap.quantities.next))) = _
  rw [Heap.quantity_withQuantity]
  rfl

theorem outcome_placeHolding (k : Holding) (w : World) :
    (placeHolding k).outcome w = .ok (.object (.holding k)) := by
  rw [outcome_of_ok (placeHolding_run k w), Heap.datum_object]
  show Except.ok (Value.object (Entity.holding
    ((w.heap.withHolding _ _ _).holding w.heap.holdings.next))) = _
  rw [Heap.holding_withHolding]
  rfl

theorem grows_placeQuantity (hw : w.Sound) {q : Quantity} (hq : q.Admissible) :
    (placeQuantity q).Grows w Value.objects := by
  refine grows_of_quantity hw ?_ (placeQuantity_run q w)
  exact hq

theorem grows_placeHolding (hw : w.Sound) {k : Holding} (hk : k.quantity.Admissible) :
    (placeHolding k).Grows w Value.objects := by
  refine grows_of_holding hw ?_ (placeHolding_run k w)
  exact hk

/-- Any entity whose quantity is admissible may be placed. -/
theorem grows_placeEntity (hw : w.Sound) {e : Entity} (he : e.Admissible) :
    (placeEntity e).Grows w Value.objects := by
  cases e with
  | symbol s => exact grows_placeSymbol hw s
  | identity i => exact grows_placeIdentity hw i
  | issuedSymbol s => exact grows_of_ok rfl (hw.grown_withTags _) (by simp [Ref.IsLive])
  | quantity q => exact grows_placeQuantity hw he
  | holding k => exact grows_placeHolding hw he
  | settings s => exact grows_placeSettings hw s

end Place

/-! ## 4. Objects from values -/

section Build

variable {w : World}

theorem grows_buildQuantity (hw : w.Sound) (amount symbol : Item) :
    (buildQuantity amount symbol).Grows w Value.objects := by
  unfold buildQuantity
  refine confined_datum (confined_datum (confined_perform hw fun q hq => ?_))
  rw [Verdict.toExcept_eq_ok_iff] at hq
  obtain ⟨t, n, hrun, ht⟩ := keepSymbol_run (some symbol) q.symbol w
  have hts : t.val = q.symbol := by
    refine ht fun u hu => ?_
    rw [Option.some.injEq] at hu
    rw [hu] at hq
    exact symbol_of_checkSymbol (Quantity.of_check hq).2.2
  refine grows_of_quantity hw (c := ⟨q.amount, t⟩) (n := n) ?_ ?_
  · show Quantity.Admissible ⟨q.amount, t.val⟩
    rw [hts]
    exact Quantity.admissible_of_check hq
  · rw [bind_of_ok hrun]
    rfl

/-- A holding that passes its check is new, and so is its quantity, which has the content of the one that
was given. -/
theorem buildHolding_run (hw : w.Sound) {quantity owner : Item} {k : Holding}
    (hk : Holding.check (w.heap.datum quantity) (w.heap.datum owner) = .valid k) :
    ∃ c i n, c.value = k.quantity ∧ k.quantity.Admissible ∧ buildHolding quantity owner w =
      .ok (.object (.holding w.heap.holdings.next)) (w.withHeap (w.heap.withHolding c i n)) := by
  obtain ⟨hq, -, ha⟩ := Holding.admissible_of_check (hw.heap.datum quantity) hk
  obtain ⟨t, n, ht, hrun⟩ := copyQuantity_run hq
  obtain ⟨i, m, hrun', -⟩ := keepIdentity_run (some owner) k.owner
    (w.withHeap (w.heap.withQuantity ⟨k.quantity.amount, t⟩ n))
  refine ⟨⟨k.quantity.amount, t⟩, i, m, ?_, ha, ?_⟩
  · simp only [QuantityCell.value, ht]
  · show (perform (Holding.check (w.heap.datum quantity) (w.heap.datum owner)).toExcept >>= _) w = _
    rw [hk, bind_of_ok (show perform (Verdict.valid k).toExcept w = .ok k w from rfl),
      bind_of_ok hrun, bind_of_ok hrun']
    rfl

/-- What was built from a quantity and an owner is a new holding with a new quantity. -/
theorem buildHolding_eq_ok (hw : w.Sound) {quantity owner v : Item} {w' : World}
    (h : buildHolding quantity owner w = .ok v w') :
    v = .object (.holding w.heap.holdings.next) ∧
      ∃ c i n, w' = w.withHeap (w.heap.withHolding c i n) := by
  obtain ⟨a, w₁, ha, h₁⟩ := bind_eq_ok h
  cases ha
  obtain ⟨b, w₂, hb, h₂⟩ := bind_eq_ok h₁
  cases hb
  obtain ⟨k, w₃, hk, -⟩ := bind_eq_ok h₂
  obtain ⟨hk, -⟩ := perform_eq_ok hk
  obtain ⟨c, i, n, -, -, hrun⟩ := buildHolding_run hw (Verdict.toExcept_eq_ok_iff.mp hk)
  rw [hrun] at h
  cases h
  exact ⟨rfl, c, i, n, rfl⟩

theorem grows_buildHolding (hw : w.Sound) (quantity owner : Item) :
    (buildHolding quantity owner).Grows w Value.objects := by
  cases hk : Holding.check (w.heap.datum quantity) (w.heap.datum owner) with
  | valid k =>
    obtain ⟨c, i, n, hc, ha, hrun⟩ := buildHolding_run hw hk
    exact grows_of_holding hw (hc ▸ ha) hrun
  | _ =>
    unfold buildHolding
    refine confined_datum (confined_datum (confined_perform hw fun k hk' => ?_))
    rw [hk] at hk'
    cases hk'

theorem grows_buildIssuedSymbol (hw : w.Sound) (named : List (String × Item)) :
    (buildIssuedSymbol named).Grows w Value.objects := by
  unfold buildIssuedSymbol
  refine confined_get (confined_perform hw fun s _ => ?_)
  obtain ⟨t, n, hrun, -⟩ := keepSymbol_run (named.lookup "symbol") s.symbol w
  obtain ⟨i, m, hrun', -⟩ := keepIdentity_run (named.lookup "contract") s.contract (w.withTags n)
  have hx : (do
      let t ← keepSymbol (named.lookup "symbol") s.symbol
      let c ← keepIdentity (named.lookup "contract") s.contract
      placeIssuedSymbol t c) w = .ok (.object (.issuedSymbol m t i)) (w.withTags (m + 1)) := by
    rw [bind_of_ok hrun, bind_of_ok hrun']
    rfl
  exact grows_of_ok hx (hw.grown_withTags _) (by simp [Ref.IsLive])

theorem grows_findSettings (hw : w.Sound) (named : Fields) :
    (findSettings named).Grows w fun _ => [] := by
  unfold findSettings
  refine confined_perform hw fun o _ => confined_get (confined_perform hw fun p _ => ?_)
  refine confined_bind (grows_notify hw p.2) fun _ w' hg _ => ?_
  exact grows_perform hg.sound fun _ _ => by simp

theorem grows_buildSettings (hw : w.Sound) (args : List Item) (named : List (String × Item)) :
    (buildSettings args named).Grows w Value.objects := by
  unfold buildSettings
  refine confined_perform hw fun named' _ => confined_get ?_
  refine confined_bind (grows_findSettings hw _) fun s w' hg _ => ?_
  exact grows_placeSettings hg.sound s

/-- The fields of a symbol, an identity or an issued symbol are built by their check. -/
theorem grows_placeChecked (hw : w.Sound) (kind : EntityKind) (named : List (String × Item)) :
    (do
      let w ← get
      let e ← perform (Entity.ofCall kind [] (dataOf w.heap named)).toExcept
      placeEntity e : Act Item).Grows w Value.objects := by
  refine confined_get (confined_perform hw fun e he => ?_)
  rw [Verdict.toExcept_eq_ok_iff] at he
  refine grows_placeEntity hw (Entity.admissible_of_ofCall (by simp) ?_ he)
  intro d hd
  obtain ⟨p, hp, hd⟩ := Value.mem_objectsOfEntries.mp hd
  obtain ⟨q, -, rfl⟩ := List.mem_map.mp hp
  exact hw.heap.datum q.2 d hd

/-- **Building any object only adds objects.**  Nothing is asked of the operands. -/
theorem grows_build (hw : w.Sound) (kind : EntityKind) (args : List Item)
    (named : List (String × Item)) : (build kind args named).Grows w Value.objects := by
  cases kind with
  | quantity => exact confined_perform hw fun p _ => grows_buildQuantity hw p.1 p.2
  | holding => exact confined_perform hw fun p _ => grows_buildHolding hw p.1 p.2
  | settings => exact grows_buildSettings hw args named
  | issuedSymbol =>
    cases args with
    | nil => exact grows_buildIssuedSymbol hw named
    | cons a as => exact (confined_throw hw .wrongKind).congr rfl
  | symbol =>
    cases args with
    | nil => exact grows_placeChecked hw .symbol named
    | cons a as => exact (confined_throw hw .wrongKind).congr rfl
  | identity =>
    cases args with
    | nil => exact grows_placeChecked hw .identity named
    | cons a as => exact (confined_throw hw .wrongKind).congr rfl

/-! ## 5. Objects from bytes and records -/

theorem grows_readBytes (hw : w.Sound) (kind : EntityKind) (fields : List (String × Wire.Codec))
    (data : Wire.Bytes) : (readBytes kind fields data).Grows w Value.objects := by
  unfold readBytes
  refine confined_perform hw fun p hp => ?_
  have he : p.1.Admissible := Wire.admissible_of_decodeEntity hp
  refine confined_bind (grows_report hw _) fun _ w' hg _ => ?_
  exact grows_placeEntity hg.sound he

theorem grows_readQuantity (hw : w.Sound) {v : Datum} (hv : v.Admissible) :
    (readQuantity v).Grows w Value.objects :=
  confined_perform hw fun _ hq => grows_placeQuantity hw (Quantity.admissible_of_ofValue hv hq)

theorem grows_readHolding (hw : w.Sound) {v : Datum} (hv : v.Admissible) :
    (readHolding v).Grows w Value.objects :=
  confined_perform hw fun _ hk => grows_placeHolding hw (Holding.admissible_of_ofValue hv hk)

theorem grows_buildIssued (hw : w.Sound) (amount issued : Item) :
    (buildIssued amount issued).Grows w Value.objects := by
  unfold buildIssued
  split
  · refine confined_bind (grows_buildQuantity hw amount _) fun q w' hg _ => ?_
    exact grows_buildHolding hg.sound q _
  · exact confined_throw hw _

end Build

/-! ## 6. Terms

The induction is on the term.  Parts are evaluated from left to right, so the objects of the first part
must still be there after the second: they are, because the world only grew. -/

theorem readBinding_of_some {w : World} {name : String} {b : Binding}
    (h : w.bindings.lookup name = some b) : readBinding name w = .ok b w := by
  unfold readBinding
  rw [bind_of_ok (show (get : Act World) w = .ok w w from rfl), h]
  rfl

theorem readBinding_of_none {w : World} {name : String} (h : w.bindings.lookup name = none) :
    readBinding name w = .error .unbound w := by
  unfold readBinding
  rw [bind_of_ok (show (get : Act World) w = .ok w w from rfl), h]
  rfl

/-- Reading a variable changes nothing. -/
theorem readBinding_eq_ok {w w' : World} {name : String} {b : Binding}
    (h : readBinding name w = .ok b w') : w' = w ∧ w.bindings.lookup name = some b := by
  cases hl : w.bindings.lookup name with
  | none =>
    rw [readBinding_of_none hl] at h
    cases h
  | some c =>
    rw [readBinding_of_some hl] at h
    cases h
    exact ⟨rfl, rfl⟩

/-- The objects of what a variable is bound to are there. -/
theorem World.Sound.bound_of_lookup {w : World} (hw : w.Sound) {name : String} {b : Binding}
    (h : w.bindings.lookup name = some b) : w.heap.AllLive b.value.objects := by
  obtain ⟨l₁, l₂, hl, -⟩ := List.lookup_eq_some_iff.mp h
  exact hw.bound (name, b) (by simp [hl])

theorem grows_readBinding {w : World} (hw : w.Sound) (name : String) :
    (readBinding name).Grows w fun b => b.value.objects := by
  cases h : w.bindings.lookup name with
  | none => exact confined_of_error (readBinding_of_none h) (World.Grown.refl hw)
  | some b =>
    exact grows_of_ok (readBinding_of_some h) (World.Grown.refl hw) (hw.bound_of_lookup h)

theorem grows_readVariable {w : World} (hw : w.Sound) (name : String) :
    (readVariable name).Grows w Value.objects :=
  confined_map (grows_readBinding hw name) fun _ _ h => h

mutual

/-- **Evaluating a term only adds objects.** -/
theorem grows_eval : ∀ (t : Term) {w : World}, w.Sound → t.eval.Grows w Value.objects
  | .plain v, w, hw => by
    rw [Term.eval]
    exact grows_pure hw (by simp)
  | .list xs, w, hw => by
    rw [Term.eval]
    exact confined_map (grows_evalAll xs hw) fun vs h hl => by simpa using hl
  | .dict es, w, hw => by
    rw [Term.eval]
    exact confined_map (grows_evalEntries es hw) fun vs h hl => by simpa using hl
  | .var name, w, hw => by
    rw [Term.eval]
    exact grows_readVariable hw name
  | .symbol code precision, w, hw => by
    rw [Term.eval]
    refine confined_bind (grows_eval code hw) fun c w₁ h₁ _ => ?_
    refine confined_bind (grows_eval precision h₁.sound) fun p w₂ h₂ _ => ?_
    exact grows_build h₂.sound _ _ _
  | .identity value, w, hw => by
    rw [Term.eval]
    refine confined_bind (grows_eval value hw) fun v w₁ h₁ _ => ?_
    exact grows_build h₁.sound _ _ _
  | .quantity amount code precision, w, hw => by
    rw [Term.eval]
    refine confined_bind (grows_eval amount hw) fun a w₁ h₁ _ => ?_
    refine confined_bind (grows_eval code h₁.sound) fun c w₂ h₂ _ => ?_
    refine confined_bind (grows_eval precision h₂.sound) fun p w₃ h₃ _ => ?_
    refine confined_bind (grows_build h₃.sound _ _ _) fun s w₄ h₄ _ => ?_
    exact grows_build h₄.sound _ _ _
  | .holding amount code precision owner, w, hw => by
    rw [Term.eval]
    refine confined_bind (grows_eval amount hw) fun a w₁ h₁ _ => ?_
    refine confined_bind (grows_eval code h₁.sound) fun c w₂ h₂ _ => ?_
    refine confined_bind (grows_eval precision h₂.sound) fun p w₃ h₃ _ => ?_
    refine confined_bind (grows_eval owner h₃.sound) fun o w₄ h₄ _ => ?_
    refine confined_bind (grows_build h₄.sound _ _ _) fun s w₅ h₅ _ => ?_
    refine confined_bind (grows_build h₅.sound _ _ _) fun q w₆ h₆ _ => ?_
    refine confined_bind (grows_build h₆.sound _ _ _) fun i w₇ h₇ _ => ?_
    exact grows_build h₇.sound _ _ _

/-- The same for terms in order. -/
theorem grows_evalAll : ∀ (ts : List Term) {w : World}, w.Sound →
    (Term.evalAll ts).Grows w Value.objectsOfAll
  | [], w, hw => by
    rw [Term.evalAll]
    exact grows_pure hw (by simp)
  | t :: ts, w, hw => by
    rw [Term.evalAll]
    refine confined_bind (grows_eval t hw) fun v w₁ h₁ hv => ?_
    refine confined_bind (grows_evalAll ts h₁.sound) fun vs w₂ h₂ hvs => ?_
    refine grows_pure h₂.sound ?_
    rw [Value.objectsOfAll_cons, Heap.allLive_append]
    exact ⟨h₂.allLive hv, hvs⟩

/-- The same for named terms in order. -/
theorem grows_evalEntries : ∀ (es : List (String × Term)) {w : World}, w.Sound →
    (Term.evalEntries es).Grows w Value.objectsOfEntries
  | [], w, hw => by
    rw [Term.evalEntries]
    exact grows_pure hw (by simp)
  | (k, t) :: es, w, hw => by
    rw [Term.evalEntries]
    refine confined_bind (grows_eval t hw) fun v w₁ h₁ hv => ?_
    refine confined_bind (grows_evalEntries es h₁.sound) fun vs w₂ h₂ hvs => ?_
    refine grows_pure h₂.sound ?_
    rw [Value.objectsOfEntries_cons, Heap.allLive_append]
    exact ⟨h₂.allLive hv, hvs⟩

end

end Holdings.Ledger
