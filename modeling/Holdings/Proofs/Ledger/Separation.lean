/-
# Holdings do not share their quantities

A holding is made from a quantity, and may be given another one later; each time it takes a copy.  So the
quantity that it has is its own: no other holding has it, and it is not the one that was supplied.  Through
the attribute the caller gets the live quantity, but what is done to that is done to this one holding.

What carries this through a script is that places of cells only count up.  A quantity that a holding takes
was not there before the step (`Heap.Changed.inner_cases`), while the one that was supplied was.  Hence the
quantity of a holding has a higher place than any that was supplied for it (`Heap.HasNewer`), and it keeps
that when the holding takes another, whose place is higher still.

Where a quantity is supplied is read off the terms and commands of the script (`Term.Supplies`,
`Command.Supplies`).  A term that describes a holding builds a quantity for it; so the operands of a
command count too, at any depth, and whatever becomes of the command.
-/
import Holdings.Proofs.Ledger.Frame

namespace Holdings.Ledger

open Act

/-! ## 1. Quantities of a higher place -/

namespace Heap

variable {h h' : Heap} {e : Effect} {o q : Nat}

/-- A holding has the quantity that it had before, or one that was not there before. -/
theorem Changed.inner_cases (c : h.Changed e h') (ho : o < h'.holdings.next) :
    (o < h.holdings.next ∧ (h'.holdings.get o).quantity = (h.holdings.get o).quantity) ∨
      h.quantities.next ≤ (h'.holdings.get o).quantity := by
  obtain ⟨g, hx, hf, hs⟩ := c
  have hg : o < g.holdings.next := by
    rw [hs.holdings] at ho
    exact (isLive_after (o := .holding o) e).mp ho
  have kept : h'.holdings.get o = g.holdings.get o →
      (o < h.holdings.next ∧ (h'.holdings.get o).quantity = (h.holdings.get o).quantity) ∨
        h.quantities.next ≤ (h'.holdings.get o).quantity := by
    intro he
    rw [he]
    rcases Nat.lt_or_ge o h.holdings.next with hlt | hge
    · exact Or.inl ⟨hlt, by rw [Store.get_eq_of_isPrefix hx.holdings hlt]⟩
    · exact Or.inr (hx.inner_new o hge hg)
  cases e with
  | content p r =>
    by_cases hpo : p = o
    · refine Or.inr ?_
      rw [hs.holdings, hpo]
      simp only [Heap.after, Heap.setQuantity]
      rw [Store.get_put_self hg]
      exact hf.1
    · refine kept ?_
      rw [hs.holdings]
      exact Store.get_put_ne hpo _
  | none => exact kept (by rw [hs.holdings]; rfl)
  | amount r a => exact kept (by rw [hs.holdings]; rfl)
  | settings r s => exact kept (by rw [hs.holdings]; rfl)

/-- A holding that was there is there after a change. -/
theorem Changed.holding_isLive (c : h.Changed e h') (ho : o < h.holdings.next) :
    o < h'.holdings.next := by
  have hl : h'.AllLive [.holding o] := c.allLive (by simpa [Ref.IsLive] using ho)
  simpa [Ref.IsLive] using hl

/-- The holding is there, and its quantity was added after this one. -/
def HasNewer (h : Heap) (o q : Nat) : Prop :=
  o < h.holdings.next ∧ q < (h.holdings.get o).quantity

theorem HasNewer.changed (n : h.HasNewer o q) (s : h.Sound) (c : h.Changed e h') :
    h'.HasNewer o q := by
  obtain ⟨ho, hq⟩ := n
  have ho' := c.holding_isLive ho
  refine ⟨ho', ?_⟩
  rcases c.inner_cases ho' with ⟨-, he⟩ | hn
  · rw [he]
    exact hq
  · have hlt := s.inner_isLive ho
    omega

end Heap

/-! ## 2. Runs -/

/-- The world that a run leaves, whatever came of it. -/
def Act.final {α : Type} (x : Act α) (w : World) : World :=
  match x w with
  | .ok _ w' => w'
  | .error _ w' => w'

section Runs

variable {α β : Type} {w w' : World} {o q : Nat}

theorem final_of_ok {x : Act α} {a : α} (h : x w = .ok a w') : x.final w = w' := by
  unfold Act.final
  rw [h]

theorem final_of_error {x : Act α} {f : Fault} (h : x w = .error f w') : x.final w = w' := by
  unfold Act.final
  rw [h]

theorem final_congr {x y : Act α} (h : x w = y w) : x.final w = y.final w := by
  unfold Act.final
  rw [h]

theorem final_bind_of_ok {x : Act α} {f : α → Act β} {a : α} (h : x w = .ok a w') :
    (x >>= f).final w = (f a).final w' := by
  unfold Act.final
  rw [bind_of_ok h]

theorem Act.Advances.hasNewer {x : Act Item} {allowed : Effect → Prop} (h : x.Advances w allowed)
    (hw : w.Sound) (n : w.heap.HasNewer o q) : (x.final w).heap.HasNewer o q := by
  cases hx : x w with
  | ok v w' =>
    obtain ⟨⟨e, -, hc⟩, -⟩ := h.ok v w' hx
    rw [final_of_ok hx]
    exact n.changed hw.heap hc
  | error f w' =>
    rw [final_of_error hx]
    exact n.changed hw.heap (Heap.extends_iff_changed.mp (h.error f w' hx).heap)

/-- What the first operand did stays done, whatever follows. -/
theorem Act.Follows.hasNewer {x : Act Item} {allowed : Effect → Prop} {t : Term} {ts : List Term}
    (h : x.Follows allowed (t :: ts) w) (hw : w.Sound)
    (n : (t.eval.final w).heap.HasNewer o q) : (x.final w).heap.HasNewer o q := by
  cases h with
  | operand hx hrest =>
    rw [final_congr hx]
    cases ht : t.eval w with
    | ok v w' =>
      obtain ⟨hg, hl⟩ := (grows_eval t hw).of_ok ht
      rw [final_of_ok ht] at n
      rw [final_bind_of_ok ht]
      exact ((hrest v w' ht hg hl).advances hg.sound).hasNewer hg.sound n
    | error f w' =>
      rw [final_of_error ht] at n
      rw [final_of_error (bind_of_error ht)]
      exact n

/-- A holding that is built from a quantity has a newer one. -/
theorem hasNewer_of_buildHolding (hw : w.Sound) (hq : q < w.heap.quantities.next) {owner : Item}
    (h : buildHolding (.object (.quantity q)) owner w = .ok (.object (.holding o)) w') :
    w'.heap.HasNewer o q := by
  obtain ⟨ho, c, i, n, rfl⟩ := buildHolding_eq_ok hw h
  cases ho
  simp only [Heap.HasNewer, World.withHeap, Heap.withHolding, Store.next_add]
  rw [Store.get_add_next]
  exact ⟨by omega, hq⟩

theorem build_holding {args : List Item} {named : List (String × Item)} {quantity owner : Item}
    (hb : Fields.bindTwo "quantity" "owner" args named = .ok (quantity, owner)) :
    build .holding args named = buildHolding quantity owner := by
  unfold build
  dsimp only
  rw [hb]
  rfl

/-- A holding that is given a quantity has a newer one. -/
theorem hasNewer_of_setAttribute (ho : o < w.heap.holdings.next)
    (hq : q < w.heap.quantities.next) :
    ((setAttribute (.object (.holding o)) "quantity" (.object (.quantity q))).final
      w).heap.HasNewer o q := by
  have hcheck : (w.heap.datum (.object (.quantity q))).checkQuantity =
      .valid (w.heap.quantity q) := by
    rw [Heap.datum_object]
    rfl
  obtain ⟨t, n, -, hrun⟩ := copyQuantity_run hcheck
  have hset : setAttribute (.object (.holding o)) "quantity" (.object (.quantity q)) w =
      (copyQuantity (.object (.quantity q)) (w.heap.quantity q) >>= fun n => do
        writeQuantity o n
        return .null : Act Item) w := by
    unfold setAttribute
    dsimp only
    rw [if_pos rfl, bind_of_ok (show datum _ w = .ok (w.heap.datum _) w from rfl), hcheck]
    rfl
  rw [final_congr hset, final_bind_of_ok hrun]
  show (Heap.setQuantity (w.heap.withQuantity _ n) o w.heap.quantities.next).HasNewer o q
  simp only [Heap.HasNewer, Heap.setQuantity, Heap.withQuantity, Store.next_put]
  rw [Store.get_put_self ho]
  exact ⟨ho, hq⟩

end Runs

/-! ## 3. Where a quantity is supplied -/

/-- The terms that a term evaluates first. -/
def Term.parts : Term → List Term
  | plain _ => []
  | list xs => xs
  | dict es => es.map Prod.snd
  | var _ => []
  | symbol code precision => [code, precision]
  | identity value => [value]
  | quantity amount code precision => [amount, code, precision]
  | holding amount code precision owner => [amount, code, precision, owner]

/-- Evaluating these terms in order, from this world on, makes the holding from the quantity. -/
inductive Term.Supplies (o q : Nat) : List Term → World → Prop where
  | part {t : Term} {ts : List Term} {w : World} (h : Supplies o q t.parts w) :
      Supplies o q (t :: ts) w
  | later {t : Term} {ts : List Term} {w w' : World} {v : Item} (ht : t.eval w = .ok v w')
      (h : Supplies o q ts w') : Supplies o q (t :: ts) w
  | holding {amount code precision owner : Term} {ts : List Term} {a c p i s j : Item}
      {w w₁ w₂ w₃ w₄ w₅ w₆ w₇ w₈ : World}
      (ha : amount.eval w = .ok a w₁) (hc : code.eval w₁ = .ok c w₂)
      (hp : precision.eval w₂ = .ok p w₃) (hi : owner.eval w₃ = .ok i w₄)
      (hs : build .symbol [] [("code", c), ("precision", p)] w₄ = .ok s w₅)
      (hq : build .quantity [a, s] [] w₅ = .ok (.object (.quantity q)) w₆)
      (hj : build .identity [] [("value", i)] w₆ = .ok j w₇)
      (ho : buildHolding (.object (.quantity q)) j w₇ = .ok (.object (.holding o)) w₈) :
      Supplies o q (.holding amount code precision owner :: ts) w

/-- The command, run in this world, makes the holding from the quantity or gives it to the holding: in
an operand, by building the holding from it, by building it for an issued symbol, or by setting the
attribute. -/
inductive Command.Supplies (w : World) (o q : Nat) : Command → Prop where
  | operand {c : Command} (h : Term.Supplies o q (c.operands w) w) : Supplies w o q c
  | built {args : List Term} {named : List (String × Term)} {as : List Item}
      {ns : List (String × Item)} {owner : Item} {w₁ w₂ w₃ : World}
      (ha : Term.evalAll args w = .ok as w₁) (hn : Term.evalEntries named w₁ = .ok ns w₂)
      (hb : Fields.bindTwo "quantity" "owner" as ns = .ok (.object (.quantity q), owner))
      (ho : buildHolding (.object (.quantity q)) owner w₂ = .ok (.object (.holding o)) w₃) :
      Supplies w o q (.build .holding args named)
  | issued {args : List Term} {amount : Item} {t : Nat} {s : Tagged Symbol} {c : Tagged Identity}
      {w₁ w₂ w₃ : World}
      (ha : Term.evalAll args w = .ok [amount, .object (.issuedSymbol t s c)] w₁)
      (hq : buildQuantity amount (.object (.symbol s)) w₁ = .ok (.object (.quantity q)) w₂)
      (ho : buildHolding (.object (.quantity q)) (.object (.identity c)) w₂ =
        .ok (.object (.holding o)) w₃) : Supplies w o q (.make .holdingOfIssued args)
  | assigned {on value : Term} {w₁ w₂ : World} (hv : on.eval w = .ok (.object (.holding o)) w₁)
      (hq : value.eval w₁ = .ok (.object (.quantity q)) w₂) :
      Supplies w o q (.set on "quantity" value)

section Supplied

variable {w : World} {o q : Nat}

/-- A term evaluates its parts, and the rest only adds objects. -/
theorem Term.follows (hw : w.Sound) (t : Term) : t.eval.Follows (· = .none) t.parts w := by
  cases t with
  | plain v => exact .rest (Act.Confined.advances (grows_eval _ hw))
  | var name => exact .rest (Act.Confined.advances (grows_eval _ hw))
  | list xs =>
    rw [Term.eval]
    refine follows_evalAll_last xs hw fun vs w₁ _ h₁ hl => Act.Confined.advances ?_
    exact grows_pure h₁.sound (by simpa using hl)
  | dict es =>
    rw [Term.eval]
    refine follows_evalEntries_last es hw fun ns w₁ _ h₁ hl => Act.Confined.advances ?_
    exact grows_pure h₁.sound (by simpa using hl)
  | symbol code precision =>
    rw [Term.eval]
    refine .operand rfl fun c w₁ _ h₁ _ => .operand rfl fun p w₂ _ h₂ _ => .rest ?_
    exact Act.Confined.advances (grows_build h₂.sound _ _ _)
  | identity value =>
    rw [Term.eval]
    refine .operand rfl fun v w₁ _ h₁ _ => .rest ?_
    exact Act.Confined.advances (grows_build h₁.sound _ _ _)
  | quantity amount code precision =>
    rw [Term.eval]
    refine .operand rfl fun a w₁ _ h₁ _ => .operand rfl fun c w₂ _ h₂ _ => ?_
    refine .operand rfl fun p w₃ _ h₃ _ => .rest (Act.Confined.advances ?_)
    refine confined_bind (grows_build h₃.sound _ _ _) fun s w₄ h₄ _ => ?_
    exact grows_build h₄.sound _ _ _
  | holding amount code precision owner =>
    rw [Term.eval]
    refine .operand rfl fun a w₁ _ h₁ _ => .operand rfl fun c w₂ _ h₂ _ => ?_
    refine .operand rfl fun p w₃ _ h₃ _ => .operand rfl fun i w₄ _ h₄ _ => ?_
    refine .rest (Act.Confined.advances ?_)
    refine confined_bind (grows_build h₄.sound _ _ _) fun s w₅ h₅ _ => ?_
    refine confined_bind (grows_build h₅.sound _ _ _) fun r w₆ h₆ _ => ?_
    refine confined_bind (grows_build h₆.sound _ _ _) fun j w₇ h₇ _ => ?_
    exact grows_build h₇.sound _ _ _

/-- **Operands.**  The induction is on where the quantity is supplied; what follows is an act that
evaluates these terms first. -/
theorem Term.Supplies.hasNewer {ts : List Term} (h : Term.Supplies o q ts w) :
    ∀ {x : Act Item} {allowed : Effect → Prop}, w.Sound → x.Follows allowed ts w →
      (x.final w).heap.HasNewer o q := by
  induction h with
  | part h ih =>
    intro x allowed hw hx
    exact hx.hasNewer hw (ih hw (Term.follows hw _))
  | later ht h ih =>
    intro x allowed hw hx
    cases hx with
    | operand hx hrest =>
      obtain ⟨hg, hl⟩ := (grows_eval _ hw).of_ok ht
      rw [final_congr hx, final_bind_of_ok ht]
      exact ih hg.sound (hrest _ _ ht hg hl)
  | holding ha hc hp hi hs hq hj ho =>
    intro x allowed hw hx
    have h₁ := ((grows_eval _ hw).of_ok ha).1
    have h₂ := ((grows_eval _ h₁.sound).of_ok hc).1
    have h₃ := ((grows_eval _ h₂.sound).of_ok hp).1
    have h₄ := ((grows_eval _ h₃.sound).of_ok hi).1
    have h₅ := ((grows_build h₄.sound _ _ _).of_ok hs).1
    obtain ⟨h₆, hl⟩ := (grows_build h₅.sound _ _ _).of_ok hq
    have h₇ := ((grows_build h₆.sound _ _ _).of_ok hj).1
    have hlive := h₇.allLive hl
    refine hx.hasNewer hw ?_
    rw [Term.eval, final_bind_of_ok ha, final_bind_of_ok hc, final_bind_of_ok hp,
      final_bind_of_ok hi, final_bind_of_ok hs, final_bind_of_ok hq, final_bind_of_ok hj,
      build_holding rfl, final_of_ok ho]
    exact hasNewer_of_buildHolding h₇.sound (by simpa [Ref.IsLive] using hlive) ho

/-- The first of two values that are told apart by name is among the values that were given. -/
theorem allLive_of_bindTwo {h : Heap} {first second : String} {args : List Item}
    {named : List (String × Item)} {a b : Item}
    (hb : Fields.bindTwo first second args named = .ok (a, b))
    (ha : h.AllLive (Value.objectsOfAll args)) (hn : h.AllLive (Value.objectsOfEntries named)) :
    h.AllLive a.objects := by
  intro p hp
  rcases (Fields.of_bindTwo hb).1 with hm | hl
  · exact ha p (Value.mem_objectsOfAll.mpr ⟨a, hm, hp⟩)
  · obtain ⟨l₁, l₂, hl, -⟩ := List.lookup_eq_some_iff.mp hl
    exact hn p (Value.mem_objectsOfEntries.mpr ⟨(first, a), by simp [hl], hp⟩)

/-- **Commands.**  Whatever the command does, the quantity was there before the holding took its own. -/
theorem Command.Supplies.hasNewer (hw : w.Sound) {c : Command} (h : c.Supplies w o q) :
    (c.act.final w).heap.HasNewer o q := by
  cases h with
  | operand h => exact h.hasNewer hw (c.follows hw)
  | built ha hn hb ho =>
    obtain ⟨h₁, hl⟩ := (grows_evalAll _ hw).of_ok ha
    obtain ⟨h₂, hl'⟩ := (grows_evalEntries _ h₁.sound).of_ok hn
    have hlive := allLive_of_bindTwo hb (h₂.allLive hl) hl'
    unfold Command.act
    rw [final_bind_of_ok ha, final_bind_of_ok hn, build_holding hb, final_of_ok ho]
    exact hasNewer_of_buildHolding h₂.sound (by simpa [Ref.IsLive] using hlive) ho
  | issued ha hq ho =>
    have h₁ := ((grows_evalAll _ hw).of_ok ha).1
    obtain ⟨h₂, hl⟩ := (grows_buildQuantity h₁.sound _ _).of_ok hq
    unfold Command.act
    rw [final_bind_of_ok ha]
    show ((buildQuantity _ _ >>= fun q => buildHolding q _).final _).heap.HasNewer o q
    rw [final_bind_of_ok hq, final_of_ok ho]
    exact hasNewer_of_buildHolding h₂.sound (by simpa [Ref.IsLive] using hl) ho
  | assigned hv hq =>
    obtain ⟨h₁, hl⟩ := (grows_eval _ hw).of_ok hv
    obtain ⟨h₂, hl'⟩ := (grows_eval _ h₁.sound).of_ok hq
    have hlive := h₂.allLive hl
    unfold Command.act
    rw [final_bind_of_ok hv, final_bind_of_ok hq]
    exact hasNewer_of_setAttribute (by simpa [Ref.IsLive] using hlive)
      (by simpa [Ref.IsLive] using hl')

end Supplied

/-! ## 4. Steps and scripts -/

section Steps

variable {w : World} {s : Step} {o q : Nat}

/-- The objects after a step are those that its command left. -/
theorem Step.sameCells_run (hw : w.Sound) (s : Step) :
    (s.command.act.final w.cleared).heap.SameCells (s.run w).2.heap := by
  rcases Step.run_cases hw s with ⟨f, w', hact, hr⟩ | ⟨v, w', n, bs, hact, hr, -⟩
  · rw [final_of_error hact, hr]
    exact ⟨rfl, rfl, rfl⟩
  · rw [final_of_ok hact, hr]
    exact ⟨rfl, rfl, rfl⟩

/-- A step has one effect at most. -/
theorem Step.changed_run (hw : w.Sound) (s : Step) : ∃ e, w.heap.Changed e (s.run w).2.heap := by
  rcases Step.run_spec hw s with ⟨f, w', hr, hg⟩ | ⟨v, w', hr, -, -, e, -, hc⟩
  · rw [hr]
    exact ⟨.none, Heap.extends_iff_changed.mp hg.heap⟩
  · rw [hr]
    exact ⟨e, hc⟩

theorem Heap.HasNewer.after (hw : w.Sound) (n : w.heap.HasNewer o q) (steps : List Step) :
    (w.after steps).heap.HasNewer o q := by
  induction steps generalizing w with
  | nil => exact n
  | cons s rest ih =>
    obtain ⟨e, hc⟩ := Step.changed_run hw s
    exact ih (hw.step s) (n.changed hw.heap hc)

/-- In one of these steps the quantity was supplied for the holding. -/
def Supplied (steps : List Step) (o q : Nat) : Prop :=
  ∃ first s rest, steps = first ++ s :: rest ∧
    s.command.Supplies (World.initial.after first).cleared o q

/-- **A holding never has what was supplied for it**: its own quantity is newer. -/
theorem Supplied.hasNewer {steps : List Step} (h : Supplied steps o q) :
    (World.initial.after steps).heap.HasNewer o q := by
  obtain ⟨first, s, rest, rfl, hs⟩ := h
  have hw : (World.initial.after first).Sound := World.sound_initial.after first
  have n : (s.run (World.initial.after first)).2.heap.HasNewer o q := by
    have hn := hs.hasNewer hw.grown_cleared.sound
    unfold Heap.HasNewer at hn ⊢
    rw [(Step.sameCells_run hw s).holdings]
    exact hn
  rw [World.after_append]
  exact n.after (hw.step s) rest

/-- The step is one that mutates this holding: its command sets the amount of the quantity that the
holding has, under whatever name, or sets which quantity it has. -/
def Step.Mutates (s : Step) (w : World) (o : Nat) : Prop :=
  s.command.SetsAmount w.cleared (w.heap.holdings.get o).quantity ∨
    s.command.SetsQuantity w.cleared o

/-- A step that mutates a holding leaves alone all quantities but the one that the holding has then, and
all other holdings. -/
theorem World.Sound.mutated (hw : w.Sound) (ho : o < w.heap.holdings.next) (hm : s.Mutates w o) :
    (∀ t, t < w.heap.quantities.next → t ≠ ((s.run w).2.heap.holdings.get o).quantity →
      (s.run w).2.heap.quantities.get t = w.heap.quantities.get t) ∧
    ∀ p, p < w.heap.holdings.next → p ≠ o →
      (s.run w).2.heap.holdings.get p = w.heap.holdings.get p := by
  cases hv : (s.run w).1 with
  | error f =>
    have hg := Step.grown_of_error hw hv
    exact ⟨fun t ht _ => Store.get_eq_of_isPrefix hg.heap.quantities ht,
      fun p hp _ => Store.get_eq_of_isPrefix hg.heap.holdings hp⟩
  | ok v =>
    have hf := hw.framed hv
    rcases hm with hm | hm
    · obtain ⟨hq, hh⟩ := hf.by_amount _ hm
      refine ⟨?_, fun p hp _ => hh p hp⟩
      rw [hh o ho]
      exact hq
    · obtain ⟨hq, hh⟩ := hf.by_quantity o hm
      exact ⟨fun t ht _ => hq t ht, hh⟩

/-- A step that gives a holding another content mutates it. -/
theorem World.Sound.mutates_of_ne (hw : w.Sound) (ho : o < w.heap.holdings.next)
    (hne : (s.run w).2.heap.holding o ≠ w.heap.holding o) : s.Mutates w o := by
  by_contra hm
  unfold Step.Mutates at hm
  obtain ⟨ha, hs⟩ := not_or.mp hm
  refine hne ?_
  cases hv : (s.run w).1 with
  | error f =>
    have he := hw.heap.entity_eq (Step.grown_of_error hw hv).heap (o := .holding o) ho
    exact Entity.holding.inj he
  | ok v =>
    have hf := hw.framed hv
    have hcell : (s.run w).2.heap.holdings.get o = w.heap.holdings.get o := by
      by_contra hc
      exact hs (hf.contents o ho hc)
    have hin := hw.heap.inner_isLive ho
    have hamount : ((s.run w).2.heap.quantity (w.heap.holdings.get o).quantity).amount =
        (w.heap.quantity (w.heap.holdings.get o).quantity).amount := by
      by_contra hc
      exact ha (hf.amounts _ hin hc)
    have hsymbol := congrArg Tagged.val (hf.symbols _ hin)
    unfold Heap.holding
    rw [hcell]
    refine congrArg (fun q => Holding.mk q _) ?_
    exact congrArg₂ Quantity.mk hamount hsymbol

end Steps

/-- What holds of the holdings of a world that these steps have led to, and of every step from there. -/
structure World.Separated (w : World) (past : List Step) : Prop where
  /-- No two holdings have one quantity. -/
  distinct : ∀ o p, o < w.heap.holdings.next → p < w.heap.holdings.next →
    (w.heap.holdings.get o).quantity = (w.heap.holdings.get p).quantity → o = p
  /-- A holding does not have a quantity that was ever supplied for it. -/
  supplied : ∀ o q, Supplied past o q → (w.heap.holdings.get o).quantity ≠ q
  /-- After a step a holding has the quantity that it had, or one that was not there. -/
  fresh : ∀ (s : Step) o, o < (s.run w).2.heap.holdings.next →
    (o < w.heap.holdings.next ∧
      ((s.run w).2.heap.holdings.get o).quantity = (w.heap.holdings.get o).quantity) ∨
    w.heap.quantities.next ≤ ((s.run w).2.heap.holdings.get o).quantity
  /-- A step that gives a holding another amount, symbol or owner is one that mutates it. -/
  mutates : ∀ (s : Step) o, o < w.heap.holdings.next →
    (s.run w).2.heap.holding o ≠ w.heap.holding o → s.Mutates w o
  /-- A step that mutates a holding leaves every other one as it was, its quantity included. -/
  others : ∀ (s : Step) o, o < w.heap.holdings.next → s.Mutates w o →
    ∀ p, p < w.heap.holdings.next → p ≠ o →
      (s.run w).2.heap.holdings.get p = w.heap.holdings.get p ∧
      (s.run w).2.heap.holding p = w.heap.holding p
  /-- A step that mutates a holding leaves every quantity as it was that was supplied for the holding, by
  the steps before or by this one. -/
  originals : ∀ (s : Step) o, o < w.heap.holdings.next → s.Mutates w o →
    ∀ q, q < w.heap.quantities.next → Supplied (past ++ [s]) o q →
      (s.run w).2.heap.quantities.get q = w.heap.quantities.get q

/-- **Holdings are separate** from each other and from what was supplied for them, after any steps. -/
theorem holdings_separated (steps : List Step) :
    (World.initial.after steps).Separated steps := by
  have hw : (World.initial.after steps).Sound := World.sound_initial.after steps
  refine ⟨fun o p => hw.heap.eq_of_inner_eq, ?_, ?_, fun s o => hw.mutates_of_ne, ?_, ?_⟩
  · intro o q h he
    have hn := h.hasNewer.2
    omega
  · intro s o ho
    obtain ⟨e, hc⟩ := Step.changed_run hw s
    exact hc.inner_cases ho
  · intro s o ho hm p hp hne
    obtain ⟨hq, hh⟩ := hw.mutated ho hm
    have hcell := hh p hp hne
    refine ⟨hcell, ?_⟩
    obtain ⟨e, hc⟩ := Step.changed_run hw s
    have hinner : ((World.initial.after steps).heap.holdings.get p).quantity ≠
        ((s.run (World.initial.after steps)).2.heap.holdings.get o).quantity := by
      intro he
      rw [← hcell] at he
      exact hne ((hw.step s).heap.eq_of_inner_eq (hc.holding_isLive hp) (hc.holding_isLive ho) he)
    unfold Heap.holding Heap.quantity
    rw [hcell, hq _ (hw.heap.inner_isLive hp) hinner]
  · intro s o ho hm q hlt hs
    have hn := hs.hasNewer.2
    rw [World.after_append] at hn
    exact (hw.mutated ho hm).1 q hlt (Nat.ne_of_lt hn)

/-- A quantity that a holding was made from, and was then given once more, keeps its amount while the
holding is doubled. -/
theorem separated_from_given_quantity :
    ((Step.mk (.update .add "h" (.var "h")) none).run (World.initial.after
      [⟨.eval (.quantity (.plain (.int 5)) (.plain (.text "A")) (.plain (.int 0))), some "q"⟩,
        ⟨.build .holding [.var "q", .identity (.plain (.int 1))] [], some "h"⟩,
        ⟨.set (.var "h") "quantity" (.var "q"), none⟩])).1 = .ok (.object (.holding 0)) ∧
    ((Step.mk (.update .add "h" (.var "h")) none).run (World.initial.after
      [⟨.eval (.quantity (.plain (.int 5)) (.plain (.text "A")) (.plain (.int 0))), some "q"⟩,
        ⟨.build .holding [.var "q", .identity (.plain (.int 1))] [], some "h"⟩,
        ⟨.set (.var "h") "quantity" (.var "q"), none⟩])).2.heap.quantities.get 0 =
    (World.initial.after
      [⟨.eval (.quantity (.plain (.int 5)) (.plain (.text "A")) (.plain (.int 0))), some "q"⟩,
        ⟨.build .holding [.var "q", .identity (.plain (.int 1))] [], some "h"⟩,
        ⟨.set (.var "h") "quantity" (.var "q"), none⟩]).heap.quantities.get 0 := by
  refine ⟨by rfl, (holdings_separated _).originals _ 0 (by decide) ?_ 0 (by decide) ?_⟩
  · exact Or.inl ⟨_, _, _, rfl, rfl, rfl, rfl⟩
  · exact ⟨[_, _], _, [_], rfl, .assigned rfl rfl⟩

end Holdings.Ledger
