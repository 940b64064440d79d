/-
# What an act may do to a world

An act runs in a world and leaves another behind, whether it gives a result or fails.  Nearly all acts
only add objects: the world has grown (`World.Grown`).  The few that change something that was there
change one thing, and do it last, when nothing can fail any more.  So a run is described by one
`Effect`: the world first grows, and then the effect takes place (`World.Changed`).

`Act.Confined x w allowed made` says that of the run of `x` in `w`:

* if it gives a result, the effect is one of the allowed ones, and the objects of the result
  (`made`) are there;
* if it fails, the world has grown and nothing else.

The rules of this module follow the way acts are put together.  In a sequence all but the last act may
only add objects (`confined_bind`): after a change a failure would break the second half.
-/
import Holdings.Proofs.Ledger.Heap

namespace Holdings.Ledger

/-! ## 1. Effects -/

/-- A change of something that was there before. -/
inductive Effect where
  | none
  | amount (place : Nat) (a : Int)
  | content (holding quantity : Nat)
  | settings (place : Nat) (s : Settings)

/-- The heap after an effect. -/
def Heap.after (h : Heap) : Effect → Heap
  | .none => h
  | .amount r a => h.setAmount r a
  | .content r q => h.setQuantity r q
  | .settings r s => { h with settings := h.settings.put r s }

/-- What an effect must satisfy: an amount is in range, and a holding is given a quantity that was not
there in the old heap and that no holding of the new one has. -/
def Effect.Fits (old new : Heap) : Effect → Prop
  | .amount _ a => Amount.inRange a = true
  | .content _ q => old.quantities.next ≤ q ∧ new.IsSpare q
  | _ => True

/-- An effect keeps the number of cells. -/
theorem Heap.isLive_after {h : Heap} (e : Effect) {o : Ref} :
    o.IsLive (h.after e) ↔ o.IsLive h := by
  cases e <;> cases o <;>
    simp [Ref.IsLive, Heap.after, Heap.setAmount, Heap.setQuantity]

/-- An effect that fits keeps a heap sound. -/
theorem Heap.Sound.after {old h : Heap} (s : h.Sound) {e : Effect} (he : e.Fits old h) :
    (h.after e).Sound := by
  cases e with
  | none => exact s
  | amount r a => exact s.setAmount he r
  | content r q => exact s.setQuantity he.2 r
  | settings r t => exact ⟨s.admissible, s.inner_lt, s.inner_nodup⟩

/-- An effect that fits a heap fits also what the heap has grown from. -/
theorem Effect.Fits.of_extends {older old new : Heap} (x : older.Extends old) {e : Effect}
    (he : e.Fits old new) : e.Fits older new := by
  cases e with
  | content r q => exact ⟨Nat.le_trans (Store.next_le_of_isPrefix x.quantities) he.1, he.2⟩
  | _ => exact he

/-- Objects were added, and then one effect took place that fits. -/
def Heap.Changed (h : Heap) (e : Effect) (h' : Heap) : Prop :=
  ∃ g, h.Extends g ∧ e.Fits h g ∧ (g.after e).SameCells h'

namespace Heap

variable {h h' h'' : Heap}

/-- Only to be extended is to change without an effect. -/
theorem extends_iff_changed : h.Extends h' ↔ h.Changed .none h' := by
  constructor
  · intro hx
    exact ⟨h', hx, trivial, ⟨rfl, rfl, rfl⟩⟩
  · rintro ⟨g, hx, -, hs⟩
    exact hx.trans hs.extends

theorem Extends.trans_changed (a : h.Extends h') {e : Effect} (b : h'.Changed e h'') :
    h.Changed e h'' := by
  obtain ⟨g, hx, hf, hs⟩ := b
  exact ⟨g, a.trans hx, hf.of_extends a, hs⟩

theorem Changed.trans_sameCells {e : Effect} (a : h.Changed e h') (b : h'.SameCells h'') :
    h.Changed e h'' := by
  obtain ⟨g, hx, hf, hs⟩ := a
  exact ⟨g, hx, hf, b.quantities.trans hs.quantities, b.holdings.trans hs.holdings,
    b.settings.trans hs.settings⟩

/-- What was there is there after a change. -/
theorem Changed.allLive {e : Effect} (c : h.Changed e h') {os : List Ref} (ho : h.AllLive os) :
    h'.AllLive os := by
  obtain ⟨g, hx, -, hs⟩ := c
  intro o hm
  exact hs.extends.isLive ((isLive_after e).mpr (hx.isLive (ho o hm)))

end Heap

/-! ## 2. Sound worlds -/

/-- What every world of a script satisfies: its heap is sound, and the objects that the variables and
the settings in use refer to are there. -/
structure World.Sound (w : World) : Prop where
  heap : w.heap.Sound
  bound : ∀ b ∈ w.bindings, w.heap.AllLive b.2.value.objects
  current : ∀ r, w.current = some r → r < w.heap.settings.next

theorem World.sound_initial : World.initial.Sound :=
  ⟨Heap.sound_empty, by simp [World.initial], by simp [World.initial]⟩

/-- Objects were added and nothing else happened to objects and variables. -/
structure World.Grown (w w' : World) : Prop where
  heap : w.heap.Extends w'.heap
  bindings : w'.bindings = w.bindings
  sound : w'.Sound

/-- Objects were added, and then one effect took place; nothing else happened to the variables. -/
structure World.Changed (w : World) (e : Effect) (w' : World) : Prop where
  heap : w.heap.Changed e w'.heap
  bindings : w'.bindings = w.bindings
  sound : w'.Sound

namespace World

variable {w w' w'' : World}

theorem Grown.refl (hw : w.Sound) : w.Grown w := ⟨Heap.Extends.refl _, rfl, hw⟩

theorem Grown.trans (a : w.Grown w') (b : w'.Grown w'') : w.Grown w'' :=
  ⟨a.heap.trans b.heap, b.bindings.trans a.bindings, b.sound⟩

theorem Grown.trans_changed (a : w.Grown w') {e : Effect} (b : w'.Changed e w'') :
    w.Changed e w'' :=
  ⟨a.heap.trans_changed b.heap, b.bindings.trans a.bindings, b.sound⟩

/-- To grow is to change without an effect. -/
theorem grown_iff_changed : w.Grown w' ↔ w.Changed .none w' := by
  constructor
  · intro h
    exact ⟨Heap.extends_iff_changed.mp h.heap, h.bindings, h.sound⟩
  · intro h
    exact ⟨Heap.extends_iff_changed.mpr h.heap, h.bindings, h.sound⟩

/-- What was there is there in a world that has grown. -/
theorem Grown.allLive (h : w.Grown w') {os : List Ref} (ho : w.heap.AllLive os) :
    w'.heap.AllLive os :=
  h.heap.allLive ho

/-- What was there is there after a change. -/
theorem Changed.allLive {e : Effect} (h : w.Changed e w') {os : List Ref} (ho : w.heap.AllLive os) :
    w'.heap.AllLive os :=
  h.heap.allLive ho

/-- A world whose heap was extended soundly has grown. -/
theorem Sound.grown (hw : w.Sound) (hx : w.heap.Extends w'.heap) (hs : w'.heap.Sound)
    (hb : w'.bindings = w.bindings) (hc : w'.current = w.current) : w.Grown w' := by
  refine ⟨hx, hb, hs, ?_, ?_⟩
  · intro b hm
    rw [hb] at hm
    exact hx.allLive (hw.bound b hm)
  · intro r hr
    rw [hc] at hr
    exact Nat.lt_of_lt_of_le (hw.current r hr) (Store.next_le_of_isPrefix hx.settings)

/-- A world with the same cells, variables and settings in use has grown. -/
theorem Sound.grown_of_same (hw : w.Sound) (hx : w.heap.SameCells w'.heap)
    (hb : w'.bindings = w.bindings) (hc : w'.current = w.current) : w.Grown w' :=
  hw.grown hx.extends (hw.heap.of_sameCells hx) hb hc

/-- A world that has grown, after an effect that fits, is a changed one. -/
theorem Grown.changed (hg : w.Grown w') {e : Effect} (he : e.Fits w.heap w'.heap) :
    w.Changed e { w' with heap := w'.heap.after e } := by
  refine ⟨⟨w'.heap, hg.heap, he, ⟨rfl, rfl, rfl⟩⟩, hg.bindings, hg.sound.heap.after he, ?_, ?_⟩
  · intro b hm o ho
    exact (Heap.isLive_after e).mpr (hg.sound.bound b hm o ho)
  · intro r hr
    exact (Heap.isLive_after (o := .settings r) e).mpr (hg.sound.current r hr)

theorem Sound.changed (hw : w.Sound) {e : Effect} (he : e.Fits w.heap w.heap) :
    w.Changed e { w with heap := w.heap.after e } :=
  (Grown.refl hw).changed he

end World

/-! ## 3. Confined acts -/

variable {α β : Type}

/-- **What a run may do.**  A result comes with one allowed effect, and its objects are there; a
failure only adds objects. -/
structure Act.Confined (x : Act α) (w : World) (allowed : Effect → Prop) (made : α → List Ref) :
    Prop where
  ok : ∀ a w', x w = .ok a w' → (∃ e, allowed e ∧ w.Changed e w') ∧ w'.heap.AllLive (made a)
  error : ∀ f w', x w = .error f w' → w.Grown w'

/-- The run only adds objects, whatever comes of it. -/
def Act.Grows (x : Act α) (w : World) (made : α → List Ref) : Prop :=
  x.Confined w (· = .none) made

namespace Act

variable {x : Act α} {f : α → Act β} {w : World} {allowed : Effect → Prop} {made : α → List Ref}
  {made' : β → List Ref}

theorem Grows.of_ok {a : α} {w' : World} (h : x.Grows w made) (hx : x w = .ok a w') :
    w.Grown w' ∧ w'.heap.AllLive (made a) := by
  obtain ⟨⟨e, rfl, hc⟩, hl⟩ := h.ok a w' hx
  exact ⟨World.grown_iff_changed.mpr hc, hl⟩

/-- More may be allowed. -/
theorem Confined.mono {allowed' : Effect → Prop} (h : x.Confined w allowed made)
    (hi : ∀ e, allowed e → allowed' e) : x.Confined w allowed' made := by
  refine ⟨?_, h.error⟩
  intro a w' hx
  obtain ⟨⟨e, he, hc⟩, hl⟩ := h.ok a w' hx
  exact ⟨⟨e, hi e he, hc⟩, hl⟩

/-- Only the run in this world counts. -/
theorem Confined.congr {y : Act α} (h : y.Confined w allowed made) (hxy : x w = y w) :
    x.Confined w allowed made :=
  ⟨fun a w' hx => h.ok a w' (hxy ▸ hx), fun f w' hx => h.error f w' (hxy ▸ hx)⟩

/-! ## 4. Results and failures -/

/-- A run that is known to give a result. -/
theorem confined_of_ok {a : α} {w' : World} {e : Effect} (hx : x w = .ok a w') (he : allowed e)
    (hc : w.Changed e w') (hl : w'.heap.AllLive (made a)) : x.Confined w allowed made := by
  refine ⟨?_, ?_⟩
  · intro b w'' h
    rw [hx] at h
    cases h
    exact ⟨⟨e, he, hc⟩, hl⟩
  · intro g w'' h
    rw [hx] at h
    cases h

/-- A run that is known to fail. -/
theorem confined_of_error {g : Fault} {w' : World} (hx : x w = .error g w') (hg : w.Grown w') :
    x.Confined w allowed made := by
  refine ⟨?_, ?_⟩
  · intro b w'' h
    rw [hx] at h
    cases h
  · intro g' w'' h
    rw [hx] at h
    cases h
    exact hg

/-- A run that is known to give a result in a world that has grown. -/
theorem grows_of_ok {a : α} {w' : World} (hx : x w = .ok a w') (hg : w.Grown w')
    (hl : w'.heap.AllLive (made a)) : x.Grows w made :=
  confined_of_ok hx rfl (World.grown_iff_changed.mp hg) hl

theorem grows_pure (hw : w.Sound) {a : α} (hl : w.heap.AllLive (made a)) :
    (pure a : Act α).Grows w made :=
  grows_of_ok rfl (World.Grown.refl hw) hl

theorem confined_throw (hw : w.Sound) (g : Fault) : (throw g : Act α).Confined w allowed made :=
  confined_of_error rfl (World.Grown.refl hw)

/-! ## 5. Sequences -/

theorem bind_of_ok {a : α} {w' : World} (hx : x w = .ok a w') : (x >>= f) w = f a w' := by
  show EStateM.bind x f w = f a w'
  unfold EStateM.bind
  rw [hx]

theorem bind_of_error {g : Fault} {w' : World} (hx : x w = .error g w') :
    (x >>= f) w = .error g w' := by
  show EStateM.bind x f w = .error g w'
  unfold EStateM.bind
  rw [hx]

/-- A sequence that gives a result has gone through a result of its first act. -/
theorem bind_eq_ok {b : β} {w' : World} (h : (x >>= f) w = .ok b w') :
    ∃ a w₁, x w = .ok a w₁ ∧ f a w₁ = .ok b w' := by
  cases hx : x w with
  | ok a w₁ =>
    rw [bind_of_ok hx] at h
    exact ⟨a, w₁, rfl, h⟩
  | error g w₁ =>
    rw [bind_of_error hx] at h
    cases h

/-- What follows a failure does not run. -/
theorem confined_throw_bind (hw : w.Sound) (g : Fault) :
    (throw g >>= f : Act β).Confined w allowed made' :=
  confined_of_error rfl (World.Grown.refl hw)

/-- **Sequences.**  The first act may only add objects; the second runs in the world that the first
left, where the objects of the first result are there. -/
theorem confined_bind_run (hx : x.Grows w made)
    (hf : ∀ a w', x w = .ok a w' → w.Grown w' → w'.heap.AllLive (made a) →
      (f a).Confined w' allowed made') :
    (x >>= f).Confined w allowed made' := by
  cases hr : x w with
  | error g w' => exact confined_of_error (bind_of_error hr) (hx.error g w' hr)
  | ok a w' =>
    obtain ⟨hg, hl⟩ := hx.of_ok hr
    have h := hf a w' hr hg hl
    refine ⟨?_, ?_⟩
    · intro b w'' hb
      rw [bind_of_ok hr] at hb
      obtain ⟨⟨e, he, hc⟩, hl'⟩ := h.ok b w'' hb
      exact ⟨⟨e, he, hg.trans_changed hc⟩, hl'⟩
    · intro g w'' hb
      rw [bind_of_ok hr] at hb
      exact hg.trans (h.error g w'' hb)

/-- The same without the run of the first act, which seldom matters. -/
theorem confined_bind (hx : x.Grows w made)
    (hf : ∀ a w', w.Grown w' → w'.heap.AllLive (made a) → (f a).Confined w' allowed made') :
    (x >>= f).Confined w allowed made' :=
  confined_bind_run hx fun a w' _ => hf a w'

/-- A result that is only turned into another keeps its effect. -/
theorem confined_map {g : α → β} (hx : x.Confined w allowed made)
    (hg : ∀ a (h : Heap), h.AllLive (made a) → h.AllLive (made' (g a))) :
    (x >>= fun a => pure (g a)).Confined w allowed made' := by
  cases hr : x w with
  | error k w' => exact confined_of_error (bind_of_error hr) (hx.error k w' hr)
  | ok a w' =>
    obtain ⟨⟨e, he, hc⟩, hl⟩ := hx.ok a w' hr
    exact confined_of_ok (bind_of_ok hr) he hc (hg a w'.heap hl)

/-! ## 6. Pure operations

A pure operation either gives a result, with which the run goes on in the same world, or it fails; the
report of a failed check is an event, not an object. -/

/-- The events that are reported of a failure. -/
def reports : Fault → List Event
  | .aborted a => if a.isAudited then [.checkFailed a] else []
  | _ => []

/-- The world after some events were reported. -/
def withEvents (w : World) (events : List Event) : World :=
  { w with journal := w.journal ++ events }

/-- **A failed operation** is reported and fails as it is. -/
theorem perform_error (g : Fault) (w : World) :
    (perform (.error g) : Act α) w = .error g (withEvents w (reports g)) := by
  have hnil : withEvents w [] = w := by
    simp only [withEvents, List.append_nil]
  cases g with
  | aborted a =>
    by_cases ha : a.isAudited = true
    · simp only [perform, reports, if_pos ha]
      rfl
    · simp only [perform, reports, if_neg ha]
      rw [hnil]
      rfl
  | _ =>
    simp only [perform, reports]
    rw [hnil]
    rfl

/-- An operation that gives a result changes nothing. -/
theorem perform_eq_ok {r : Except Fault α} {a : α} {w' : World} (h : perform r w = .ok a w') :
    r = .ok a ∧ w' = w := by
  cases r with
  | ok b =>
    cases h
    exact ⟨rfl, rfl⟩
  | error g =>
    rw [perform_error] at h
    cases h

theorem grown_withEvents (hw : w.Sound) (events : List Event) : w.Grown (withEvents w events) :=
  hw.grown_of_same ⟨rfl, rfl, rfl⟩ rfl rfl

/-- What a run comes to: the content of its result, or its failure. -/
def outcome (x : Act Item) (w : World) : Except Fault Datum :=
  match x w with
  | .ok v w' => .ok (w'.heap.datum v)
  | .error f _ => .error f

theorem outcome_of_ok {x : Act Item} {w w' : World} {v : Item} (h : x w = .ok v w') :
    x.outcome w = .ok (w'.heap.datum v) := by
  unfold outcome
  rw [h]

theorem outcome_of_error {x : Act Item} {w w' : World} {g : Fault} (h : x w = .error g w') :
    x.outcome w = .error g := by
  unfold outcome
  rw [h]

/-- The outcome of what follows a pure operation. -/
theorem outcome_perform {r : Except Fault α} {f : α → Act Item} :
    (perform r >>= f).outcome w = r >>= fun a => (f a).outcome w := by
  cases r with
  | ok a => rfl
  | error g => exact outcome_of_error (bind_of_error (perform_error g w))

/-- The outcome of what follows a result. -/
theorem outcome_bind_of_ok {x : Act α} {f : α → Act Item} {w w' : World} {a : α}
    (h : x w = .ok a w') : (x >>= f).outcome w = (f a).outcome w' := by
  unfold outcome
  rw [bind_of_ok h]

theorem grows_perform {r : Except Fault α} (hw : w.Sound)
    (h : ∀ a, r = .ok a → w.heap.AllLive (made a)) : (perform r).Grows w made := by
  cases r with
  | ok a => exact grows_pure hw (h a rfl)
  | error e => exact confined_of_error (perform_error e w) (grown_withEvents hw _)

/-- What follows a pure operation may use that the operation succeeded. -/
theorem confined_perform {r : Except Fault α} (hw : w.Sound)
    (h : ∀ a, r = .ok a → (f a).Confined w allowed made') :
    (perform r >>= f).Confined w allowed made' := by
  cases r with
  | ok a => exact (h a rfl).congr rfl
  | error e => exact confined_of_error (bind_of_error (perform_error e w)) (grown_withEvents hw _)

theorem confined_performAbort {r : Except Abort α} (hw : w.Sound)
    (h : ∀ a, r = .ok a → (f a).Confined w allowed made') :
    (performAbort r >>= f).Confined w allowed made' :=
  confined_perform hw fun a ha => h a (liftAbort_eq_ok_iff.mp ha)

/-! ## 7. Reading and reporting -/

theorem confined_quantity {f : Quantity → Act β} {r : Nat}
    (h : (f (w.heap.quantity r)).Confined w allowed made') :
    (quantity r >>= f).Confined w allowed made' :=
  h.congr rfl

theorem confined_holding {f : Holding → Act β} {r : Nat}
    (h : (f (w.heap.holding r)).Confined w allowed made') :
    (holding r >>= f).Confined w allowed made' :=
  h.congr rfl

theorem confined_quantityCell {f : QuantityCell → Act β} {r : Nat}
    (h : (f (w.heap.quantities.get r)).Confined w allowed made') :
    (quantityCell r >>= f).Confined w allowed made' :=
  h.congr rfl

theorem confined_holdingCell {f : HoldingCell → Act β} {r : Nat}
    (h : (f (w.heap.holdings.get r)).Confined w allowed made') :
    (holdingCell r >>= f).Confined w allowed made' :=
  h.congr rfl

theorem confined_datum {f : Datum → Act β} {v : Item}
    (h : (f (w.heap.datum v)).Confined w allowed made') :
    (datum v >>= f).Confined w allowed made' :=
  h.congr rfl

theorem confined_get {f : World → Act β} (h : (f w).Confined w allowed made') :
    (get >>= f).Confined w allowed made' :=
  h.congr rfl

theorem grows_set {w' : World} (hg : w.Grown w') : (set w' : Act PUnit).Grows w fun _ => [] :=
  grows_of_ok rfl hg (Heap.allLive_nil _)

theorem grows_report (hw : w.Sound) (e : Event) : (report e).Grows w fun _ => [] :=
  grows_of_ok rfl (hw.grown_of_same ⟨rfl, rfl, rfl⟩ rfl rfl) (by simp)

theorem grows_notify (hw : w.Sound) (notices : List String) :
    (notify notices).Grows w fun _ => [] :=
  grows_of_ok rfl (hw.grown_of_same ⟨rfl, rfl, rfl⟩ rfl rfl) (by simp)

end Act

end Holdings.Ledger
