/-
# A step that fails changes nothing

A step may fail anywhere: while an operand is built, in a check of arguments, inside checked
arithmetic, in the middle of reading bytes.  Objects that were made before are left behind, but
nothing refers to them.  Everything that was there before has the content it had, every holding has the
quantity it had, and every variable is bound to what it was bound to.

This needs no case for each kind of failure.  An act changes something only when it can no longer fail
(`Act.Confined.error`), so a failed run has only extended the heap; and in a sound heap an extension
keeps the content of every object that is there (`Heap.Sound.entity_eq`), also of a holding, whose
content includes that of another object.
-/
import Holdings.Proofs.Ledger.Running

namespace Holdings.Ledger

/-- Two worlds agree on all that is in the first: the objects, what they consist of, and the variables. -/
structure World.Unchanged (w w' : World) : Prop where
  /-- Every object is still there, with its content. -/
  content : ∀ o : Ref, o.IsLive w.heap → o.IsLive w'.heap ∧ w'.heap.entity o = w.heap.entity o
  /-- A quantity has its amount and its symbol, which is the same object. -/
  quantities : ∀ r, r < w.heap.quantities.next → w'.heap.quantities.get r = w.heap.quantities.get r
  /-- A holding has its quantity and its owner, which are the same objects. -/
  holdings : ∀ r, r < w.heap.holdings.next → w'.heap.holdings.get r = w.heap.holdings.get r
  /-- Every variable is bound to the same value, and there is no other variable. -/
  bindings : w'.bindings = w.bindings
  /-- The value of a variable has the content it had, with all objects in it. -/
  values : ∀ b ∈ w.bindings, w'.heap.datum b.2.value = w.heap.datum b.2.value

/-- What only grows from a sound world leaves all that was there unchanged. -/
theorem World.Sound.unchanged {w w' : World} (hw : w.Sound) (hg : w.Grown w') : w.Unchanged w' where
  content := fun _ ho => ⟨hg.heap.isLive ho, hw.heap.entity_eq hg.heap ho⟩
  quantities := fun _ hr => Store.get_eq_of_isPrefix hg.heap.quantities hr
  holdings := fun _ hr => Store.get_eq_of_isPrefix hg.heap.holdings hr
  bindings := hg.bindings
  values := fun b hb => hw.heap.datum_eq hg.heap (hw.bound b hb)

/-- **A step that fails changes nothing**, in any reachable world and with any failure. -/
theorem unchanged_of_failure {steps : List Step} {s : Step} {f : Fault}
    (h : (s.run (World.initial.after steps)).1 = .error f) :
    (World.initial.after steps).Unchanged (s.run (World.initial.after steps)).2 := by
  have hw : (World.initial.after steps).Sound := World.sound_initial.after steps
  rcases Step.run_spec hw s with ⟨f', w', hr, hg⟩ | ⟨v, w', hr, -⟩
  · rw [hr]
    exact hw.unchanged hg
  · rw [hr] at h
    cases h

/-- A sum of quantities of different symbols, of which the second is an operand that the failing step has
built. -/
theorem unchanged_of_different_symbols :
    (World.initial.after
      [⟨.eval (.quantity (.plain (.int 1)) (.plain (.text "A")) (.plain (.int 0))), some "q"⟩]).Unchanged
      ((Step.mk (.update .add "q" (.quantity (.plain (.int 2)) (.plain (.text "B"))
        (.plain (.int 0)))) none).run (World.initial.after
          [⟨.eval (.quantity (.plain (.int 1)) (.plain (.text "A")) (.plain (.int 0))),
            some "q"⟩])).2 :=
  unchanged_of_failure (f := .aborted (.symbolMismatch .add)) (by rfl)

end Holdings.Ledger
