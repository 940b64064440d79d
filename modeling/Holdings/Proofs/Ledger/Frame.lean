/-
# What a step leaves as it was

A step that succeeds adds objects and changes at most one thing that was there (`Step.run_spec`).  Which
one that is can be read off the command: only an operator in place, a method that assigns and the
setting of an amount change the amount of a quantity, and only the setting of a quantity changes which
one a holding has (`Command.SetsAmount`, `Command.SetsQuantity`).  The command names the object itself,
so it is one object, however many names it has and whatever the other operands are.

The argument needs no case for each operation.  What was there reads as if nothing had been added
(`Heap.Changed.get_quantity`), so only the effect is left to be compared with the object; and the effect is
one that the command allows.

A ratio of quantities has no form in place: the operator gives a plain integer, to which the variable is
bound, and the quantity is left alone.
-/
import Holdings.Proofs.Ledger.Arithmetic

namespace Holdings.Ledger

open Act

/-! ## 1. Reading a heap after a change -/

namespace Heap

variable {h h' : Heap} {e : Effect}

/-- A quantity that was there reads as if nothing had been added. -/
theorem Changed.get_quantity (c : h.Changed e h') {r : Nat} (hr : r < h.quantities.next) :
    h'.quantities.get r = (h.after e).quantities.get r := by
  obtain ⟨g, hx, -, hs⟩ := c
  have hg : g.quantities.get r = h.quantities.get r := Store.get_eq_of_isPrefix hx.quantities hr
  have hlt : r < g.quantities.next := Nat.lt_of_lt_of_le hr (Store.next_le_of_isPrefix hx.quantities)
  rw [hs.quantities]
  cases e with
  | amount s a =>
    simp only [Heap.after, Heap.setAmount]
    by_cases hsr : s = r
    · rw [hsr, Store.get_put_self hlt, Store.get_put_self hr, hg]
    · rw [Store.get_put_ne hsr, Store.get_put_ne hsr, hg]
  | none => exact hg
  | content o q => exact hg
  | settings s t => exact hg

/-- A holding that was there reads as if nothing had been added. -/
theorem Changed.get_holding (c : h.Changed e h') {o : Nat} (ho : o < h.holdings.next) :
    h'.holdings.get o = (h.after e).holdings.get o := by
  obtain ⟨g, hx, -, hs⟩ := c
  have hg : g.holdings.get o = h.holdings.get o := Store.get_eq_of_isPrefix hx.holdings ho
  have hlt : o < g.holdings.next := Nat.lt_of_lt_of_le ho (Store.next_le_of_isPrefix hx.holdings)
  rw [hs.holdings]
  cases e with
  | content p q =>
    simp only [Heap.after, Heap.setQuantity]
    by_cases hpo : p = o
    · rw [hpo, Store.get_put_self hlt, Store.get_put_self ho, hg]
    · rw [Store.get_put_ne hpo, Store.get_put_ne hpo, hg]
  | none => exact hg
  | amount r a => exact hg
  | settings s t => exact hg

/-- A quantity whose amount was not set is the same as before. -/
theorem Changed.quantity_eq (c : h.Changed e h') {r : Nat} (hr : r < h.quantities.next)
    (he : ∀ a, e ≠ .amount r a) : h'.quantities.get r = h.quantities.get r := by
  rw [c.get_quantity hr]
  cases e with
  | amount s a =>
    have hsr : s ≠ r := fun hs => he a (by rw [hs])
    exact Store.get_put_ne hsr _
  | none => rfl
  | content o q => rfl
  | settings s t => rfl

/-- A holding that was given no other quantity is the same as before. -/
theorem Changed.holding_eq (c : h.Changed e h') {o : Nat} (ho : o < h.holdings.next)
    (he : ∀ q, e ≠ .content o q) : h'.holdings.get o = h.holdings.get o := by
  rw [c.get_holding ho]
  cases e with
  | content p q =>
    have hpo : p ≠ o := fun hp => he q (by rw [hp])
    exact Store.get_put_ne hpo _
  | none => rfl
  | amount r a => rfl
  | settings s t => rfl

/-- No change reaches the symbol of a quantity. -/
theorem Changed.symbol_eq (c : h.Changed e h') {r : Nat} (hr : r < h.quantities.next) :
    (h'.quantities.get r).symbol = (h.quantities.get r).symbol := by
  by_cases he : ∃ a, e = .amount r a
  · obtain ⟨a, rfl⟩ := he
    rw [c.get_quantity hr]
    simp only [Heap.after, Heap.setAmount]
    rw [Store.get_put_self hr]
  · rw [c.quantity_eq hr fun a ha => he ⟨a, ha⟩]

/-- No change reaches the owner of a holding. -/
theorem Changed.owner_eq (c : h.Changed e h') {o : Nat} (ho : o < h.holdings.next) :
    (h'.holdings.get o).owner = (h.holdings.get o).owner := by
  by_cases he : ∃ q, e = .content o q
  · obtain ⟨q, rfl⟩ := he
    rw [c.get_holding ho]
    simp only [Heap.after, Heap.setQuantity]
    rw [Store.get_put_self ho]
  · rw [c.holding_eq ho fun q hq => he ⟨q, hq⟩]

/-- All quantities, holdings, symbols, issued symbols and identities are the same as before: they are
there, consist of the same objects and have the same content. -/
structure Kept (h h' : Heap) : Prop where
  quantities : ∀ r, r < h.quantities.next → h'.quantities.get r = h.quantities.get r
  holdings : ∀ o, o < h.holdings.next → h'.holdings.get o = h.holdings.get o
  content : ∀ o : Ref, o.IsLive h → (∀ r, o ≠ .settings r) →
    o.IsLive h' ∧ h'.entity o = h.entity o

/-- The content of objects is made of their cells. -/
theorem Sound.kept (s : h.Sound) (c : h.Changed e h')
    (hq : ∀ r, r < h.quantities.next → h'.quantities.get r = h.quantities.get r)
    (hh : ∀ o, o < h.holdings.next → h'.holdings.get o = h.holdings.get o) : h.Kept h' := by
  refine ⟨hq, hh, ?_⟩
  intro o ho hn
  have hl : h'.AllLive [o] := c.allLive (by simpa using ho)
  refine ⟨by simpa using hl, ?_⟩
  cases o with
  | quantity r => simp only [Heap.entity, Heap.quantity, hq r ho]
  | holding r =>
    simp only [Heap.entity, Heap.holding, Heap.quantity, hh r ho, hq _ (s.inner_isLive ho)]
  | settings r => exact absurd rfl (hn r)
  | symbol t => rfl
  | identity t => rfl
  | issuedSymbol t a b => rfl

end Heap

/-! ## 2. One command sets one thing -/

section Commands

variable {w : World} {c : Command}

/-- A command sets the amount of one quantity only. -/
theorem Command.SetsAmount.unique {r t : Nat} (hr : c.SetsAmount w r) (ht : c.SetsAmount w t) :
    r = t := by
  cases c with
  | update op name b =>
    obtain ⟨v, u, w₁, hv, -, -, hp⟩ := hr
    obtain ⟨v', u', w₂, hv', -, -, hp'⟩ := ht
    rw [hv] at hv'
    obtain rfl := Option.some.inj hv'
    rw [hp] at hp'
    exact Option.some.inj hp'
  | call on m args =>
    obtain ⟨-, v, w₁, hv, hp⟩ := hr
    obtain ⟨-, v', w₂, hv', hp'⟩ := ht
    rw [hv] at hv'
    cases hv'
    rw [hp] at hp'
    exact Option.some.inj hp'
  | set on field value =>
    obtain ⟨-, w₁, hv⟩ := hr
    obtain ⟨-, w₂, hv'⟩ := ht
    rw [hv] at hv'
    cases hv'
    rfl
  | _ => exact hr.elim

/-- A command gives one holding only another quantity. -/
theorem Command.SetsQuantity.unique {o p : Nat} (ho : c.SetsQuantity w o)
    (hp : c.SetsQuantity w p) : o = p := by
  cases c with
  | set on field value =>
    obtain ⟨-, w₁, hv⟩ := ho
    obtain ⟨-, w₂, hv'⟩ := hp
    rw [hv] at hv'
    cases hv'
    rfl
  | _ => exact ho.elim

/-- A command that gives a holding another quantity sets no amount. -/
theorem Command.SetsQuantity.not_setsAmount {o r : Nat} (ho : c.SetsQuantity w o) :
    ¬ c.SetsAmount w r := by
  intro hr
  cases c with
  | set on field value =>
    have hf : field = "quantity" := ho.1
    rw [hr.1] at hf
    exact absurd hf (by decide)
  | _ => exact ho.elim

/-! ## 3. Ratios in place -/

/-- An update by a ratio of quantities binds the variable to the integer. -/
theorem update_ratio_eq_ok {w₁ w₂ : World} {op : BinaryOp} {name : String} {b : Term} {v : Binding}
    {r t : Nat} {x : Item} (hop : op = .div ∨ op = .floorDiv)
    (hl : w.bindings.lookup name = some v) (hv : v.value = .object (.quantity r))
    (hb : b.eval w = .ok (.object (.quantity t)) w₁)
    (hx : (Command.update op name b).act w = .ok x w₂) :
    ∃ n o, x = .int n ∧ w₂.bindings = Value.putEntry name ⟨.int n, o⟩ w₁.bindings := by
  have hrun : updateVariable op name v (.object (.quantity t)) w₁ = .ok x w₂ := by
    rw [← hx]
    show _ = (readBinding name >>= fun v => b.eval >>= fun u => updateVariable op name v u) w
    rw [bind_of_ok (readBinding_of_some hl), bind_of_ok hb]
  have hplain : operateInPlace op v.value (.object (.quantity t)) w₁ =
      plainResult w₁ ((w₁.heap.quantity r).exactRatio (w₁.heap.quantity t)) := by
    rw [hv]
    rcases hop with rfl | rfl
    · exact (ratiosExact w₁ r t).divInPlace
    · exact (ratiosExact w₁ r t).floorDivInPlace
  have hextend : extend? op v.value (.object (.quantity t)) = none := by
    rw [hv]
    rcases hop with rfl | rfl <;> rfl
  unfold updateVariable at hrun
  rw [hextend] at hrun
  obtain ⟨y, w', hy, hrest⟩ := bind_eq_ok hrun
  rw [hplain] at hy
  cases hq : (w₁.heap.quantity r).exactRatio (w₁.heap.quantity t) with
  | ok n =>
    rw [hq] at hy
    cases hy
    cases hrest
    exact ⟨n, _, rfl, rfl⟩
  | error f =>
    rw [hq] at hy
    cases hy

end Commands

/-! ## 4. Steps that succeed -/

/-- What a step that gave a value leaves of the world in which it was run. -/
structure World.Framed (w : World) (s : Step) (v : Item) (w' : World) : Prop where
  /-- A quantity keeps its symbol, which is the same object. -/
  symbols : ∀ r, r < w.heap.quantities.next →
    (w'.heap.quantities.get r).symbol = (w.heap.quantities.get r).symbol
  /-- A holding keeps its owner, which is the same object. -/
  owners : ∀ o, o < w.heap.holdings.next →
    (w'.heap.holdings.get o).owner = (w.heap.holdings.get o).owner
  /-- A quantity that has another amount is the left operand of a command that sets amounts. -/
  amounts : ∀ r, r < w.heap.quantities.next →
    (w'.heap.quantity r).amount ≠ (w.heap.quantity r).amount → s.command.SetsAmount w.cleared r
  /-- At most one quantity has another amount. -/
  one_amount : ∀ r t, r < w.heap.quantities.next → t < w.heap.quantities.next →
    (w'.heap.quantity r).amount ≠ (w.heap.quantity r).amount →
    (w'.heap.quantity t).amount ≠ (w.heap.quantity t).amount → r = t
  /-- A holding that has another quantity is the target of a command that sets it. -/
  contents : ∀ o, o < w.heap.holdings.next →
    w'.heap.holdings.get o ≠ w.heap.holdings.get o → s.command.SetsQuantity w.cleared o
  /-- Setting an amount leaves all other quantities and all holdings alone. -/
  by_amount : ∀ r, s.command.SetsAmount w.cleared r →
    (∀ t, t < w.heap.quantities.next → t ≠ r →
      w'.heap.quantities.get t = w.heap.quantities.get t) ∧
    ∀ o, o < w.heap.holdings.next → w'.heap.holdings.get o = w.heap.holdings.get o
  /-- Setting the quantity of a holding leaves all quantities and all other holdings alone. -/
  by_quantity : ∀ o, s.command.SetsQuantity w.cleared o →
    (∀ r, r < w.heap.quantities.next → w'.heap.quantities.get r = w.heap.quantities.get r) ∧
    ∀ p, p < w.heap.holdings.next → p ≠ o → w'.heap.holdings.get p = w.heap.holdings.get p
  /-- Every other step leaves everything alone. -/
  otherwise : (∀ r, ¬ s.command.SetsAmount w.cleared r) →
    (∀ o, ¬ s.command.SetsQuantity w.cleared o) → w.heap.Kept w'.heap
  /-- Dividing a variable in place by a quantity is such a step, and binds the variable to an integer. -/
  by_ratio : ∀ op name b, s.command = .update op name b → op = .div ∨ op = .floorDiv →
    ∀ x r t w₁, w.bindings.lookup name = some x → x.value = .object (.quantity r) →
      b.eval w.cleared = .ok (.object (.quantity t)) w₁ →
      w.heap.Kept w'.heap ∧ ∃ n o, v = .int n ∧ w'.bindings.lookup name = some ⟨.int n, o⟩

section Steps

variable {w : World} {s : Step} {v : Item}

/-- The variable that a ratio was bound to is still bound to it after the step has bound its result. -/
theorem Step.lookup_ratio (hw : w.Sound) (hv : (s.run w).1 = .ok v) {op : BinaryOp} {name : String}
    {b : Term} (hs : s.command = .update op name b) (hop : op = .div ∨ op = .floorDiv)
    {x : Binding} {r t : Nat} {w₁ : World} (hl : w.bindings.lookup name = some x)
    (hx : x.value = .object (.quantity r))
    (hb : b.eval w.cleared = .ok (.object (.quantity t)) w₁) :
    ∃ n o, v = .int n ∧ (s.run w).2.bindings.lookup name = some ⟨.int n, o⟩ := by
  rcases Step.run_cases hw s with ⟨f, w', -, hr⟩ | ⟨y, w', n, bs, hact, hr, hbs⟩
  · rw [hr] at hv
    cases hv
  · rw [hr] at hv
    cases hv
    rw [hs] at hact
    obtain ⟨k, o, rfl, hbind⟩ := update_ratio_eq_ok (w := w.cleared) hop hl hx hb hact
    have hlookup : w'.bindings.lookup name = some ⟨.int k, o⟩ := by
      rw [hbind, Value.lookup_putEntry, if_pos rfl]
    rw [hr]
    rcases hbs with rfl | ⟨name', p, rfl⟩
    · exact ⟨k, o, rfl, hlookup⟩
    · rw [Value.lookup_putEntry]
      split
      · exact ⟨k, p, rfl, rfl⟩
      · exact ⟨k, o, rfl, hlookup⟩

/-- Dividing by a quantity has no form in place. -/
theorem BinaryOp.isAssigning_ratio {op : BinaryOp} (hop : op = .div ∨ op = .floorDiv) (x : Item)
    (t : Nat) : op.isAssigning x (.object (.quantity t)) = false := by
  rcases hop with rfl | rfl
  all_goals
    unfold BinaryOp.isAssigning
    split <;> simp_all

/-- A variable that is divided in place by a quantity has its quantity left alone. -/
theorem Command.update_ratio_not_setsAmount {op : BinaryOp} {name : String} {b : Term}
    (hop : op = .div ∨ op = .floorDiv) {t : Nat} {w₁ : World}
    (hb : b.eval w = .ok (.object (.quantity t)) w₁) (r : Nat) :
    ¬ (Command.update op name b).SetsAmount w r := by
  rintro ⟨x, u, w₂, -, hu, ha, -⟩
  rw [hb] at hu
  cases hu
  rw [BinaryOp.isAssigning_ratio hop] at ha
  cases ha

/-- A step that succeeds in a sound world leaves everything alone but what its command sets. -/
theorem World.Sound.framed (hw : w.Sound) (hv : (s.run w).1 = .ok v) :
    w.Framed s v (s.run w).2 := by
  obtain ⟨w', hrun, e, he, hc⟩ : ∃ w', s.run w = (.ok v, w') ∧
      ∃ e, s.command.Allows w.cleared e ∧ w.heap.Changed e w'.heap := by
    rcases Step.run_spec hw s with ⟨f, w', hr, -⟩ | ⟨u, w', hr, -, -, hc⟩
    · rw [hr] at hv
      cases hv
    · rw [hr] at hv
      cases hv
      exact ⟨w', hr, hc⟩
  have sets : ∀ r, r < w.heap.quantities.next → ¬ s.command.SetsAmount w.cleared r →
      w'.heap.quantities.get r = w.heap.quantities.get r := by
    intro r hr hn
    refine hc.quantity_eq hr fun a ha => hn ?_
    rw [ha] at he
    exact he
  have gives : ∀ o, o < w.heap.holdings.next → ¬ s.command.SetsQuantity w.cleared o →
      w'.heap.holdings.get o = w.heap.holdings.get o := by
    intro o ho hn
    refine hc.holding_eq ho fun q hq => hn ?_
    rw [hq] at he
    exact he
  have amounts : ∀ r, r < w.heap.quantities.next →
      (w'.heap.quantity r).amount ≠ (w.heap.quantity r).amount →
      s.command.SetsAmount w.cleared r := by
    intro r hr hne
    by_contra hn
    refine hne ?_
    unfold Heap.quantity
    rw [sets r hr hn]
  have otherwise : (∀ r, ¬ s.command.SetsAmount w.cleared r) →
      (∀ o, ¬ s.command.SetsQuantity w.cleared o) → w.heap.Kept w'.heap := fun hr ho =>
    hw.heap.kept hc (fun r hlt => sets r hlt (hr r)) fun o hlt => gives o hlt (ho o)
  have hlast : (s.run w).2 = w' := by rw [hrun]
  rw [hlast]
  refine ⟨fun r hr => hc.symbol_eq hr, fun o ho => hc.owner_eq ho, amounts, ?_, ?_, ?_, ?_,
    otherwise, ?_⟩
  · intro r t hr ht hr' ht'
    exact (amounts r hr hr').unique (amounts t ht ht')
  · intro o ho hne
    by_contra hn
    exact hne (gives o ho hn)
  · intro r hr
    refine ⟨fun t ht hne => sets t ht fun ht' => hne (ht'.unique hr), fun o ho => gives o ho ?_⟩
    exact fun ho' => ho'.not_setsAmount hr
  · intro o ho
    refine ⟨fun r hr => sets r hr ho.not_setsAmount, fun p hp hne => gives p hp ?_⟩
    exact fun hp' => hne (hp'.unique ho)
  · intro op name b hs hop x r t w₁ hl hx hb
    refine ⟨otherwise ?_ ?_, hlast ▸ Step.lookup_ratio hw hv hs hop hl hx hb⟩
    · rw [hs]
      exact Command.update_ratio_not_setsAmount hop hb
    · rw [hs]
      exact fun o ho => ho

end Steps

/-- **A step that succeeds changes at most what its command names**, in every reachable world and whatever
its operands share. -/
theorem framed_of_success {steps : List Step} {s : Step} {v : Item}
    (h : (s.run (World.initial.after steps)).1 = .ok v) :
    (World.initial.after steps).Framed s v (s.run (World.initial.after steps)).2 :=
  (World.sound_initial.after steps).framed h

/-- The quantity of a holding, doubled through a variable of its own: both operands are one object. -/
theorem framed_of_doubled_quantity :
    ((Step.mk (.update .add "i" (.var "i")) none).run (World.initial.after
      [⟨.eval (.holding (.plain (.int 5)) (.plain (.text "A")) (.plain (.int 0)) (.plain (.int 1))),
          some "h"⟩,
        ⟨.get (.var "h") "quantity", some "i"⟩])).1 = .ok (.object (.quantity 1)) ∧
    (World.initial.after
      [⟨.eval (.holding (.plain (.int 5)) (.plain (.text "A")) (.plain (.int 0)) (.plain (.int 1))),
          some "h"⟩,
        ⟨.get (.var "h") "quantity", some "i"⟩]).Framed
      (Step.mk (.update .add "i" (.var "i")) none) (.object (.quantity 1))
      ((Step.mk (.update .add "i" (.var "i")) none).run (World.initial.after
        [⟨.eval (.holding (.plain (.int 5)) (.plain (.text "A")) (.plain (.int 0))
            (.plain (.int 1))), some "h"⟩,
          ⟨.get (.var "h") "quantity", some "i"⟩])).2 :=
  ⟨by rfl, framed_of_success (by rfl)⟩

end Holdings.Ledger
