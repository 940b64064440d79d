/-
# Violations in the order of their places

A contract that is written down has places: the keywords stand one after the other, and within a keyword
there may be more of them.  A place is the row of numbers that leads to it, so the order of the file is the
order of such rows.

What is reported of a value is first a relation between places and violations, without any order of its
own.  A list of violations lists it (`Lists`) if each report of the relation stands in it once, in the order of
the places.  There is at most one such list (`Lists.unique`).  To find it one goes through the parts
of the contract, and appends what each of them reports (`InTurn.lists`): this is what it means to look
into a contract depth first.
-/
import Mathlib.Data.List.Basic
import Mathlib.Order.Basic
import Holdings.Fault

namespace Holdings.Contract

/-- Reports of violations, each at the place of the contract that is broken. -/
abbrev Reporting := List Nat → Violation → Prop

variable {P Q : Reporting} {xs ys : List Violation} {α : Type}

/-! ## 1. Lists of reports -/

/-- The list has every report once, in the order of the places. -/
def Lists (P : Reporting) (xs : List Violation) : Prop :=
  ∃ placed : List (List Nat × Violation), placed.map Prod.snd = xs ∧
    (placed.map Prod.fst).Pairwise (· < ·) ∧ ∀ r x, (r, x) ∈ placed ↔ P r x

namespace Lists

/-- **There is only one list of the reports.** -/
theorem unique (hx : Lists P xs) (hy : Lists P ys) : xs = ys := by
  obtain ⟨ps, rfl, hps, hmem⟩ := hx
  obtain ⟨qs, rfl, hqs, hmem'⟩ := hy
  rw [List.pairwise_map] at hps hqs
  have hnodup : ∀ {l : List (List Nat × Violation)}, l.Pairwise (fun p q => p.1 < q.1) → l.Nodup :=
    fun h => h.imp fun hlt he => absurd (he ▸ hlt) (List.lt_irrefl _)
  have hperm : ps.Perm qs := by
    rw [List.perm_ext_iff_of_nodup (hnodup hps) (hnodup hqs)]
    rintro ⟨r, x⟩
    rw [hmem, hmem']
  have heq : ps = qs := by
    refine List.Perm.eq_of_pairwise (fun p q _ _ hpq hqp => ?_) hps hqs hperm
    exact absurd hqp (List.lt_asymm hpq)
  rw [heq]

theorem congr (hx : Lists P xs) (h : ∀ r x, P r x ↔ Q r x) : Lists Q xs := by
  obtain ⟨ps, hsnd, hps, hmem⟩ := hx
  exact ⟨ps, hsnd, hps, fun r x => (hmem r x).trans (h r x)⟩

/-- Nothing is reported. -/
theorem none (h : ∀ r x, ¬ P r x) : Lists P [] :=
  ⟨[], rfl, .nil, fun r x => iff_of_false List.not_mem_nil (h r x)⟩

/-- One violation is reported, at the place itself. -/
theorem one {y : Violation} (h : ∀ r x, P r x ↔ r = [] ∧ x = y) : Lists P [y] := by
  refine ⟨[([], y)], rfl, List.pairwise_singleton _ _, fun r x => ?_⟩
  rw [h, List.mem_singleton, Prod.mk.injEq]

/-- The same under a condition. -/
theorem oneIf {c : Prop} [Decidable c] {y : Violation}
    (h : ∀ r x, P r x ↔ r = [] ∧ c ∧ x = y) : Lists P (if c then [y] else []) := by
  split <;> rename_i hc
  · refine one fun r x => ?_
    rw [h, and_iff_right hc]
  · refine none fun r x hP => ?_
    exact hc ((h r x).mp hP).2.1

/-- Reports seen from further out. -/
theorem map (hx : Lists P xs) (f : Violation → Violation) :
    Lists (fun r y => ∃ x, P r x ∧ y = f x) (xs.map f) := by
  obtain ⟨ps, rfl, hps, hmem⟩ := hx
  refine ⟨ps.map fun p => (p.1, f p.2), ?_, ?_, fun r y => ?_⟩
  · rw [List.map_map, List.map_map]
    rfl
  · rw [List.map_map]
    exact hps
  · rw [List.mem_map]
    constructor
    · rintro ⟨⟨r', x⟩, hp, he⟩
      obtain ⟨rfl, rfl⟩ := Prod.mk.inj he
      exact ⟨x, (hmem r' x).mp hp, rfl⟩
    · rintro ⟨x, hP, rfl⟩
      exact ⟨(r, x), (hmem r x).mpr hP, rfl⟩

end Lists

/-! ## 2. Parts of a contract -/

/-- What the parts of a contract report, each at the places that start with its own number. -/
def Parts (f : α → Reporting) (start : Nat) (parts : List α) : Reporting := fun r x =>
  ∃ i r' a, r = (start + i) :: r' ∧ parts[i]? = some a ∧ f a r' x

/-- The violations that the parts report, one part after the other. -/
inductive InTurn (f : α → Reporting) : List α → List Violation → Prop
  | nil : InTurn f [] []
  | cons {a : α} {parts : List α} {xs ys : List Violation} (first : Lists (f a) xs)
      (rest : InTurn f parts ys) : InTurn f (a :: parts) (xs ++ ys)

theorem parts_cons {f : α → Reporting} {start : Nat} {a : α} {parts : List α} {r : List Nat}
    {x : Violation} : Parts f start (a :: parts) r x ↔
      (∃ r', r = start :: r' ∧ f a r' x) ∨ Parts f (start + 1) parts r x := by
  constructor
  · rintro ⟨i, r', b, rfl, hb, hf⟩
    cases i with
    | zero =>
      rw [List.getElem?_cons_zero, Option.some.injEq] at hb
      exact Or.inl ⟨r', rfl, hb ▸ hf⟩
    | succ i =>
      rw [List.getElem?_cons_succ] at hb
      exact Or.inr ⟨i, r', b, by rw [Nat.add_right_comm, Nat.add_assoc], hb, hf⟩
  · rintro (⟨r', rfl, hf⟩ | ⟨i, r', b, rfl, hb, hf⟩)
    · exact ⟨0, r', a, rfl, rfl, hf⟩
    · exact ⟨i + 1, r', b, by rw [Nat.add_right_comm, Nat.add_assoc], hb, hf⟩

namespace InTurn

variable {f : α → Reporting} {parts parts' : List α}

/-- **Going through the parts in turn lists what they report.**  The places of a part start with its number,
so they all come before those of the next one. -/
theorem lists (h : InTurn f parts xs) (start : Nat) : Lists (Parts f start parts) xs := by
  induction h generalizing start with
  | nil =>
    refine Lists.none ?_
    rintro r x ⟨i, r', a, -, ha, -⟩
    cases ha
  | cons first rest ih =>
    obtain ⟨ps, rfl, hps, hmem⟩ := first
    obtain ⟨qs, rfl, hqs, hmem'⟩ := ih (start + 1)
    rw [List.pairwise_map] at hps hqs
    refine ⟨ps.map (fun p => (start :: p.1, p.2)) ++ qs, ?_, ?_, fun r x => ?_⟩
    · rw [List.map_append, List.map_map]
      rfl
    · rw [List.pairwise_map, List.pairwise_append, List.pairwise_map]
      refine ⟨hps.imp fun hlt => List.cons_lt_cons_iff.mpr (Or.inr ⟨rfl, hlt⟩), hqs, ?_⟩
      -- the places of this part start with its number, those of the others with a larger one
      intro p hp q hq
      obtain ⟨p', -, rfl⟩ := List.mem_map.mp hp
      obtain ⟨i, r', a, hr, -⟩ := (hmem' q.1 q.2).mp hq
      rw [hr]
      exact List.cons_lt_cons_iff.mpr (Or.inl (by omega))
    · rw [List.mem_append, List.mem_map, hmem', parts_cons]
      refine or_congr_left ⟨?_, ?_⟩
      · rintro ⟨⟨r', y⟩, hp, he⟩
        obtain ⟨rfl, rfl⟩ := Prod.mk.inj he
        exact ⟨r', rfl, (hmem r' y).mp hp⟩
      · rintro ⟨r', rfl, hf⟩
        exact ⟨(r', x), (hmem r' x).mpr hf, rfl⟩

theorem append (hx : InTurn f parts xs) (hy : InTurn f parts' ys) :
    InTurn f (parts ++ parts') (xs ++ ys) := by
  induction hx with
  | nil => exact hy
  | cons first rest ih =>
    rw [List.cons_append, List.append_assoc]
    exact .cons first ih

/-- Parts that report nothing. -/
theorem silent (h : ∀ a ∈ parts, ∀ r x, ¬ f a r x) : InTurn f parts [] := by
  induction parts with
  | nil => exact .nil
  | cons a parts ih =>
    obtain ⟨ha, hrest⟩ := List.forall_mem_cons.mp h
    exact .cons (Lists.none ha) (ih hrest)

/-- The first part reports nothing. -/
theorem skip {a : α} (first : Lists (f a) []) (rest : InTurn f parts xs) : InTurn f (a :: parts) xs :=
  .cons first rest

/-- Only the first part reports something. -/
theorem only {a : α} (first : Lists (f a) xs) (rest : InTurn f parts []) : InTurn f (a :: parts) xs := by
  have hcons := InTurn.cons first rest
  rwa [List.append_nil] at hcons

end InTurn

end Holdings.Contract
