/-
# Steps and scripts

What one step does to the world, and what holds after any number of them.

A command evaluates its operands in order and then does one thing (`Act.Follows`).  Only what comes after
the last operand can change something, and what a command may change is said of the world in which it
starts (`Command.Allows`).  Every command but the in-place update is a confined act.  The update also
binds its variable, but only after its operator has given a result; so for all commands a failure only
adds objects, and a success leaves a sound world with at most one effect (`Act.Advances`).  Binding the
result of a step cannot fail: where the result comes from is asked of a variable only if the command has
read it (`Command.origin_run`).

So a step either fails in a world that has grown, or succeeds in a sound one (`Step.run_spec`), and by
induction every world of a script is sound (`World.Sound.after`).
-/
import Holdings.Proofs.Ledger.Changing
import Holdings.Ledger.Step

namespace Holdings.Ledger

open Act

/-! ## 1. Settings and the log

These acts change the environment, the settings in use or the log.  None of that is an object or a
variable, so the world counts as grown. -/

section Configuration

variable {w : World}

/-- The settings in use may be exchanged for others that are there. -/
theorem World.Sound.grown_withCurrent (hw : w.Sound) {c : Option Nat}
    (hc : ∀ r, c = some r → r < w.heap.settings.next) : w.Grown { w with current := c } :=
  ⟨Heap.Extends.refl _, rfl, hw.heap, hw.bound, hc⟩

theorem grows_currentSettings (hw : w.Sound) :
    currentSettings.Grows w fun r => [.settings r] := by
  unfold currentSettings
  refine confined_get ?_
  split
  · rename_i r hr
    exact grows_pure hw (by simpa [Ref.IsLive] using hw.current r hr)
  · refine confined_bind (grows_findSettings hw _) fun s w₁ h₁ _ => ?_
    refine confined_bind (grows_newSettings h₁.sound s) fun r w₂ h₂ hr => ?_
    have hc : ∀ t, some r = some t → t < w₂.heap.settings.next := by
      intro t ht
      obtain rfl := Option.some.inj ht
      simpa [Ref.IsLive] using hr
    exact grows_of_ok rfl (h₂.sound.grown_withCurrent hc) hr

theorem grows_setVariable (hw : w.Sound) (name : String) (v : Item) :
    (setVariable name v).Grows w Value.objects := by
  have store : ∀ e : Environment,
      (do set { w with environment := e }; return .null : Act Item).Grows w Value.objects :=
    fun e => grows_of_ok rfl (hw.grown_of_same ⟨rfl, rfl, rfl⟩ rfl rfl) (by simp)
  unfold setVariable
  refine confined_get ?_
  split
  · exact store _
  · exact confined_perform hw fun e _ => store e
  · exact confined_throw hw _

theorem grows_logState (hw : w.Sound) : logState.Grows w Value.objects := by
  unfold logState
  refine confined_get (grows_pure hw ?_)
  unfold Logging.toValue
  cases w.logging.level with
  | number n => simp
  | truth b => simp

theorem grows_configureLog (hw : w.Sound) (level : Datum) (json : Bool) :
    (configureLog level json).Grows w Value.objects := by
  have hg : ∀ l : Logging, w.Grown { w with logging := l } := fun l =>
    hw.grown_of_same ⟨rfl, rfl, rfl⟩ rfl rfl
  unfold configureLog
  refine confined_get ?_
  refine confined_bind (grows_set (hg _)) fun _ w₁ h₁ _ => ?_
  exact confined_perform h₁.sound fun _ _ => grows_logState h₁.sound

theorem grows_configureNamed (hw : w.Sound) (named : List (String × Item)) :
    (configureNamed named).Grows w Value.objects := by
  unfold configureNamed
  split
  · exact confined_throw hw _
  · exact confined_datum (grows_configureLog hw _ _)

theorem grows_setUpLog (hw : w.Sound) (args : List Item) :
    (setUpLog args).Grows w Value.objects := by
  have output : ∀ {w' : World} (r : Nat), w'.Sound →
      (do
        let s := (← get).heap.settings.get r
        configureLog (.ofPlain s.logLevel) s.logJson.isTruthy : Act Item).Grows w'
          Value.objects := fun r hw' => confined_get (grows_configureLog hw' _ _)
  have nothing : ∀ {α : Type} (a : α) {w' : World}, w'.Sound →
      (pure a : Act α).Grows w' fun _ => [] := fun a _ hw' => grows_pure hw' (Heap.allLive_nil _)
  unfold setUpLog
  dsimp only
  split
  case h_3 => exact confined_throw_bind hw _
  all_goals
    refine confined_bind (nothing _ hw) fun given w₁ h₁ _ => ?_
    split
    · split
      · exact confined_bind (nothing _ h₁.sound) fun r w₂ h₂ _ => output r h₂.sound
      · exact confined_throw_bind h₁.sound _
    · exact confined_bind (grows_currentSettings h₁.sound) fun r w₂ h₂ _ => output r h₂.sound

end Configuration

/-! ## 2. Commands -/

/-- The command, run in this world, is one that sets the amount of this quantity: an operator in
place or a method that assigns, with the quantity or its holding on the left, or the attribute itself. -/
def Command.SetsAmount (w : World) : Command → Nat → Prop
  | update op name b, r => ∃ v u w', w.bindings.lookup name = some v ∧ b.eval w = .ok u w' ∧
      op.isAssigning v.value u = true ∧ w.heap.amountPlace? v.value = some r
  | call on m _, r => m.isAssigning = true ∧
      ∃ v w', on.eval w = .ok v w' ∧ w'.heap.amountPlace? v = some r
  | set on field _, r => field = "amount" ∧ ∃ w', on.eval w = .ok (.object (.quantity r)) w'
  | _, _ => False

/-- The command, run in this world, is one that gives this holding another quantity. -/
def Command.SetsQuantity (w : World) : Command → Nat → Prop
  | set on field _, o => field = "quantity" ∧ ∃ w', on.eval w = .ok (.object (.holding o)) w'
  | _, _ => False

/-- The command, run in this world, is one that changes these settings. -/
def Command.SetsSettings (w : World) : Command → Nat → Prop
  | set on _ _, r => ∃ w', on.eval w = .ok (.object (.settings r)) w'
  | _, _ => False

/-- What a command may change, in the world in which it starts. -/
def Command.Allows (w : World) (c : Command) : Effect → Prop
  | .none => True
  | .amount r _ => c.SetsAmount w r
  | .content o _ => c.SetsQuantity w o
  | .settings r _ => c.SetsSettings w r

/-- Every variable of the first world is one of the second. -/
def World.KeepsNames (w w' : World) : Prop :=
  ∀ name, (w.bindings.lookup name).isSome → (w'.bindings.lookup name).isSome

/-- **What the act of a command does.**  A result comes with one allowed effect in a sound world that
has all variables; a failure only adds objects. -/
structure Act.Advances (x : Act Item) (w : World) (allowed : Effect → Prop) : Prop where
  ok : ∀ v w', x w = .ok v w' → (∃ e, allowed e ∧ w.heap.Changed e w'.heap) ∧ w'.Sound ∧
    w'.heap.AllLive v.objects ∧ w.KeepsNames w'
  error : ∀ f w', x w = .error f w' → w.Grown w'

/-- A command may do nothing. -/
theorem Command.allows_of_none {w : World} {c : Command} {e : Effect} (he : e = .none) :
    c.Allows w e := by
  rw [he]
  trivial

theorem Act.Confined.advances {x : Act Item} {w : World} {allowed : Effect → Prop}
    (h : x.Confined w allowed Value.objects) : x.Advances w allowed := by
  refine ⟨?_, h.error⟩
  intro v w' hx
  obtain ⟨⟨e, he, hc⟩, hl⟩ := h.ok v w' hx
  refine ⟨⟨e, he, hc.heap⟩, hc.sound, hl, ?_⟩
  intro name hn
  rw [hc.bindings]
  exact hn

/-- A command that only adds objects does what it may do. -/
theorem Act.Grows.advances {x : Act Item} {w₀ w : World} {c : Command}
    (h : x.Grows w Value.objects) : x.Advances w (c.Allows w₀) :=
  (h.mono fun _ he => Command.allows_of_none he).advances

section Commands

variable {w : World}

theorem grows_newOrigin (hw : w.Sound) : newOrigin.Grows w fun _ => [] :=
  grows_of_ok rfl (hw.grown_withTags _) (Heap.allLive_nil _)

theorem grows_origin (hw : w.Sound) (t : Term) : t.origin.Grows w fun _ => [] := by
  unfold Term.origin
  split
  · exact confined_map (grows_readBinding hw _) fun _ h _ => Heap.allLive_nil h
  · exact grows_newOrigin hw

/-- A list that grows holds only objects of its operands. -/
theorem objects_extend {op : BinaryOp} {v u x : Item} {grown : Except Fault Item}
    (h : extend? op v u = some grown) (hx : grown = .ok x) :
    x.objects ⊆ v.objects ++ u.objects := by
  unfold extend? at h
  split at h
  · rename_i xs
    obtain rfl := Option.some.inj h
    cases hy : u.elements? with
    | none =>
      rw [hy] at hx
      cases hx
    | some ys =>
      rw [hy] at hx
      obtain rfl := Except.ok.inj hx
      intro o ho
      obtain ⟨y, hm, ho⟩ := Value.mem_objectsOfAll.mp (by simpa using ho)
      rcases List.mem_append.mp hm with hm | hm
      · exact List.mem_append_left _ (by simpa using Value.mem_objectsOfAll.mpr ⟨y, hm, ho⟩)
      · exact List.mem_append_right _
          (Value.objectsOfAll_elements hy (Value.mem_objectsOfAll.mpr ⟨y, hm, ho⟩))
  · obtain rfl := Option.some.inj h
    exact Value.objects_mul hx
  · cases h

/-- A variable may be bound to a value whose objects are there. -/
theorem World.Sound.bind (hw : w.Sound) {v : Item} (hv : w.heap.AllLive v.objects) (name : String)
    (o : Origin) :
    World.Sound { w with bindings := Value.putEntry name ⟨v, o⟩ w.bindings } := by
  refine ⟨hw.heap, ?_, hw.current⟩
  intro b hb
  rcases Value.mem_putEntry hb with rfl | hb
  · exact hv
  · exact hw.bound b hb

theorem World.keepsNames_bind (w : World) (name : String) (b : Binding) :
    w.KeepsNames { w with bindings := Value.putEntry name b w.bindings } := by
  intro n hn
  rw [Value.lookup_putEntry]
  split
  · rfl
  · exact hn

/-- A list that grows in place does so under all its names, and no object changes. -/
theorem advances_rebindOrigin (hw : w.Sound) {xs : Item} (hx : w.heap.AllLive xs.objects)
    (o : Origin) (allowed : Effect → Prop) (ha : allowed .none) :
    (do rebindOrigin o xs; return xs : Act Item).Advances w allowed := by
  refine ⟨?_, ?_⟩
  · intro v w' h
    cases h
    refine ⟨⟨.none, ha, Heap.extends_iff_changed.mp (Heap.Extends.refl _)⟩,
      ⟨hw.heap, ?_, hw.current⟩, hx, ?_⟩
    · intro b hb
      obtain ⟨c, hc, rfl⟩ := List.mem_map.mp hb
      split
      · exact hx
      · exact hw.bound c hc
    · intro n hn
      have hk : ∀ c : String × Binding,
          (if c.2.origin = o then (c.1, (⟨xs, o⟩ : Binding)) else c).1 = c.1 := by
        intro c
        split <;> rfl
      exact (Value.isSome_lookup_map hk n w.bindings).trans hn
  · intro f w' h
    cases h

/-- **An update** changes at most the amount of what the variable is bound to, and binds variables only
after the operator has given a result. -/
theorem advances_updateVariable (hw : w.Sound) (op : BinaryOp) (name : String) {b : Binding}
    {u : Item} (hb : w.heap.AllLive (b.value.objects ++ u.objects)) :
    (updateVariable op name b u).Advances w
      (Effect.SetsAmountIf (op.isAssigning b.value u) w.heap b.value) := by
  unfold updateVariable
  split
  · rename_i grown hgrown
    cases hx : grown with
    | error e =>
      exact (confined_of_error (bind_of_error (perform_error e w)) (grown_withEvents hw _)).advances
    | ok xs =>
      have hl : w.heap.AllLive xs.objects := hb.subset (objects_extend hgrown hx)
      have h := advances_rebindOrigin hw hl b.origin
        (Effect.SetsAmountIf (op.isAssigning b.value u) w.heap b.value) (Or.inl rfl)
      exact ⟨h.ok, h.error⟩
  · have h := confined_operateInPlace hw op hb
    refine ⟨?_, ?_⟩
    · intro v w' hr
      cases hx : operateInPlace op b.value u w with
      | error e w₁ =>
        rw [bind_of_error hx] at hr
        cases hr
      | ok x w₁ =>
        obtain ⟨⟨e, he, hc⟩, hl⟩ := h.ok x w₁ hx
        rw [bind_of_ok hx] at hr
        cases hr
        have hg : w₁.Grown (w₁.withTags (w₁.heap.nextTag + 1)) := hc.sound.grown_withTags _
        refine ⟨⟨e, he, hc.heap.trans_sameCells ⟨rfl, rfl, rfl⟩⟩,
          hg.sound.bind (hg.allLive hl) name _, hg.allLive hl, ?_⟩
        intro n hn
        refine World.keepsNames_bind (w₁.withTags _) name _ n ?_
        show (w₁.bindings.lookup n).isSome
        rw [hc.bindings]
        exact hn
    · intro f w' hr
      cases hx : operateInPlace op b.value u w with
      | error e w₁ =>
        rw [bind_of_error hx] at hr
        cases hr
        exact h.error _ _ hx
      | ok x w₁ =>
        rw [bind_of_ok hx] at hr
        cases hr

/-- More may be allowed. -/
theorem Act.Advances.mono {x : Act Item} {allowed allowed' : Effect → Prop}
    (h : x.Advances w allowed) (hi : ∀ e, allowed e → allowed' e) : x.Advances w allowed' := by
  refine ⟨?_, h.error⟩
  intro v w' hx
  obtain ⟨⟨e, he, hc⟩, hrest⟩ := h.ok v w' hx
  exact ⟨⟨e, hi e he, hc⟩, hrest⟩

/-- Only the run in this world counts. -/
theorem Act.Advances.congr {x y : Act Item} {allowed : Effect → Prop} (h : y.Advances w allowed)
    (hxy : x w = y w) : x.Advances w allowed :=
  ⟨fun v w' hx => h.ok v w' (hxy ▸ hx), fun f w' hx => h.error f w' (hxy ▸ hx)⟩

/-- What follows an act that only adds objects may use what that act gave. -/
theorem advances_bind {α : Type} {x : Act α} {f : α → Act Item} {made : α → List Ref}
    {allowed : Effect → Prop} (hx : x.Grows w made)
    (hf : ∀ a w', x w = .ok a w' → w.Grown w' → w'.heap.AllLive (made a) →
      (f a).Advances w' allowed) :
    (x >>= f).Advances w allowed := by
  cases hr : x w with
  | error g w' => exact (confined_of_error (bind_of_error hr) (hx.error g w' hr)).advances
  | ok a w' =>
    obtain ⟨hg, hl⟩ := hx.of_ok hr
    have h := hf a w' hr hg hl
    refine ⟨?_, ?_⟩
    · intro v w'' hb
      rw [bind_of_ok hr] at hb
      obtain ⟨⟨e, he, hc⟩, hs, hl', hn⟩ := h.ok v w'' hb
      refine ⟨⟨e, he, hg.heap.trans_changed hc⟩, hs, hl', ?_⟩
      intro name hname
      refine hn name ?_
      rw [hg.bindings]
      exact hname
    · intro g w'' hb
      rw [bind_of_ok hr] at hb
      exact hg.trans (h.error g w'' hb)

/-! ### Operands

The operands of a command are evaluated in order before anything else happens, and each of them only adds
objects.  What is left to say of a command is what follows the last operand. -/

/-- **Operands come first.**  The run evaluates these terms in order, each in the world that the one
before left, and what follows the last of them does what is allowed. -/
inductive Act.Follows (allowed : Effect → Prop) : List Term → Act Item → World → Prop where
  | rest {x : Act Item} {w : World} (h : x.Advances w allowed) : Follows allowed [] x w
  | operand {t : Term} {ts : List Term} {x : Act Item} {f : Item → Act Item} {w : World}
      (hx : x w = (t.eval >>= f) w)
      (h : ∀ v w', t.eval w = .ok v w' → w.Grown w' → w'.heap.AllLive v.objects →
        Follows allowed ts (f v) w') :
      Follows allowed (t :: ts) x w

/-- Operands do not count: all is as allowed if what follows them is. -/
theorem Act.Follows.advances {x : Act Item} {allowed : Effect → Prop} {ts : List Term}
    (h : x.Follows allowed ts w) (hw : w.Sound) : x.Advances w allowed := by
  induction h with
  | rest h => exact h
  | operand hx h ih =>
    refine Advances.congr ?_ hx
    exact advances_bind (grows_eval _ hw) fun v w' hr hg hl => ih v w' hr hg hl hg.sound

theorem follows_evalAll {allowed : Effect → Prop} {ts : List Term} (xs : List Term)
    {f : List Item → Act Item} {w : World} (hw : w.Sound)
    (h : ∀ vs w', Term.evalAll xs w = .ok vs w' → w.Grown w' →
      w'.heap.AllLive (Value.objectsOfAll vs) → (f vs).Follows allowed ts w') :
    (Term.evalAll xs >>= f).Follows allowed (xs ++ ts) w := by
  induction xs generalizing f w with
  | nil => exact h [] w rfl (World.Grown.refl hw) (by simp)
  | cons x xs ih =>
    have hx : (Term.evalAll (x :: xs) >>= f) =
        x.eval >>= fun v => Term.evalAll xs >>= fun vs => f (v :: vs) := by
      rw [Term.evalAll]
      simp only [bind_assoc, pure_bind]
    refine .operand (congrFun hx w) fun v w₁ hr h₁ hv => ih h₁.sound fun vs w₂ hrs h₂ hvs => ?_
    refine h (v :: vs) w₂ ?_ (h₁.trans h₂) ?_
    · rw [Term.evalAll, bind_of_ok hr, bind_of_ok hrs]
      rfl
    · rw [Value.objectsOfAll_cons, Heap.allLive_append]
      exact ⟨h₂.allLive hv, hvs⟩

theorem follows_evalEntries {allowed : Effect → Prop} {ts : List Term} (es : List (String × Term))
    {f : List (String × Item) → Act Item} {w : World} (hw : w.Sound)
    (h : ∀ ns w', Term.evalEntries es w = .ok ns w' → w.Grown w' →
      w'.heap.AllLive (Value.objectsOfEntries ns) → (f ns).Follows allowed ts w') :
    (Term.evalEntries es >>= f).Follows allowed (es.map Prod.snd ++ ts) w := by
  induction es generalizing f w with
  | nil => exact h [] w rfl (World.Grown.refl hw) (by simp)
  | cons e es ih =>
    have hx : (Term.evalEntries (e :: es) >>= f) =
        e.2.eval >>= fun v => Term.evalEntries es >>= fun ns => f ((e.1, v) :: ns) := by
      rw [Term.evalEntries]
      simp only [bind_assoc, pure_bind]
    refine .operand (congrFun hx w) fun v w₁ hr h₁ hv => ih h₁.sound fun ns w₂ hrs h₂ hns => ?_
    refine h ((e.1, v) :: ns) w₂ ?_ (h₁.trans h₂) ?_
    · rw [Term.evalEntries, bind_of_ok hr, bind_of_ok hrs]
      rfl
    · rw [Value.objectsOfEntries_cons, Heap.allLive_append]
      exact ⟨h₂.allLive hv, hns⟩

/-- The same when these are the last operands. -/
theorem follows_evalAll_last {allowed : Effect → Prop} (xs : List Term) {f : List Item → Act Item}
    (hw : w.Sound)
    (h : ∀ vs w', Term.evalAll xs w = .ok vs w' → w.Grown w' →
      w'.heap.AllLive (Value.objectsOfAll vs) → (f vs).Advances w' allowed) :
    (Term.evalAll xs >>= f).Follows allowed xs w := by
  have hf : (Term.evalAll xs >>= f).Follows allowed (xs ++ []) w :=
    follows_evalAll xs hw fun vs w' hr hg hl => .rest (h vs w' hr hg hl)
  rwa [List.append_nil] at hf

theorem follows_evalEntries_last {allowed : Effect → Prop} (es : List (String × Term))
    {f : List (String × Item) → Act Item} (hw : w.Sound)
    (h : ∀ ns w', Term.evalEntries es w = .ok ns w' → w.Grown w' →
      w'.heap.AllLive (Value.objectsOfEntries ns) → (f ns).Advances w' allowed) :
    (Term.evalEntries es >>= f).Follows allowed (es.map Prod.snd) w := by
  have hf : (Term.evalEntries es >>= f).Follows allowed (es.map Prod.snd ++ []) w :=
    follows_evalEntries es hw fun ns w' hr hg hl => .rest (h ns w' hr hg hl)
  rwa [List.append_nil] at hf

/-- The operands of a command, in the order in which they are evaluated.  An update asks for its variable
first. -/
def Command.operands (w : World) : Command → List Term
  | build _ args named => args ++ named.map Prod.snd
  | eval t => [t]
  | make _ args => args
  | call on _ args => on :: args
  | operate _ a b => [a, b]
  | negate a => [a]
  | update _ name b => if (w.bindings.lookup name).isSome then [b] else []
  | get on _ => [on]
  | set on _ value => [on, value]
  | display on => [on]
  | same a b => [a, b]
  | countDistinct values => values
  | roundTrip on => [on]
  | setVariable _ value => [value]
  | configure named => named.map Prod.snd
  | setUp args => args
  | _ => []

theorem follows_update (hw : w.Sound) (op : BinaryOp) (name : String) (b : Term) :
    (Command.update op name b).act.Follows ((Command.update op name b).Allows w)
      ((Command.update op name b).operands w) w := by
  cases hl : w.bindings.lookup name with
  | none =>
    have hn : (Command.update op name b).operands w = [] := by simp [Command.operands, hl]
    rw [hn]
    exact .rest (confined_of_error (bind_of_error (readBinding_of_none hl))
      (World.Grown.refl hw)).advances
  | some v =>
    have hs : (Command.update op name b).operands w = [b] := by simp [Command.operands, hl]
    have hact : (Command.update op name b).act w =
        (b.eval >>= fun u => updateVariable op name v u) w := by
      unfold Command.act
      exact bind_of_ok (readBinding_of_some hl)
    rw [hs]
    refine .operand hact fun u w₁ hr h₁ hu => .rest ?_
    have hv : w.heap.AllLive v.value.objects := hw.bound_of_lookup hl
    have h := advances_updateVariable h₁.sound op name (b := v) (u := u)
      (Heap.allLive_append.mpr ⟨h₁.allLive hv, hu⟩)
    refine h.mono fun e he => ?_
    rcases he with he | ⟨ha, he⟩
    · exact Command.allows_of_none he
    · rcases he.of_extends h₁.heap hv with he | ⟨r, a, hp, rfl⟩
      · exact Command.allows_of_none he
      · exact ⟨v, u, w₁, hl, hr, ha, hp⟩

theorem follows_call (on : Term) (m : Method) (args : List Term) :
    (Command.call on m args).act.Follows ((Command.call on m args).Allows w) (on :: args) w := by
  refine .operand rfl fun v w₁ hr h₁ hv => ?_
  refine follows_evalAll_last args h₁.sound fun vs w₂ _ h₂ _ => Act.Confined.advances ?_
  refine (confined_callMethod h₂.sound (h₂.allLive hv) m vs).mono fun e he => ?_
  rcases he with he | ⟨ha, he⟩
  · exact Command.allows_of_none he
  · rcases he.of_extends h₂.heap hv with he | ⟨r, a, hp, rfl⟩
    · exact Command.allows_of_none he
    · exact ⟨ha, v, w₁, hr, hp⟩

theorem follows_set (on : Term) (field : String) (value : Term) :
    (Command.set on field value).act.Follows ((Command.set on field value).Allows w) [on, value]
      w := by
  refine .operand rfl fun v w₁ hr h₁ _ => .operand rfl fun u w₂ _ h₂ _ => .rest ?_
  refine Act.Confined.advances ((confined_setAttribute h₂.sound v u field).mono fun e he => ?_)
  rcases he with he | ⟨r, a, rfl, hf, rfl⟩ | ⟨r, q, rfl, hf, rfl⟩ | ⟨r, t, rfl, rfl⟩
  · exact Command.allows_of_none he
  · exact ⟨hf, w₁, hr⟩
  · exact ⟨hf, w₁, hr⟩
  · exact ⟨w₁, hr⟩

/-- **Every command** evaluates its operands; then comes one allowed effect if it gives a result, and none
if it fails. -/
theorem Command.follows (hw : w.Sound) (c : Command) :
    c.act.Follows (c.Allows w) (c.operands w) w := by
  cases c with
  | update op name b => exact follows_update hw op name b
  | call on m args => exact follows_call on m args
  | set on field value => exact follows_set on field value
  | build kind args named =>
    refine follows_evalAll args hw fun as w₁ _ h₁ _ => ?_
    refine follows_evalEntries_last named h₁.sound fun ns w₂ _ h₂ _ => ?_
    exact (grows_build h₂.sound kind as ns).advances
  | eval t =>
    have ht : t.eval = t.eval >>= pure := (bind_pure _).symm
    refine .operand (congrFun ht w) fun v w₁ _ h₁ hv => .rest ?_
    exact (grows_pure h₁.sound hv).advances
  | make m args =>
    refine follows_evalAll_last args hw fun as w₁ _ h₁ _ => ?_
    exact (grows_make h₁.sound m as).advances
  | operate op a b =>
    refine .operand rfl fun v w₁ _ h₁ hv => .operand rfl fun u w₂ _ h₂ hu => .rest ?_
    exact (grows_operate h₂.sound op (Heap.allLive_append.mpr ⟨h₂.allLive hv, hu⟩)).advances
  | negate a =>
    exact .operand rfl fun v w₁ _ h₁ _ => .rest ((grows_negate h₁.sound v).advances)
  | get on field =>
    exact .operand rfl fun v w₁ _ h₁ hv => .rest ((grows_readAttribute h₁.sound hv field).advances)
  | display on =>
    exact .operand rfl fun v w₁ _ h₁ _ => .rest ((grows_display h₁.sound v).advances)
  | same a b =>
    refine .operand rfl fun v w₁ _ h₁ _ => .operand rfl fun u w₂ _ h₂ _ => .rest ?_
    refine Act.Grows.advances (confined_bind (grows_origin h₂.sound a) fun o w₃ h₃ _ => ?_)
    refine confined_bind (grows_origin h₃.sound b) fun p w₄ h₄ _ => ?_
    exact grows_pure h₄.sound (by simp)
  | countDistinct values =>
    refine follows_evalAll_last values hw fun vs w₁ _ h₁ _ => Act.Grows.advances ?_
    exact confined_get (confined_perform h₁.sound fun n _ => grows_pure h₁.sound (by simp))
  | roundTrip on =>
    exact .operand rfl fun v w₁ _ h₁ _ => .rest ((grows_roundTrip h₁.sound v).advances)
  | setVariable name value =>
    exact .operand rfl fun v w₁ _ h₁ _ => .rest ((grows_setVariable h₁.sound name v).advances)
  | writeEnvFile text =>
    have hx : (Command.writeEnvFile text).act.Grows w Value.objects :=
      grows_of_ok rfl (hw.grown_of_same ⟨rfl, rfl, rfl⟩ rfl rfl) (by simp)
    exact .rest (hx.advances)
  | currentSettings =>
    have hx : Command.currentSettings.act.Grows w Value.objects :=
      confined_map (grows_currentSettings hw) fun r h hl => by simpa using hl
    exact .rest (hx.advances)
  | clearSettings =>
    have hx : Command.clearSettings.act.Grows w Value.objects := by
      refine grows_of_ok rfl (hw.grown_withCurrent ?_) (by simp)
      intro r hr
      cases hr
    exact .rest (hx.advances)
  | configure named =>
    refine follows_evalEntries_last named hw fun ns w₁ _ h₁ _ => ?_
    exact (grows_configureNamed h₁.sound ns).advances
  | setUp args =>
    refine follows_evalAll_last args hw fun as w₁ _ h₁ _ => ?_
    exact (grows_setUpLog h₁.sound as).advances
  | logState => exact .rest ((grows_logState hw).advances)

/-- **Every command**: one allowed effect if it gives a result, none if it fails. -/
theorem Command.advances (hw : w.Sound) (c : Command) : c.act.Advances w (c.Allows w) :=
  (c.follows hw).advances hw

end Commands

/-! ## 3. Where a result comes from

This is asked after the command, of the variable that the command has read; it is still there. -/

section Origins

variable {w w₁ w₂ : World}

theorem isSome_of_readBinding {name : String} {b : Binding} (h : readBinding name w = .ok b w₁) :
    (w.bindings.lookup name).isSome :=
  Option.isSome_iff_exists.mpr ⟨b, (readBinding_eq_ok h).2⟩

/-- The variable that a term is made of is there once the term has been evaluated. -/
theorem isSome_of_eval {name : String} {v : Item} (h : (Term.var name).eval w = .ok v w₁) :
    (w.bindings.lookup name).isSome := by
  rw [Term.eval] at h
  obtain ⟨b, w', hb, -⟩ := bind_eq_ok h
  exact isSome_of_readBinding hb

theorem Term.origin_run {t : Term} {v : Item} (h : t.eval w = .ok v w₁) (hn : w.KeepsNames w₂) :
    ∃ o n, t.origin w₂ = .ok o (w₂.withTags n) := by
  unfold Term.origin
  split
  · rename_i name
    obtain ⟨b, hb⟩ := Option.isSome_iff_exists.mp (hn name (isSome_of_eval h))
    refine ⟨b.origin, w₂.heap.nextTag, ?_⟩
    rw [bind_of_ok (readBinding_of_some hb)]
    rfl
  · exact ⟨_, _, rfl⟩

theorem Term.originOfPart_run (field : String) {t : Term} {v : Item} (h : t.eval w = .ok v w₁)
    (hn : w.KeepsNames w₂) : ∃ o n, t.originOfPart field w₂ = .ok o (w₂.withTags n) := by
  unfold Term.originOfPart
  split
  · rename_i name
    obtain ⟨b, hb⟩ := Option.isSome_iff_exists.mp (hn name (isSome_of_eval h))
    have hr : readVariable name w₂ = .ok b.value w₂ := by
      unfold readVariable
      rw [bind_of_ok (readBinding_of_some hb)]
      rfl
    rw [bind_of_ok hr]
    clear hr
    cases b.value with
    | object r => exact ⟨_, w₂.heap.nextTag, rfl⟩
    | _ => exact ⟨_, _, rfl⟩
  · exact ⟨_, _, rfl⟩

/-- **Where the result of a command comes from can always be told.** -/
theorem Command.origin_run {c : Command} {v : Item} (h : c.act w = .ok v w₁)
    (hn : w.KeepsNames w₁) : ∃ o n, c.origin w₁ = .ok o (w₁.withTags n) := by
  unfold Command.origin
  split
  · exact Term.origin_run h hn
  · obtain ⟨u, w', hu, -⟩ := bind_eq_ok h
    exact Term.originOfPart_run _ hu hn
  · obtain ⟨u, w', hu, -⟩ := bind_eq_ok h
    exact Term.originOfPart_run _ hu hn
  · rename_i name _
    obtain ⟨b, w', hb, -⟩ := bind_eq_ok h
    obtain ⟨b', hb'⟩ := Option.isSome_iff_exists.mp (hn name (isSome_of_readBinding hb))
    refine ⟨b'.origin, w₁.heap.nextTag, ?_⟩
    rw [bind_of_ok (readBinding_of_some hb')]
    rfl
  · exact ⟨_, _, rfl⟩

end Origins

/-! ## 4. Steps -/

/-- The world in which a step is run: the journal and the notices are empty. -/
def World.cleared (w : World) : World := { w with journal := [], notices := [] }

section Steps

variable {w w₁ w₂ : World}

theorem World.Sound.grown_cleared (hw : w.Sound) : w.Grown w.cleared :=
  hw.grown_of_same ⟨rfl, rfl, rfl⟩ rfl rfl

theorem Step.run_of_error {s : Step} {f : Fault} (h : s.command.act w.cleared = .error f w₁) :
    s.run w = (.error f, w₁) := by
  unfold World.cleared at h
  unfold Step.run
  dsimp only
  rw [bind_of_error h]

theorem Step.run_of_unnamed {s : Step} {v : Item} (h : s.command.act w.cleared = .ok v w₁)
    (hs : s.name = none) : s.run w = (.ok v, w₁) := by
  unfold World.cleared at h
  unfold Step.run
  dsimp only
  rw [bind_of_ok h, hs]
  rfl

theorem Step.run_of_named {s : Step} {v : Item} {name : String} {o : Origin}
    (h : s.command.act w.cleared = .ok v w₁) (hs : s.name = some name)
    (ho : s.command.origin w₁ = .ok o w₂) :
    s.run w = (.ok v, { w₂ with bindings := Value.putEntry name ⟨v, o⟩ w₂.bindings }) := by
  unfold World.cleared at h
  unfold Step.run
  dsimp only
  rw [bind_of_ok h, hs]
  dsimp only
  rw [bind_of_ok ho]
  rfl

/-- A step fails also if it cannot be told where its result comes from. -/
theorem Step.run_of_unknown {s : Step} {v : Item} {name : String} {f : Fault} {w₁ w₂ : World}
    (h : s.command.act w.cleared = .ok v w₁) (hs : s.name = some name)
    (ho : s.command.origin w₁ = .error f w₂) : s.run w = (.error f, w₂) := by
  unfold World.cleared at h
  unfold Step.run
  dsimp only
  rw [bind_of_ok h, hs]
  dsimp only
  rw [bind_of_error ho]

/-- A step fails as its command does, or it gives the result of its command in a world that differs by its
tags and by one variable at most. -/
theorem Step.run_cases (hw : w.Sound) (s : Step) :
    (∃ f w', s.command.act w.cleared = .error f w' ∧ s.run w = (.error f, w')) ∨
    ∃ v w' n bs, s.command.act w.cleared = .ok v w' ∧
      s.run w = (.ok v, { w'.withTags n with bindings := bs }) ∧
      (bs = w'.bindings ∨ ∃ name o, bs = Value.putEntry name ⟨v, o⟩ w'.bindings) := by
  cases hr : s.command.act w.cleared with
  | error f w' => exact Or.inl ⟨f, w', rfl, Step.run_of_error hr⟩
  | ok v w' =>
    refine Or.inr ?_
    cases hs : s.name with
    | none =>
      exact ⟨v, w', w'.heap.nextTag, w'.bindings, rfl, Step.run_of_unnamed hr hs, Or.inl rfl⟩
    | some name =>
      have hn := ((s.command.advances hw.grown_cleared.sound).ok v w' hr).2.2.2
      obtain ⟨o, n, ho⟩ := Command.origin_run hr hn
      exact ⟨v, w', n, _, rfl, Step.run_of_named hr hs ho, Or.inr ⟨name, o, rfl⟩⟩

/-- The world after a step is that after its command, but for its tags and the variables. -/
theorem Step.run_of_act (hw : w.Sound) {s : Step} {v : Item} {w' : World}
    (h : s.command.act w.cleared = .ok v w') :
    ∃ n bs, s.run w = (.ok v, { w'.withTags n with bindings := bs }) := by
  rcases Step.run_cases hw s with ⟨f, w₁, hact, -⟩ | ⟨u, w₁, n, bs, hact, hrun, -⟩
  · rw [h] at hact
    cases hact
  · rw [h] at hact
    cases hact
    exact ⟨n, bs, hrun⟩

/-- **What a step does.**  It fails, and only objects were added; or it gives a value whose objects are
there, and the world is sound and was changed by one effect that the command allows. -/
theorem Step.run_spec (hw : w.Sound) (s : Step) :
    (∃ f w', s.run w = (.error f, w') ∧ w.Grown w') ∨
    ∃ v w', s.run w = (.ok v, w') ∧ w'.Sound ∧ w'.heap.AllLive v.objects ∧
      ∃ e, s.command.Allows w.cleared e ∧ w.heap.Changed e w'.heap := by
  have hadv := s.command.advances hw.grown_cleared.sound
  rcases Step.run_cases hw s with ⟨f, w', hact, hr⟩ | ⟨v, w', n, bs, hact, hr, hbs⟩
  · exact Or.inl ⟨f, w', hr, hw.grown_cleared.trans (hadv.error f w' hact)⟩
  · obtain ⟨⟨e, he, hch⟩, hs, hl, -⟩ := hadv.ok v w' hact
    have hg : w'.Grown (w'.withTags n) := hs.grown_withTags n
    refine Or.inr ⟨v, _, hr, ?_, hg.allLive hl, e, he, hch.trans_sameCells ⟨rfl, rfl, rfl⟩⟩
    rcases hbs with rfl | ⟨name, o, rfl⟩
    · exact hg.sound
    · exact hg.sound.bind (hg.allLive hl) name o

/-- A step that fails only adds objects. -/
theorem Step.grown_of_error (hw : w.Sound) {s : Step} {f : Fault} (h : (s.run w).1 = .error f) :
    w.Grown (s.run w).2 := by
  rcases Step.run_spec hw s with ⟨f', w', hr, hg⟩ | ⟨v, w', hr, -⟩
  · rw [hr]
    exact hg
  · rw [hr] at h
    cases h

/-- **A step keeps the world sound**, whether it succeeds or fails. -/
theorem World.Sound.step (hw : w.Sound) (s : Step) : (s.run w).2.Sound := by
  rcases Step.run_spec hw s with ⟨f, w', hr, hg⟩ | ⟨v, w', hr, hs, -⟩
  · rw [hr]
    exact hg.sound
  · rw [hr]
    exact hs

end Steps

/-! ## 5. Scripts -/

theorem World.after_append (w : World) (first rest : List Step) :
    w.after (first ++ rest) = (w.after first).after rest :=
  List.foldl_append

/-- **Every world of a script is sound.**  The induction is on the steps, from the world in which the
script starts. -/
theorem World.Sound.after {w : World} (hw : w.Sound) (steps : List Step) :
    (w.after steps).Sound := by
  induction steps generalizing w with
  | nil => exact hw
  | cons s rest ih => exact ih (hw.step s)

/-- The worlds that `runSteps` reports are those after the first steps of the script. -/
theorem mem_runSteps {w : World} {steps : List Step} {r : Except Fault Item × World}
    (h : r ∈ runSteps w steps) : ∃ first s rest, steps = first ++ s :: rest ∧
      r = s.run (w.after first) := by
  induction steps generalizing w with
  | nil => cases h
  | cons s rest ih =>
    unfold runSteps at h
    rcases List.mem_cons.mp h with h | h
    · exact ⟨[], s, rest, rfl, h⟩
    · obtain ⟨first, t, rest', hrest, hr⟩ := ih h
      exact ⟨s :: first, t, rest', by rw [hrest]; rfl, hr⟩

end Holdings.Ledger
