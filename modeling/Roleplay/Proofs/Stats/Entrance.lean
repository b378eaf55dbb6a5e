import Roleplay.Proofs.Stats.Upkeep

/-! # Enter hooks outside of notifications

Outside of a notification an enter hook attaches its modifiers one by one, and conditions are notified
after each.  If that makes the effect leave, its exit hook withdraws what is attached so far, but the
enter hook goes on with the rest.

* `Operation.Enters` says which operations call an enter hook, `Operation.BreaksOff` when the hook
  leaves a bundle broken;
* `Engine.attach_entering` follows the hook from modifier to modifier;
* `Operation.Enters.isBundled_iff` is its outcome.
-/

namespace Roleplay

def World.exits (world : World) (id : String) : Nat := world.calls.count ⟨id, .exit⟩

/-- The world in which the enter hook of an effect begins. -/
def World.entering (world : World) (id : String) (effect : AppliedEffect) (events : List Event) :
    World :=
  { world with
    actor := { world.actor with
      effects := world.actor.effects.insert id effect
      events := world.actor.events ++ events }
    calls := world.calls ++ [⟨effect.definition.id, .enter⟩]
    reports := world.reports ++ events }

namespace Operation

/-- Whether an operation calls the enter hook of an effect, and in which world that begins. -/
inductive Enters (world : World) : Operation → EffectDefinition → World → Prop where
  | add {id : String} {definition : EffectDefinition}
      (absent : world.actor.effects.contains id = false)
      (known : world.actor.catalog.get? id = some definition)
      (active : (AppliedEffect.start definition world.actor.snapshot).isActive = true) :
      Enters world (.addEffect id) definition
        (world.entering id (.start definition world.actor.snapshot) [.effectAdded id])
  | refresh {id : String} {effect : AppliedEffect}
      (applied : world.actor.effects.get? id = some effect) (suspended : effect.isActive = false)
      (active : (effect.refresh world.actor.snapshot).isActive = true) :
      Enters world (.refreshEffect id) effect.definition
        (world.entering id (effect.refresh world.actor.snapshot) [])

/-- Whether an effect leaves while its enter hook is still attaching modifiers, and not again once
the last one is attached. -/
def BreaksOff (world : World) (operation : Operation) (fuel : Nat) : Prop :=
  ∃ definition start modifiers last between after,
    operation.Enters world definition start ∧
    definition.modifiers = modifiers ++ [last] ∧
    (Engine.attach (Engine.perform fuel) definition.toEffectSpec modifiers).run start =
      some ((), between) ∧
    (Engine.attach (Engine.perform fuel) definition.toEffectSpec [last]).run between =
      some ((), after) ∧
    start.exits definition.id < between.exits definition.id ∧
    after.exits definition.id = between.exits definition.id

end Operation

namespace View

/-- A view between operations, all effects of which are plain. -/
structure IsIdle (view : View) : Prop where
  plain : view.IsPlain
  idle : view.isNotifying = false

def IsBundled (view : View) : Prop := ∀ id, (view.share id).IsIntact (view.bundle id)

variable {view after : View}

theorem Evolves.isIdle (evolves : view.Evolves after) (idle : view.IsIdle) : after.IsIdle :=
  ⟨evolves.plain, evolves.notifying.trans idle.idle⟩

theorem Evolves.isBundled (evolves : view.Evolves after) (bundled : view.IsBundled) :
    after.IsBundled := by
  intro id
  rw [evolves.bundle]
  exact (bundled id).evolves (evolves.share id)

end View

namespace Engine

variable {fuel : Nat} {world world' : World}

/-! ## Attaching -/

structure EvolvesApart (id : String) (before after : View) : Prop where
  catalog : after.catalog = before.catalog
  notifying : after.isNotifying = before.isNotifying
  plain : after.IsPlain
  share : ∀ other ≠ id, (before.share other).Evolves (before.bundle other) (after.share other)

theorem EvolvesApart.trans {id : String} {first second third : View}
    (evolves : EvolvesApart id first second) (continues : EvolvesApart id second third) :
    EvolvesApart id first third := by
  refine ⟨continues.catalog.trans evolves.catalog, continues.notifying.trans evolves.notifying,
    continues.plain, fun other ne => (evolves.share other ne).trans ?_⟩
  have same : second.bundle other = first.bundle other := View.bundle_congr evolves.catalog
  exact same ▸ continues.share other ne

/-- One modifier is attached, then conditions are notified. -/
theorem attach_one {spec : EffectSpec} {modifier : Modifier} (idle : world.view.IsIdle)
    (unconditional : modifier.condition = none)
    (returned : (attach (Engine.perform fuel) spec [modifier]).run world = some ((), world')) :
    EvolvesApart spec.id world.view world'.view ∧
      ((world.view.share spec.id).withMore (spec.bundleOf [modifier])).Evolves
        (world.view.bundle spec.id) (world'.view.share spec.id) := by
  obtain ⟨inner, between, same, notifies⟩ := attach_singleton unconditional returned
  have registers : View.Serves spec.id (·.withMore (spec.bundleOf [modifier])) world.view
      between.view := same ▸ .registered unconditional
  have evolves := notifyEvolves_idle _ _ _ _ (registers.notifying.trans idle.idle)
    (registers.plain idle.plain) notifies
  have bundle (id : String) : between.view.bundle id = world.view.bundle id :=
    View.bundle_congr registers.catalog
  refine ⟨⟨evolves.catalog.trans registers.catalog, evolves.notifying.trans registers.notifying,
    evolves.plain, fun other ne => ?_⟩, ?_⟩
  · rw [← registers.others other ne, ← bundle other]
    exact evolves.share other
  · rw [← registers.own, ← bundle spec.id]
    exact evolves.share spec.id

theorem attach_entering {spec : EffectSpec} {modifiers : List Modifier} {start : Share}
    {done : Stat → Multiset Modifier} (idle : world.view.IsIdle)
    (unconditional : ∀ modifier ∈ modifiers, modifier.condition = none)
    (entering : (world.view.share spec.id).IsEntering (world.view.bundle spec.id) done start)
    (returned : (attach (Engine.perform fuel) spec modifiers).run world = some ((), world')) :
    EvolvesApart spec.id world.view world'.view ∧
      (world'.view.share spec.id).IsEntering (world.view.bundle spec.id)
        (done + spec.bundleOf modifiers) start := by
  -- on the modifiers, with those done so far as the state of the loop
  induction modifiers generalizing world done with
  | nil =>
    obtain ⟨_, rfl⟩ := Prod.mk.inj (Option.some.inj returned)
    rw [EffectSpec.bundleOf_nil, add_zero]
    exact ⟨⟨rfl, rfl, idle.plain, fun _ _ => .refl _⟩, entering⟩
  | cons modifier rest inductionHypothesis =>
    rw [← List.singleton_append, attach_append] at returned
    obtain ⟨_, middle, first, continues⟩ := run_bind_eq_some.1 returned
    obtain ⟨apart, evolves⟩ := attach_one idle (unconditional modifier (by simp)) first
    have same : middle.view.bundle spec.id = world.view.bundle spec.id :=
      View.bundle_congr apart.catalog
    have further := entering.next evolves
    rw [← same] at further
    obtain ⟨later, entered⟩ := inductionHypothesis
      ⟨apart.plain, apart.notifying.trans idle.idle⟩
      (fun other member => unconditional other (.tail _ member)) further continues
    have whole : spec.bundleOf (modifier :: rest) =
        spec.bundleOf [modifier] + spec.bundleOf rest := EffectSpec.bundleOf_cons
    rw [same, add_assoc, ← whole] at entered
    exact ⟨apart.trans later, entered⟩

/-- The enter hook of a plain effect is what `attach` does. -/
theorem callHook_enter {definition : EffectDefinition} (plain : definition.IsPlain)
    (returned : (callHook (Engine.perform fuel) .enter definition).run world = some ((), world')) :
    (attach (Engine.perform fuel) definition.toEffectSpec definition.modifiers).run
      { world with calls := world.calls ++ [⟨definition.id, .enter⟩] } = some ((), world') := by
  obtain ⟨earlier, recorded, records, runs⟩ := run_bind_eq_some.1 returned
  obtain ⟨_, rfl⟩ := Prod.mk.inj (Option.some.inj records)
  rw [program_enter plain] at runs
  exact runs

end Engine

/-! ## The outcome of a hook -/

namespace Operation

variable {world start : World} {operation : Operation} {definition : EffectDefinition}

theorem Enters.unique {other : EffectDefinition} {otherStart : World}
    (enters : operation.Enters world definition start)
    (also : operation.Enters world other otherStart) : definition = other ∧ start = otherStart := by
  cases enters with
  | add absent known active =>
    cases also with
    | add absent' known' active' =>
      obtain rfl := Option.some.inj (known.symm.trans known')
      exact ⟨rfl, rfl⟩
  | refresh applied suspended active =>
    cases also with
    | refresh applied' suspended' active' =>
      obtain rfl := Option.some.inj (applied.symm.trans applied')
      exact ⟨rfl, rfl⟩

/-- Only an effect of several modifiers can leave before the last of them is attached. -/
theorem Enters.not_breaksOff {fuel : Nat} (enters : operation.Enters world definition start)
    (few : definition.modifiers.length ≤ 1) : ¬operation.BreaksOff world fuel := by
  rintro ⟨other, otherStart, modifiers, last, between, after, also, shape, first, _, left, _⟩
  obtain ⟨rfl, rfl⟩ := enters.unique also
  have length : modifiers.length + 1 ≤ 1 := by simpa [shape] using few
  have none : modifiers = [] := List.eq_nil_of_length_eq_zero (by omega)
  subst none
  obtain ⟨_, rfl⟩ := Prod.mk.inj (Option.some.inj first)
  exact absurd left (Nat.lt_irrefl _)

/-- There is one way to take an enter hook apart. -/
theorem Enters.breaksOff_iff {fuel : Nat} {modifiers : List Modifier} {last : Modifier}
    {between world' : World} (enters : operation.Enters world definition start)
    (shape : definition.modifiers = modifiers ++ [last])
    (first : (Engine.attach (Engine.perform fuel) definition.toEffectSpec modifiers).run start =
      some ((), between))
    (second : (Engine.attach (Engine.perform fuel) definition.toEffectSpec [last]).run between =
      some ((), world')) :
    operation.BreaksOff world fuel ↔ start.exits definition.id < between.exits definition.id ∧
      world'.exits definition.id = between.exits definition.id := by
  constructor
  · rintro ⟨other, otherStart, others, final, middle, after, also, alike, ran, finished, left, stays⟩
    obtain ⟨rfl, rfl⟩ := enters.unique also
    obtain ⟨rfl, same⟩ := List.append_inj' (shape.symm.trans alike) rfl
    obtain rfl := List.singleton_inj.1 same
    obtain ⟨-, rfl⟩ := Prod.mk.inj (Option.some.inj (first.symm.trans ran))
    obtain ⟨-, rfl⟩ := Prod.mk.inj (Option.some.inj (second.symm.trans finished))
    exact ⟨left, stays⟩
  · rintro ⟨left, stays⟩
    exact ⟨definition, start, modifiers, last, between, world', enters, shape, first, second, left,
      stays⟩

/-- What holds where an enter hook begins: the effect is in force and nothing is attached yet. -/
structure Enters.Begins (world start : World) (definition : EffectDefinition) : Prop where
  idle : start.view.IsIdle
  plain : definition.IsPlain
  known : start.view.catalog.get? definition.id = some definition
  catalog : start.view.catalog = world.view.catalog
  isOn : (start.view.share definition.id).isOn = true
  attached : (start.view.share definition.id).attached = 0
  others : ∀ other ≠ definition.id, start.view.share other = world.view.share other

theorem share_entering {id other : String} {effect : AppliedEffect} {events : List Event} :
    (world.entering id effect events).view.share other =
      View.share { world.view with effects := world.view.effects.insert id effect } other := by
  simp only [View.share, World.entering, World.view, Share.mk.injEq, List.count_append, true_and]
  exact ⟨rfl, by simp⟩

theorem Enters.begins_of_placed {id : String} {effect : AppliedEffect} {events : List Event}
    (idle : world.view.IsIdle) (bundled : world.view.IsBundled)
    (off : (world.view.share id).isOn = false) (active : effect.isActive = true)
    (known : world.view.catalog.get? id = some effect.definition) :
    Begins world (world.entering id effect events) effect.definition := by
  obtain ⟨named, plain⟩ := idle.plain.catalog id _ known
  have placed : (world.entering id effect events).view.share id =
      { world.view.share id with isOn := true } := by
    rw [share_entering, View.share_insertEffect, active]
  have plainStart := idle.plain.insertEffect known
  refine ⟨⟨⟨plainStart.catalog, plainStart.applied, plainStart.unconditional⟩, idle.idle⟩, plain,
    named.symm ▸ known, rfl, ?_, ?_, fun other ne => ?_⟩
  · rw [named, placed]
  · have nothing := bundled id
    rw [Share.IsIntact, Share.due, if_neg (by simp [off])] at nothing
    rw [named, placed]
    exact nothing
  · rw [share_entering]
    exact View.share_insertEffect_of_ne fun same => ne (named.trans same).symm

theorem Enters.begins (enters : operation.Enters world definition start)
    (idle : world.view.IsIdle) (bundled : world.view.IsBundled) :
    Begins world start definition := by
  cases enters with
  | @add id definition absent known active =>
    have missing : world.view.effects.get? id = none := by
      simpa [Dictionary.contains, World.view] using absent
    exact begins_of_placed idle bundled (View.isOn_share_of_missing missing) active known
  | @refresh id effect applied suspended active =>
    have found : world.view.effects.get? id = some effect := applied
    have off : (world.view.share id).isOn = false :=
      (View.isOn_share_of_applied found).trans suspended
    exact begins_of_placed idle bundled off active (idle.plain.applied id effect found)

/-- Whatever the hook does, the other effects only see notifications. -/
theorem Enters.Begins.isBundled_iff {after : View} (begins : Begins world start definition)
    (bundled : world.view.IsBundled)
    (apart : Engine.EvolvesApart definition.id start.view after) :
    after.IsBundled ↔
      (after.share definition.id).IsIntact (start.view.bundle definition.id) := by
  have same (id : String) : after.bundle id = start.view.bundle id :=
    View.bundle_congr apart.catalog
  refine ⟨fun whole => same definition.id ▸ whole definition.id, fun own other => ?_⟩
  rw [same other]
  by_cases ne : other = definition.id
  · rw [ne]
    exact own
  · have intact : (start.view.share other).IsIntact (start.view.bundle other) := by
      rw [begins.others other ne, View.bundle_congr begins.catalog]
      exact bundled other
    exact intact.evolves (apart.share other ne)

/-- The enter hook of an operation leaves the bundles right unless it is broken off. -/
theorem Enters.isBundled_iff {fuel : Nat} {world' : World}
    (enters : operation.Enters world definition start) (idle : world.view.IsIdle)
    (bundled : world.view.IsBundled)
    (returned : (Engine.attach (Engine.perform fuel) definition.toEffectSpec
      definition.modifiers).run start = some ((), world')) :
    world'.view.IsIdle ∧ (world'.view.IsBundled ↔ ¬operation.BreaksOff world fuel) := by
  have begins := enters.begins idle bundled
  have whole : start.view.bundle definition.id =
      definition.bundleOf definition.modifiers := by
    rw [View.bundle, begins.known]
  have unconditional := begins.plain.1
  rcases List.eq_nil_or_concat definition.modifiers with none | ⟨modifiers, last, shape⟩
  · rw [none] at returned whole
    obtain ⟨_, rfl⟩ := Prod.mk.inj (Option.some.inj returned)
    have apart : Engine.EvolvesApart definition.id start.view start.view :=
      ⟨rfl, rfl, begins.idle.plain, fun _ _ => .refl _⟩
    refine ⟨begins.idle, iff_of_true ((begins.isBundled_iff bundled apart).2 ?_) ?_⟩
    · rw [Share.IsIntact, begins.attached, whole, EffectSpec.bundleOf_nil, Share.due, ite_self]
    · exact enters.not_breaksOff (by simp [none])
  · rw [List.concat_eq_append] at shape
    rw [shape] at returned whole unconditional
    rw [Engine.attach_append] at returned
    rw [EffectSpec.bundleOf_append] at whole
    obtain ⟨_, between, first, second⟩ := Engine.run_bind_eq_some.1 returned
    have nothing : (start.view.share definition.id).IsEntering (start.view.bundle definition.id) 0
        (start.view.share definition.id) := Or.inl ⟨rfl, begins.isOn, begins.attached⟩
    obtain ⟨apart, entered⟩ := Engine.attach_entering begins.idle
      (fun modifier member => unconditional modifier (by simp [member])) nothing first
    have idleBetween : between.view.IsIdle :=
      ⟨apart.plain, apart.notifying.trans begins.idle.idle⟩
    obtain ⟨later, evolves⟩ := Engine.attach_one idleBetween (unconditional last (by simp)) second
    rw [zero_add, whole] at entered
    rw [View.bundle_congr apart.catalog, whole] at evolves
    -- what the last one adds is not nothing
    have more : definition.bundleOf [last] ≠ 0 := by
      rw [EffectSpec.bundleOf_singleton]
      simp
    refine ⟨⟨later.plain, later.notifying.trans idleBetween.idle⟩, ?_⟩
    rw [begins.isBundled_iff bundled (apart.trans later), whole,
      entered.isIntact_iff more evolves, enters.breaksOff_iff shape first second]
    rfl

end Operation

end Roleplay
