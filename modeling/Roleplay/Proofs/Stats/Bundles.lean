import Roleplay.Proofs.Stats.Entrance

/-! # Bundles of effects

The modifiers of an effect are attached just while it is in force, unless an enter hook is broken off.

* `Actor.CarriesBundles` is the statement about one actor;
* `Engine.act_proceeds` says of every operation that it runs an enter hook or only notifies;
* `World.Reachable.carriesBundles_iff`: the bundles are right after every operation up to the first
  one that breaks off an enter hook, and wrong after that one.
-/

namespace Roleplay

/-- The operations that do not meddle with the modifiers of effects. -/
def Operation.IsForeign : Operation → Prop
  | .addModifier _ source => ∀ id, source ≠ some (effectSource id)
  | .removeModifier _ _ _ source => ∀ id, source ≠ some (effectSource id)
  | .removeSource source => ∀ id, source ≠ effectSource id
  | _ => True

namespace Engine

variable {fuel : Nat} {world world' : World} {operation : Operation}

/-! ## Operations without enter hooks -/

theorem ne_effectSource {source : String} (apart : ¬"effect:".toList <+: source.toList) (id : String) :
    some source ≠ some (effectSource id) := by
  intro same
  apply apart
  rw [Option.some.inj same, effectSource, String.toList_append]
  exact List.prefix_append _ _

theorem addModifier_evolves {modifier : Modifier} {source : Option String} {result : Bool}
    (foreign : ∀ id, source ≠ some (effectSource id)) (idle : world.view.IsIdle)
    (returned : (addModifier (Engine.perform fuel) modifier source).run world =
      some (result, world')) : world.view.Evolves world'.view := by
  cases addModifier_inversion returned with
  | inl rejected =>
    obtain ⟨_, same⟩ := rejected
    rw [same]
    exact .refl idle.plain
  | inr changed =>
    obtain ⟨between, same, notifies⟩ := changed
    have elsewhere (id : String) :
        ((modifier.withSource source).refresh world.actor.snapshot).enlist.isFrom
          (effectSource id) = false := decide_eq_false (foreign id)
    have places : world.view.Evolves between.view := by
      rw [same]
      refine .of_same (idle.plain.withList fun other member => ?_) rfl rfl fun id =>
        View.share_insertModifier_of_foreign (elsewhere id)
      rcases List.mem_cons.1 (insertModifier_perm.mem_iff.1 member) with rfl | earlier
      · exact Or.inr fun id own => absurd own (by simp [elsewhere id])
      · exact Or.inl earlier
    exact places.trans
      (notifyEvolves_idle _ _ _ _ (places.notifying.trans idle.idle) places.plain notifies)

theorem removeModifier_evolves {stat : Stat} {op : ModifierOp} {value : Float32}
    {source : Option String} {result : Bool}
    (foreign : ∀ id, source ≠ some (effectSource id)) (idle : world.view.IsIdle)
    (returned : (removeModifier (Engine.perform fuel) stat op value source).run world =
      some (result, world')) : world.view.Evolves world'.view := by
  cases removeModifier_inversion returned with
  | inl same =>
    subst same
    exact .refl idle.plain
  | inr changed =>
    obtain ⟨between, same, notifies⟩ := changed
    have takes : world.view.Evolves between.view := by
      rw [same]
      refine .of_same (idle.plain.withList fun other member =>
        Or.inl (List.mem_of_mem_eraseP member)) rfl rfl fun id =>
          View.share_withList_of_perm (.of_eq (View.filter_eraseP fun other named => ?_))
      have own : other.source = source := by
        simpa using (Bool.and_eq_true_iff.1 named).2
      simpa [Modifier.isFrom, own] using foreign id
    exact takes.trans
      (notifyEvolves_idle _ _ _ _ (takes.notifying.trans idle.idle) takes.plain notifies)

theorem removeSource_evolves {source : String} {count : Nat}
    (foreign : ∀ id, source ≠ effectSource id) (idle : world.view.IsIdle)
    (returned : (removeSource (Engine.perform fuel) source).run world = some (count, world')) :
    world.view.Evolves world'.view := by
  obtain ⟨between, same, finishes⟩ := removeSource_inversion returned
  have takes : world.view.Evolves between.view := by
    rw [same]
    exact .of_same idle.plain.without rfl rfl fun id => View.share_without_of_ne (foreign id)
  cases finishes with
  | inl same =>
    subst same
    exact takes
  | inr notifies =>
    exact takes.trans
      (notifyEvolves_idle _ _ _ _ (takes.notifying.trans idle.idle) takes.plain notifies)

theorem drainDamage_evolves {limit : Nat} (idle : world.view.IsIdle)
    (returned : (drainDamage (Engine.perform fuel) limit).run world = some ((), world')) :
    world.view.Evolves world'.view := by
  induction limit generalizing world with
  | zero =>
    have rest := run_actor_bind.symm.trans returned
    split at rest
    · obtain ⟨_, rfl⟩ := Prod.mk.inj (Option.some.inj rest)
      exact .refl idle.plain
    · exact absurd rest (by simp [exhausted, StateT.run])
  | succ limit inductionHypothesis =>
    have rest := run_actor_bind.symm.trans returned
    split at rest
    · obtain ⟨_, rfl⟩ := Prod.mk.inj (Option.some.inj rest)
      exact .refl idle.plain
    · obtain ⟨_, suffered, suffers, rest⟩ := run_bind_eq_some.1 rest
      obtain ⟨_, notified, notifies, drains⟩ := run_bind_eq_some.1 rest
      have wounds : world.view.Evolves suffered.view := by
        rw [sufferDamage_does _ _ _ suffers]
        exact .of_untouched idle.plain rfl rfl rfl rfl rfl
      have evolves := wounds.trans (notifyEvolves_idle _ _ _ _
        (wounds.notifying.trans idle.idle) wounds.plain notifies)
      exact evolves.trans (inductionHypothesis (evolves.isIdle idle) drains)

/-! ## All operations -/

/-- What an operation comes to: an enter hook, or notifications only. -/
inductive Proceeds (fuel : Nat) (operation : Operation) (world world' : World) : Prop where
  | enters (definition : EffectDefinition) (start : World)
      (enters : operation.Enters world definition start)
      (attaches : (attach (Engine.perform fuel) definition.toEffectSpec definition.modifiers).run
        start = some ((), world'))
  | evolves (stays : ∀ definition start, ¬operation.Enters world definition start)
      (evolves : world.view.Evolves world'.view)

theorem Proceeds.of_other (other : ∀ id, operation ≠ .addEffect id ∧ operation ≠ .refreshEffect id)
    (evolves : world.view.Evolves world'.view) : Proceeds fuel operation world world' := by
  refine .evolves (fun definition start enters => ?_) evolves
  cases enters with
  | @add id => exact (other id).1 rfl
  | @refresh id => exact (other id).2 rfl

theorem addEffect_proceeds {id : String} {result : Except StatsError Unit}
    (idle : world.view.IsIdle)
    (returned : (addEffect (Engine.perform fuel) id).run world = some (result, world')) :
    Proceeds fuel (.addEffect id) world world' := by
  have rest := run_actor_bind.symm.trans returned
  split at rest
  · rename_i present
    obtain ⟨_, rfl⟩ := Prod.mk.inj (Option.some.inj rest)
    refine .evolves (fun definition start enters => ?_) (.refl idle.plain)
    cases enters with
    | add absent known active => exact absurd present (by simp [absent])
  · rename_i absent
    split at rest
    · rename_i unknown
      obtain ⟨_, rfl⟩ := Prod.mk.inj (Option.some.inj rest)
      refine .evolves (fun definition start enters => ?_) (.refl idle.plain)
      cases enters with
      | add absent known active => exact absurd (unknown.symm.trans known) (by simp)
    · rename_i definition known
      obtain ⟨_, placed, places, rest⟩ := run_bind_eq_some.1 rest
      obtain ⟨_, rfl⟩ := Prod.mk.inj (Option.some.inj places)
      obtain ⟨_, reported, reports, rest⟩ := run_bind_eq_some.1 rest
      obtain ⟨_, rfl⟩ := Prod.mk.inj (Option.some.inj reports)
      split at rest
      · rename_i active
        obtain ⟨_, entered, calls, ends⟩ := run_bind_eq_some.1 rest
        obtain ⟨_, rfl⟩ := Prod.mk.inj (Option.some.inj ends)
        -- the effect is placed before its hook, which is where the hook begins
        have plain := (idle.plain.catalog id definition known).2
        exact .enters definition _ (.add (by simpa using absent) known active)
          (callHook_enter plain calls)
      · rename_i inactive
        obtain ⟨_, rfl⟩ := Prod.mk.inj (Option.some.inj rest)
        refine .evolves (fun other start enters => ?_) ?_
        · cases enters with
          | add absent' known' active =>
            obtain rfl := Option.some.inj (known.symm.trans known')
            exact absurd active inactive
        · have missing : world.view.effects.get? id = none := by
            simpa [Dictionary.contains, World.view] using absent
          refine View.Evolves.insertEffect idle.plain known ?_
          rw [View.isOn_share_of_missing missing]
          simpa using inactive

/-- The exit hook of an effect whose new state is a suspended one. -/
theorem callHook_exit_of_suspended (effect : AppliedEffect) (plain : effect.definition.IsPlain)
    (idle : world.view.IsIdle)
    (known : world.view.catalog.get? effect.definition.id = some effect.definition)
    (suspended : effect.isActive = false)
    (returned : (callHook (Engine.perform fuel) .exit effect.definition).run { world with
      actor := { world.actor with
        effects := world.actor.effects.insert effect.definition.id effect } } =
      some ((), world')) : world.view.Evolves world'.view := by
  let placed : View :=
    { world.view with effects := world.view.effects.insert effect.definition.id effect }
  have own : placed.share effect.definition.id =
      { world.view.share effect.definition.id with isOn := false } := by
    rw [View.share_insertEffect, suspended]
  have others (other : String) (ne : other ≠ effect.definition.id) :
      placed.share other = world.view.share other :=
    View.share_insertEffect_of_ne (Ne.symm ne)
  exact callHook_exit_evolves notifyEvolves_idle plain returned idle.idle
    (idle.plain.insertEffect known) rfl rfl own others

theorem refreshEffect_proceeds {id : String} {result : Bool} (idle : world.view.IsIdle)
    (returned : (refreshEffect (Engine.perform fuel) id).run world = some (result, world')) :
    Proceeds fuel (.refreshEffect id) world world' := by
  have rest := run_actor_bind.symm.trans returned
  split at rest
  · rename_i missing
    obtain ⟨_, rfl⟩ := Prod.mk.inj (Option.some.inj rest)
    refine .evolves (fun definition start enters => ?_) (.refl idle.plain)
    cases enters with
    | refresh applied suspended active => exact absurd (missing.symm.trans applied) (by simp)
  · rename_i effect applied
    obtain ⟨_, placed, places, rest⟩ := run_bind_eq_some.1 rest
    obtain ⟨_, rfl⟩ := Prod.mk.inj (Option.some.inj places)
    have found : world.view.effects.get? id = some effect := applied
    have known : world.view.catalog.get? id = some effect.definition :=
      idle.plain.applied id effect found
    obtain ⟨named, plain⟩ := idle.plain.catalog id _ known
    dsimp only at rest
    split at rest
    · rename_i toggled
      obtain ⟨_, toggledWorld, calls, ends⟩ := run_bind_eq_some.1 rest
      obtain ⟨_, rfl⟩ := Prod.mk.inj (Option.some.inj ends)
      cases active : (effect.refresh world.actor.snapshot).isActive with
      | true =>
        have suspended : effect.isActive = false := by simpa [active] using toggled
        rw [active, if_pos rfl] at calls
        refine .enters effect.definition _ (.refresh applied suspended active) ?_
        have begun := callHook_enter plain calls
        rw [World.entering, List.append_nil, List.append_nil]
        exact begun
      | false =>
        rw [active] at calls
        subst named
        refine .evolves (fun definition start enters => ?_)
          (callHook_exit_of_suspended (effect.refresh world.actor.snapshot) plain idle known active
            calls)
        cases enters with
        | refresh applied' suspended resumed =>
          obtain rfl := Option.some.inj (applied.symm.trans applied')
          exact absurd (active.symm.trans resumed) (by simp)
    · rename_i untoggled
      obtain ⟨_, rfl⟩ := Prod.mk.inj (Option.some.inj rest)
      have unchanged : (effect.refresh world.actor.snapshot).isActive = effect.isActive := by
        simpa using untoggled
      refine .evolves (fun definition start enters => ?_) ?_
      · cases enters with
        | refresh applied' suspended active =>
          obtain rfl := Option.some.inj (applied.symm.trans applied')
          exact absurd (active.symm.trans (unchanged.trans suspended)) (by simp)
      · refine View.Evolves.insertEffect idle.plain known ?_
        rw [unchanged, View.isOn_share_of_applied found]

theorem quiet_evolves {α : Type} {engine : Engine α} {result : α} (quiet : IsQuiet engine)
    (idle : world.view.IsIdle) (returned : engine.run world = some (result, world')) :
    world.view.Evolves world'.view := by
  rw [quiet _ _ _ returned]
  exact .refl idle.plain

theorem notify_evolves {trigger : Trigger} (idle : world.view.IsIdle)
    (returned : (notify (Engine.perform fuel) trigger).run world = some ((), world')) :
    world.view.Evolves world'.view :=
  notifyEvolves_idle _ _ _ _ idle.idle idle.plain returned

theorem setCustomValue_evolves {id : String} {value : Float32} (idle : world.view.IsIdle)
    (returned : (setCustomValue (Engine.perform fuel) id value).run world = some ((), world')) :
    world.view.Evolves world'.view := by
  have rest := run_actor_bind.symm.trans returned
  obtain ⟨_, ordered, orders, rest⟩ := run_bind_eq_some.1 rest
  obtain ⟨_, changed, changes, rest⟩ := run_bind_eq_some.1 rest
  obtain ⟨_, reported, reports, notifies⟩ := run_bind_eq_some.1 rest
  have sets : world.view.Evolves reported.view := by
    obtain ⟨_, rfl⟩ := Prod.mk.inj (Option.some.inj orders)
    obtain ⟨_, rfl⟩ := Prod.mk.inj (Option.some.inj changes)
    obtain ⟨_, rfl⟩ := Prod.mk.inj (Option.some.inj reports)
    exact .of_untouched idle.plain rfl rfl rfl rfl rfl
  exact sets.trans (notify_evolves (sets.isIdle idle) notifies)

theorem setHp_evolves {hp : Float32} (idle : world.view.IsIdle)
    (returned : (setHp (Engine.perform fuel) hp).run world = some ((), world')) :
    world.view.Evolves world'.view := by
  obtain ⟨_, changed, changes, notifies⟩ := run_bind_eq_some.1 returned
  have sets : world.view.Evolves changed.view := by
    obtain ⟨_, rfl⟩ := Prod.mk.inj (Option.some.inj changes)
    exact .of_untouched idle.plain rfl rfl rfl rfl rfl
  exact sets.trans (notify_evolves (sets.isIdle idle) notifies)

/-- Operations of the public interface either run an enter hook or only notify. -/
theorem act_proceeds {limit : Nat} {response : Response} (foreign : operation.IsForeign)
    (idle : world.view.IsIdle)
    (returned : (act (Engine.perform fuel) limit operation).run world = some (response, world')) :
    Proceeds fuel operation world world' := by
  cases operation with
  | addEffect id =>
    obtain ⟨_, added, adds, ends⟩ := run_bind_eq_some.1 returned
    obtain ⟨_, rfl⟩ := Prod.mk.inj (Option.some.inj ends)
    exact addEffect_proceeds idle adds
  | refreshEffect id =>
    obtain ⟨_, refreshed, refreshes, ends⟩ := run_bind_eq_some.1 returned
    obtain ⟨_, rfl⟩ := Prod.mk.inj (Option.some.inj ends)
    exact refreshEffect_proceeds idle refreshes
  | addBase stat value =>
    refine .of_other (by simp) ?_
    obtain ⟨_, taken, takes, rest⟩ := run_bind_eq_some.1 returned
    obtain ⟨_, added, adds, ends⟩ := run_bind_eq_some.1 rest
    obtain ⟨_, rfl⟩ := Prod.mk.inj (Option.some.inj ends)
    have evolves := quiet_evolves takeModifier_quiet idle takes
    exact evolves.trans (addModifier_evolves (ne_effectSource (by decide)) (evolves.isIdle idle) adds)
  | addModifier modifier source =>
    obtain ⟨_, added, adds, ends⟩ := run_bind_eq_some.1 returned
    obtain ⟨_, rfl⟩ := Prod.mk.inj (Option.some.inj ends)
    exact .of_other (by simp) (addModifier_evolves foreign idle adds)
  | removeModifier stat op value source =>
    obtain ⟨_, removed, removes, ends⟩ := run_bind_eq_some.1 returned
    obtain ⟨_, rfl⟩ := Prod.mk.inj (Option.some.inj ends)
    exact .of_other (by simp) (removeModifier_evolves foreign idle removes)
  | removeSource source =>
    obtain ⟨_, removed, removes, ends⟩ := run_bind_eq_some.1 returned
    obtain ⟨_, rfl⟩ := Prod.mk.inj (Option.some.inj ends)
    exact .of_other (by simp) (removeSource_evolves foreign idle removes)
  | removeEffect id =>
    obtain ⟨_, removed, removes, ends⟩ := run_bind_eq_some.1 returned
    obtain ⟨_, rfl⟩ := Prod.mk.inj (Option.some.inj ends)
    exact .of_other (by simp) (removeEffect_evolves notifyEvolves_idle idle.idle idle.plain removes)
  | setCustomValue id value =>
    obtain ⟨_, set, sets, ends⟩ := run_bind_eq_some.1 returned
    obtain ⟨_, rfl⟩ := Prod.mk.inj (Option.some.inj ends)
    exact .of_other (by simp) (setCustomValue_evolves idle sets)
  | setHp hp =>
    obtain ⟨_, set, sets, ends⟩ := run_bind_eq_some.1 returned
    obtain ⟨_, rfl⟩ := Prod.mk.inj (Option.some.inj ends)
    exact .of_other (by simp) (setHp_evolves idle sets)
  | process delta =>
    obtain ⟨_, processed, processes, ends⟩ := run_bind_eq_some.1 returned
    obtain ⟨_, rfl⟩ := Prod.mk.inj (Option.some.inj ends)
    obtain ⟨_, notified, notifies, drains⟩ := run_bind_eq_some.1 processes
    have evolves := notify_evolves idle notifies
    exact .of_other (by simp) (evolves.trans (drainDamage_evolves (evolves.isIdle idle) drains))
  | notify trigger =>
    obtain ⟨_, notified, notifies, ends⟩ := run_bind_eq_some.1 returned
    obtain ⟨_, rfl⟩ := Prod.mk.inj (Option.some.inj ends)
    exact .of_other (by simp) (notify_evolves idle notifies)
  | queueDamage | takeEvents | takePooled | poolSizes =>
    obtain ⟨_, rfl⟩ := Prod.mk.inj (Option.some.inj returned)
    exact .of_other (by simp) (.of_untouched idle.plain rfl rfl rfl rfl rfl)
  | modifiers | calculate | customValue | hp | isDead | hasEffect | effects | snapshot =>
    obtain ⟨_, rfl⟩ := Prod.mk.inj (Option.some.inj returned)
    exact .of_other (by simp) (.refl idle.plain)

end Engine

/-! ## Runs -/

/-- The modifiers under the source of an effect are one copy of each of its modifiers while it is in
force, and none otherwise. -/
structure Actor.CarriesBundles (actor : Actor) : Prop where
  inForce : ∀ id, ∀ effect ∈ actor.effects.get? id, effect.isActive = true → ∀ stat,
    ((actor.modifiersOf stat).filter (Modifier.isFrom (effectSource id))).Perm
      ((effect.definition.modifiers.map effect.definition.attached).filter
        fun modifier => modifier.stat = stat)
  withdrawn : ∀ id, actor.hasEffect id = false → ∀ stat, ∀ modifier ∈ actor.modifiersOf stat,
    modifier.source ≠ some (effectSource id)

section Reading

variable {world : World} {id : String} {effect : AppliedEffect}

theorem World.isIntact_iff_of_inForce (plain : world.view.IsPlain)
    (applied : world.actor.effects.get? id = some effect) (active : effect.isActive = true) :
    (world.view.share id).IsIntact (world.view.bundle id) ↔ ∀ stat,
      ((world.actor.modifiersOf stat).filter (Modifier.isFrom (effectSource id))).Perm
        ((effect.definition.modifiers.map effect.definition.attached).filter
          fun modifier => modifier.stat = stat) := by
  have found : world.view.effects.get? id = some effect := applied
  have isOn : (world.view.share id).isOn = true :=
    (View.isOn_share_of_applied found).trans active
  have whole : world.view.bundle id =
      effect.definition.bundleOf effect.definition.modifiers := by
    rw [View.bundle, plain.applied id effect found]
  rw [Share.IsIntact, Share.due, if_pos isOn, whole, funext_iff]
  exact forall_congr' fun stat => Multiset.coe_eq_coe

theorem World.isIntact_iff_of_off (off : world.actor.hasEffect id = false) :
    (world.view.share id).IsIntact (world.view.bundle id) ↔
      ∀ stat, ∀ modifier ∈ world.actor.modifiersOf stat,
        modifier.source ≠ some (effectSource id) := by
  have isOff : ¬(world.view.share id).isOn = true := by
    have same : (world.view.share id).isOn = world.actor.hasEffect id := rfl
    simp [same, off]
  rw [Share.IsIntact, Share.due, if_neg isOff, funext_iff]
  refine forall_congr' fun stat => ?_
  simp [View.share, World.view, Modifier.isFrom]

/-- What the view of an actor says about its effects is what the actor carries. -/
theorem World.carriesBundles_iff_isBundled (plain : world.view.IsPlain) :
    world.actor.CarriesBundles ↔ world.view.IsBundled := by
  constructor
  · intro carries id
    cases on : world.actor.hasEffect id with
    | false => exact (World.isIntact_iff_of_off on).2 (carries.withdrawn id on)
    | true =>
      obtain ⟨effect, applied, active⟩ := (Option.any_eq_true _ _).1 on
      exact (World.isIntact_iff_of_inForce plain applied active).2
        (carries.inForce id effect applied active)
  · intro bundled
    refine ⟨fun id effect applied active => ?_, fun id off => ?_⟩
    · exact (World.isIntact_iff_of_inForce plain applied active).1 (bundled id)
    · exact (World.isIntact_iff_of_off off).1 (bundled id)

end Reading

theorem EffectCatalog.isPlain_ofList {definitions : List EffectDefinition}
    (plain : ∀ definition ∈ definitions, definition.IsPlain) :
    ∀ id, ∀ definition ∈ (EffectCatalog.ofList definitions).get? id,
      definition.id = id ∧ definition.IsPlain :=
  fun _ definition known =>
    ⟨id_of_get?_ofList known, plain definition (mem_of_get?_ofList known)⟩

theorem World.isBundled_new {catalog : EffectCatalog} {pools : Pools}
    {orders : Nat → VisitOrder} :
    View.IsBundled { World.new catalog pools with orders := orders }.view := by
  intro id
  have unlisted (stat : Stat) : (Actor.new catalog).modifiersOf stat = [] := by
    simp [Actor.new, Actor.modifiersOf]
  have nothing : (Actor.new catalog).effects.get? id = none := rfl
  funext stat
  simp [View.share, Share.due, World.view, World.new, unlisted, nothing]

theorem World.isIdle_new {catalog : EffectCatalog} {pools : Pools} {orders : Nat → VisitOrder}
    (plain : ∀ id, ∀ definition ∈ catalog.get? id, definition.id = id ∧ definition.IsPlain) :
    View.IsIdle { World.new catalog pools with orders := orders }.view := by
  have unlisted (stat : Stat) : (Actor.new catalog).modifiersOf stat = [] := by
    simp [Actor.new, Actor.modifiersOf]
  refine ⟨⟨plain, fun id effect applied => absurd applied (by simp [World.view, World.new, Actor.new]),
    fun stat modifier member => ?_⟩, rfl⟩
  exact absurd member (by simp [World.view, World.new, unlisted])

theorem Engine.perform_isBundled_iff {fuel : Nat} {world world' : World} {operation : Operation}
    {response : Response} (foreign : operation.IsForeign) (idle : world.view.IsIdle)
    (bundled : world.view.IsBundled)
    (returned : (Engine.perform (fuel + 1) operation).run world = some (response, world')) :
    world'.view.IsIdle ∧ (world'.view.IsBundled ↔ ¬operation.BreaksOff world fuel) := by
  cases act_proceeds foreign idle returned with
  | enters definition start enters attaches => exact enters.isBundled_iff idle bundled attaches
  | evolves stays evolves =>
    refine ⟨evolves.isIdle idle, iff_of_true (evolves.isBundled bundled) ?_⟩
    rintro ⟨definition, start, _, _, _, _, enters, _⟩
    exact stays definition start enters

/-- What holds between the operations of a run that breaks off no enter hook. -/
theorem World.Reachable.isBundled {catalog : EffectCatalog} {world : World}
    (plain : ∀ id, ∀ definition ∈ catalog.get? id, definition.id = id ∧ definition.IsPlain)
    (reachable : World.Reachable catalog
      (fun world operation fuel => operation.IsForeign ∧ ¬operation.BreaksOff world fuel) world) :
    world.view.IsIdle ∧ world.view.IsBundled := by
  induction reachable with
  | new pools orders => exact ⟨World.isIdle_new plain, World.isBundled_new⟩
  | perform reached returned permitted inductionHypothesis =>
    obtain ⟨idle, bundled⟩ := inductionHypothesis
    obtain ⟨foreign, whole⟩ := permitted
    have performs := Engine.perform_isBundled_iff foreign idle bundled returned
    exact ⟨performs.1, performs.2.2 whole⟩
  | share pools reached inductionHypothesis => exact inductionHypothesis

/-- The bundles are right between the operations of a run that has not broken off an enter hook, and
after the next operation just if that does not break one off either. -/
theorem World.Reachable.carriesBundles_iff {definitions : List EffectDefinition}
    {world world' : World} {operation : Operation} {fuel : Nat} {response : Response}
    (plain : ∀ definition ∈ definitions, definition.IsPlain)
    (reachable : World.Reachable (.ofList definitions)
      (fun world operation fuel => operation.IsForeign ∧ ¬operation.BreaksOff world fuel) world)
    (foreign : operation.IsForeign)
    (returned : (Engine.perform (fuel + 1) operation).run world = some (response, world')) :
    world.actor.CarriesBundles ∧
      (world'.actor.CarriesBundles ↔ ¬operation.BreaksOff world fuel) := by
  obtain ⟨idle, bundled⟩ := reachable.isBundled (EffectCatalog.isPlain_ofList plain)
  obtain ⟨idle', whole⟩ := Engine.perform_isBundled_iff foreign idle bundled returned
  exact ⟨(World.carriesBundles_iff_isBundled idle.plain).2 bundled,
    (World.carriesBundles_iff_isBundled idle'.plain).trans whole⟩

theorem Actor.not_carriesBundles_of_left {actor : Actor} {id : String} {stat : Stat}
    (ended : actor.hasEffect id = false)
    (left : (actor.modifiersOf stat).map Modifier.source = [some (effectSource id)]) :
    ¬actor.CarriesBundles := by
  intro carries
  have remains : some (effectSource id) ∈ (actor.modifiersOf stat).map Modifier.source := by
    simp [left]
  obtain ⟨modifier, member, own⟩ := List.mem_map.1 remains
  exact carries.withdrawn id ended stat modifier member own

/-- An effect that is suspended without some defense. -/
def EffectDefinition.stance : EffectDefinition :=
  ⟨⟨"stance", some ((Condition.statValue .defense .less 5).withOutcome .deactivate), none,
    [Modifier.new .attack .add 10, Modifier.new .speed .add 1]⟩, .standard⟩

/-- A defense that a high attack removes. -/
def Modifier.guard : Modifier :=
  { Modifier.new .defense .add 5 with condition := some (.statValue .attack .greaterEquals 10) }

/-- The second modifier of an effect that its first one suspends stays behind. -/
theorem World.Reachable.breaksOff_stance : ∃ world world' response,
    (Engine.perform 4 (.addEffect "stance")).run world = some (response, world') ∧
      world.actor.CarriesBundles ∧ ¬world'.actor.CarriesBundles ∧
      (Operation.addEffect "stance").BreaksOff world 3 := by
  have run : ((Engine.perform 4 (.addModifier .guard (some "shield"))).run
      (World.new (.ofList [.stance]) .initial)).any (fun first =>
        ((Engine.perform 4 (.addEffect "stance")).run first.2).any fun second =>
          second.2.actor.hasEffect "stance" = false ∧
          (second.2.actor.modifiersOf .speed).map Modifier.source =
            [some (effectSource "stance")]) = true := by
    decide +kernel
  obtain ⟨⟨response, world⟩, begun, continues⟩ := (Option.any_eq_true _ _).1 run
  obtain ⟨⟨answer, world'⟩, returned, facts⟩ := (Option.any_eq_true _ _).1 continues
  obtain ⟨suspended, left⟩ := of_decide_eq_true facts
  have plain : ∀ definition ∈ [EffectDefinition.stance], definition.IsPlain := by
    intro definition member
    obtain rfl := List.mem_singleton.1 member
    exact ⟨by decide, Or.inl rfl⟩
  have reachable : World.Reachable (.ofList [.stance]) (fun world operation fuel =>
      operation.IsForeign ∧ ¬operation.BreaksOff world fuel) world := by
    refine World.Reachable.perform (.new .initial fun _ => .declared) begun
      ⟨Engine.ne_effectSource (by decide), ?_⟩
    rintro ⟨_, _, _, _, _, _, enters, _⟩
    nomatch enters
  have foreign : Operation.IsForeign (.addEffect "stance") := trivial
  obtain ⟨carries, outcome⟩ := World.Reachable.carriesBundles_iff plain reachable foreign returned
  have broken : ¬world'.actor.CarriesBundles := Actor.not_carriesBundles_of_left suspended left
  exact ⟨world, world', answer, returned, carries, broken,
    not_not.1 fun whole => broken (outcome.2 whole)⟩

/-- An effect that its own first modifier ends. -/
def EffectDefinition.surge : EffectDefinition :=
  ⟨⟨"surge", some (.statValue .attack .greaterEquals 10), none,
    [Modifier.new .attack .add 10, Modifier.new .defense .add 5]⟩, .standard⟩

/-- The bundles are not right after every operation of every run. -/
theorem World.Reachable.not_forall_carriesBundles : ¬∀ definitions world,
    (∀ definition ∈ definitions, definition.IsPlain) →
    World.Reachable (.ofList definitions) (fun _ operation _ => operation.IsForeign) world →
    world.actor.CarriesBundles := by
  intro all
  have run : ((Engine.perform 4 (.addEffect "surge")).run
      (World.new (.ofList [.surge]) .initial)).any (fun result =>
        result.2.actor.hasEffect "surge" = false ∧
        (result.2.actor.modifiersOf .defense).map Modifier.source =
          [some (effectSource "surge")]) = true := by
    decide +kernel
  obtain ⟨⟨response, world⟩, returned, facts⟩ := (Option.any_eq_true _ _).1 run
  obtain ⟨ended, left⟩ := of_decide_eq_true facts
  have plain : ∀ definition ∈ [EffectDefinition.surge], definition.IsPlain := by
    intro definition member
    obtain rfl := List.mem_singleton.1 member
    exact ⟨by decide, Or.inl rfl⟩
  have reachable : World.Reachable (.ofList [.surge]) (fun _ operation _ => operation.IsForeign)
      world :=
    World.Reachable.perform (.new .initial fun _ => .declared) returned trivial
  exact Actor.not_carriesBundles_of_left ended left
    (all [.surge] world plain reachable)

end Roleplay
