import Roleplay.Proofs.Stats.Notifying
import Roleplay.Proofs.Stats.Provenance
import Roleplay.Proofs.Stats.Settlement

/-! # Termination of a process

Every hit that a call of `process` takes off the queue is followed by a notification, whose interval
hooks may queue more damage behind it.  Whether the queue ever runs out depends on what the tick
conditions of the applied effects look at.

* `Engine.process_returns_of_calm`: if the effects that deal damage tick by time alone, it does;
* `Engine.process_diverges_of_burning`: if one of them ticks at every hit, it does not;
* `World.Reachable.notify_returns`, `World.Reachable.process_returns` and
  `World.Reachable.process_diverges` are the statements for runs.
-/

namespace Roleplay

/-! ## Properties of applied effects -/

def EachEffect (property : AppliedEffect → Prop) (effects : Dictionary AppliedEffect) : Prop :=
  ∀ id, ∀ effect ∈ effects.get? id, property effect

namespace EachEffect

variable {property : AppliedEffect → Prop} {effects : Dictionary AppliedEffect}

theorem receive {trigger : Trigger} {snapshot : StatSnapshot} (each : EachEffect property effects)
    (keeps : ∀ effect, property effect → property (effect.receive trigger snapshot).effect) :
    EachEffect property
      (effects.mapValues fun _ effect => (effect.receive trigger snapshot).effect) := by
  intro id effect found
  rw [Dictionary.get?_mapValues] at found
  obtain ⟨earlier, wasFound, rfl⟩ := Option.map_eq_some_iff.1 found
  exact keeps earlier (each id earlier wasFound)

theorem erase {id : String} (each : EachEffect property effects) :
    EachEffect property (effects.erase id) := by
  intro other effect found
  rw [Dictionary.get?_erase] at found
  split at found
  · cases found
  · exact each other effect found

theorem insert {id : String} {effect : AppliedEffect} (each : EachEffect property effects)
    (holds : property effect) : EachEffect property (effects.insert id effect) := by
  intro other applied found
  rw [Dictionary.get?_insert] at found
  split at found
  · obtain rfl := Option.some.inj found
    exact holds
  · exact each other applied found

end EachEffect

theorem isLasting_eachEffect {property : AppliedEffect → Prop}
    (builtIn : ∀ effect, property effect → effect.definition.behavior.IsBuiltIn)
    (keeps : ∀ effect trigger snapshot, property effect →
      property (effect.receive trigger snapshot).effect) : IsLasting (EachEffect property) where
  builtIn _ each id effect found := builtIn effect (each id effect found)
  receives _ trigger snapshot each := each.receive fun effect => keeps effect trigger snapshot
  expires _ _ _ _ _ _ _ _ _ each := each.erase

abbrev AreBuiltIn : Dictionary AppliedEffect → Prop :=
  EachEffect fun effect => effect.definition.behavior.IsBuiltIn

abbrev AreCalm : Dictionary AppliedEffect → Prop := EachEffect AppliedEffect.IsCalm

theorem isLasting_areBuiltIn : IsLasting AreBuiltIn := by
  apply isLasting_eachEffect
  · exact fun _ builtIn => builtIn
  · intro effect trigger snapshot builtIn
    rwa [AppliedEffect.definition_receive]

theorem isLasting_areCalm : IsLasting AreCalm :=
  isLasting_eachEffect (fun _ calm => calm.builtIn) fun _ _ _ => AppliedEffect.isCalm_receive

/-- All effects are built-in, and the one of the given id burns. -/
structure BurnsAt (id : String) (effects : Dictionary AppliedEffect) : Prop where
  builtIn : AreBuiltIn effects
  burning : ∃ effect ∈ effects.get? id, effect.Burns

theorem isLasting_burnsAt {id : String} : IsLasting (BurnsAt id) := by
  constructor
  case builtIn => exact fun effects burns => burns.builtIn
  case receives =>
    intro effects trigger snapshot burns
    obtain ⟨burning, found, burn⟩ := burns.burning
    refine ⟨isLasting_areBuiltIn.receives _ _ _ burns.builtIn, burning, ?_, burn⟩
    rw [Dictionary.get?_mapValues, found, Option.map_some, burn.receive]
    rfl
  case expires =>
    intro effects trigger snapshot burns other effect found expired others burnsToo
    -- what burns does not expire, so it is another effect that does
    have different : other ≠ id := by
      rintro rfl
      obtain ⟨burning, wasFound, burn⟩ := burns.burning
      obtain rfl := Option.some.inj (found.symm.trans wasFound)
      rw [burn.receive] at expired
      cases expired
    obtain ⟨burning, wasFound, burn⟩ := burnsToo.burning
    refine ⟨burnsToo.builtIn.erase, burning, ?_, burn⟩
    rw [Dictionary.get?_erase, if_neg different]
    exact wasFound

namespace Engine

variable {trigger : Trigger} {queues : List Damage → Prop} {world : World} {id : String}

theorem sustains_areCalm (untimely : trigger.kind ≠ .time) : Sustains AreCalm trigger queues := by
  intro effects calm id effect found snapshot
  exact ((calm id effect found).intervals_receive untimely).imp_right Or.inl

theorem sustains_of_grows {applied : Dictionary AppliedEffect → Prop} (grows : Grows queues) :
    Sustains applied trigger queues :=
  fun _ _ _ _ _ _ => Or.inr (Or.inr grows)

/-! ## Calm actors -/

/-- The queue of a calm actor is emptied within as many hits as it has. -/
theorem drainDamage_returns {queue : List Damage}
    (calm : world.view.Meets false AreCalm (· = queue)) :
    ∃ world', world'.actor.damage = [] ∧ ∀ fuel limit, queue.length ≤ limit →
      (drainDamage (Engine.perform (fuel + 1)) limit).run world = some ((), world') := by
  have queued : world.actor.damage = queue := calm.queues
  induction queue generalizing world with
  | nil =>
    refine ⟨world, queued, fun fuel limit _ => ?_⟩
    cases limit with
    | zero | succ =>
      rw [drainDamage, run_actor_bind, queued]
      rfl
  | cons damage rest inductionHypothesis =>
    have total : IsTotal (sufferDamage damage rest) := isTotal_sufferDamage
    obtain ⟨_, suffered, suffers⟩ := total world
    have calmSuffered : suffered.view.Meets false AreCalm (· = rest) := by
      rw [sufferDamage_does _ _ _ suffers]
      exact ⟨calm.notifying, calm.applied, rfl⟩
    -- the hit is not about time, so no interval adds to what is left of the queue
    have hit : Sustains AreCalm (.damage damage.amount) (· = rest) := sustains_areCalm (by nofun)
    have settles : Sustains AreCalm .statsChanged (· = rest) := sustains_areCalm (by nofun)
    obtain ⟨_, notified, notifies, calmNotified⟩ := notify_returns isLasting_areCalm
      (pass_yields_of_sustains isLasting_areCalm hit) settles suffered calmSuffered
    obtain ⟨world', empty, drains⟩ := inductionHypothesis calmNotified calmNotified.queues
    refine ⟨world', empty, fun fuel limit enough => ?_⟩
    cases limit with
    | zero => cases enough
    | succ limit =>
      rw [drainDamage, run_actor_bind, queued]
      exact run_bind_eq_some.2 ⟨(), suffered, suffers, run_bind_eq_some.2
        ⟨(), notified, notifies fuel, drains fuel limit (Nat.le_of_succ_le_succ enough)⟩⟩

theorem process_returns_of_calm {delta : Float32}
    (calm : world.view.Meets false AreCalm fun _ => True) :
    ∃ fuel world', world'.actor.damage = [] ∧ ∀ more, fuel ≤ more →
      (Engine.perform more (.process delta)).run world = some (.done, world') := by
  obtain ⟨_, ticked, ticks, calmTicked⟩ := notify_returns isLasting_areCalm
    (pass_yields_of_sustains isLasting_areCalm (sustains_of_grows grows_true))
    (sustains_of_grows grows_true) world calm
  have queued : ticked.view.Meets false AreCalm (· = ticked.actor.damage) :=
    ⟨calmTicked.notifying, calmTicked.applied, rfl⟩
  obtain ⟨world', empty, drains⟩ := drainDamage_returns queued
  refine ⟨ticked.actor.damage.length + 2, world', empty, fun more enough => ?_⟩
  obtain ⟨fuel, rfl⟩ : ∃ fuel, more = fuel + 2 := ⟨more - 2, by omega⟩
  have processes : (process (Engine.perform (fuel + 1)) (fuel + 1) delta).run world =
      some ((), world') :=
    run_bind_eq_some.2 ⟨(), ticked, ticks fuel, drains fuel (fuel + 1) (by omega)⟩
  exact run_bind_eq_some.2 ⟨(), world', processes, rfl⟩

/-! ## Burning actors -/

/-- Every hit queues the next one. -/
theorem notify_damage_burns {amount : Float32} :
    Returns (fun world => world.view.Meets false (BurnsAt id) fun _ => True)
      (fun fuel => notify (Engine.perform (fuel + 1)) (.damage amount))
      fun _ world => world.view.Meets false (BurnsAt id) (· ≠ []) := by
  apply notify_returns isLasting_burnsAt _ (sustains_of_grows grows_ne_nil)
  apply pass_yields isLasting_burnsAt
  intro effects snapshot burns
  obtain ⟨burning, found, burn⟩ := burns.burning
  obtain ⟨strength, damaging⟩ := burn.damaging
  have reacts : (reactionsOf (.damage amount) snapshot effects).get? id =
      some ⟨burning, false, false, 1⟩ := by
    rw [reactionsOf, Dictionary.get?_mapValues, found, Option.map_some, burn.receive]
  have member : ⟨burning, false, false, 1⟩ ∈
      (reactionsOf (.damage amount) snapshot effects).values :=
    List.mem_map.2 ⟨_, Dictionary.get?_eq_some_iff_mem.1 reacts, rfl⟩
  exact fireIntervals_yields_damage (fun _ => builtIn_of_mem_reactionsOf isLasting_burnsAt burns)
    member damaging rfl

theorem drainDamage_diverges {fuel limit : Nat}
    (burns : world.view.Meets false (BurnsAt id) (· ≠ [])) :
    (drainDamage (Engine.perform (fuel + 1)) limit).run world = none := by
  have queued : world.actor.damage ≠ [] := burns.queues
  induction limit generalizing world with
  | zero =>
    rw [drainDamage, run_actor_bind, if_neg (by simpa using queued)]
    rfl
  | succ limit inductionHypothesis =>
    obtain ⟨damage, rest, queue⟩ := List.exists_cons_of_ne_nil queued
    have total : IsTotal (sufferDamage damage rest) := isTotal_sufferDamage
    obtain ⟨_, suffered, suffers⟩ := total world
    have burnsSuffered : suffered.view.Meets false (BurnsAt id) fun _ => True := by
      rw [sufferDamage_does _ _ _ suffers]
      exact ⟨burns.notifying, burns.applied, trivial⟩
    obtain ⟨_, notified, notifies, burnsNotified⟩ := notify_damage_burns suffered burnsSuffered
    have continues := inductionHypothesis burnsNotified burnsNotified.queues
    rw [drainDamage, run_actor_bind, queue]
    exact (run_bind_of_some suffers).trans ((run_bind_of_some (notifies fuel)).trans continues)

theorem process_diverges_of_burning {fuel : Nat} {delta : Float32}
    (burns : world.view.Meets false (BurnsAt id) (· ≠ [])) :
    (Engine.perform (fuel + 2) (.process delta)).run world = none := by
  obtain ⟨_, ticked, ticks, burnsTicked⟩ := notify_returns isLasting_burnsAt
    (pass_yields_of_sustains isLasting_burnsAt (sustains_of_grows grows_ne_nil))
    (sustains_of_grows grows_ne_nil) world burns
  have processes : (process (Engine.perform (fuel + 1)) (fuel + 1) delta).run world = none :=
    (run_bind_of_some (ticks fuel)).trans (drainDamage_diverges burnsTicked)
  exact run_bind_of_none processes

end Engine

/-! ## Runs -/

theorem World.Reachable.builtIn {catalog : EffectCatalog}
    {permits : World → Operation → Nat → Prop} {world : World}
    (builtIn : ∀ id, ∀ definition ∈ catalog.get? id, definition.behavior.IsBuiltIn)
    (reachable : World.Reachable catalog permits world) :
    AreBuiltIn world.actor.effects := by
  intro id effect applied
  obtain ⟨name, defined⟩ := reachable.isKnown.applied id effect applied
  exact builtIn name effect.definition defined

/-- Whatever the applied effects tick by, every notification returns. -/
theorem World.Reachable.notify_returns {catalog : EffectCatalog}
    {permits : World → Operation → Nat → Prop} {world : World}
    (builtIn : ∀ id, ∀ definition ∈ catalog.get? id, definition.behavior.IsBuiltIn)
    (reachable : World.Reachable catalog permits world) (trigger : Trigger) :
    ∃ world', ∀ fuel, (Engine.perform (fuel + 2) (.notify trigger)).run world =
      some (.done, world') := by
  have meets : world.view.Meets false AreBuiltIn fun _ => True :=
    ⟨reachable.isSettled_view.notifying, reachable.builtIn builtIn, trivial⟩
  have grows {trigger : Trigger} : Engine.Sustains AreBuiltIn trigger fun _ => True :=
    Engine.sustains_of_grows Engine.grows_true
  obtain ⟨_, world', returned, _⟩ := Engine.notify_returns isLasting_areBuiltIn
    (Engine.pass_yields_of_sustains isLasting_areBuiltIn grows) grows world meets
  exact ⟨world', fun fuel => Engine.run_bind_eq_some.2 ⟨(), world', returned fuel, rfl⟩⟩

/-- Where the applied effects that deal damage tick by time alone, a call of `process` returns, and
leaves no damage queued. -/
theorem World.Reachable.process_returns {catalog : EffectCatalog}
    {permits : World → Operation → Nat → Prop} {world : World}
    (builtIn : ∀ id, ∀ definition ∈ catalog.get? id, definition.behavior.IsBuiltIn)
    (reachable : World.Reachable catalog permits world)
    (timely : ∀ id, ∀ effect ∈ world.actor.effects.get? id, ∀ amount,
      effect.definition.behavior = .damageOverTime amount →
        effect.TickIgnores .stats ∧ effect.TickIgnores .damage) (delta : Float32) :
    ∃ fuel world', world'.actor.damage = [] ∧ ∀ more, fuel ≤ more →
      (Engine.perform more (.process delta)).run world = some (.done, world') := by
  have calm : AreCalm world.actor.effects := by
    intro id effect applied
    have known := reachable.builtIn builtIn id effect applied
    refine ⟨known, known.imp_right ?_⟩
    rintro ⟨amount, ticking⟩
    exact timely id effect applied amount ticking
  exact Engine.process_returns_of_calm ⟨reachable.isSettled_view.notifying, calm, trivial⟩

theorem EffectCatalog.isBuiltIn_ofList {definitions : List EffectDefinition}
    (builtIn : ∀ definition ∈ definitions, definition.behavior.IsBuiltIn) :
    ∀ id, ∀ definition ∈ (EffectCatalog.ofList definitions).get? id,
      definition.behavior.IsBuiltIn :=
  fun _ definition known => builtIn definition (mem_of_get?_ofList known)

/-- An effect that deals damage every second. -/
def EffectDefinition.venom : EffectDefinition :=
  ⟨⟨"venom", none, some (.timed 1), []⟩, .damageOverTime 5⟩

/-- Damage that has been queued is dealt while a poison deals more. -/
theorem World.Reachable.process_returns_poisoned :
    ∃ world, World.Reachable (.ofList [.venom]) (fun _ _ _ => True) world ∧
      world.actor.hasEffect "venom" = true ∧ world.actor.damage = [⟨10, none⟩] ∧
      ∃ fuel world', world'.actor.damage = [] ∧ ∀ more, fuel ≤ more →
        (Engine.perform more (.process 3)).run world = some (.done, world') := by
  have run : ((Engine.performAll 4 [.addBase .maxHp 100, .setHp 100, .addEffect "venom",
      .queueDamage ⟨10, none⟩]).run (World.new (.ofList [.venom]) .initial)).any (fun result =>
        result.2.actor.hasEffect "venom" = true ∧ result.2.actor.damage = [⟨10, none⟩] ∧
        result.2.actor.effects.entries.all fun entry => entry.2.tick.all fun tick =>
          !tick.subscribes .stats && !tick.subscribes .damage) = true := by
    decide +kernel
  obtain ⟨result, returned, facts⟩ := (Option.any_eq_true _ _).1 run
  obtain ⟨poisoned, queued, timely⟩ := of_decide_eq_true facts
  have reachable : World.Reachable (.ofList [.venom]) (fun _ _ _ => True) result.2 :=
    World.Reachable.performAll (fun _ _ _ => trivial) (.new .initial fun _ => .declared) returned
  have builtIn : ∀ definition ∈ [EffectDefinition.venom], definition.behavior.IsBuiltIn := by
    intro definition member
    obtain rfl := List.mem_singleton.1 member
    exact Or.inr ⟨5, rfl⟩
  refine ⟨result.2, reachable, poisoned, queued,
    World.Reachable.process_returns (EffectCatalog.isBuiltIn_ofList builtIn) reachable
      (fun id effect applied _ _ => ?_) 3⟩
  have ignores := List.all_eq_true.1 timely (id, effect)
    (Dictionary.get?_eq_some_iff_mem.1 applied)
  simp only [Option.all_eq_true, Bool.and_eq_true, Bool.not_eq_true'] at ignores
  exact ⟨fun tick found => (ignores tick found).1, fun tick found => (ignores tick found).2⟩

/-- Where an effect deals damage at every hit, a call of `process` that finds damage queued never
returns. -/
theorem World.Reachable.process_diverges {catalog : EffectCatalog}
    {permits : World → Operation → Nat → Prop} {world : World} {id : String}
    (builtIn : ∀ id, ∀ definition ∈ catalog.get? id, definition.behavior.IsBuiltIn)
    (reachable : World.Reachable catalog permits world)
    (burning : ∃ effect ∈ world.actor.effects.get? id, effect.Burns)
    (queued : world.actor.damage ≠ []) (fuel : Nat) (delta : Float32) :
    (Engine.perform (fuel + 2) (.process delta)).run world = none := by
  have burns : BurnsAt id world.actor.effects := ⟨reachable.builtIn builtIn, burning⟩
  exact Engine.process_diverges_of_burning ⟨reachable.isSettled_view.notifying, burns, queued⟩

/-- An effect that answers every hit with another one. -/
def EffectDefinition.thorns : EffectDefinition :=
  ⟨⟨"thorns", none, some (.damageCount 1), []⟩, .damageOverTime 1⟩

theorem World.Reachable.not_forall_process_returns :
    ¬∀ (catalog : EffectCatalog) (world : World) (delta : Float32),
      (∀ id, ∀ definition ∈ catalog.get? id, definition.behavior.IsBuiltIn) →
      World.Reachable catalog (fun _ _ _ => True) world →
      ∃ fuel world', world'.actor.damage = [] ∧ ∀ more, fuel ≤ more →
        (Engine.perform more (.process delta)).run world = some (.done, world') := by
  intro returns
  have run : ((Engine.performAll 4 [.addEffect "thorns", .queueDamage ⟨1, none⟩]).run
      (World.new (.ofList [.thorns]) .initial)).any (fun result =>
        result.2.actor.damage = [⟨1, none⟩] ∧
        (result.2.actor.effects.get? "thorns").any fun effect =>
          effect.duration = none ∧ effect.tick = some (.damageCount 1) ∧ effect.isActive) =
      true := by
    decide +kernel
  obtain ⟨result, returned, facts⟩ := (Option.any_eq_true _ _).1 run
  obtain ⟨queued, thorny⟩ := of_decide_eq_true facts
  obtain ⟨effect, applied, state⟩ := (Option.any_eq_true _ _).1 thorny
  obtain ⟨unlimited, tick, active⟩ := of_decide_eq_true state
  have reachable : World.Reachable (.ofList [.thorns]) (fun _ _ _ => True) result.2 :=
    World.Reachable.performAll (fun _ _ _ => trivial) (.new .initial fun _ => .declared) returned
  have builtIn : ∀ definition ∈ [EffectDefinition.thorns], definition.behavior.IsBuiltIn := by
    intro definition member
    obtain rfl := List.mem_singleton.1 member
    exact Or.inr ⟨1, rfl⟩
  have burns : effect.Burns := by
    obtain ⟨name, known⟩ := reachable.isKnown.applied "thorns" effect applied
    have same := List.mem_singleton.1 (EffectCatalog.mem_of_get?_ofList known)
    exact ⟨⟨1, by rw [same]; rfl⟩, unlimited, tick, active⟩
  have known := EffectCatalog.isBuiltIn_ofList builtIn
  obtain ⟨fuel, world', _, process⟩ := returns _ result.2 1 known reachable
  have never := reachable.process_diverges known ⟨effect, applied, burns⟩
    (by rw [queued]; simp) fuel 1
  rw [process (fuel + 2) (by omega)] at never
  cases never

end Roleplay
