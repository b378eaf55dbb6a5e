import Mathlib.Logic.Relation
import Roleplay.Proofs.Decimal.Order
import Roleplay.Proofs.Stats.Lockstep
import Roleplay.Proofs.Stats.Termination

/-! # Health stays in range

Health is moved into the range from zero to its maximum where it is written, and nowhere else: when
a hit is taken, and when it is set.  The maximum is a stat like any other, so it may fall below a
health that was written before.

* `Engine.perform_rests` says that all other operations leave health as it is, the hooks of
  notifications included;
* `World.Written` relates a world to the moment at which its health was last written;
* `World.Reachable.hp_in_range` is the statement for runs, `World.Reachable.not_forall_hp_le` shows
  that the maximum of the moment cannot be replaced by the present one.
-/

namespace Roleplay

/-! ## Finite numbers -/

def Predicate.numbers : Predicate → List Float32
  | .timed seconds elapsed => [seconds, elapsed]
  | .statValue _ _ value => [value]
  | .hpRatio _ ratio => [ratio]
  | .damageCount .. => []

def Modifier.numbers (modifier : Modifier) : List Float32 :=
  modifier.value :: modifier.condition.toList.flatMap fun condition =>
    condition.nodes.flatMap fun node => node.predicate.numbers

def Trigger.numbers : Trigger → List Float32
  | .tick delta => [delta]
  | .damage amount => [amount]
  | .statsChanged => []

/-- The numbers that an operation is given. -/
def Operation.numbers : Operation → List Float32
  | .addBase _ value => [value]
  | .addModifier modifier _ => modifier.numbers
  | .removeModifier _ _ value _ => [value]
  | .setCustomValue _ value => [value]
  | .setHp number => [number]
  | .queueDamage damage => [damage.amount]
  | .process delta => [delta]
  | .notify trigger => trigger.numbers
  | _ => []

def Operation.IsFinite (operation : Operation) : Prop :=
  ∀ number ∈ operation.numbers, number.isFinite = true

instance (operation : Operation) : Decidable operation.IsFinite :=
  inferInstanceAs (Decidable (∀ number ∈ operation.numbers, number.isFinite = true))

/-- A built-in behavior that deals no more than finite damage. -/
def Behavior.IsFinite (behavior : Behavior) : Prop :=
  behavior = .standard ∨ ∃ amount, amount.isFinite = true ∧ behavior = .damageOverTime amount

/-! ## Operations that leave health alone -/

/-- The operation neither writes health nor queues damage that is not finite. -/
def Operation.IsRestful : Operation → Prop
  | .setHp _ | .process _ => False
  | .queueDamage damage => damage.amount.isFinite = true
  | _ => True

theorem Operation.IsFinite.isRestful {operation : Operation} (finite : operation.IsFinite)
    (unset : ∀ hp, operation ≠ .setHp hp) (unprocessed : ∀ delta, operation ≠ .process delta) :
    operation.IsRestful := by
  cases operation with
  | setHp hp => exact unset hp rfl
  | process delta => exact unprocessed delta rfl
  | queueDamage damage => exact finite _ (.head _)
  | _ => trivial

/-- Hooks perform restful operations only. -/
def Behavior.IsRestful (behavior : Behavior) : Prop :=
  ∀ kind spec earlier, ∃ operations,
    behavior.program kind spec earlier = Program.ofList operations ∧
      ∀ operation ∈ operations, operation.IsRestful

theorem Behavior.isRestful_standard : standard.IsRestful := by
  intro kind spec earlier
  cases kind with
  | enter =>
    refine ⟨spec.attachments, rfl, fun operation member => ?_⟩
    obtain ⟨modifier, _, attaches⟩ := List.mem_flatMap.1 member
    simp only [EffectSpec.attachment, List.mem_cons, List.not_mem_nil, or_false] at attaches
    obtain rfl | rfl := attaches
    · trivial
    · trivial
  | exit =>
    refine ⟨spec.detachments, rfl, fun operation member => ?_⟩
    obtain rfl := List.mem_singleton.1 member
    trivial
  | interval => exact ⟨[], rfl, fun operation member => absurd member (by simp)⟩

theorem Behavior.IsFinite.isRestful {behavior : Behavior} (finite : behavior.IsFinite) :
    behavior.IsRestful := by
  obtain rfl | ⟨amount, finite, rfl⟩ := finite
  · exact isRestful_standard
  · intro kind spec earlier
    cases kind with
    | enter => exact isRestful_standard .enter spec earlier
    | exit => exact isRestful_standard .exit spec earlier
    | interval =>
      refine ⟨[.queueDamage ⟨amount, some spec.source⟩], rfl, fun operation member => ?_⟩
      obtain rfl := List.mem_singleton.1 member
      exact finite

/-- Health is the given one, damage that waits is finite, and hooks are restful. -/
structure World.Rests (hp : Float32) (world : World) : Prop where
  hp : world.actor.hp = hp
  queued : ∀ damage ∈ world.actor.damage, damage.amount.isFinite = true
  catalog : ∀ id, ∀ definition ∈ world.actor.catalog.get? id, definition.behavior.IsRestful
  effects : ∀ id, ∀ effect ∈ world.actor.effects.get? id, effect.definition.behavior.IsRestful

namespace Engine

variable {α : Type} {hp : Float32}

theorem Does.rests {engine : Engine α} {change : View → View} (does : Does engine change)
    (same : ∀ view, ((change view).catalog, (change view).effects, (change view).damage,
      (change view).hp) = (view.catalog, view.effects, view.damage, view.hp)) :
    Keeps (World.Rests hp) engine := by
  intro world result world' rests returned
  have changed := does world result world' returned
  have same := same world.view
  rw [← changed] at same
  obtain ⟨catalog, effects, damage, sameHp⟩ : world'.actor.catalog = world.actor.catalog ∧
      world'.actor.effects = world.actor.effects ∧ world'.actor.damage = world.actor.damage ∧
      world'.actor.hp = world.actor.hp := by simpa [World.view] using same
  exact ⟨sameHp.trans rests.hp, damage ▸ rests.queued, catalog ▸ rests.catalog,
    effects ▸ rests.effects⟩

theorem likeness_rests : Likeness (Same (World.Rests hp)) (·.behavior.IsRestful) where
  actor := by
    rintro world _ ⟨rfl, _⟩
    rfl
  catalog _ _ same := same.2.catalog
  effects _ _ same := same.2.effects
  modifyGet change isLocal := by
    refine matches_of_keeps (ensures_modifyGet fun world rests => ?_)
    obtain ⟨sameHp, sameDamage⟩ := Prod.mk.inj (isLocal.health world)
    refine ⟨sameHp.trans rests.hp, sameDamage ▸ rests.queued, ?_,
      isLocal.effects world rests.effects⟩
    rw [isLocal.catalog]
    exact rests.catalog
  report _ := matches_of_keeps (report_quiet.rests fun _ => rfl)
  sweepModifiers _ _ := matches_of_keeps (sweepModifiers_does.rests fun _ => rfl)
  withdrawSource source := by
    refine matches_of_keeps fun world count world' rests returned => ?_
    have withdrawn : Does (withdrawSource source) fun view =>
        { view with lists := fun stat => withoutSource source (view.lists stat) } :=
      fun world count world' returned => (withdrawSource_ensures world count world' rfl returned).2
    exact withdrawn.rests (fun _ => rfl) world count world' rests returned
  replaceCustomValue _ _ := by
    refine matches_of_keeps fun world _ world' rests returned => ?_
    obtain ⟨_, rfl⟩ := Prod.mk.inj (Option.some.inj returned)
    exact ⟨rests.hp, rests.queued, rests.catalog, rests.effects⟩

/-- Operations that write no health leave it as it is, whatever notifications they cause. -/
theorem perform_rests {fuel : Nat} {operation : Operation} (restful : operation.IsRestful) :
    Keeps (World.Rests hp) (perform fuel operation) := by
  apply keeps_of_matches
  induction fuel generalizing operation with
  | zero => exact matches_exhausted
  | succ fuel inductionHypothesis =>
    have hooks : ∀ kind (definition : EffectDefinition), definition.behavior.IsRestful →
        Matches (Same (World.Rests hp)) (callHook (perform fuel) kind definition)
          (callHook (perform fuel) kind definition) := by
      intro kind definition restful
      refine likeness_rests.callHook fun earlier => ?_
      obtain ⟨operations, program, each⟩ := restful kind definition.toEffectSpec earlier
      rw [program]
      exact matches_ofList fun operation member => inductionHypothesis (each operation member)
    cases operation with
    | setHp _ | process _ => exact restful.elim
    | queueDamage damage =>
      refine matches_of_keeps (Ensures.bind (ensures_modifyActor fun world rests => ?_)
        fun _ => keeps_pure)
      refine ⟨rests.hp, fun other member => ?_, rests.catalog, rests.effects⟩
      obtain waiting | same := List.mem_append.1 member
      · exact rests.queued other waiting
      · obtain rfl := List.mem_singleton.1 same
        exact restful
    | takeEvents =>
      refine matches_of_keeps (ensures_actor_bind fun actor => ?_)
      refine Ensures.bind (ensures_modifyActor fun world start => ?_) fun _ => keeps_pure
      exact ⟨start.1.hp, start.1.queued, start.1.catalog, start.1.effects⟩
    | _ => exact likeness_rests.act hooks (by nofun) nofun

theorem notify_rests {fuel : Nat} {trigger : Trigger} :
    Keeps (World.Rests hp) (notify (perform fuel) trigger) := by
  intro world _ world' rests returned
  have performs : (perform (fuel + 1) (.notify trigger)).run world = some (.done, world') :=
    run_bind_eq_some.2 ⟨(), world', returned, rfl⟩
  have restful : (Operation.notify trigger).IsRestful := trivial
  exact perform_rests restful _ _ _ rests performs

/-! ## Hits -/

/-- Takes the first hit of the queue, and notifies all conditions of it. -/
def strike (perform : Performer) : Engine Unit := do
  let actor ← Engine.actor
  match actor.damage with
  | [] => exhausted
  | damage :: rest => do
    sufferDamage damage rest
    notify perform (.damage damage.amount)

/-- The hits that lead from one world to another, one after the other. -/
def Strikes (perform : Performer) : World → World → Prop :=
  Relation.ReflTransGen fun world world' => (strike perform).run world = some ((), world')

/-- Draining the queue takes hits until none is left. -/
theorem drainDamage_inversion {perform : Performer} {limit : Nat} {world world' : World}
    (returned : (drainDamage perform limit).run world = some ((), world')) :
    world'.actor.damage = [] ∧ (world' = world ∨ ∃ moment, Strikes perform world moment ∧
      (strike perform).run moment = some ((), world')) := by
  induction limit generalizing world with
  | zero =>
    rw [drainDamage, run_actor_bind] at returned
    split at returned
    · rename_i empty
      obtain ⟨_, rfl⟩ := Prod.mk.inj (Option.some.inj returned)
      exact ⟨List.isEmpty_iff.1 empty, .inl rfl⟩
    · cases returned
  | succ limit inductionHypothesis =>
    rw [drainDamage, run_actor_bind] at returned
    split at returned
    · rename_i empty
      obtain ⟨_, rfl⟩ := Prod.mk.inj (Option.some.inj returned)
      exact ⟨empty, .inl rfl⟩
    · rename_i damage rest queued
      obtain ⟨_, suffered, suffers, continues⟩ := run_bind_eq_some.1 returned
      obtain ⟨_, struck, notifies, drains⟩ := run_bind_eq_some.1 continues
      have strikes : (strike perform).run world = some ((), struck) := by
        rw [strike, run_actor_bind, queued]
        exact run_bind_eq_some.2 ⟨(), suffered, suffers, notifies⟩
      -- this hit is the last one unless the rest of the queue, or what hooks add to it, follows
      obtain ⟨empty, rfl | ⟨moment, more, last⟩⟩ := inductionHypothesis drains
      · exact ⟨empty, .inr ⟨world, .refl, strikes⟩⟩
      · exact ⟨empty, .inr ⟨moment, .head strikes more, last⟩⟩

end Engine

/-! ## Health in range -/

/-- Health is a number of at least zero, and nothing that waits can change that. -/
structure World.IsWell (world : World) : Prop where
  rests : world.Rests world.actor.hp
  present : world.actor.hp.isNaN = false
  nonneg : 0 ≤ world.actor.hp

/-- Health has been written in a world of the first kind and has rested since. -/
theorem World.isWell_of_clamp {moment world : World} {number : Float32}
    (present : number.isNaN = false)
    (rests : world.Rests (Single.clamp number 0 moment.actor.hpLimit)) :
    world.IsWell ∧ world.actor.hp ≤ moment.actor.hpLimit := by
  have limit : moment.actor.hpLimit.isNaN = false := Single.isNaN_positivePart
  have written := rests.hp
  refine ⟨⟨written ▸ rests, ?_, ?_⟩, ?_⟩
  · rw [written]
    exact Single.isNaN_clamp present Single.isNaN_zero limit
  · rw [written]
    exact Single.le_clamp present Single.isNaN_zero Single.positivePart_nonneg
  · rw [written]
    exact Single.clamp_le present Single.isNaN_zero limit

namespace Engine

variable {fuel : Nat} {world world' : World}

theorem setHp_isWell {hp : Float32} {response : Response} (well : world.IsWell)
    (finite : hp.isFinite = true)
    (returned : (perform (fuel + 1) (.setHp hp)).run world = some (response, world')) :
    world'.IsWell ∧ world'.actor.hp ≤ world.actor.hpLimit := by
  obtain ⟨_, set, sets, finishes⟩ := run_bind_eq_some.1 returned
  obtain ⟨_, rfl⟩ := Prod.mk.inj (Option.some.inj finishes)
  obtain ⟨_, written, writes, notifies⟩ := run_bind_eq_some.1 sets
  have rests : written.Rests (Single.clamp hp 0 world.actor.hpLimit) := by
    obtain ⟨_, rfl⟩ := Prod.mk.inj (Option.some.inj writes)
    exact ⟨rfl, well.rests.queued, well.rests.catalog, well.rests.effects⟩
  exact World.isWell_of_clamp (Single.isNaN_of_isFinite finite)
    (notify_rests _ _ _ rests notifies)

theorem strike_isWell (well : world.IsWell)
    (returned : (strike (perform fuel)).run world = some ((), world')) :
    world'.IsWell ∧ world'.actor.hp ≤ world.actor.hpLimit := by
  rw [strike, run_actor_bind] at returned
  split at returned
  · cases returned
  · rename_i damage rest queued
    obtain ⟨_, suffered, suffers, notifies⟩ := run_bind_eq_some.1 returned
    have finite (other : Damage) (member : other ∈ damage :: rest) :
        other.amount.isFinite = true := by
      rw [← queued] at member
      exact well.rests.queued other member
    have rests : suffered.Rests
        (Single.clamp (world.actor.hp - damage.amount) 0 world.actor.hpLimit) := by
      obtain ⟨_, rfl⟩ := Prod.mk.inj (Option.some.inj suffers)
      exact ⟨rfl, fun other member => finite other (.tail _ member), well.rests.catalog,
        well.rests.effects⟩
    exact World.isWell_of_clamp (Single.isNaN_sub well.present (finite damage (.head _)))
      (notify_rests _ _ _ rests notifies)

theorem strikes_isWell (well : world.IsWell) (strikes : Strikes (perform fuel) world world') :
    world'.IsWell := by
  induction strikes with
  | refl => exact well
  | tail _ struck inductionHypothesis => exact (strike_isWell inductionHypothesis struck).1

end Engine

/-! ## Runs -/

/-- Health was last written at the moment of the first world, by what it was set to or by a hit that
was taken; a new actor has the health of no other moment. -/
inductive World.Written (catalog : EffectCatalog) (permits : World → Operation → Nat → Prop) :
    World → World → Prop where
  | new (pools : Pools) (orders : Nat → VisitOrder) :
      Written catalog permits { World.new catalog pools with orders := orders }
        { World.new catalog pools with orders := orders }
  | set {world world' : World} {hp : Float32} {fuel : Nat} {response : Response}
      (reached : World.Reachable catalog permits world)
      (returned : (Engine.perform (fuel + 1) (.setHp hp)).run world = some (response, world'))
      (permitted : permits world (.setHp hp) fuel) : Written catalog permits world world'
  | hit {world ticked moment world' : World} {delta : Float32} {fuel : Nat} {response : Response}
      (reached : World.Reachable catalog permits world)
      (returned : (Engine.perform (fuel + 1) (.process delta)).run world = some (response, world'))
      (permitted : permits world (.process delta) fuel)
      (ticks : (Engine.notify (Engine.perform fuel) (.tick delta)).run world = some ((), ticked))
      (strikes : Engine.Strikes (Engine.perform fuel) ticked moment)
      (last : (Engine.strike (Engine.perform fuel)).run moment = some ((), world')) :
      Written catalog permits moment world'
  | spared {moment world world' : World} {delta : Float32} {fuel : Nat} {response : Response}
      (written : Written catalog permits moment world)
      (returned : (Engine.perform (fuel + 1) (.process delta)).run world = some (response, world'))
      (permitted : permits world (.process delta) fuel)
      (ticks : (Engine.notify (Engine.perform fuel) (.tick delta)).run world = some ((), world'))
      (unhurt : world'.actor.damage = []) : Written catalog permits moment world'
  | other {moment world world' : World} {operation : Operation} {fuel : Nat} {response : Response}
      (written : Written catalog permits moment world)
      (returned : (Engine.perform (fuel + 1) operation).run world = some (response, world'))
      (permitted : permits world operation fuel)
      (unset : ∀ hp, operation ≠ .setHp hp) (unprocessed : ∀ delta, operation ≠ .process delta) :
      Written catalog permits moment world'
  | share {moment world : World} (pools : Pools) (written : Written catalog permits moment world) :
      Written catalog permits moment { world with pools := pools }

namespace World.Reachable

variable {catalog : EffectCatalog} {permits : World → Operation → Nat → Prop} {world : World}

/-- Health is well at every moment of a run, and at most what its maximum was when it was written.
-/
theorem isWell_of_finite (builtIn : ∀ id, ∀ definition ∈ catalog.get? id,
      definition.behavior.IsFinite)
    (finite : ∀ world operation fuel, permits world operation fuel → operation.IsFinite)
    (reachable : World.Reachable catalog permits world) :
    world.IsWell ∧ ∃ moment, World.Written catalog permits moment world ∧
      world.actor.hp ≤ moment.actor.hpLimit := by
  induction reachable with
  | new pools orders =>
    have nonneg : (0 : Float32) ≤ 0 := Single.le_refl Single.isNaN_zero
    refine ⟨⟨⟨rfl, fun damage queued => ?_, fun id definition known =>
      (builtIn id definition known).isRestful, fun id effect applied => ?_⟩, Single.isNaN_zero,
      nonneg⟩, _, .new pools orders, Single.positivePart_nonneg⟩
    · cases queued
    · cases applied
  | share pools reached inductionHypothesis =>
    obtain ⟨well, moment, written, bounded⟩ := inductionHypothesis
    exact ⟨⟨⟨rfl, well.rests.queued, well.rests.catalog, well.rests.effects⟩, well.present,
      well.nonneg⟩, moment, written.share pools, bounded⟩
  | @perform world world' operation fuel response reached returned permitted
      inductionHypothesis =>
    obtain ⟨well, moment, written, bounded⟩ := inductionHypothesis
    have finite := finite world operation fuel permitted
    have stays {world' : World} (rests : world'.Rests world.actor.hp) :
        world'.IsWell ∧ world'.actor.hp ≤ moment.actor.hpLimit := by
      have same := rests.hp
      exact ⟨⟨same ▸ rests, same ▸ well.present, same ▸ well.nonneg⟩, same ▸ bounded⟩
    -- an operation that writes no health leaves the moment as it is
    have rests (unset : ∀ hp, operation ≠ .setHp hp)
        (unprocessed : ∀ delta, operation ≠ .process delta) : world'.IsWell ∧
        ∃ moment, World.Written catalog permits moment world' ∧
          world'.actor.hp ≤ moment.actor.hpLimit := by
      obtain ⟨after, limited⟩ := stays (Engine.perform_rests
        (finite.isRestful unset unprocessed) _ _ _ well.rests returned)
      exact ⟨after, moment, .other written returned permitted unset unprocessed, limited⟩
    cases operation with
    | setHp hp =>
      obtain ⟨after, limited⟩ := Engine.setHp_isWell well (finite hp (.head _)) returned
      exact ⟨after, world, .set reached returned permitted, limited⟩
    | process delta =>
      obtain ⟨_, _, processes, finishes⟩ := Engine.run_bind_eq_some.1 returned
      obtain ⟨_, rfl⟩ := Prod.mk.inj (Option.some.inj finishes)
      obtain ⟨_, ticked, ticks, drains⟩ := Engine.run_bind_eq_some.1 processes
      have rests := Engine.notify_rests _ _ _ well.rests ticks
      obtain ⟨unhurt, rfl | ⟨last, strikes, struck⟩⟩ := Engine.drainDamage_inversion drains
      · obtain ⟨after, limited⟩ := stays rests
        exact ⟨after, moment, .spared written returned permitted ticks unhurt, limited⟩
      · have wellTicked := Engine.strikes_isWell (stays rests).1 strikes
        obtain ⟨after, limited⟩ := Engine.strike_isWell wellTicked struck
        exact ⟨after, last, .hit reached returned permitted ticks strikes struck, limited⟩
    | _ => exact rests nofun nofun

/-- Where numbers are finite and hooks are built-in, health is at least zero after every operation,
and no more than its maximum was at the moment when it was last written; so it is no more than the
present maximum unless that has fallen since. -/
theorem hp_in_range (builtIn : ∀ id, ∀ definition ∈ catalog.get? id,
      definition.behavior.IsFinite)
    (finite : ∀ world operation fuel, permits world operation fuel → operation.IsFinite)
    (reachable : World.Reachable catalog permits world) :
    0 ≤ world.actor.hp ∧ ∃ moment, World.Written catalog permits moment world ∧
      world.actor.hp ≤ moment.actor.hpLimit ∧
      (moment.actor.hpLimit ≤ world.actor.hpLimit → world.actor.hp ≤ world.actor.hpLimit) := by
  obtain ⟨well, moment, written, bounded⟩ := reachable.isWell_of_finite builtIn finite
  exact ⟨well.nonneg, moment, written, bounded, fun risen => Single.le_trans bounded risen⟩

/-- A wounded actor whose poison has been dealt: health was last written at that hit. -/
theorem hp_in_range_poisoned : ∃ world,
    World.Reachable (.ofList [.venom]) (fun _ operation _ => operation.IsFinite) world ∧
      world.actor.hp = 85 ∧ 0 ≤ world.actor.hp ∧
      ∃ moment, World.Written (.ofList [.venom]) (fun _ operation _ => operation.IsFinite) moment
          world ∧ world.actor.hp ≤ moment.actor.hpLimit ∧
        (moment.actor.hpLimit ≤ world.actor.hpLimit →
          world.actor.hp ≤ world.actor.hpLimit) := by
  let operations : List Operation := [.addBase .maxHp 100, .setHp 100, .addEffect "venom",
    .queueDamage ⟨10, none⟩, .process 1]
  have run : ((Engine.performAll 4 operations).run (World.new (.ofList [.venom]) .initial)).any
      (fun result => result.2.actor.hp = 85) = true := by
    decide +kernel
  obtain ⟨result, returned, hp⟩ := (Option.any_eq_true _ _).1 run
  have finite : ∀ operation ∈ operations, operation.IsFinite := by decide +kernel
  have reachable : World.Reachable (.ofList [.venom]) (fun _ operation _ => operation.IsFinite)
      result.2 :=
    World.Reachable.performAll_of_mem (fun operation member _ => finite operation member)
      (.new .initial fun _ => .declared) returned
  have builtIn : ∀ id, ∀ definition ∈ (EffectCatalog.ofList [.venom]).get? id,
      definition.behavior.IsFinite := by
    intro id definition known
    obtain rfl := List.mem_singleton.1 (EffectCatalog.mem_of_get?_ofList known)
    exact Or.inr ⟨5, by decide +kernel, rfl⟩
  exact ⟨result.2, reachable, of_decide_eq_true hp,
    hp_in_range builtIn (fun _ _ _ finite => finite) reachable⟩

end World.Reachable

def World.HasFiniteStats (world : World) : Prop :=
  ∀ stat ignoreHidden, (world.actor.calculate stat ignoreHidden).isFinite = true

instance (world : World) : Decidable world.HasFiniteStats :=
  decidable_of_iff
    (∀ stat ∈ Stat.all, ∀ ignoreHidden, (world.actor.calculate stat ignoreHidden).isFinite = true)
    ⟨fun finite stat => finite stat (Stat.mem_all stat), fun finite stat _ => finite stat⟩

/-- The maximum falls below health that was set before, all numbers being finite. -/
theorem World.Reachable.not_forall_hp_le :
    ¬∀ (catalog : EffectCatalog) (world : World),
      (∀ id, ∀ definition ∈ catalog.get? id, definition.behavior.IsFinite) →
      World.Reachable catalog
        (fun world operation _ => operation.IsFinite ∧ world.HasFiniteStats) world →
      world.HasFiniteStats →
      0 ≤ world.actor.hp ∧ world.actor.hp ≤ world.actor.hpLimit := by
  intro bounded
  have run : ((Engine.perform 2 (.addBase .maxHp 100)).run (World.new .empty .initial)).any
      (fun first => first.2.HasFiniteStats ∧
        ((Engine.perform 2 (.setHp 100)).run first.2).any fun second =>
          second.2.HasFiniteStats ∧
          ((Engine.perform 2 (.removeModifier .maxHp .baseAdd 100 (some "base"))).run
            second.2).any fun third => third.2.HasFiniteStats ∧
              ¬third.2.actor.hp ≤ third.2.actor.hpLimit) = true := by
    decide +kernel
  obtain ⟨first, added, facts⟩ := (Option.any_eq_true _ _).1 run
  obtain ⟨finiteFirst, run⟩ := of_decide_eq_true facts
  obtain ⟨second, set, facts⟩ := (Option.any_eq_true _ _).1 run
  obtain ⟨finiteSecond, run⟩ := of_decide_eq_true facts
  obtain ⟨third, removed, facts⟩ := (Option.any_eq_true _ _).1 run
  obtain ⟨finiteThird, above⟩ := of_decide_eq_true facts
  have finiteNew : (World.new .empty .initial).HasFiniteStats := by decide +kernel
  have reachable : World.Reachable .empty
      (fun world operation _ => operation.IsFinite ∧ world.HasFiniteStats) third.2 :=
    (((World.Reachable.new .initial fun _ => .declared).perform added
      ⟨by decide +kernel, finiteNew⟩).perform set ⟨by decide +kernel, finiteFirst⟩).perform removed
        ⟨by decide +kernel, finiteSecond⟩
  have builtIn : ∀ id, ∀ definition ∈ (Dictionary.empty : EffectCatalog).get? id,
      definition.behavior.IsFinite := by
    intro id definition known
    cases known
  exact above (bounded .empty third.2 builtIn reachable finiteThird).2

end Roleplay
