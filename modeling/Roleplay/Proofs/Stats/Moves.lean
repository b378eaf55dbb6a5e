import Mathlib.Logic.Relation
import Roleplay.Proofs.Stats.Ensures

/-! # The moves of the engine

What operations are made of.  A condition that every part of the engine keeps is kept by all
operations, hooks and further passes included; one application of this are moves, which are what the
parts do as far as the table of modifiers, custom values, the applied effects and the records of
registrations and reports are concerned.

* `Engine.KeepsParts` lists the parts of operations apart from notifications, `Engine.KeepsPasses`
  those of notifications too; `Engine.KeepsPasses.perform` carries a condition from them to
  operations;
* `Engine.Move` lists the moves, each by the part of the engine that makes it;
* `Engine.moves_perform` says that an operation is a sequence of moves;
* `World.Reachable.of_moves` carries a statement from a new actor to all that it may become.
-/

namespace Roleplay

namespace Engine

/-! ## Parts -/

/-- Sets a custom value and reports the stats that read it, without a notification. -/
def replaceCustomValue (id : String) (value : Float32) : Engine Unit := do
  let actor ← Engine.actor
  let order ← nextOrder
  modifyActor fun actor => { actor with customValues := actor.customValues.insert id value }
  report ((order.filter (actor.readsCustomValue id)).map .statChanged)

theorem setCustomValue_eq {perform : Performer} {id : String} {value : Float32} :
    setCustomValue perform id value =
      (do replaceCustomValue id value
          notify perform .statsChanged) := rfl

def clearEvents : Engine Unit := modifyActor fun actor => { actor with events := [] }

/-- Takes a modifier that is offered, and releases it. -/
def reject (modifier : Modifier) : Engine Unit := do
  recordOffer
  releaseModifiers [modifier]

/-- Takes a modifier that is offered, and registers it. -/
def accept (modifier : Modifier) : Engine Unit := do
  recordOffer
  register modifier

def enqueue (damage : Damage) : Engine Unit :=
  modifyActor fun actor => { actor with damage := actor.damage ++ [damage] }

/-- Sets health, without a notification. -/
def writeHp (hp : Float32) : Engine Unit :=
  modifyActor fun actor => { actor with hp := Single.clamp hp 0 actor.hpLimit }

/-- The condition is kept by the parts of operations apart from notifications.  A part that acts on
something that it has found is given the world in which it has found it. -/
structure KeepsParts (condition : World → Prop) : Prop where
  recordCall : ∀ kind id, Keeps condition (recordCall kind id)
  takeModifier : Keeps condition takeModifier
  reject : ∀ modifier, Keeps condition (reject modifier)
  accept : ∀ (world : World) (modifier : Modifier) (source : Option String), condition world →
    (source.isNone && ((modifier.withSource source).refresh
      world.actor.snapshot).callsForRemoval) = false →
    Ensures (fun between => between = world)
      (accept ((modifier.withSource source).refresh world.actor.snapshot).enlist)
      fun _ => condition
  unregister : ∀ world stat modifier isNamed, condition world →
    (world.actor.modifiersOf stat).find? isNamed = some modifier →
    Ensures (fun between => between = world)
      (unregister stat modifier ((world.actor.modifiersOf stat).eraseP isNamed))
      fun _ => condition
  withdrawSource : ∀ source, Keeps condition (withdrawSource source)
  replaceCustomValue : ∀ id value, Keeps condition (replaceCustomValue id value)
  writeHp : ∀ hp, Keeps condition (writeHp hp)
  enqueue : ∀ damage, Keeps condition (enqueue damage)
  sufferDamage : ∀ world damage rest, condition world → world.actor.damage = damage :: rest →
    Ensures (fun between => between = world) (sufferDamage damage rest) fun _ => condition
  start : ∀ world id definition snapshot, condition world →
    world.actor.catalog.get? id = some definition →
    Ensures (fun between => between = world) (placeEffect id (.start definition snapshot))
      fun _ => condition
  refresh : ∀ (world : World) (id : String) (effect : AppliedEffect) (snapshot : StatSnapshot),
    condition world → world.actor.effects.get? id = some effect →
    Ensures (fun between => between = world) (placeEffect id (effect.refresh snapshot))
      fun _ => condition
  dropEffect : ∀ id, Keeps condition (dropEffect id)
  reportAdded : ∀ id, Keeps condition (report [.effectAdded id])
  reportRemoved : ∀ id, Keeps condition (report [.effectRemoved id])
  clearEvents : Keeps condition clearEvents

/-- The condition is kept by the parts of notifications too. -/
structure KeepsPasses (condition : World → Prop) : Prop extends KeepsParts condition where
  sweepModifiers : ∀ trigger snapshot, Keeps condition (sweepModifiers trigger snapshot)
  receiveEffects : ∀ trigger snapshot, Keeps condition (receiveEffects trigger snapshot)
  markDirty : Keeps condition markDirty
  takeDirty : Keeps condition takeDirty
  countCutOff : Keeps condition countCutOff
  setNotifying : ∀ isNotifying, Keeps condition (setNotifying isNotifying)

variable {condition : World → Prop}

/-! ### Effects and their hooks -/

namespace KeepsParts

section Hooks

variable {perform : Performer} (parts : KeepsParts condition)
  (keeps : ∀ operation, Keeps condition (perform operation))

include parts keeps

theorem callHook {kind : HookKind} {definition : EffectDefinition} :
    Keeps condition (callHook perform kind definition) :=
  keeps_callHook parts.recordCall keeps

theorem removeEffect {id : String} : Keeps condition (removeEffect perform id) := by
  refine ensures_actor_bind fun actor => Ensures.strengthen ?_ fun _ start => start.1
  cases actor.effects.get? id with
  | none => exact keeps_pure
  | some effect =>
    refine (parts.dropEffect id).bind fun _ => ?_
    dsimp only
    split
    · exact (parts.callHook keeps).bind fun _ => (parts.reportRemoved id).bind fun _ => keeps_pure
    · exact (parts.reportRemoved id).bind fun _ => keeps_pure

theorem removeEffects {ids : List String} : Keeps condition (removeEffects perform ids) := by
  induction ids with
  | nil => exact keeps_pure
  | cons id ids inductionHypothesis =>
    exact (parts.removeEffect keeps).bind fun _ => inductionHypothesis

theorem addEffect {id : String} : Keeps condition (addEffect perform id) := by
  refine ensures_world_bind fun world start => ?_
  split
  · exact ensures_pure fun _ same => same ▸ start
  · split
    · exact ensures_pure fun _ same => same ▸ start
    · rename_i definition known
      refine (parts.start world id definition _ start known).bind fun _ => ?_
      refine (parts.reportAdded id).bind fun _ => ?_
      split
      · exact (parts.callHook keeps).bind fun _ => keeps_pure
      · exact keeps_pure

theorem refreshEffect {id : String} : Keeps condition (refreshEffect perform id) := by
  refine ensures_world_bind fun world start => ?_
  split
  · exact ensures_pure fun _ same => same ▸ start
  · rename_i effect applied
    refine (parts.refresh world id effect _ start applied).bind fun _ => ?_
    split
    · exact (parts.callHook keeps).bind fun _ => keeps_pure
    · exact keeps_pure

end Hooks

/-! ### Operations -/

section Notifying

variable {perform : Performer} (parts : KeepsParts condition)
  (notifies : ∀ trigger, Keeps condition (notify perform trigger))

include parts notifies

/-- The offer is recorded and then accepted or rejected, which is one part. -/
theorem addModifier {modifier : Modifier} {source : Option String} :
    Keeps condition (addModifier perform modifier source) := by
  intro world result world' start returned
  obtain ⟨_, between, offers, rest⟩ := run_bind_eq_some.1 returned
  obtain ⟨-, rfl⟩ := Prod.mk.inj (Option.some.inj offers)
  rw [run_actor_bind] at rest
  dsimp only at rest
  split at rest
  · obtain ⟨_, released, releases, ends⟩ := run_bind_eq_some.1 rest
    have rejected := parts.reject _ _ _ _ start (run_bind_eq_some.2 ⟨_, _, offers, releases⟩)
    exact keeps_pure _ _ _ rejected ends
  · rename_i accepts
    obtain ⟨_, registered, registers, continues⟩ := run_bind_eq_some.1 rest
    have accepted := parts.accept world modifier source start (by simpa using accepts) _ _ _ rfl
      (run_bind_eq_some.2 ⟨_, _, offers, registers⟩)
    exact ((notifies _).bind fun _ => keeps_pure) _ _ _ accepted continues

theorem removeModifier {stat : Stat} {op : ModifierOp} {value : Float32}
    {source : Option String} :
    Keeps condition (removeModifier perform stat op value source) := by
  refine ensures_world_bind fun world start => ?_
  cases found : (world.actor.modifiersOf stat).find? (Modifier.isNamedBy op value source) with
  | none =>
    simp only [found]
    exact ensures_pure fun _ same => same ▸ start
  | some modifier =>
    simp only [found]
    exact (parts.unregister world stat modifier _ start found).bind fun _ =>
      (notifies _).bind fun _ => keeps_pure

theorem removeSource {source : String} : Keeps condition (removeSource perform source) := by
  refine (parts.withdrawSource source).bind fun count => ?_
  dsimp only
  split
  · exact (notifies _).bind fun _ => keeps_pure
  · exact keeps_pure

theorem drainDamage {fuel : Nat} : Keeps condition (drainDamage perform fuel) := by
  induction fuel with
  | zero =>
    refine ensures_actor_bind fun actor => Ensures.strengthen ?_ fun _ start => start.1
    split
    · exact keeps_pure
    · exact ensures_exhausted
  | succ fuel inductionHypothesis =>
    refine ensures_world_bind fun world start => ?_
    split
    · exact ensures_pure fun _ same => same ▸ start
    · rename_i damage rest queued
      exact (parts.sufferDamage world damage rest start queued).bind fun _ =>
        (notifies _).bind fun _ => inductionHypothesis

theorem act (keeps : ∀ operation, Keeps condition (perform operation)) {fuel : Nat}
    {operation : Operation} : Keeps condition (act perform fuel operation) := by
  cases operation with
  | addBase stat value =>
    exact parts.takeModifier.bind fun _ => (parts.addModifier notifies).bind fun _ => keeps_pure
  | addModifier modifier source => exact (parts.addModifier notifies).bind fun _ => keeps_pure
  | removeModifier stat op value source =>
    exact (parts.removeModifier notifies).bind fun _ => keeps_pure
  | removeSource source => exact (parts.removeSource notifies).bind fun _ => keeps_pure
  | setCustomValue id value =>
    have sets : Keeps condition (setCustomValue perform id value) := by
      rw [setCustomValue_eq]
      exact (parts.replaceCustomValue id value).bind fun _ => notifies _
    exact sets.bind fun _ => keeps_pure
  | setHp hp =>
    have sets : Keeps condition (setHp perform hp) := (parts.writeHp hp).bind fun _ => notifies _
    exact sets.bind fun _ => keeps_pure
  | addEffect id => exact (parts.addEffect keeps).bind fun _ => keeps_pure
  | refreshEffect id => exact (parts.refreshEffect keeps).bind fun _ => keeps_pure
  | removeEffect id => exact (parts.removeEffect keeps).bind fun _ => keeps_pure
  | queueDamage damage =>
    have queues : Keeps condition (Engine.enqueue damage) := parts.enqueue damage
    exact queues.bind fun _ => keeps_pure
  | process delta =>
    exact ((notifies _).bind fun _ => parts.drainDamage notifies).bind fun _ => keeps_pure
  | notify trigger => exact (notifies trigger).bind fun _ => keeps_pure
  | takeEvents =>
    refine ensures_actor_bind fun actor => Ensures.strengthen ?_ fun _ start => start.1
    exact parts.clearEvents.bind fun _ => keeps_pure
  | takePooled => exact parts.takeModifier.bind fun _ => keeps_pure
  | modifiers | calculate | customValue | hp | isDead | hasEffect | effects | snapshot =>
    exact ensures_actor_bind fun _ => ensures_pure fun _ start => start.1
  | poolSizes => exact ensures_modifyGet fun _ start => start

end Notifying

end KeepsParts

/-! ### Notifications -/

namespace KeepsPasses

section Performer

variable {perform : Performer} (parts : KeepsPasses condition)
  (keeps : ∀ operation, Keeps condition (perform operation))

include parts keeps

theorem pass {trigger : Trigger} : Keeps condition (pass perform trigger) := by
  refine ensures_actor_bind fun actor => Ensures.strengthen ?_ fun _ start => start.1
  refine (parts.sweepModifiers _ _).bind fun _ => ?_
  refine (parts.receiveEffects _ _).bind fun reactions => ?_
  refine (keeps_toggleEffects parts.recordCall keeps).bind fun _ => ?_
  exact (keeps_fireIntervals parts.recordCall keeps).bind fun _ =>
    parts.toKeepsParts.removeEffects keeps

theorem settle {passes : Nat} : Keeps condition (settle perform passes) := by
  induction passes with
  | zero =>
    refine parts.takeDirty.bind fun isDirty => ?_
    cases isDirty with
    | false => exact keeps_pure
    | true => exact parts.countCutOff
  | succ passes inductionHypothesis =>
    refine parts.takeDirty.bind fun isDirty => ?_
    cases isDirty with
    | false => exact keeps_pure
    | true => exact (parts.pass keeps).bind fun _ => inductionHypothesis

theorem notify {trigger : Trigger} : Keeps condition (notify perform trigger) := by
  refine ensures_actor_bind fun actor => Ensures.strengthen ?_ fun _ start => start.1
  split
  · exact parts.markDirty
  · exact (parts.setNotifying true).bind fun _ => (parts.pass keeps).bind fun _ =>
      (parts.settle keeps).bind fun _ => parts.setNotifying false

end Performer

/-- Whatever all parts keep, every operation keeps, on whichever level of hooks. -/
theorem perform (parts : KeepsPasses condition) {fuel : Nat} {operation : Operation} :
    Keeps condition (Engine.perform fuel operation) := by
  induction fuel generalizing operation with
  | zero => exact ensures_exhausted
  | succ fuel inductionHypothesis =>
    exact parts.toKeepsParts.act (fun _ => parts.notify fun _ => inductionHypothesis)
      fun _ => inductionHypothesis

end KeepsPasses

/-! ## Moves -/

/-- The table, the effects, custom values, events and the records are as they were. -/
structure Aside (world world' : World) : Prop where
  catalog : world'.actor.catalog = world.actor.catalog
  modifiers : world'.actor.modifiers = world.actor.modifiers
  registrations : world'.registrations = world.registrations
  effects : world'.actor.effects = world.actor.effects
  customValues : world'.actor.customValues = world.actor.customValues
  events : world'.actor.events = world.actor.events
  reports : world'.reports = world.reports

inductive Move : World → World → Prop
  | aside {world world' : World} : Aside world world' → Move world world'
  | report {world world' : World} {events : List Event} :
      (report events).run world = some ((), world') → Move world world'
  | clear {world world' : World} : clearEvents.run world = some ((), world') → Move world world'
  | setValue {world world' : World} {id : String} {value : Float32} :
      (replaceCustomValue id value).run world = some ((), world') → Move world world'
  | register {world world' : World} {modifier : Modifier} {source : Option String} :
      (source.isNone && ((modifier.withSource source).refresh
        world.actor.snapshot).callsForRemoval) = false →
      (register ((modifier.withSource source).refresh world.actor.snapshot).enlist).run world =
        some ((), world') → Move world world'
  | unregister {world world' : World} {stat : Stat} {modifier : Modifier}
      {isNamed : Modifier → Bool} :
      (unregister stat modifier ((world.actor.modifiersOf stat).eraseP isNamed)).run world =
        some ((), world') → Move world world'
  | withdraw {world world' : World} {source : String} {count : Nat} :
      (withdrawSource source).run world = some (count, world') → Move world world'
  | sweep {world world' : World} {trigger : Trigger} {snapshot : StatSnapshot} :
      (sweepModifiers trigger snapshot).run world = some ((), world') → Move world world'
  | receive {world world' : World} {trigger : Trigger} {snapshot : StatSnapshot}
      {reactions : Dictionary EffectReaction} :
      (receiveEffects trigger snapshot).run world = some (reactions, world') → Move world world'
  | start {world world' : World} {id : String} {definition : EffectDefinition}
      {snapshot : StatSnapshot} :
      world.actor.catalog.get? id = some definition →
      (placeEffect id (.start definition snapshot)).run world = some ((), world') →
      Move world world'
  | refresh {world world' : World} {id : String} {effect : AppliedEffect}
      {snapshot : StatSnapshot} :
      world.actor.effects.get? id = some effect →
      (placeEffect id (effect.refresh snapshot)).run world = some ((), world') → Move world world'
  | drop {world world' : World} {id : String} :
      (dropEffect id).run world = some ((), world') → Move world world'

abbrev Moves : World → World → Prop := Relation.ReflTransGen Move

variable {α : Type} {origin : World}

theorem keeps_of_move {engine : Engine α}
    (moves : ∀ {world result world'}, engine.run world = some (result, world') →
      Move world world') : Keeps (Moves origin) engine :=
  fun _ _ _ start returned => start.tail (moves returned)

/-- A move from a world that is known. -/
theorem ensures_move {engine : Engine α} {world : World} (start : Moves origin world)
    (moves : ∀ result world', engine.run world = some (result, world') → Move world world') :
    Ensures (fun between => between = world) engine fun _ => Moves origin := by
  rintro between result world' rfl returned
  exact start.tail (moves result world' returned)

theorem keeps_modify_aside {change : World → World}
    (aside : ∀ world, Aside world (change world)) : Keeps (Moves origin) (modify change) :=
  ensures_modify fun world start => start.tail (.aside (aside world))

theorem keeps_modifyGet_aside {change : World → α × World}
    (aside : ∀ world, Aside world (change world).2) : Keeps (Moves origin) (modifyGet change) :=
  ensures_modifyGet fun world start => start.tail (.aside (aside world))

theorem recordOffer_aside : Keeps (Moves origin) recordOffer :=
  keeps_modify_aside fun _ => ⟨rfl, rfl, rfl, rfl, rfl, rfl, rfl⟩

theorem releaseModifiers_aside {modifiers : List Modifier} :
    Keeps (Moves origin) (releaseModifiers modifiers) :=
  keeps_modify_aside fun _ => ⟨rfl, rfl, rfl, rfl, rfl, rfl, rfl⟩

/-- Accepting a modifier is a move, and the record of the offer another one. -/
theorem accept_moves {world : World} {modifier : Modifier} {source : Option String}
    (start : Moves origin world)
    (accepted : (source.isNone && ((modifier.withSource source).refresh
      world.actor.snapshot).callsForRemoval) = false) :
    Ensures (fun between => between = world)
      (accept ((modifier.withSource source).refresh world.actor.snapshot).enlist)
      fun _ => Moves origin := by
  rintro _ result world' rfl returned
  obtain ⟨_, offered, offers, registers⟩ := run_bind_eq_some.1 returned
  have recorded := recordOffer_aside _ _ _ start offers
  obtain ⟨-, rfl⟩ := Prod.mk.inj (Option.some.inj offers)
  exact recorded.tail (.register accepted registers)

/-- Taking a hit is a move aside, and its report another one. -/
theorem sufferDamage_moves {damage : Damage} {rest : List Damage} :
    Keeps (Moves origin) (sufferDamage damage rest) := by
  refine ensures_actor_bind fun actor => Ensures.strengthen ?_ fun _ start => start.1
  have suffers : Keeps (Moves origin) (modifyActor fun current => { current with
      damage := rest, hp := Single.clamp (actor.hp - damage.amount) 0 actor.hpLimit }) :=
    keeps_modify_aside fun _ => ⟨rfl, rfl, rfl, rfl, rfl, rfl, rfl⟩
  exact suffers.bind fun _ => keeps_of_move .report

theorem keepsPasses_moves : KeepsPasses (Moves origin) where
  recordCall _ _ := keeps_modifyGet_aside fun _ => ⟨rfl, rfl, rfl, rfl, rfl, rfl, rfl⟩
  takeModifier := keeps_modifyGet_aside fun _ => ⟨rfl, rfl, rfl, rfl, rfl, rfl, rfl⟩
  reject _ := recordOffer_aside.bind fun _ => releaseModifiers_aside
  accept _ _ _ start accepted := accept_moves start accepted
  unregister _ _ _ _ start _ := ensures_move start fun _ _ => .unregister
  withdrawSource _ := keeps_of_move .withdraw
  replaceCustomValue _ _ := keeps_of_move .setValue
  writeHp _ := keeps_modify_aside fun _ => ⟨rfl, rfl, rfl, rfl, rfl, rfl, rfl⟩
  enqueue _ := keeps_modify_aside fun _ => ⟨rfl, rfl, rfl, rfl, rfl, rfl, rfl⟩
  sufferDamage _ _ _ start _ := sufferDamage_moves.strengthen fun _ same => same ▸ start
  start _ _ _ _ start known := ensures_move start fun _ _ => .start known
  refresh _ _ _ _ start applied := ensures_move start fun _ _ => .refresh applied
  dropEffect _ := keeps_of_move .drop
  reportAdded _ := keeps_of_move .report
  reportRemoved _ := keeps_of_move .report
  clearEvents := keeps_of_move .clear
  sweepModifiers _ _ := keeps_of_move .sweep
  receiveEffects _ _ := keeps_of_move .receive
  markDirty := keeps_modify_aside fun _ => ⟨rfl, rfl, rfl, rfl, rfl, rfl, rfl⟩
  takeDirty := keeps_modifyGet_aside fun _ => ⟨rfl, rfl, rfl, rfl, rfl, rfl, rfl⟩
  countCutOff := keeps_modify_aside fun _ => ⟨rfl, rfl, rfl, rfl, rfl, rfl, rfl⟩
  setNotifying _ := keeps_modify_aside fun _ => ⟨rfl, rfl, rfl, rfl, rfl, rfl, rfl⟩

/-- Every operation is a sequence of moves, on whichever level of hooks. -/
theorem moves_perform {fuel : Nat} {operation : Operation} :
    Keeps (Moves origin) (Engine.perform fuel operation) :=
  keepsPasses_moves.perform

theorem Moves.induction {holds : World → Prop} {world world' : World}
    (moves : Moves world world') (start : holds world)
    (step : ∀ world world', Move world world' → holds world → holds world') :
    holds world' := by
  induction moves with
  | refl => exact start
  | tail _ move inductionHypothesis => exact step _ _ move inductionHypothesis

end Engine

/-- What holds of a new actor and is kept by all moves holds after every operation. -/
theorem World.Reachable.of_moves {catalog : EffectCatalog}
    {permits : World → Operation → Nat → Prop} {holds : World → Prop}
    (new : ∀ pools orders, holds { World.new catalog pools with orders := orders })
    (step : ∀ world world', Engine.Move world world' → holds world → holds world')
    {world : World} (reachable : World.Reachable catalog permits world) : holds world := by
  induction reachable with
  | new pools orders => exact new pools orders
  | perform reached returned permitted inductionHypothesis =>
    exact (Engine.moves_perform _ _ _ .refl returned).induction inductionHypothesis step
  | @share world pools reached inductionHypothesis =>
    exact step world _ (.aside ⟨rfl, rfl, rfl, rfl, rfl, rfl, rfl⟩) inductionHypothesis

end Roleplay
