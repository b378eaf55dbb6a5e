import Roleplay.Stats.Engine

/-! # Statements about the engine

Partial correctness: what holds of a world after a computation, if the computation returns at all.

* `Engine.Ensures` joins a condition before to a condition after; `Ensures.bind` follows a
  sequence;
* `Engine.Keeps` says that a condition before holds afterwards; `keeps_runProgram` and its kin
  carry it from single operations to the hooks of a notification;
* `World.Reachable` are the worlds that a new actor may get to.
-/

namespace Roleplay

namespace Engine

variable {α β : Type} {before between : World → Prop}

/-- Whenever the computation returns from a world that meets the condition before, the result and
the world then meet the condition after. -/
def Ensures (before : World → Prop) (engine : Engine α) (after : α → World → Prop) : Prop :=
  ∀ world result world', before world → engine.run world = some (result, world') →
    after result world'

abbrev Keeps (condition : World → Prop) (engine : Engine α) : Prop :=
  Ensures condition engine fun _ => condition

/-! ## Rules -/

theorem run_bind_eq_some {engine : Engine α} {next : α → Engine β} {world world' : World}
    {result : β} : (engine >>= next).run world = some (result, world') ↔
      ∃ value between, engine.run world = some (value, between) ∧
        (next value).run between = some (result, world') := by
  simp [StateT.run_bind, Option.bind_eq_some_iff]

theorem run_actor_bind {next : Actor → Engine β} {world : World} :
    (Engine.actor >>= next).run world = (next world.actor).run world := rfl

theorem ensures_pure {result : α} {after : α → World → Prop}
    (holds : ∀ world, before world → after result world) : Ensures before (pure result) after := by
  intro world value world' start returned
  simp only [StateT.run_pure, Option.pure_def, Option.some.injEq, Prod.mk.injEq] at returned
  obtain ⟨rfl, rfl⟩ := returned
  exact holds world start

theorem keeps_pure {result : α} : Keeps before (pure result : Engine α) :=
  ensures_pure fun _ start => start

theorem Ensures.bind {engine : Engine α} {next : α → Engine β} {between : α → World → Prop}
    {after : β → World → Prop} (first : Ensures before engine between)
    (second : ∀ value, Ensures (between value) (next value) after) :
    Ensures before (engine >>= next) after := by
  intro world result world' start returned
  obtain ⟨value, middle, ran, rest⟩ := run_bind_eq_some.1 returned
  exact second value middle result world' (first world value middle start ran) rest

theorem Ensures.strengthen {engine : Engine α} {stronger : World → Prop} {after : α → World → Prop}
    (ensures : Ensures before engine after) (holds : ∀ world, stronger world → before world) :
    Ensures stronger engine after :=
  fun world result world' start returned => ensures world result world' (holds world start) returned

theorem Ensures.weaken {engine : Engine α} {after weaker : α → World → Prop}
    (ensures : Ensures before engine after)
    (holds : ∀ result world, after result world → weaker result world) :
    Ensures before engine weaker :=
  fun world result world' start returned =>
    holds result world' (ensures world result world' start returned)

/-- What holds before apart from the world is known from then on. -/
theorem ensures_of_and {known : Prop} {engine : Engine α} {after : α → World → Prop}
    (ensures : known → Ensures before engine after) :
    Ensures (fun world => known ∧ before world) engine after :=
  fun world result world' start returned =>
    ensures start.1 world result world' start.2 returned

theorem ensures_actor {after : Actor → World → Prop}
    (holds : ∀ world, before world → after world.actor world) :
    Ensures before Engine.actor after := by
  intro world result world' start returned
  obtain ⟨rfl, rfl⟩ := Prod.mk.inj (Option.some.inj returned)
  exact holds world start

/-- Reading the actor; what follows may use that it is the actor of the world. -/
theorem ensures_actor_bind {next : Actor → Engine β} {after : β → World → Prop}
    (continues : ∀ actor, Ensures (fun world => before world ∧ world.actor = actor) (next actor)
      after) : Ensures before (Engine.actor >>= next) after :=
  (ensures_actor fun _ start => ⟨start, rfl⟩).bind continues

/-- Reading the actor of a world that is known from then on. -/
theorem ensures_world_bind {next : Actor → Engine β} {after : β → World → Prop}
    (continues : ∀ world, before world →
      Ensures (fun between => between = world) (next world.actor) after) :
    Ensures before (Engine.actor >>= next) after :=
  fun world result world' start returned =>
    continues world start world result world' rfl (run_actor_bind.symm.trans returned)

theorem ensures_modify {change : World → World} {after : World → Prop}
    (holds : ∀ world, before world → after (change world)) :
    Ensures before (modify change) fun _ => after := by
  intro world result world' start returned
  obtain ⟨_, rfl⟩ := Prod.mk.inj (Option.some.inj returned)
  exact holds world start

theorem ensures_modifyActor {change : Actor → Actor} {after : World → Prop}
    (holds : ∀ world, before world → after { world with actor := change world.actor }) :
    Ensures before (modifyActor change) fun _ => after :=
  ensures_modify holds

theorem ensures_modifyGet {change : World → α × World} {after : α → World → Prop}
    (holds : ∀ world, before world → after (change world).1 (change world).2) :
    Ensures before (modifyGet change) after := by
  intro world result world' start returned
  obtain ⟨rfl, rfl⟩ := Prod.mk.inj (Option.some.inj returned)
  exact holds world start

theorem ensures_exhausted {after : α → World → Prop} : Ensures before exhausted after :=
  fun _ _ _ _ returned => absurd returned (by simp [exhausted, StateT.run])

/-! ## Hooks -/

theorem keeps_ofList {condition : World → Prop} {perform : Performer} {operations : List Operation}
    (keeps : ∀ operation ∈ operations, Keeps condition (perform operation)) :
    Keeps condition (runProgram perform (Program.ofList operations)) := by
  induction operations with
  | nil => exact keeps_pure
  | cons operation rest inductionHypothesis =>
    exact (keeps operation (.head _)).bind fun _ =>
      inductionHypothesis fun other member => keeps other (.tail _ member)

section Hooks

variable {condition : World → Prop} {perform : Performer}

theorem keeps_runProgram (keeps : ∀ operation, Keeps condition (perform operation))
    (program : Program) : Keeps condition (runProgram perform program) := by
  induction program with
  | done => exact keeps_pure
  | step operation next inductionHypothesis => exact (keeps operation).bind inductionHypothesis

variable (records : ∀ kind id, Keeps condition (recordCall kind id))
  (keeps : ∀ operation, Keeps condition (perform operation))

include records keeps

theorem keeps_callHook {kind : HookKind} {definition : EffectDefinition} :
    Keeps condition (callHook perform kind definition) :=
  (records kind definition.id).bind fun _ => keeps_runProgram keeps _

theorem keeps_callHooks {kind : HookKind} {definition : EffectDefinition} {count : Nat} :
    Keeps condition (callHooks perform kind definition count) := by
  induction count with
  | zero => exact keeps_pure
  | succ count inductionHypothesis =>
    exact (keeps_callHook records keeps).bind fun _ => inductionHypothesis

theorem keeps_toggleEffects {reactions : List EffectReaction} :
    Keeps condition (toggleEffects perform reactions) := by
  induction reactions with
  | nil => exact keeps_pure
  | cons reaction reactions inductionHypothesis =>
    simp only [toggleEffects]
    split
    · exact (keeps_callHook records keeps).bind fun _ => inductionHypothesis
    · exact inductionHypothesis

theorem keeps_fireIntervals {reactions : List EffectReaction} :
    Keeps condition (fireIntervals perform reactions) := by
  induction reactions with
  | nil => exact keeps_pure
  | cons reaction reactions inductionHypothesis =>
    exact (keeps_callHooks records keeps).bind fun _ => inductionHypothesis

end Hooks

end Engine

/-! ## Runs -/

/-- The worlds that a new actor may get to by permitted operations; whether one is permitted may
depend on the world and on the fuel that its hooks are given.  The pools are shared with other
actors, which may use them between the operations. -/
inductive World.Reachable (catalog : EffectCatalog)
    (permits : World → Operation → Nat → Prop) : World → Prop where
  | new (pools : Pools) (orders : Nat → VisitOrder) :
      Reachable catalog permits { World.new catalog pools with orders := orders }
  | perform {world world' : World} {operation : Operation} {fuel : Nat} {response : Response}
      (reached : Reachable catalog permits world)
      (returned : (Engine.perform (fuel + 1) operation).run world = some (response, world'))
      (permitted : permits world operation fuel) : Reachable catalog permits world'
  | share {world : World} (pools : Pools) (reached : Reachable catalog permits world) :
      Reachable catalog permits { world with pools := pools }

/-- A run of operations each of which is permitted whatever came before. -/
theorem World.Reachable.performAll_of_mem {catalog : EffectCatalog}
    {permits : World → Operation → Nat → Prop} {fuel : Nat} {operations : List Operation}
    (permitted : ∀ operation ∈ operations, ∀ world, permits world operation fuel)
    {world : World} {result : Response × World}
    (reached : World.Reachable catalog permits world)
    (returned : (Engine.performAll (fuel + 1) operations).run world = some result) :
    World.Reachable catalog permits result.2 := by
  induction operations generalizing world with
  | nil =>
    obtain rfl := Option.some.inj returned
    exact reached
  | cons operation operations inductionHypothesis =>
    have allowed := permitted operation (.head _) world
    cases operations with
    | nil => exact reached.perform returned allowed
    | cons next rest =>
      obtain ⟨response, between, performed, continued⟩ := Engine.run_bind_eq_some.1 returned
      exact inductionHypothesis (fun other member => permitted other (.tail _ member))
        (reached.perform performed allowed) continued

theorem World.Reachable.performAll {catalog : EffectCatalog}
    {permits : World → Operation → Nat → Prop}
    (permitted : ∀ world operation fuel, permits world operation fuel) {fuel : Nat}
    {operations : List Operation} {world : World} {result : Response × World}
    (reached : World.Reachable catalog permits world)
    (returned : (Engine.performAll (fuel + 1) operations).run world = some result) :
    World.Reachable catalog permits result.2 :=
  reached.performAll_of_mem (fun operation _ world => permitted world operation fuel) returned

end Roleplay
