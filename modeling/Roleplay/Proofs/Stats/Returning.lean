import Roleplay.Proofs.Stats.Walk

/-! # Computations that return

Total correctness, beside the partial correctness of `Ensures`.

* `Engine.IsTotal` says that a computation returns from every world; all of the engine does that
  calls no hooks and drains no damage;
* `Engine.Returns` says that a computation that is given fuel returns, and returns the same however
  much it is given; `Returns.bind` follows a sequence.
-/

namespace Roleplay

namespace Engine

variable {α β : Type} {before : World → Prop}

theorem run_bind_of_some {engine : Engine α} {next : α → Engine β} {world between : World}
    {value : α} (ran : engine.run world = some (value, between)) :
    (engine >>= next).run world = (next value).run between := by
  simp [StateT.run_bind, ran]

theorem run_bind_of_none {engine : Engine α} {next : α → Engine β} {world : World}
    (stuck : engine.run world = none) : (engine >>= next).run world = none := by
  simp [StateT.run_bind, stuck]

/-! ## Without hooks -/

def IsTotal (engine : Engine α) : Prop :=
  ∀ world, ∃ result world', engine.run world = some (result, world')

theorem isTotal_pure {result : α} : IsTotal (pure result : Engine α) :=
  fun world => ⟨result, world, rfl⟩

theorem isTotal_modify {change : World → World} : IsTotal (modify change : Engine Unit) :=
  fun world => ⟨(), change world, rfl⟩

theorem isTotal_modifyGet {change : World → α × World} :
    IsTotal (modifyGet change : Engine α) :=
  fun world => ⟨(change world).1, (change world).2, rfl⟩

theorem IsTotal.bind {engine : Engine α} {next : α → Engine β} (total : IsTotal engine)
    (continues : ∀ value, IsTotal (next value)) : IsTotal (engine >>= next) := by
  intro world
  obtain ⟨value, between, ran⟩ := total world
  obtain ⟨result, world', finishes⟩ := continues value between
  exact ⟨result, world', run_bind_eq_some.2 ⟨value, between, ran, finishes⟩⟩

theorem isTotal_actor_bind {next : Actor → Engine β} (continues : ∀ actor, IsTotal (next actor)) :
    IsTotal (Engine.actor >>= next) :=
  fun world => continues world.actor world

theorem isTotal_prune {stat : Stat} : IsTotal (prune stat) := by
  apply isTotal_actor_bind
  intro actor
  split
  · exact isTotal_modify.bind fun _ => isTotal_modify
  · exact isTotal_pure

theorem isTotal_settleStats {stats : List Stat} : IsTotal (settleStats stats) := by
  induction stats with
  | nil => exact isTotal_pure
  | cons stat stats inductionHypothesis =>
    exact isTotal_prune.bind fun _ => isTotal_modify.bind fun _ => inductionHypothesis

theorem isTotal_sweepStats {trigger : Trigger} {snapshot : StatSnapshot} {stats : List Stat} :
    IsTotal (sweepStats trigger snapshot stats) := by
  induction stats with
  | nil => exact isTotal_pure
  | cons stat stats inductionHypothesis =>
    apply isTotal_actor_bind
    intro actor
    split
    · exact inductionHypothesis
    · exact isTotal_modify.bind fun _ => isTotal_modify.bind fun _ =>
        inductionHypothesis.bind fun _ => isTotal_pure

theorem isTotal_markIfAny {stats : List Stat} : IsTotal (markIfAny stats) := by
  rw [markIfAny]
  split
  · exact isTotal_pure
  · exact isTotal_modify

theorem isTotal_sweepModifiers {trigger : Trigger} {snapshot : StatSnapshot} :
    IsTotal (sweepModifiers trigger snapshot) :=
  isTotal_modifyGet.bind fun _ => isTotal_sweepStats.bind fun _ => isTotal_markIfAny.bind fun _ =>
    isTotal_settleStats

theorem isTotal_receiveEffects {trigger : Trigger} {snapshot : StatSnapshot} :
    IsTotal (receiveEffects trigger snapshot) :=
  isTotal_actor_bind fun _ => isTotal_modify.bind fun _ => isTotal_modify.bind fun _ =>
    isTotal_pure

theorem isTotal_register {modifier : Modifier} : IsTotal (register modifier) := by
  have lists : IsTotal (listOf modifier.stat) := by
    apply isTotal_actor_bind
    intro actor
    split
    · exact isTotal_pure
    · exact isTotal_modifyGet
  exact lists.bind fun _ => isTotal_modify.bind fun _ => isTotal_modify.bind fun _ =>
    isTotal_modify

theorem isTotal_detachSource {source : String} {stats : List Stat} :
    IsTotal (detachSource source stats) := by
  induction stats with
  | nil => exact isTotal_pure
  | cons stat stats inductionHypothesis =>
    apply isTotal_actor_bind
    intro actor
    split
    · exact inductionHypothesis
    · exact isTotal_modifyGet.bind fun _ => isTotal_modify.bind fun _ =>
        isTotal_modify.bind fun _ => isTotal_modify.bind fun _ =>
          inductionHypothesis.bind fun _ => isTotal_pure

theorem isTotal_withdrawSource {source : String} : IsTotal (withdrawSource source) :=
  isTotal_modifyGet.bind fun _ => isTotal_detachSource.bind fun _ =>
    isTotal_settleStats.bind fun _ => isTotal_pure

theorem isTotal_sufferDamage {damage : Damage} {rest : List Damage} :
    IsTotal (sufferDamage damage rest) :=
  isTotal_actor_bind fun _ => isTotal_modify.bind fun _ => isTotal_modify

/-! ## With fuel -/

/-- From a world that meets the condition before, the computation returns, the same for all fuel,
and the result and the world then meet the condition after. -/
def Returns (before : World → Prop) (engine : Nat → Engine α) (after : α → World → Prop) : Prop :=
  ∀ world, before world → ∃ result world',
    (∀ fuel, (engine fuel).run world = some (result, world')) ∧ after result world'

theorem IsTotal.returns {engine : Engine α} {after : α → World → Prop} (total : IsTotal engine)
    (ensures : Ensures before engine after) : Returns before (fun _ => engine) after := by
  intro world start
  obtain ⟨result, world', returned⟩ := total world
  exact ⟨result, world', fun _ => returned, ensures world result world' start returned⟩

theorem returns_pure {result : α} : Returns before (fun _ => pure result) fun _ => before :=
  isTotal_pure.returns keeps_pure

theorem Returns.bind {engine : Nat → Engine α} {next : α → Nat → Engine β}
    {between : α → World → Prop} {after : β → World → Prop}
    (first : Returns before engine between)
    (second : ∀ value, Returns (between value) (next value) after) :
    Returns before (fun fuel => engine fuel >>= fun value => next value fuel) after := by
  intro world start
  obtain ⟨value, middle, ran, reached⟩ := first world start
  obtain ⟨result, world', finishes, ends⟩ := second value middle reached
  exact ⟨result, world', fun fuel => run_bind_eq_some.2 ⟨value, middle, ran fuel, finishes fuel⟩,
    ends⟩

theorem Returns.strengthen {engine : Nat → Engine α} {stronger : World → Prop}
    {after : α → World → Prop} (returns : Returns before engine after)
    (holds : ∀ world, stronger world → before world) : Returns stronger engine after :=
  fun world start => returns world (holds world start)

theorem Returns.ensures {engine : Nat → Engine α} {after : α → World → Prop}
    (returns : Returns before engine after) (fuel : Nat) :
    Ensures before (engine fuel) after := by
  intro world result world' start returned
  obtain ⟨value, reached, ran, ends⟩ := returns world start
  obtain ⟨rfl, rfl⟩ := Prod.mk.inj (Option.some.inj ((ran fuel).symm.trans returned))
  exact ends

/-- Reading the actor of a world that is known from then on. -/
theorem returns_world_bind {next : Actor → Nat → Engine β} {after : β → World → Prop}
    (continues : ∀ world, before world →
      Returns (fun between => between = world) (next world.actor) after) :
    Returns before (fun fuel => Engine.actor >>= fun actor => next actor fuel) after :=
  fun world start => continues world start world rfl

/-- A program returns if the operations in it do. -/
theorem returns_runProgram {performs : Nat → Performer} {operations : List Operation}
    (returns : ∀ operation ∈ operations,
      Returns before (fun fuel => performs fuel operation) fun _ => before) :
    Returns before (fun fuel => runProgram (performs fuel) (Program.ofList operations))
      fun _ => before := by
  induction operations with
  | nil => exact returns_pure
  | cons operation rest inductionHypothesis =>
    apply (returns operation (.head _)).bind
    intro _
    exact inductionHypothesis fun other member => returns other (.tail _ member)

end Engine

end Roleplay
