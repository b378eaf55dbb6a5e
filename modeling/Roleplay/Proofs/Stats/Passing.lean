import Mathlib.Data.List.Perm.Subperm
import Roleplay.Proofs.Stats.Sweeping

/-! # One delivery for each pass

A pass sweeps the lists of all stats and then calls the hooks of effects, which may register and
withdraw modifiers.  What they ask for is not delivered within the pass, so the sweep is all that
modifiers get to know of it.

* `Engine.IsAtRest` says that nothing has been delivered since some point, `Engine.perform_atRest`
  that operations of hooks keep it so;
* `Engine.pass_delivers_once` is the statement about a pass.
-/

namespace Roleplay

namespace Engine

variable {world world' : World}

/-! ## The rest of a pass -/

/-- Since an earlier point of a notification no trigger has been delivered to a modifier.  Each one
that is listed was listed then just as it is, or has been registered since just as it is. -/
structure IsAtRest (origin world : World) : Prop where
  notifying : world.actor.isNotifying = true
  listed : ∃ added, IsPruned (origin.registrations ++ added) world ∧ ∀ stat,
    (world.actor.modifiersOf stat).Subperm
      (origin.actor.modifiersOf stat ++ added.filter fun modifier => modifier.stat = stat)

section Rest

variable {α : Type} {origin : World}

theorem IsAtRest.of_same (rests : IsAtRest origin world)
    (notifying : world'.actor.isNotifying = world.actor.isNotifying)
    (modifiers : world'.actor.modifiers = world.actor.modifiers)
    (registrations : world'.registrations = world.registrations) : IsAtRest origin world' := by
  obtain ⟨added, pruned, fewer⟩ := rests.listed
  refine ⟨notifying.trans rests.notifying, added, pruned.of_same modifiers registrations, ?_⟩
  intro stat
  rw [Actor.modifiersOf, modifiers]
  exact fewer stat

/-- Modifiers may go. -/
theorem IsAtRest.of_sublist (rests : IsAtRest origin world)
    (notifying : world'.view.isNotifying = world.view.isNotifying)
    (pruned : ∀ record, IsPruned record world → IsPruned record world')
    (fewer : ∀ stat, (world'.view.lists stat).Sublist (world.view.lists stat)) :
    IsAtRest origin world' := by
  obtain ⟨added, tidy, listed⟩ := rests.listed
  exact ⟨notifying.trans rests.notifying, added, pruned _ tidy,
    fun stat => (fewer stat).subperm.trans (listed stat)⟩

theorem atRest_modifyGet {change : World → α × World}
    (same : ∀ world, (change world).2.actor.isNotifying = world.actor.isNotifying ∧
      (change world).2.actor.modifiers = world.actor.modifiers ∧
      (change world).2.registrations = world.registrations) :
    Keeps (IsAtRest origin) (modifyGet change) :=
  ensures_modifyGet fun world rests =>
    rests.of_same (same world).1 (same world).2.1 (same world).2.2

theorem atRest_modifyActor {change : Actor → Actor}
    (same : ∀ world : World, (change world.actor).isNotifying = world.actor.isNotifying ∧
      (change world.actor).modifiers = world.actor.modifiers) :
    Keeps (IsAtRest origin) (modifyActor change) :=
  ensures_modify fun world rests => rests.of_same (same world).1 (same world).2 rfl

theorem register_atRest {modifier : Modifier} : Keeps (IsAtRest origin) (register modifier) := by
  intro world result world' rests returned
  obtain ⟨added, pruned, fewer⟩ := rests.listed
  have changed := register_does _ _ _ returned
  have tidy := register_pruned _ _ _ pruned returned
  rw [List.append_assoc] at tidy
  have notifying : world'.view.isNotifying = world.view.isNotifying := by rw [changed]; rfl
  refine ⟨notifying.trans rests.notifying, _, tidy, fun stat => ?_⟩
  have lists : world'.actor.modifiersOf stat = if stat = modifier.stat then
      insertModifier modifier (world.actor.modifiersOf modifier.stat)
      else world.actor.modifiersOf stat := by
    have seen := congrFun (congrArg View.lists changed) stat
    rwa [View.lists_withList] at seen
  rw [lists, List.filter_append, ← List.append_assoc]
  split
  next same =>
    subst same
    have own : [modifier].filter (fun other => other.stat = modifier.stat) = [modifier] := by simp
    rw [own]
    exact (insertModifier_perm.trans (List.perm_append_singleton _ _).symm).subperm.trans
      ((List.subperm_append_right _).2 (fewer modifier.stat))
  next =>
    exact (fewer stat).trans (List.sublist_append_left _ _).subperm

theorem unregister_atRest {stat : Stat} {modifier : Modifier} {isNamed : Modifier → Bool}
    (rests : IsAtRest origin world) :
    Ensures (fun between => between = world)
      (unregister stat modifier ((world.actor.modifiersOf stat).eraseP isNamed))
      fun _ => IsAtRest origin := by
  rintro _ result world' rfl returned
  have changed := unregister_does _ _ _ returned
  refine rests.of_sublist (by rw [changed]; rfl)
    (fun _ pruned => unregister_pruned _ _ _ pruned returned) fun other => ?_
  rw [changed, View.lists_withList]
  split
  next same =>
    subst same
    exact List.eraseP_sublist
  next => exact .refl _

theorem withdrawSource_atRest {source : String} :
    Keeps (IsAtRest origin) (withdrawSource source) := by
  intro world count world' rests returned
  have changed := (withdrawSource_ensures _ _ _ rfl returned).2
  refine rests.of_sublist (by rw [changed])
    (fun _ pruned => withdrawSource_pruned _ _ _ pruned returned) fun stat => ?_
  rw [changed]
  exact List.filter_sublist

theorem report_atRest {events : List Event} : Keeps (IsAtRest origin) (report events) :=
  ensures_modify fun _ rests => rests.of_same rfl rfl rfl

theorem releaseModifiers_atRest {modifiers : List Modifier} :
    Keeps (IsAtRest origin) (releaseModifiers modifiers) :=
  ensures_modify fun _ rests => rests.of_same rfl rfl rfl

theorem recordOffer_atRest : Keeps (IsAtRest origin) recordOffer :=
  ensures_modify fun _ rests => rests.of_same rfl rfl rfl

theorem recordCall_atRest {kind : HookKind} {id : String} :
    Keeps (IsAtRest origin) (recordCall kind id) :=
  atRest_modifyGet fun _ => ⟨rfl, rfl, rfl⟩

theorem placeEffect_atRest {id : String} {effect : AppliedEffect} :
    Keeps (IsAtRest origin) (placeEffect id effect) :=
  atRest_modifyActor fun _ => ⟨rfl, rfl⟩

theorem replaceCustomValue_atRest {id : String} {value : Float32} :
    Keeps (IsAtRest origin) (replaceCustomValue id value) := by
  refine ensures_actor_bind fun actor => Ensures.strengthen ?_ fun _ start => start.1
  exact (atRest_modifyGet fun _ => ⟨rfl, rfl, rfl⟩).bind fun _ =>
    (atRest_modifyActor fun _ => ⟨rfl, rfl⟩).bind fun _ => report_atRest

theorem sufferDamage_atRest {damage : Damage} {rest : List Damage} :
    Keeps (IsAtRest origin) (sufferDamage damage rest) := by
  refine ensures_actor_bind fun actor => Ensures.strengthen ?_ fun _ start => start.1
  exact (atRest_modifyActor fun _ => ⟨rfl, rfl⟩).bind fun _ => report_atRest

theorem keepsParts_isAtRest : KeepsParts (IsAtRest origin) where
  recordCall _ _ := recordCall_atRest
  takeModifier := atRest_modifyGet fun _ => ⟨rfl, rfl, rfl⟩
  reject _ := recordOffer_atRest.bind fun _ => releaseModifiers_atRest
  accept _ _ _ rests _ :=
    (recordOffer_atRest.bind fun _ => register_atRest).strengthen fun _ same => same ▸ rests
  unregister _ _ _ _ rests _ := unregister_atRest rests
  withdrawSource _ := withdrawSource_atRest
  replaceCustomValue _ _ := replaceCustomValue_atRest
  writeHp _ := atRest_modifyActor fun _ => ⟨rfl, rfl⟩
  enqueue _ := atRest_modifyActor fun _ => ⟨rfl, rfl⟩
  sufferDamage _ _ _ rests _ := sufferDamage_atRest.strengthen fun _ same => same ▸ rests
  start _ _ _ _ rests _ := placeEffect_atRest.strengthen fun _ same => same ▸ rests
  refresh _ _ _ _ rests _ := placeEffect_atRest.strengthen fun _ same => same ▸ rests
  dropEffect _ := atRest_modifyActor fun _ => ⟨rfl, rfl⟩
  reportAdded _ := report_atRest
  reportRemoved _ := report_atRest
  clearEvents := atRest_modifyActor fun _ => ⟨rfl, rfl⟩

/-- Within a notification another one delivers nothing, it only asks for a further pass. -/
theorem notify_atRest {perform : Performer} {trigger : Trigger} :
    Keeps (IsAtRest origin) (notify perform trigger) := by
  refine ensures_world_bind fun world rests => ?_
  rw [if_pos rests.notifying]
  exact (atRest_modifyActor fun _ => ⟨rfl, rfl⟩ : Keeps (IsAtRest origin) markDirty).strengthen
    fun _ same => same ▸ rests

/-- Whatever hooks ask for within a notification, nothing is delivered to modifiers. -/
theorem perform_atRest {fuel : Nat} {operation : Operation} :
    Keeps (IsAtRest origin) (perform fuel operation) := by
  induction fuel generalizing operation with
  | zero => exact ensures_exhausted
  | succ fuel inductionHypothesis =>
    exact keepsParts_isAtRest.act (fun _ => notify_atRest) fun _ => inductionHypothesis

theorem receiveEffects_atRest {trigger : Trigger} {snapshot : StatSnapshot} :
    Keeps (IsAtRest origin) (receiveEffects trigger snapshot) := by
  intro world reactions world' rests returned
  obtain ⟨_, rfl⟩ := Prod.mk.inj (Option.some.inj returned)
  exact rests.of_same rfl rfl rfl

theorem sweepModifiers_notifying {trigger : Trigger} {snapshot : StatSnapshot}
    (returned : (sweepModifiers trigger snapshot).run world = some ((), world')) :
    world'.actor.isNotifying = world.actor.isNotifying :=
  congrArg View.isNotifying (sweepModifiers_does _ _ _ returned)

/-- After its sweep, a pass delivers nothing to modifiers any more. -/
theorem pass_atRest {fuel : Nat} {trigger : Trigger} {swept : World}
    (sweeps : (sweepModifiers trigger world.actor.snapshot).run world = some ((), swept))
    (busy : swept.actor.isNotifying = true) (pruned : IsPruned swept.registrations swept)
    {result : Unit} (returned : (pass (perform fuel) trigger).run world = some (result, world')) :
    IsAtRest swept world' := by
  have start : IsAtRest swept swept :=
    ⟨busy, [], by rwa [List.append_nil], fun _ => by simp [List.Subperm.refl]⟩
  rw [pass, run_actor_bind, run_bind_of_some sweeps] at returned
  have rests : Keeps (IsAtRest swept) (do
      let reactions ← receiveEffects trigger world.actor.snapshot
      toggleEffects (perform fuel) reactions.values
      fireIntervals (perform fuel) reactions.values
      removeEffects (perform fuel) (expired reactions)) :=
    receiveEffects_atRest.bind fun _ =>
      (keeps_toggleEffects (fun _ _ => recordCall_atRest) fun _ => perform_atRest).bind fun _ =>
        (keeps_fireIntervals (fun _ _ => recordCall_atRest) fun _ => perform_atRest).bind fun _ =>
          keepsParts_isAtRest.removeEffects fun _ => perform_atRest
  exact rests _ _ _ start returned

end Rest

/-! ## Passes -/

/-- A pass, at whichever point of an operation, begins with a sweep, which returns.  In the list of
every stat, of any length, the sweep comes upon each modifier once: whoever subscribes gets the
trigger, with the snapshot from the start of the pass; those that report a change and then call for
removal go to the pool; the others stay in their order, active unless their condition calls for
suspension.  What follows in the pass delivers nothing more. -/
theorem pass_delivers_once {catalog : EffectCatalog} {origin : World}
    (reachable : World.Reachable catalog (fun _ _ _ => True) origin) (moves : Moves origin world)
    (busy : world.actor.isNotifying = true) (trigger : Trigger) :
    let walk (stat : Stat) :=
      (SweepWalk.start (world.actor.modifiersOf stat)).run trigger world.actor.snapshot
    (∀ stat, SweepWalk.IsDelivery trigger world.actor.snapshot (world.actor.modifiersOf stat)
      (walk stat)) ∧
    ∃ swept, (sweepModifiers trigger world.actor.snapshot).run world = some ((), swept) ∧
      (∀ stat, swept.actor.modifiersOf stat = (walk stat).list) ∧
      swept.pools.modifiers =
        world.pools.modifiers.releaseAll (Stat.all.flatMap fun stat => (walk stat).released) ∧
      ∀ fuel result after, (pass (perform fuel) trigger).run world = some (result, after) →
        IsAtRest swept after := by
  intro walk
  have inStep : world.view.EachModifier Modifier.IsInStep :=
    moves.induction reachable.isSettled_view.active fun _ _ move => move.inStep
  have listed : world.IsListed :=
    moves.induction (reachable.of_moves (fun _ _ => World.isListed_new) fun _ _ move =>
      move.isListed) fun _ _ move => move.isListed
  obtain ⟨swept, sweeps, lists, pool⟩ :=
    @sweepModifiers_walks trigger world.actor.snapshot world
  refine ⟨fun stat => SweepWalk.isDelivery_run (inStep stat), swept, sweeps, lists, pool, ?_⟩
  intro fuel result after returned
  have pruned : IsPruned swept.registrations swept := ((Move.sweep sweeps).isListed listed).pruned
  exact pass_atRest sweeps ((sweepModifiers_notifying sweeps).trans busy) pruned returned

/-- Two modifiers that end at the first hit stand side by side.  The next one is suspended by the
hit, another one only looks at the time. -/
def hitModifiers : List Operation :=
  [.addModifier { Modifier.new .attack .add 1 with condition := some (.damageCount 1) } none,
    .addModifier { Modifier.new .attack .add 2 with condition := some (.damageCount 1) } none,
    .addModifier { Modifier.new .attack .add 3 with
      condition := some ((Condition.damageCount 1).withOutcome .deactivate) } none,
    .addModifier { Modifier.new .attack .add 4 with condition := some (.timed 5) } none]

theorem pass_delivers_once_adjacent :
    ∃ origin world : World, World.Reachable (.ofList []) (fun _ _ _ => True) origin ∧
      Moves origin world ∧ world.actor.isNotifying = true ∧
      ((pass (perform 1) (.damage 7)).run world).isSome = true ∧
      let walk :=
        (SweepWalk.start (world.actor.modifiersOf .attack)).run (.damage 7) world.actor.snapshot
      walk.delivered.map Modifier.value = [1, 2, 3] ∧
      walk.released.map Modifier.value = [1, 2] ∧
      walk.list.map (fun modifier => (modifier.value, modifier.isActive)) =
        [(3, false), (4, true)] ∧
      SweepWalk.IsDelivery (.damage 7) world.actor.snapshot (world.actor.modifiersOf .attack)
        walk := by
  have run : ((Engine.performAll 3 hitModifiers).run (World.new (.ofList []) .initial)).any
      (fun result =>
        let world := { result.2 with actor := { result.2.actor with isNotifying := true } }
        let list := world.actor.modifiersOf .attack
        let trigger := Trigger.damage 7
        let snapshot := world.actor.snapshot
        ((pass (perform 1) trigger).run world).isSome ∧
        (list.filter (Modifier.hears trigger)).map Modifier.value = [1, 2, 3] ∧
        ((list.filter (Modifier.expires trigger snapshot)).map
          (Modifier.notified trigger snapshot)).map Modifier.value = [1, 2] ∧
        ((list.filter fun modifier => !modifier.expires trigger snapshot).map
          fun modifier => (modifier.notified trigger snapshot).settled).map
            (fun modifier => (modifier.value, modifier.isActive)) =
          [(3, false), (4, true)]) = true := by
    decide +kernel
  obtain ⟨result, returned, facts⟩ := (Option.any_eq_true _ _).1 run
  obtain ⟨returns, delivered, released, kept⟩ := of_decide_eq_true facts
  have reachable : World.Reachable (.ofList []) (fun _ _ _ => True) result.2 :=
    World.Reachable.performAll (fun _ _ _ => trivial) (.new .initial fun _ => .declared) returned
  have moves : Moves result.2
      { result.2 with actor := { result.2.actor with isNotifying := true } } :=
    .single (.aside ⟨rfl, rfl, rfl, rfl, rfl, rfl, rfl⟩)
  have delivery := (pass_delivers_once reachable moves rfl (.damage 7)).1 .attack
  refine ⟨_, _, reachable, moves, rfl, returns, ?_, ?_, ?_, delivery⟩
  · rw [delivery.delivered]
    exact delivered
  · rw [delivery.released]
    exact released
  · rw [delivery.kept]
    exact kept

end Engine

end Roleplay
