import Roleplay.Proofs.Stats.Orderly

/-! # Conditions settle

After every operation each cached flag is what its predicate says of the state reached, unless a
notification has been cut off.

* `Engine.pass_ensures` is one pass with its hooks, `Engine.settle_ensures` the loop of passes, and
  `Engine.notify_ensures` a whole notification;
* `Engine.keeps_perform` is an operation with everything that follows from it, by induction on the
  nesting of hooks;
* `World.Reachable.isSettled` is the statement for runs.
-/

namespace Roleplay

namespace Engine

variable {isBusy : Bool} {perform : Performer}

/-! ## Moves -/

theorem records_isSettled {kind : HookKind} {id : String} :
    Keeps (fun world => world.view.IsSettled isBusy) (recordCall kind id) :=
  recordCall_does.ensures fun _ settled =>
    ⟨⟨settled.notifying, settled.idle, settled.timely, settled.active⟩, settled.current⟩

theorem placeEffect_ensures {actor : Actor} {id : String} {effect : AppliedEffect}
    (fresh : ∀ condition ∈ effect.duration, ∀ node ∈ condition.nodes,
      node.IsCurrent actor.snapshot) :
    Ensures (fun world => world.view.IsSettled isBusy ∧ world.actor = actor)
      (placeEffect id effect) fun _ world => world.view.IsSettled isBusy := by
  rintro world result world' ⟨settled, rfl⟩ returned
  rw [placeEffect_does _ _ _ returned]
  have timely : View.EachNode ConditionNode.IsTimely
      { world.view with effects := world.view.effects.insert id effect } :=
    settled.timely.insertEffect fun condition limited node inside =>
      (fresh condition limited node inside).isTimely
  exact ⟨⟨settled.notifying, settled.idle, timely, settled.active⟩,
    settled.current.insertEffect fun condition limited node inside _ shows =>
      World.shows_snapshot.isCurrent shows (fresh condition limited node inside)⟩

section Performer

variable (keeps : ∀ isBusy operation,
  Keeps (fun world => world.view.IsSettled isBusy) (perform operation))

include keeps

theorem keeps_removeEffect {id : String} :
    Keeps (fun world => world.view.IsSettled isBusy) (removeEffect perform id) := by
  refine ensures_actor_bind fun actor => ?_
  split
  · exact ensures_pure fun _ start => start.1
  · rename_i effect found
    have drops : Ensures (fun world => world.view.IsSettled isBusy ∧ world.actor = actor)
        (dropEffect id) fun _ world => world.view.IsSettled isBusy :=
      (dropEffect_does.ensures fun _ settled =>
        ⟨⟨settled.notifying, settled.idle, settled.timely.eraseEffect, settled.active⟩,
          settled.current.eraseEffect⟩).strengthen fun _ start => start.1
    refine drops.bind fun _ => ?_
    split
    · exact (keeps_callHook (fun _ _ => records_isSettled) (keeps isBusy)).bind fun _ =>
        report_quiet.keeps.bind fun _ => keeps_pure
    · exact report_quiet.keeps.bind fun _ => keeps_pure

theorem keeps_removeEffects {ids : List String} :
    Keeps (fun world => world.view.IsSettled isBusy) (removeEffects perform ids) := by
  induction ids with
  | nil => exact keeps_pure
  | cons id ids inductionHypothesis =>
    exact (keeps_removeEffect keeps).bind fun _ => inductionHypothesis

/-! ## Notifications -/

theorem pass_ensures {trigger : Trigger} :
    Ensures (fun world => world.view.IsOrderly true ∧
        world.view.IsCurrentUpTo fun node => node.predicate.subscribes trigger.kind = true)
      (pass perform trigger) fun _ world => world.view.IsSettled true := by
  refine ensures_actor_bind fun actor => ?_
  -- all of the pass looks at the snapshot from before the sweep
  have sweeps : Ensures (fun world => (world.view.IsOrderly true ∧
        world.view.IsCurrentUpTo fun node => node.predicate.subscribes trigger.kind = true) ∧
        world.actor = actor) (sweepModifiers trigger actor.snapshot) fun _ world =>
      ∃ view : View, (view.IsOrderly true ∧
        (view.IsCurrentUpTo fun node => node.predicate.subscribes trigger.kind = true) ∧
        view.Shows actor.snapshot) ∧ world.view = swept trigger actor.snapshot view := by
    rintro world result world' ⟨⟨orderly, current⟩, rfl⟩ returned
    exact ⟨world.view, ⟨orderly, current, World.shows_snapshot⟩,
      sweepModifiers_does _ _ _ returned⟩
  refine sweeps.bind fun _ => ?_
  have receives : Ensures (fun world => ∃ view : View, (view.IsOrderly true ∧
        (view.IsCurrentUpTo fun node => node.predicate.subscribes trigger.kind = true) ∧
        view.Shows actor.snapshot) ∧ world.view = swept trigger actor.snapshot view)
      (receiveEffects trigger actor.snapshot) fun _ world => world.view.IsSettled true := by
    rintro world reactions world' ⟨view, ⟨orderly, current, shows⟩, same⟩ returned
    obtain ⟨rfl, received⟩ := receiveEffects_ensures world reactions world' same returned
    have received : world'.view = view.received trigger actor.snapshot := by
      rw [received]
      simp [View.received, swept, Dictionary.mapValues, Function.comp_def]
    rw [received]
    exact ⟨orderly.received, current.received shows⟩
  -- the hooks may do what they like, they keep the view settled or ask for another pass
  exact receives.bind fun _ =>
    (keeps_toggleEffects (fun _ _ => records_isSettled) (keeps true)).bind fun _ =>
      (keeps_fireIntervals (fun _ _ => records_isSettled) (keeps true)).bind fun _ =>
        keeps_removeEffects keeps

theorem settle_ensures {passes : Nat} :
    Ensures (fun world => world.view.IsSettled true) (settle perform passes)
      fun _ world => world.view.IsSettled true ∧ world.view.isDirty = false := by
  have stops : Ensures (fun world => world.actor.isDirty = false ∧
      View.IsSettled true { world.view with isDirty := false }) (pure () : Engine Unit)
      fun _ world => world.view.IsSettled true ∧ world.view.isDirty = false := by
    refine ensures_pure fun world start => ?_
    obtain ⟨clean, settled⟩ := start
    have same : { world.view with isDirty := false } = world.view := by simp [World.view, clean]
    exact ⟨same ▸ settled, clean⟩
  -- on the passes that are left; a pass that is due finds only nodes behind that look at stats
  induction passes with
  | zero =>
    refine (takeDirty_ensures (View.IsSettled true)).bind fun dirty => ?_
    cases dirty with
    | false => exact stops
    | true =>
      rintro world result world' ⟨clean, settled⟩ returned
      rw [countCutOff_does _ _ _ returned]
      exact ⟨⟨⟨settled.notifying, fun _ => clean, settled.timely, settled.active⟩,
        Or.inr (Or.inl (Nat.succ_pos _))⟩, clean⟩
  | succ passes inductionHypothesis =>
    refine (takeDirty_ensures (View.IsSettled true)).bind fun dirty => ?_
    cases dirty with
    | false => exact stops
    | true =>
      refine Ensures.strengthen ((pass_ensures keeps).bind fun _ => inductionHypothesis) ?_
      rintro world ⟨clean, settled⟩
      have orderly : world.view.IsOrderly true :=
        ⟨settled.notifying, fun _ => clean, settled.timely, settled.active⟩
      exact ⟨orderly, orderly.isCurrentUpTo_stats⟩

/-- A notification settles all conditions if only nodes are behind that look at its trigger.  Within
another notification it leaves that to it. -/
theorem notify_ensures {trigger : Trigger} :
    Ensures (fun world => world.view.IsOrderly isBusy ∧
        world.view.IsCurrentUpTo fun node => node.predicate.subscribes trigger.kind = true)
      (notify perform trigger) fun _ world => world.view.IsSettled isBusy := by
  refine ensures_actor_bind fun actor => ?_
  split
  · rename_i notifying
    rintro world result world' ⟨⟨orderly, current⟩, rfl⟩ returned
    have busy : isBusy = true := orderly.notifying.symm.trans notifying
    rw [markDirty_does _ _ _ returned]
    exact ⟨⟨orderly.notifying, fun idle => absurd idle (by simp [busy]), orderly.timely,
      orderly.active⟩, Or.inl rfl⟩
  · rename_i idle
    have begins : Ensures (fun world => (world.view.IsOrderly isBusy ∧
          world.view.IsCurrentUpTo fun node => node.predicate.subscribes trigger.kind = true) ∧
          world.actor = actor) (setNotifying true) fun _ world =>
        isBusy = false ∧ world.view.IsOrderly true ∧
          world.view.IsCurrentUpTo fun node => node.predicate.subscribes trigger.kind = true := by
      rintro world result world' ⟨⟨orderly, current⟩, rfl⟩ returned
      rw [setNotifying_does _ _ _ returned]
      exact ⟨orderly.notifying.symm.trans (Bool.eq_false_iff.2 idle),
        ⟨rfl, fun idle => absurd idle (by simp), orderly.timely, orderly.active⟩, current⟩
    refine begins.bind fun _ => ?_
    cases isBusy with
    | true => exact fun _ _ _ start => absurd start.1 (by simp)
    | false =>
      refine ((pass_ensures keeps).strengthen fun _ start => start.2).bind fun _ => ?_
      refine (settle_ensures keeps).bind fun _ => ?_
      rintro world result world' ⟨settled, clean⟩ returned
      rw [setNotifying_does _ _ _ returned]
      exact ⟨⟨rfl, fun _ => clean, settled.timely, settled.active⟩, settled.current⟩

theorem notify_ensures_of_orderly :
    Ensures (fun world => world.view.IsOrderly isBusy) (notify perform .statsChanged)
      fun _ world => world.view.IsSettled isBusy :=
  (notify_ensures keeps).strengthen fun _ orderly => ⟨orderly, orderly.isCurrentUpTo_stats⟩

theorem keeps_notify {trigger : Trigger} :
    Keeps (fun world => world.view.IsSettled isBusy) (notify perform trigger) := by
  refine (notify_ensures keeps).strengthen fun world settled => ⟨settled.toIsOrderly, ?_⟩
  rcases settled.current with dirty | cutOff | each
  · exact Or.inl dirty
  · exact Or.inr (Or.inl cutOff)
  · exact Or.inr (Or.inr (each.mono fun _ fits => Or.inr (fits.resolve_left id)))

/-! ## Modifiers -/

theorem keeps_addModifier {modifier : Modifier} {source : Option String} :
    Keeps (fun world => world.view.IsSettled isBusy) (addModifier perform modifier source) := by
  refine recordOffer_quiet.keeps.bind fun _ => ensures_actor_bind fun actor => ?_
  have start : ∀ world : World, world.view.IsSettled isBusy ∧ world.actor = actor →
      world.view.IsSettled isBusy := fun _ => And.left
  dsimp only
  split
  · exact (releaseModifiers_quiet.keeps.bind fun _ => keeps_pure).strengthen start
  · have registers : Ensures (fun world => world.view.IsOrderly isBusy)
        (register ((modifier.withSource source).refresh actor.snapshot).enlist)
        fun _ world => world.view.IsOrderly isBusy := by
      refine register_does.ensures fun view orderly => orderly.withList fun other member => ?_
      cases List.mem_cons.1 (insertModifier_perm.mem_iff.1 member) with
      | inl same =>
        subst same
        refine Or.inr ⟨fun condition conditional node inside => ?_, rfl⟩
        obtain ⟨before, _, rfl⟩ := Option.map_eq_some_iff.1 conditional
        exact (Condition.mem_nodes_refresh inside).isTimely
      | inr earlier =>
        exact Or.inl earlier
    refine Ensures.strengthen (registers.bind fun _ => ?_) fun _ started => started.1.toIsOrderly
    exact (notify_ensures_of_orderly keeps).bind fun _ => keeps_pure

theorem keeps_removeModifier {stat : Stat} {op : ModifierOp} {value : Float32}
    {source : Option String} :
    Keeps (fun world => world.view.IsSettled isBusy)
      (removeModifier perform stat op value source) := by
  refine ensures_actor_bind fun actor => ?_
  dsimp only
  split
  · exact ensures_pure fun _ start => start.1
  · rename_i modifier found
    have unregisters : Ensures (fun world => world.view.IsSettled isBusy ∧ world.actor = actor)
        (unregister stat modifier
          ((actor.modifiersOf stat).eraseP (Modifier.isNamedBy op value source)))
        fun _ world => world.view.IsOrderly isBusy := by
      rintro world result world' ⟨settled, rfl⟩ returned
      rw [unregister_does _ _ _ returned]
      exact settled.toIsOrderly.withList fun other member =>
        Or.inl (List.mem_of_mem_eraseP member)
    exact unregisters.bind fun _ => (notify_ensures_of_orderly keeps).bind fun _ => keeps_pure

theorem keeps_removeSource {source : String} :
    Keeps (fun world => world.view.IsSettled isBusy) (removeSource perform source) := by
  have withdraws : Ensures (fun world => world.view.IsSettled isBusy) (withdrawSource source)
      fun count world => world.view.IsOrderly isBusy ∧
        (count = 0 → world.view.IsSettled isBusy) := by
    intro world count world' settled returned
    obtain ⟨untouched, same⟩ := withdrawSource_ensures world count world' rfl returned
    refine ⟨?_, fun zero => (untouched zero).symm ▸ settled⟩
    rw [same]
    exact ⟨settled.notifying, settled.idle,
      ⟨fun stat modifier member => settled.timely.1 stat modifier (List.mem_filter.1 member).1,
        settled.timely.2⟩,
      fun stat modifier member => settled.active stat modifier (List.mem_filter.1 member).1⟩
  refine withdraws.bind fun count => ?_
  dsimp only
  split
  · exact ((notify_ensures_of_orderly keeps).strengthen fun _ start => start.1).bind fun _ =>
      keeps_pure
  · rename_i none
    exact ensures_pure fun _ start => start.2 (Nat.eq_zero_of_not_pos none)

/-! ## Custom values and health -/

theorem keeps_setCustomValue {id : String} {value : Float32} :
    Keeps (fun world => world.view.IsSettled isBusy) (setCustomValue perform id value) := by
  refine ensures_actor_bind fun actor => ?_
  refine (nextOrder_quiet.keeps.strengthen fun _ start => start.1).bind fun order => ?_
  have sets : Ensures (fun world => world.view.IsSettled isBusy)
      (modifyActor fun actor => { actor with customValues := actor.customValues.insert id value })
      fun _ world => world.view.IsOrderly isBusy :=
    ensures_modifyActor fun _ settled =>
      ⟨settled.notifying, settled.idle, settled.timely, settled.active⟩
  exact sets.bind fun _ => report_quiet.keeps.bind fun _ => notify_ensures_of_orderly keeps

theorem keeps_setHp {hp : Float32} :
    Keeps (fun world => world.view.IsSettled isBusy) (setHp perform hp) := by
  have sets : Ensures (fun world => world.view.IsSettled isBusy)
      (modifyActor fun actor => { actor with hp := Single.clamp hp 0 actor.hpLimit })
      fun _ world => world.view.IsOrderly isBusy :=
    ensures_modifyActor fun _ settled =>
      ⟨settled.notifying, settled.idle, settled.timely, settled.active⟩
  exact sets.bind fun _ => notify_ensures_of_orderly keeps

theorem keeps_drainDamage {fuel : Nat} :
    Keeps (fun world => world.view.IsSettled isBusy) (drainDamage perform fuel) := by
  induction fuel with
  | zero =>
    refine ensures_actor_bind fun actor => ?_
    split
    · exact ensures_pure fun _ start => start.1
    · exact ensures_exhausted
  | succ fuel inductionHypothesis =>
    refine ensures_actor_bind fun actor => ?_
    split
    · exact ensures_pure fun _ start => start.1
    · rename_i damage rest queued
      have suffers : Ensures (fun world => world.view.IsSettled isBusy)
          (sufferDamage damage rest) fun _ world => world.view.IsOrderly isBusy ∧
            world.view.IsCurrentUpTo fun node =>
              node.predicate.subscribes (Trigger.damage damage.amount).kind = true := by
        intro world result world' settled returned
        rw [sufferDamage_does _ _ _ returned]
        exact ⟨⟨settled.notifying, settled.idle, settled.timely, settled.active⟩,
          settled.current.withHp⟩
      -- health is lost before the notification, so nodes that look at damage are behind
      exact (suffers.strengthen fun _ start => start.1).bind fun _ =>
        (notify_ensures keeps).bind fun _ => inductionHypothesis

/-! ## Effects -/

theorem keeps_addEffect {id : String} :
    Keeps (fun world => world.view.IsSettled isBusy) (addEffect perform id) := by
  refine ensures_actor_bind fun actor => ?_
  split
  · exact ensures_pure fun _ start => start.1
  · split
    · exact ensures_pure fun _ start => start.1
    · rename_i definition known
      have fresh : ∀ condition ∈ (AppliedEffect.start definition actor.snapshot).duration,
          ∀ node ∈ condition.nodes, node.IsCurrent actor.snapshot := by
        intro condition limited node inside
        obtain ⟨original, _, rfl⟩ := Option.map_eq_some_iff.1 limited
        exact Condition.mem_nodes_refresh inside
      refine (placeEffect_ensures fresh).bind fun _ => report_quiet.keeps.bind fun _ => ?_
      split
      · exact (keeps_callHook (fun _ _ => records_isSettled) (keeps isBusy)).bind fun _ => keeps_pure
      · exact keeps_pure

theorem keeps_refreshEffect {id : String} :
    Keeps (fun world => world.view.IsSettled isBusy) (refreshEffect perform id) := by
  refine ensures_actor_bind fun actor => ?_
  split
  · exact ensures_pure fun _ start => start.1
  · rename_i effect found
    have fresh : ∀ condition ∈ (effect.refresh actor.snapshot).duration,
        ∀ node ∈ condition.nodes, node.IsCurrent actor.snapshot := by
      intro condition limited node inside
      obtain ⟨original, _, rfl⟩ := Option.map_eq_some_iff.1 limited
      exact Condition.mem_nodes_refresh inside
    refine (placeEffect_ensures fresh).bind fun _ => ?_
    split
    · exact (keeps_callHook (fun _ _ => records_isSettled) (keeps isBusy)).bind fun _ => keeps_pure
    · exact keeps_pure

/-! ## Operations -/

theorem keeps_act {fuel : Nat} {operation : Operation} :
    Keeps (fun world => world.view.IsSettled isBusy) (act perform fuel operation) := by
  cases operation with
  | addBase stat value =>
    exact takeModifier_quiet.keeps.bind fun _ => (keeps_addModifier keeps).bind fun _ => keeps_pure
  | addModifier modifier source => exact (keeps_addModifier keeps).bind fun _ => keeps_pure
  | removeModifier stat op value source =>
    exact (keeps_removeModifier keeps).bind fun _ => keeps_pure
  | removeSource source => exact (keeps_removeSource keeps).bind fun _ => keeps_pure
  | setCustomValue id value => exact (keeps_setCustomValue keeps).bind fun _ => keeps_pure
  | setHp hp => exact (keeps_setHp keeps).bind fun _ => keeps_pure
  | addEffect id => exact (keeps_addEffect keeps).bind fun _ => keeps_pure
  | refreshEffect id => exact (keeps_refreshEffect keeps).bind fun _ => keeps_pure
  | removeEffect id => exact (keeps_removeEffect keeps).bind fun _ => keeps_pure
  | queueDamage damage =>
    have queues : Keeps (fun world => world.view.IsSettled isBusy)
        (modifyActor fun actor => { actor with damage := actor.damage ++ [damage] }) :=
      ensures_modifyActor fun _ settled =>
        ⟨⟨settled.notifying, settled.idle, settled.timely, settled.active⟩, settled.current⟩
    exact queues.bind fun _ => keeps_pure
  | process delta =>
    exact ((keeps_notify keeps).bind fun _ => keeps_drainDamage keeps).bind fun _ => keeps_pure
  | notify trigger => exact (keeps_notify keeps).bind fun _ => keeps_pure
  | takeEvents =>
    refine ensures_actor_bind fun actor => ?_
    have takes : Keeps (fun world => world.view.IsSettled isBusy)
        (modifyActor fun actor => { actor with events := [] }) :=
      ensures_modifyActor fun _ settled => settled
    exact (takes.strengthen fun _ start => start.1).bind fun _ => keeps_pure
  | takePooled => exact takeModifier_quiet.keeps.bind fun _ => keeps_pure
  | modifiers | calculate | customValue | hp | isDead | hasEffect | effects | snapshot =>
    exact ensures_actor_bind fun _ => ensures_pure fun _ start => start.1
  | poolSizes =>
    intro world result world' settled returned
    obtain ⟨_, rfl⟩ := Prod.mk.inj (Option.some.inj returned)
    exact settled

end Performer

theorem keeps_perform {fuel : Nat} {operation : Operation} :
    Keeps (fun world => world.view.IsSettled isBusy) (Engine.perform fuel operation) := by
  -- on the nesting: hooks perform with less fuel
  induction fuel generalizing isBusy operation with
  | zero => exact ensures_exhausted
  | succ fuel inductionHypothesis => exact keeps_act fun _ _ => inductionHypothesis

end Engine

/-! ## Runs -/

theorem World.isSettled_new {catalog : EffectCatalog} {pools : Pools}
    {orders : Nat → VisitOrder} :
    View.IsSettled false { World.new catalog pools with orders := orders }.view := by
  have unlisted (stat : Stat) : (Actor.new catalog).modifiersOf stat = [] := by
    simp [Actor.new, Actor.modifiersOf]
  have each (property : ConditionNode → Prop) :
      View.EachNode property { World.new catalog pools with orders := orders }.view :=
    ⟨fun stat modifier member => absurd member (by simp [World.view, World.new, unlisted]),
      fun id effect applied => absurd applied (by simp [World.view, World.new, Actor.new])⟩
  exact ⟨⟨rfl, fun _ => rfl, each _,
    fun stat modifier member => absurd member (by simp [World.view, World.new, unlisted])⟩,
    Or.inr (Or.inr (each _))⟩

theorem World.Reachable.isSettled_view {catalog : EffectCatalog}
    {permits : World → Operation → Nat → Prop} {world : World}
    (reachable : World.Reachable catalog permits world) : world.view.IsSettled false := by
  induction reachable with
  | new pools orders => exact World.isSettled_new
  | perform reached returned permitted inductionHypothesis =>
    exact Engine.keeps_perform _ _ _ inductionHypothesis returned
  | share pools reached inductionHypothesis => exact inductionHypothesis

structure Actor.IsSettled (actor : Actor) : Prop where
  modifiers : ∀ stat, ∀ modifier ∈ actor.modifiersOf stat, ∀ condition ∈ modifier.condition,
    ∀ node ∈ condition.nodes, node.IsCurrent actor.snapshot
  durations : ∀ id, ∀ effect ∈ actor.effects.get? id, ∀ condition ∈ effect.duration,
    ∀ node ∈ condition.nodes, node.IsCurrent actor.snapshot
  active : ∀ stat, ∀ modifier ∈ actor.modifiersOf stat,
    modifier.isActive = !(modifier.refresh actor.snapshot).callsForSuspension

/-- After every operation of a run without cut-offs, every cached flag is current, and every
modifier is active unless its condition, evaluated now, calls for suspension. -/
theorem World.Reachable.isSettled {catalog : EffectCatalog}
    {permits : World → Operation → Nat → Prop} {world : World}
    (reachable : World.Reachable catalog permits world) (uncut : world.cutOffs = 0) :
    world.actor.IsSettled := by
  have settled := reachable.isSettled_view
  have each : world.view.EachNode fun node => node.IsCurrent world.actor.snapshot := by
    rcases settled.current with dirty | cutOff | each
    · exact absurd dirty (by simp [settled.idle rfl])
    · exact absurd cutOff (by simp [World.view, uncut])
    · exact each.mono fun node current => current.resolve_left id _ World.shows_snapshot
  refine ⟨each.1, each.2, fun stat modifier member => ?_⟩
  rw [Modifier.refresh_of_current (each.1 stat modifier member)]
  exact settled.active stat modifier member

/-- An effect that is suspended while health is low. -/
def EffectDefinition.fury : EffectDefinition :=
  ⟨⟨"fury", some ((Condition.hpRatio .less 0.5).withOutcome .deactivate), none,
    [Modifier.new .attack .add 10]⟩, .standard⟩

/-- A modifier that is inactive while health is low. -/
def Modifier.haste : Modifier :=
  { Modifier.new .speed .add 5 with
    condition := some ((Condition.hpRatio .less 0.5).withOutcome .deactivate) }

/-- Damage suspends an effect and a modifier. -/
theorem World.Reachable.isSettled_wounded :
    ∃ world, World.Reachable (.ofList [.fury]) (fun _ _ _ => True) world ∧ world.cutOffs = 0 ∧
      (world.actor.effects.get? "fury").map AppliedEffect.isActive = some false ∧
      (world.actor.modifiersOf .speed).map Modifier.isActive = [false] ∧
      world.actor.IsSettled := by
  have run : ((Engine.performAll 4 [.addBase .maxHp 100, .setHp 100, .addModifier .haste none,
      .addEffect "fury", .queueDamage ⟨60, none⟩, .process 1]).run
      (World.new (.ofList [.fury]) .initial)).any (fun result => result.2.cutOffs = 0 ∧
        (result.2.actor.effects.get? "fury").map AppliedEffect.isActive = some false ∧
        (result.2.actor.modifiersOf .speed).map Modifier.isActive = [false]) = true := by
    decide +kernel
  obtain ⟨result, returned, facts⟩ := (Option.any_eq_true _ _).1 run
  obtain ⟨uncut, suspended, inactive⟩ := of_decide_eq_true facts
  have reachable : World.Reachable (.ofList [.fury]) (fun _ _ _ => True) result.2 :=
    World.Reachable.performAll (fun _ _ _ => trivial) (.new .initial fun _ => .declared) returned
  exact ⟨result.2, reachable, uncut, suspended, inactive, reachable.isSettled uncut⟩

end Roleplay
