import Roleplay.Proofs.Stats.Registry
import Roleplay.Proofs.Stats.Ticks
import Roleplay.Proofs.Stats.Visits

/-! # Sweeps in place

A sweep may walk a list by position, and take modifiers out of the list that it walks.  A modifier
that is taken out leaves its position to the next one, so the walk must not move on then.

* `SweepWalk.visit` is one step of such a walk, `SweepWalk.run` the walk;
* `SweepWalk.Covers` is its invariant: what lies behind the walk has been filtered and mapped, and
  what lies ahead is as it was;
* `SweepWalk.isDelivery_run` says what a walk does to a list of any length, and
  `Engine.sweepModifiers_walks` that a pass does this to the lists of all stats.
-/

namespace Roleplay

/-! ## Modifiers -/

namespace Modifier

variable (trigger : Trigger) (snapshot : StatSnapshot) (modifier : Modifier)

/-- Whether its chain subscribes to a trigger. -/
def hears : Bool := modifier.condition.any fun condition => condition.subscribes trigger.kind

/-- The modifier with a trigger delivered to its chain. -/
def notified : Modifier :=
  { modifier with
    condition := modifier.condition.map fun condition => (condition.notify trigger snapshot).2 }

/-- Whether its chain reports a change when a trigger is delivered. -/
def reports : Bool := modifier.condition.any fun condition => (condition.notify trigger snapshot).1

/-- Whether it has to be released after a delivery. -/
def expires : Bool :=
  modifier.reports trigger snapshot && (modifier.notified trigger snapshot).callsForRemoval

/-- The modifier, active as its condition says. -/
def settled : Modifier := { modifier with isActive := !modifier.callsForSuspension }

abbrev IsInStep : Prop := modifier.isActive = !modifier.callsForSuspension

end Modifier

theorem Condition.notify_of_not_subscribes {condition : Condition} {trigger : Trigger}
    {snapshot : StatSnapshot} (ignores : condition.subscribes trigger.kind = false) :
    condition.notify trigger snapshot = (false, condition) := by
  have deaf : ∀ node ∈ condition.nodes, (node.notify trigger snapshot).2 = node := by
    intro node member
    have none : node.predicate.subscribes trigger.kind = false := by
      simpa using List.any_eq_false.1 ignores node member
    simp [ConditionNode.notify, none]
  refine Prod.ext (fst_notify_of_not_subscribes ignores) ?_
  obtain ⟨head, tail⟩ := condition
  simp only [nodes, List.mem_cons, forall_eq_or_imp] at deaf
  simp only [notify, changeAll, List.map_map, mk.injEq]
  exact ⟨deaf.1, (List.map_congr_left deaf.2).trans (List.map_id _)⟩

namespace Modifier

variable {trigger : Trigger} {snapshot : StatSnapshot} {modifier : Modifier}

theorem notified_of_not_hears (deaf : modifier.hears trigger = false) :
    modifier.notified trigger snapshot = modifier ∧
      modifier.reports trigger snapshot = false := by
  obtain ⟨stat, op, value, condition, customValueId, isHidden, source, isActive, isRegistered⟩ :=
    modifier
  cases condition with
  | none => exact ⟨rfl, rfl⟩
  | some condition =>
    have same : condition.notify trigger snapshot = (false, condition) :=
      Condition.notify_of_not_subscribes deaf
    simp [notified, reports, same]

theorem notified_of_condition {condition : Condition}
    (conditional : modifier.condition = some condition) : modifier.notified trigger snapshot =
      { modifier with condition := some (condition.notify trigger snapshot).2 } := by
  rw [notified, conditional, Option.map_some]

/-- Without a report, a modifier that was in step with its condition still is. -/
theorem settled_notified (inStep : modifier.IsInStep)
    (silent : modifier.reports trigger snapshot = false) :
    (modifier.notified trigger snapshot).settled = modifier.notified trigger snapshot := by
  obtain ⟨stat, op, value, condition, customValueId, isHidden, source, isActive, isRegistered⟩ :=
    modifier
  cases condition with
  | none => simp_all [IsInStep, settled, notified, callsForSuspension]
  | some condition =>
    have same := Condition.callsForSuspension_notify silent
    simp_all [IsInStep, settled, notified, callsForSuspension]

theorem isInStep_settled : modifier.settled.IsInStep := rfl

theorem hears_of_reports (reports : modifier.reports trigger snapshot = true) :
    modifier.hears trigger = true := by
  cases hears : modifier.hears trigger with
  | true => rfl
  | false => rw [(notified_of_not_hears hears).2] at reports; cases reports

theorem reports_of_expires (expires : modifier.expires trigger snapshot = true) :
    modifier.reports trigger snapshot = true :=
  ((Bool.and_eq_true _ _).mp expires).1

/-- A modifier survives a sweep unless it expires. -/
theorem survivor_eq_ite : Engine.survivor trigger snapshot modifier =
    if modifier.expires trigger snapshot then none
    else if modifier.reports trigger snapshot then
      some (modifier.notified trigger snapshot).settled
    else some (modifier.notified trigger snapshot) := by
  cases conditional : modifier.condition with
  | none =>
    obtain ⟨same, silent⟩ : modifier.notified trigger snapshot = modifier ∧
        modifier.reports trigger snapshot = false :=
      notified_of_not_hears (by simp [hears, conditional])
    simp [Engine.survivor, expires, silent, same, conditional]
  | some condition =>
    cases changed : (condition.notify trigger snapshot).1 <;>
      simp [Engine.survivor, expires, reports, conditional, changed,
        notified_of_condition conditional, callsForRemoval, settled, callsForSuspension]

/-- What survives of a modifier in step with its condition is in step again. -/
theorem survivor_eq (inStep : modifier.IsInStep) :
    Engine.survivor trigger snapshot modifier =
      if modifier.expires trigger snapshot then none
      else some (modifier.notified trigger snapshot).settled := by
  rw [survivor_eq_ite]
  cases changed : modifier.reports trigger snapshot with
  | false => rw [settled_notified inStep changed]; rfl
  | true => rfl

end Modifier

/-! ## Lists -/

namespace Engine

variable {trigger : Trigger} {snapshot : StatSnapshot} {list : List Modifier}

theorem released_sweep : (sweep trigger snapshot list).released =
    (list.filter (Modifier.expires trigger snapshot)).map (Modifier.notified trigger snapshot) := by
  induction list with
  | nil => rfl
  | cons modifier rest inductionHypothesis =>
    rw [List.filter_cons]
    cases conditional : modifier.condition with
    | none =>
      have stays : modifier.expires trigger snapshot = false := by
        simp [Modifier.expires, Modifier.reports, conditional]
      simp [sweep, conditional, stays, inductionHypothesis]
    | some condition =>
      have delivered : modifier.notified trigger snapshot =
          { modifier with condition := some (condition.notify trigger snapshot).2 } :=
        Modifier.notified_of_condition conditional
      simp only [sweep, conditional, Modifier.expires, Modifier.reports, delivered,
        Modifier.callsForRemoval, Option.any_some, inductionHypothesis]
      cases (condition.notify trigger snapshot).1 with
      | false => simp
      | true =>
        cases (condition.notify trigger snapshot).2.callsForRemoval <;> simp [delivered]

theorem isChanged_sweep : (sweep trigger snapshot list).isChanged =
    list.any (Modifier.reports trigger snapshot) := by
  induction list with
  | nil => rfl
  | cons modifier rest inductionHypothesis =>
    rw [List.any_cons]
    cases conditional : modifier.condition with
    | none => simp [sweep, conditional, Modifier.reports, inductionHypothesis]
    | some condition =>
      simp only [sweep, conditional, Modifier.reports, Option.any_some]
      cases (condition.notify trigger snapshot).1 with
      | false => simp [inductionHypothesis]
      | true => cases (condition.notify trigger snapshot).2.callsForRemoval <;> simp

/-- Of a list in step with its conditions, a sweep keeps what does not expire. -/
theorem kept_sweep_eq_map (inStep : ∀ modifier ∈ list, modifier.IsInStep) :
    (sweep trigger snapshot list).kept =
      (list.filter fun modifier => !modifier.expires trigger snapshot).map
        fun modifier => (modifier.notified trigger snapshot).settled := by
  rw [kept_sweep, List.filterMap_congr fun modifier member =>
    Modifier.survivor_eq (inStep modifier member)]
  induction list with
  | nil => rfl
  | cons modifier rest inductionHypothesis =>
    have later := inductionHypothesis fun other member => inStep other (.tail _ member)
    rw [List.filterMap_cons, List.filter_cons, later]
    cases modifier.expires trigger snapshot <;> rfl

end Engine

/-! ## Walks -/

/-- A walk over a list that it changes. -/
structure SweepWalk where
  list : List Modifier
  /-- How far the walk has come. -/
  place : Nat
  /-- The modifiers that the trigger was delivered to, as they were before. -/
  delivered : List Modifier
  released : List Modifier
  isChanged : Bool

namespace SweepWalk

variable (trigger : Trigger) (snapshot : StatSnapshot)

def start (list : List Modifier) : SweepWalk := ⟨list, 0, [], [], false⟩

def moveOn (walk : SweepWalk) : SweepWalk := { walk with place := walk.place + 1 }

/-- Replaces the modifier that the walk has come to. -/
def put (modifier : Modifier) (walk : SweepWalk) : SweepWalk :=
  { walk with list := walk.list.set walk.place modifier }

/-- Takes out the modifier that the walk has come to.  The next one moves up to its position. -/
def takeOut (modifier : Modifier) (walk : SweepWalk) : SweepWalk :=
  { walk with
    list := walk.list.eraseIdx walk.place
    released := walk.released ++ [modifier]
    isChanged := true }

/-- What the walk does with the modifier that it has come to. -/
def visit (modifier : Modifier) (walk : SweepWalk) : SweepWalk :=
  match modifier.condition with
  | none => walk.moveOn
  | some condition =>
    if !condition.subscribes trigger.kind then walk.moveOn
    else
      let (changed, condition) := condition.notify trigger snapshot
      let notified := { modifier with condition := some condition }
      let walk := { walk.put notified with delivered := walk.delivered ++ [modifier] }
      if !changed then walk.moveOn
      else if condition.callsForRemoval then walk.takeOut notified
      else
        let settled := { notified with isActive := !condition.callsForSuspension }
        { walk.put settled with isChanged := true }.moveOn

/-- Every visit brings the walk nearer to the end, which may come nearer itself. -/
theorem length_visit {walk : SweepWalk} (inside : walk.place < walk.list.length)
    (modifier : Modifier) :
    (walk.visit trigger snapshot modifier).list.length + (walk.place + 1) =
      walk.list.length + (walk.visit trigger snapshot modifier).place := by
  rw [visit]
  cases modifier.condition with
  | none => rfl
  | some condition =>
    dsimp only
    split
    · rfl
    · split
      · simp [moveOn, put]
      · split
        · simp only [takeOut, put, List.length_eraseIdx, List.length_set, if_pos inside]
          omega
        · simp [moveOn, put]

/-- Walks on to the end of the list. -/
def run (walk : SweepWalk) : SweepWalk :=
  if inside : walk.place < walk.list.length then
    run (walk.visit trigger snapshot walk.list[walk.place])
  else walk
termination_by walk.list.length - walk.place
decreasing_by
  have nearer := length_visit trigger snapshot inside walk.list[walk.place]
  omega

variable {trigger : Trigger} {snapshot : StatSnapshot} {walk : SweepWalk} {modifier : Modifier}
  {done rest list : List Modifier}

/-- The walk has come past some modifiers of a list, and others lie ahead.  Those that it has kept
make room for those that it has released. -/
structure Covers (trigger : Trigger) (snapshot : StatSnapshot) (done rest : List Modifier)
    (walk : SweepWalk) : Prop where
  list : walk.list = done.filterMap (Engine.survivor trigger snapshot) ++ rest
  place : walk.place = (done.filterMap (Engine.survivor trigger snapshot)).length
  delivered : walk.delivered = done.filter (Modifier.hears trigger)
  released : walk.released =
    (done.filter (Modifier.expires trigger snapshot)).map (Modifier.notified trigger snapshot)
  isChanged : walk.isChanged = done.any (Modifier.reports trigger snapshot)

theorem covers_start : Covers trigger snapshot [] list (start list) := ⟨rfl, rfl, rfl, rfl, rfl⟩

/-- The walk takes out what expires, and stays where it is. -/
theorem visit_of_expires (expires : modifier.expires trigger snapshot = true) :
    walk.visit trigger snapshot modifier =
      { list := walk.list.eraseIdx walk.place
        place := walk.place
        delivered := walk.delivered ++ [modifier]
        released := walk.released ++ [modifier.notified trigger snapshot]
        isChanged := true } := by
  have reports := Modifier.reports_of_expires expires
  have hears := Modifier.hears_of_reports reports
  cases conditional : modifier.condition with
  | none => simp [Modifier.reports, conditional] at reports
  | some condition =>
    have subscribes : condition.subscribes trigger.kind = true := by
      simpa [Modifier.hears, conditional] using hears
    obtain ⟨changed, removes⟩ : (condition.notify trigger snapshot).1 = true ∧
        (condition.notify trigger snapshot).2.callsForRemoval = true := by
      simpa [Modifier.expires, Modifier.reports, Modifier.notified, Modifier.callsForRemoval,
        conditional] using expires
    simp [visit, conditional, subscribes, changed, removes, takeOut, put, List.eraseIdx_set_eq,
      Modifier.notified_of_condition conditional]

/-- The walk puts what survives in its place, and moves on. -/
theorem visit_of_survives {survivor : Modifier}
    (survives : Engine.survivor trigger snapshot modifier = some survivor)
    (here : walk.list[walk.place]? = some modifier) :
    walk.visit trigger snapshot modifier =
      { list := walk.list.set walk.place survivor
        place := walk.place + 1
        delivered := walk.delivered ++ [modifier].filter (Modifier.hears trigger)
        released := walk.released
        isChanged := walk.isChanged || modifier.reports trigger snapshot } := by
  have unchanged : walk.list.set walk.place modifier = walk.list := by
    obtain ⟨inside, rfl⟩ := List.getElem?_eq_some_iff.1 here
    exact List.set_getElem_self inside
  obtain ⟨stat, op, value, condition, customValueId, isHidden, source, isActive, isRegistered⟩ :=
    modifier
  cases condition with
  | none =>
    obtain rfl := Option.some.inj survives
    simp [visit, moveOn, unchanged, Modifier.hears, Modifier.reports]
  | some condition =>
    cases hears : condition.subscribes trigger.kind with
    | false =>
      have same : condition.notify trigger snapshot = (false, condition) :=
        Condition.notify_of_not_subscribes hears
      obtain rfl : _ = survivor := by simpa [Engine.survivor, same] using survives
      simp [visit, moveOn, unchanged, Modifier.hears, Modifier.reports, hears, same]
    | true =>
      cases changed : (condition.notify trigger snapshot).1 with
      | false =>
        obtain rfl : _ = survivor := by simpa [Engine.survivor, changed] using survives
        simp [visit, moveOn, put, Modifier.hears, Modifier.reports, hears, changed]
      | true =>
        simp only [Engine.survivor, changed, Bool.not_true, Bool.false_eq_true, if_false,
          Option.ite_none_left_eq_some, Option.some.injEq] at survives
        obtain ⟨stays, rfl⟩ := survives
        simp [visit, moveOn, put, Modifier.hears, Modifier.reports, hears, changed, stays]

theorem Covers.visit (covers : Covers trigger snapshot done (modifier :: rest) walk) :
    Covers trigger snapshot (done ++ [modifier]) rest
      (walk.visit trigger snapshot modifier) := by
  obtain ⟨list, place, delivered, released, isChanged⟩ := covers
  cases expires : modifier.expires trigger snapshot with
  | true =>
    -- the next modifier has moved up to the position that the walk stays at
    have reports := Modifier.reports_of_expires expires
    have hears := Modifier.hears_of_reports reports
    have survives : Engine.survivor trigger snapshot modifier = none := by
      rw [Modifier.survivor_eq_ite, expires, if_pos rfl]
    rw [visit_of_expires expires]
    constructor <;> simp [list, place, delivered, released, survives, expires, reports, hears,
      List.eraseIdx_append_of_length_le]
  | false =>
    obtain ⟨survivor, survives⟩ :
        ∃ survivor, Engine.survivor trigger snapshot modifier = some survivor := by
      rw [Modifier.survivor_eq_ite, expires]
      cases modifier.reports trigger snapshot <;> exact ⟨_, rfl⟩
    rw [visit_of_survives survives (by simp [list, place])]
    constructor <;> simp [list, place, delivered, released, isChanged, survives, expires]

theorem Covers.run (covers : Covers trigger snapshot done rest walk) :
    Covers trigger snapshot (done ++ rest) [] (walk.run trigger snapshot) := by
  -- on what lies ahead, of which a visit covers the first one
  induction rest generalizing done walk with
  | nil =>
    have ended : ¬walk.place < walk.list.length := by simp [covers.place, covers.list]
    rwa [SweepWalk.run, dif_neg ended, List.append_nil]
  | cons modifier rest inductionHypothesis =>
    have inside : walk.place < walk.list.length := by simp [covers.place, covers.list]
    have here : walk.list[walk.place] = modifier := by simp [covers.place, covers.list]
    rw [SweepWalk.run, dif_pos inside, here, List.append_cons]
    exact inductionHypothesis covers.visit

/-- A walk over a whole list comes to what a sweep makes of it. -/
theorem run_start :
    ((start list).run trigger snapshot).list = (Engine.sweep trigger snapshot list).kept ∧
    ((start list).run trigger snapshot).released = (Engine.sweep trigger snapshot list).released ∧
    ((start list).run trigger snapshot).isChanged =
      (Engine.sweep trigger snapshot list).isChanged := by
  have covers : Covers trigger snapshot list [] ((start list).run trigger snapshot) :=
    covers_start.run
  rw [Engine.kept_sweep, Engine.released_sweep, Engine.isChanged_sweep]
  exact ⟨covers.list.trans (List.append_nil _), covers.released, covers.isChanged⟩

/-- A trigger was delivered to the modifiers of a list, in their order. -/
structure IsDelivery (trigger : Trigger) (snapshot : StatSnapshot) (list : List Modifier)
    (walk : SweepWalk) : Prop where
  /-- Whoever subscribes gets the trigger once, and nobody else does. -/
  delivered : walk.delivered = list.filter (Modifier.hears trigger)
  released : walk.released =
    (list.filter (Modifier.expires trigger snapshot)).map (Modifier.notified trigger snapshot)
  kept : walk.list = (list.filter fun modifier => !modifier.expires trigger snapshot).map
    fun modifier => (modifier.notified trigger snapshot).settled
  inStep : ∀ modifier ∈ walk.list, modifier.IsInStep
  untouched : ∀ modifier ∈ list, modifier.hears trigger = false →
    modifier.expires trigger snapshot = false ∧
      (modifier.notified trigger snapshot).settled = modifier
  isChanged : walk.isChanged = list.any (Modifier.reports trigger snapshot)

theorem isDelivery_run (inStep : ∀ modifier ∈ list, modifier.IsInStep) :
    IsDelivery trigger snapshot list ((start list).run trigger snapshot) := by
  have covers : Covers trigger snapshot list [] ((start list).run trigger snapshot) :=
    covers_start.run
  have kept : ((start list).run trigger snapshot).list =
      (list.filter fun modifier => !modifier.expires trigger snapshot).map
        fun modifier => (modifier.notified trigger snapshot).settled :=
    run_start.1.trans (Engine.kept_sweep_eq_map inStep)
  refine ⟨covers.delivered, covers.released, kept, ?_, ?_, covers.isChanged⟩
  · rw [kept]
    intro modifier member
    obtain ⟨earlier, _, rfl⟩ := List.mem_map.1 member
    exact Modifier.isInStep_settled
  · intro modifier member deaf
    obtain ⟨same, silent⟩ := Modifier.notified_of_not_hears deaf
    refine ⟨by rw [Modifier.expires, silent, Bool.false_and], ?_⟩
    rw [Modifier.settled_notified (inStep modifier member) silent, same]

end SweepWalk

/-! ## Sweeps of all lists -/

namespace Engine

variable {trigger : Trigger} {snapshot : StatSnapshot} {world world' : World}

theorem pools_visitAll_sweeping {stats : List Stat} (nodup : stats.Nodup) :
    (world.visitAll (sweeping trigger snapshot) stats).pools.modifiers =
      world.pools.modifiers.releaseAll (stats.flatMap fun stat =>
        (sweep trigger snapshot (world.actor.modifiersOf stat)).released) := by
  induction stats generalizing world with
  | nil => rfl
  | cons stat stats inductionHypothesis =>
    obtain ⟨fresh, nodup⟩ := List.nodup_cons.1 nodup
    -- the lists of the later stats are as they were before this stop
    have others : ∀ other ∈ stats,
        (world.visitAt (sweeping trigger snapshot) stat).actor.modifiersOf other =
          world.actor.modifiersOf other := by
      intro other member
      have different : stat ≠ other := fun same => fresh (same ▸ member)
      rw [World.visitAt]
      cases here : world.actor.modifiers.get? stat with
      | none => rfl
      | some list => simp [Actor.modifiersOf, StatTable.get?_put, different]
    have here : (world.visitAt (sweeping trigger snapshot) stat).pools.modifiers =
        world.pools.modifiers.releaseAll
          (sweep trigger snapshot (world.actor.modifiersOf stat)).released := by
      rw [World.visitAt]
      cases here : world.actor.modifiers.get? stat with
      | none => simp [Actor.modifiersOf, here, sweep, Pool.releaseAll]
      | some list => simp [Actor.modifiersOf, here, sweeping]
    have later : (stats.flatMap fun stat' => (sweep trigger snapshot
        ((world.visitAt (sweeping trigger snapshot) stat).actor.modifiersOf stat')).released) =
        stats.flatMap fun stat' =>
          (sweep trigger snapshot (world.actor.modifiersOf stat')).released :=
      List.flatMap_congr fun other member => by rw [others other member]
    refine (inductionHypothesis nodup).trans ?_
    rw [here, later, List.flatMap_cons, Pool.releaseAll, Pool.releaseAll, Pool.releaseAll,
      List.foldl_append]

theorem pools_visitAll_pruning {stats : List Stat} :
    (world.visitAll pruning stats).pools.modifiers = world.pools.modifiers := by
  induction stats generalizing world with
  | nil => rfl
  | cons stat stats inductionHypothesis =>
    refine inductionHypothesis.trans ?_
    rw [World.visitAt]
    cases world.actor.modifiers.get? stat with
    | none => rfl
    | some list => cases list <;> rfl

/-- A sweep returns.  It has walked over the list of every stat, and what the walks have taken out
has gone back to the pool. -/
theorem sweepModifiers_walks :
    ∃ swept, (sweepModifiers trigger snapshot).run world = some ((), swept) ∧
      (∀ stat, swept.actor.modifiersOf stat =
        ((SweepWalk.start (world.actor.modifiersOf stat)).run trigger snapshot).list) ∧
      swept.pools.modifiers = world.pools.modifiers.releaseAll (Stat.all.flatMap fun stat =>
        ((SweepWalk.start (world.actor.modifiersOf stat)).run trigger snapshot).released) := by
  have visit : IsVisit (sweepModifiers trigger snapshot) _ _ _ := isVisit_sweepModifiers
  refine ⟨_, visit.run world, fun stat => ?_, ?_⟩
  · have swept := sweepModifiers_does _ _ _ (visit.run world)
    exact (congrFun (congrArg View.lists swept) stat).trans SweepWalk.run_start.1.symm
  · -- dropping lists that have become empty has to do with the other pool
    have marks {other : World} {isDue : Bool} : (other.marked isDue).pools = other.pools := rfl
    have released : (afterSweep trigger snapshot Stat.all world).pools.modifiers =
        (world.visitAll (sweeping trigger snapshot) Stat.all).pools.modifiers := by
      rw [afterSweep, pools_visitAll_pruning, marks]
    have walked : ∀ stat ∈ Stat.all,
        (sweep trigger snapshot (world.actor.modifiersOf stat)).released =
          ((SweepWalk.start (world.actor.modifiersOf stat)).run trigger snapshot).released :=
      fun _ _ => SweepWalk.run_start.2.1.symm
    have nodup : Stat.all.Nodup := @VisitOrder.nodup .declared
    refine released.trans ?_
    rw [pools_visitAll_sweeping nodup, List.flatMap_congr walked]

/-! ## Worlds in step -/

theorem isInStep_enlist {modifier : Modifier} : modifier.enlist.IsInStep := rfl

theorem Move.inStep (move : Move world world')
    (inStep : world.view.EachModifier Modifier.IsInStep) :
    world'.view.EachModifier Modifier.IsInStep := by
  have same (modifiers : world'.actor.modifiers = world.actor.modifiers) :
      world'.view.EachModifier Modifier.IsInStep := by
    intro stat modifier member
    have lists : world'.view.lists stat = world.view.lists stat := by
      simp [World.view, Actor.modifiersOf, modifiers]
    exact inStep stat modifier (lists ▸ member)
  have withList {stat : Stat} {list : List Modifier}
      (changed : world'.view = world.view.withList stat list)
      (fits : ∀ modifier ∈ list, modifier ∈ world.view.lists stat ∨ modifier.IsInStep) :
      world'.view.EachModifier Modifier.IsInStep := by
    intro other modifier member
    rw [changed, View.lists_withList] at member
    split at member
    next same =>
      cases fits modifier member with
      | inl earlier => exact inStep stat modifier earlier
      | inr new => exact new
    next => exact inStep other modifier member
  cases move with
  | aside aside => exact same aside.modifiers
  | register accepted returned =>
    refine withList (register_does _ _ _ returned) fun modifier member => ?_
    cases List.mem_cons.1 (insertModifier_perm.mem_iff.1 member) with
    | inl new => exact Or.inr (new ▸ isInStep_enlist)
    | inr earlier => exact Or.inl earlier
  | unregister returned =>
    exact withList (unregister_does _ _ _ returned) fun modifier member =>
      Or.inl (List.eraseP_sublist.subset member)
  | withdraw returned =>
    rw [(withdrawSource_ensures _ _ _ rfl returned).2]
    exact fun stat modifier member => inStep stat modifier (List.filter_sublist.subset member)
  | sweep returned =>
    rw [sweepModifiers_does _ _ _ returned]
    intro stat modifier member
    obtain ⟨earlier, inList, _, active⟩ := mem_kept_sweep member
    exact active (inStep stat earlier inList)
  | receive returned | report returned | clear returned | setValue returned
  | start known returned | refresh applied returned | drop returned =>
    obtain ⟨_, rfl⟩ := Prod.mk.inj (Option.some.inj returned)
    exact same rfl

end Engine

end Roleplay
