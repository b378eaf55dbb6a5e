import Mathlib.Data.List.Perm.Basic
import Roleplay.Proofs.Stats.Lockstep
import Roleplay.Proofs.Stats.Reporting
import Roleplay.Proofs.Stats.Returning

/-! # Walks do not depend on their order

A walk over the table of modifiers stops at the list of every stat once.  What it does at one stop
neither looks at nor changes what it does at another, so that all orders come to the same, but for
the order of the events that the stops report.

* `Visit` is what a walk does at a list, `World.visitAt` one stop of it; `World.visitAt_comm` says
  that two stops can be exchanged;
* `Engine.IsVisit` says of a computation that it is a walk: whatever the order is, it has one
  outcome, and reports the events of every stat in that order;
* `Engine.isVisit_sweepModifiers` and its kin are the walks of the engine.
-/

namespace Roleplay

/-! ## Tables -/

theorem Stat.exists_index : ∀ place : Fin 12, ∃ stat ∈ Stat.all, stat.index = place := by
  decide

namespace StatTable

variable {α : Type} {table : StatTable α} {stat other : Stat}

theorem ext_get? {first second : StatTable α}
    (same : ∀ stat, first.get? stat = second.get? stat) : first = second := by
  obtain ⟨first⟩ := first
  obtain ⟨second⟩ := second
  refine congrArg StatTable.mk (Vector.ext fun place within => ?_)
  obtain ⟨stat, -, here⟩ := Stat.exists_index ⟨place, within⟩
  have equal := same stat
  simp only [get?, Fin.getElem_fin, here] at equal
  exact equal

/-- Replaces the entry of a stat, or drops it. -/
def put (table : StatTable α) (stat : Stat) : Option α → StatTable α
  | some entry => table.set stat entry
  | none => table.erase stat

theorem get?_put {entry : Option α} :
    (table.put stat entry).get? other = if stat = other then entry else table.get? other := by
  cases entry with
  | some entry => exact get?_set
  | none => exact get?_erase

theorem put_self (table : StatTable α) (stat : Stat) :
    table.put stat (table.get? stat) = table := by
  refine ext_get? fun other => ?_
  rw [get?_put]
  split
  · rename_i same
    rw [same]
  · rfl

theorem put_comm {entry otherEntry : Option α} (different : stat ≠ other) :
    (table.put stat entry).put other otherEntry = (table.put other otherEntry).put stat entry := by
  refine ext_get? fun third => ?_
  simp only [get?_put]
  split
  · rename_i same
    rw [if_neg (same ▸ different)]
  · rfl

end StatTable

/-! ## Stops -/

/-- What a walk does at one list. -/
structure Stop where
  /-- What becomes of the list, absent if it is dropped. -/
  left : Option (List Modifier)
  released : List Modifier
  /-- Whether the pool of lists has a part in it. -/
  usesPool : Bool

/-- What a walk does at any list, and what it does with the pool of lists where that has a part. -/
structure Visit where
  stop : List Modifier → Stop
  pool : Pool (List Modifier) → Pool (List Modifier)

namespace Pool

variable {α : Type} [Recyclable α] {pool : Pool α}

/-- It does not matter what is released, for it is cleared. -/
theorem release_eq (first second : α) : pool.release first = pool.release second := by
  have clear : Recyclable.clear first = Recyclable.clear second := by
    rw [Recyclable.clear_eq_fresh, Recyclable.clear_eq_fresh]
  simp only [release, clear]

theorem releaseAll_comm {first second : List α} :
    (pool.releaseAll first).releaseAll second = (pool.releaseAll second).releaseAll first := by
  have cleared : RightCommutative (release : Pool α → α → Pool α) :=
    ⟨fun pool first second => (release_eq second first).trans
      (congrArg (release · first) (release_eq first second))⟩
  rw [releaseAll, releaseAll, ← List.foldl_append, List.perm_append_comm.foldl_eq,
    List.foldl_append]
  rfl

end Pool

/-- The effects that may be applied and those that are, and the hooks that were called. -/
structure Course where
  catalog : EffectCatalog
  effects : Dictionary AppliedEffect
  calls : List HookCall
  strays : List String
  due : List String
  isNotifying : Bool

namespace World

def course (world : World) : Course :=
  ⟨world.actor.catalog, world.actor.effects, world.calls, world.strays, world.due,
    world.actor.isNotifying⟩

/-- One stop of a walk; a stat without list is passed by. -/
def visitAt (visit : Visit) (world : World) (stat : Stat) : World :=
  match world.actor.modifiers.get? stat with
  | none => world
  | some list =>
    let stop := visit.stop list
    { world with
      actor := { world.actor with modifiers := world.actor.modifiers.put stat stop.left }
      pools := { world.pools with
        modifiers := world.pools.modifiers.releaseAll stop.released
        lists := if stop.usesPool then visit.pool world.pools.lists else world.pools.lists } }

variable {visit : Visit} {world : World} {stat other : Stat}

theorem visitAt_comm :
    (world.visitAt visit stat).visitAt visit other =
      (world.visitAt visit other).visitAt visit stat := by
  by_cases same : stat = other
  · rw [same]
  · cases here : world.actor.modifiers.get? stat with
    | none =>
      cases there : world.actor.modifiers.get? other with
      | none => simp [visitAt, here, there]
      | some list => simp [visitAt, here, there, StatTable.get?_put, Ne.symm same]
    | some list =>
      cases there : world.actor.modifiers.get? other with
      | none => simp [visitAt, here, there, StatTable.get?_put, same]
      | some list' =>
        -- the stops see different lists, and the pools do not tell apart what they get back
        simp only [visitAt, here, there, StatTable.get?_put, same, Ne.symm same, if_false]
        rw [StatTable.put_comm same, Pool.releaseAll_comm]
        split <;> split <;> rfl

instance : RightCommutative (visitAt visit) := ⟨fun _ _ _ => visitAt_comm⟩

/-- The stops of a walk, one after the other. -/
def visitAll (visit : Visit) (world : World) (stats : List Stat) : World :=
  stats.foldl (visitAt visit) world

theorem visitAll_perm {stats stats' : List Stat} (perm : stats.Perm stats') :
    world.visitAll visit stats = world.visitAll visit stats' :=
  perm.foldl_eq world

/-- The change does the same whatever is told, tells nothing, and has to do with no effects. -/
structure Spares (change : World → World) : Prop where
  retold : ∀ world telling, change (world.retold telling) = (change world).retold telling
  course : ∀ world, (change world).course = world.course

theorem Spares.telling {change : World → World} (spares : Spares change) (world : World) :
    (change world).telling = world.telling := by
  have same := spares.retold world world.telling
  rw [retold_telling] at same
  exact (congrArg World.telling same).trans telling_retold

theorem Spares.comp {first second : World → World} (later : Spares second)
    (earlier : Spares first) : Spares fun world => second (first world) := by
  refine ⟨fun world telling => ?_, fun world => ?_⟩
  · rw [earlier.retold, later.retold]
  · rw [later.course, earlier.course]

theorem spares_visitAt : Spares fun world => world.visitAt visit stat := by
  refine ⟨fun world telling => ?_, fun world => ?_⟩
  · rw [visitAt, visitAt]
    cases here : world.actor.modifiers.get? stat <;> simp [retold, here]
  · rw [visitAt]
    split <;> rfl

theorem spares_visitAll {stats : List Stat} : Spares fun world => world.visitAll visit stats := by
  induction stats with
  | nil => exact ⟨fun _ _ => rfl, fun _ => rfl⟩
  | cons stat stats inductionHypothesis => exact inductionHypothesis.comp spares_visitAt

/-- Another pass may be asked for. -/
def marked (world : World) (isDue : Bool) : World :=
  { world with actor := { world.actor with isDirty := world.actor.isDirty || isDue } }

theorem spares_marked {isDue : Bool} : Spares fun world => world.marked isDue :=
  ⟨fun _ _ => rfl, fun _ => rfl⟩

end World

/-! ## Telling -/

namespace Telling

/-- Some events are reported. -/
def told (telling : Telling) (events : List Event) : Telling :=
  { telling with events := telling.events ++ events, reports := telling.reports ++ events }

@[simp] theorem told_nil {telling : Telling} : telling.told [] = telling := by
  simp [told]

@[simp] theorem told_told {telling : Telling} {first second : List Event} :
    (telling.told first).told second = telling.told (first ++ second) := by
  simp [told, List.append_assoc]

/-- A walk reports the events of each stat, in its order. -/
def visited (telling : Telling) (events : Stat → List Event) : Telling :=
  { telling.told ((telling.orders telling.walks).stats.flatMap events) with
    walks := telling.walks + 1 }

end Telling

namespace Engine

variable {α : Type} {world : World}

theorem run_report {events : List Event} :
    (report events).run world = some ((), world.retold (world.telling.told events)) :=
  rfl

theorem run_nextOrder : nextOrder.run world = some ((world.orders world.walks).stats,
    world.retold { world.telling with walks := world.walks + 1 }) :=
  rfl

/-! ## The walks of the engine -/

/-- An empty list is dropped, and goes back to the pool. -/
def pruning : Visit where
  stop list := if list.isEmpty then ⟨none, [], true⟩ else ⟨some list, [], false⟩
  pool pool := pool.release []

theorem run_prune {stat : Stat} :
    (prune stat).run world = some ((), world.visitAt pruning stat) := by
  rw [prune, run_actor_bind, World.visitAt]
  cases here : world.actor.modifiers.get? stat with
  | none => rfl
  | some list =>
    cases list with
    | nil => rfl
    | cons modifier list =>
      -- putting back the list that is there changes nothing
      have same : world.actor.modifiers.put stat (some (modifier :: list)) =
          world.actor.modifiers := here ▸ StatTable.put_self _ _
      simp only [pruning, List.isEmpty_cons, Bool.false_eq_true, if_false, same]
      rfl

theorem run_settleStats {stats : List Stat} : (settleStats stats).run world =
    some ((), (world.visitAll pruning stats).retold
      (world.telling.told (stats.flatMap changesOf))) := by
  induction stats generalizing world with
  | nil => simp [settleStats, World.visitAll]
  | cons stat stats inductionHypothesis =>
    have spares : World.Spares fun world => world.visitAt pruning stat := World.spares_visitAt
    rw [settleStats, run_bind_of_some run_prune, reportModifiers, run_bind_of_some run_report,
      inductionHypothesis, World.spares_visitAll.retold]
    simp only [World.retold_retold, World.telling_retold, spares.telling, Telling.told_told]
    rfl

/-- What a sweep does with a list. -/
def sweeping (trigger : Trigger) (snapshot : StatSnapshot) : Visit where
  stop list := ⟨some (sweep trigger snapshot list).kept, (sweep trigger snapshot list).released,
    false⟩
  pool := id

theorem run_sweepStats (trigger : Trigger) (snapshot : StatSnapshot) (stats : List Stat)
    (world : World) : ∃ changed, (sweepStats trigger snapshot stats).run world =
    some (changed, world.visitAll (sweeping trigger snapshot) stats) := by
  induction stats generalizing world with
  | nil => exact ⟨[], rfl⟩
  | cons stat stats inductionHypothesis =>
    obtain ⟨changed, swept⟩ :=
      inductionHypothesis (world.visitAt (sweeping trigger snapshot) stat)
    rw [sweepStats, run_actor_bind, World.visitAll, List.foldl_cons]
    rw [World.visitAt] at swept ⊢
    cases here : world.actor.modifiers.get? stat with
    | none =>
      rw [here] at swept
      exact ⟨changed, swept⟩
    | some list =>
      rw [here] at swept
      exact ⟨_, run_bind_eq_some.2 ⟨(), _, rfl, run_bind_eq_some.2 ⟨(), _, rfl,
        run_bind_eq_some.2 ⟨changed, _, swept, rfl⟩⟩⟩⟩

/-- The modifiers of a source are taken out of a list, which moves to one from the pool. -/
def detaching (source : String) : Visit where
  stop list := ⟨some (withoutSource source list), list.filter (Modifier.isFrom source), true⟩
  pool pool := pool.take.2.release []

theorem run_detachSource (source : String) (stats : List Stat) (world : World) :
    ∃ result, (detachSource source stats).run world =
      some (result, world.visitAll (detaching source) stats) := by
  induction stats generalizing world with
  | nil => exact ⟨(0, []), rfl⟩
  | cons stat stats inductionHypothesis =>
    obtain ⟨result, detached⟩ := inductionHypothesis (world.visitAt (detaching source) stat)
    rw [detachSource, run_actor_bind, World.visitAll, List.foldl_cons]
    rw [World.visitAt] at detached ⊢
    cases here : world.actor.modifiers.get? stat with
    | none =>
      rw [here] at detached
      exact ⟨result, detached⟩
    | some list =>
      rw [here] at detached
      exact ⟨_, run_bind_eq_some.2 ⟨_, _, rfl, run_bind_eq_some.2 ⟨(), _, rfl,
        run_bind_eq_some.2 ⟨(), _, rfl, run_bind_eq_some.2 ⟨(), _, rfl,
          run_bind_eq_some.2 ⟨result, _, detached, rfl⟩⟩⟩⟩⟩⟩

/-! ## One outcome for all orders -/

/-- The computation is a walk.  What it returns and what becomes of the world does not depend on the
order, in which the events of the stats are reported. -/
structure IsVisit (engine : Engine α) (result : World → α) (change : World → World)
    (events : World → Stat → List Event) : Prop where
  spares : World.Spares change
  result_retold : ∀ world telling, result (world.retold telling) = result world
  events_retold : ∀ world telling, events (world.retold telling) = events world
  concerns : ∀ world stat, ∀ event ∈ events world stat, event.stat? = some stat
  run : ∀ world, engine.run world =
    some (result world, (change world).retold (world.telling.visited (events world)))

theorem flatMap_filter {isOne : Stat → Bool} {events : Stat → List Event} {stats : List Stat} :
    (stats.filter isOne).flatMap events =
      stats.flatMap fun stat => if isOne stat then events stat else [] := by
  induction stats with
  | nil => rfl
  | cons stat stats inductionHypothesis =>
    rw [List.filter_cons, List.flatMap_cons, ← inductionHypothesis]
    split <;> rfl

theorem stat_of_mem_changesOf {stat : Stat} {event : Event} {isOne : Bool}
    (member : event ∈ if isOne then changesOf stat else []) : event.stat? = some stat := by
  cases isOne with
  | false => simp at member
  | true =>
    rcases List.mem_pair.1 member with rfl | rfl
    · rfl
    · rfl

/-- A walk ends with the settling of the stats that it changed. -/
theorem run_settleStats_visited {change : World → World} (spares : World.Spares change)
    (world : World) (isChanged : Stat → Bool) :
    (settleStats ((world.orders world.walks).stats.filter isChanged)).run
        (change (world.retold { world.telling with walks := world.walks + 1 })) =
      some ((), ((change world).visitAll pruning
        ((world.orders world.walks).stats.filter isChanged)).retold
          (world.telling.visited fun stat => if isChanged stat then changesOf stat else [])) := by
  rw [run_settleStats, spares.retold, World.spares_visitAll.retold, flatMap_filter]
  rfl

theorem run_markIfAny {changed : List Stat} :
    (markIfAny changed).run world = some ((), world.marked !changed.isEmpty) := by
  cases changed with
  | nil => simp [markIfAny, World.marked]
  | cons stat stats => simp [markIfAny, markDirty, modifyActor, World.marked]

/-- The stats whose modifiers change in a sweep. -/
def sweptStats (trigger : Trigger) (snapshot : StatSnapshot) (world : World) (stats : List Stat) :
    List Stat :=
  stats.filter fun stat => (sweep trigger snapshot (world.view.lists stat)).isChanged

/-- A sweep of some lists, after which another pass is due if any of them changed. -/
def afterSweep (trigger : Trigger) (snapshot : StatSnapshot) (stats : List Stat) (world : World) :
    World :=
  ((world.visitAll (sweeping trigger snapshot) stats).marked
    !(sweptStats trigger snapshot world stats).isEmpty).visitAll pruning
      (sweptStats trigger snapshot world stats)

theorem spares_afterSweep {trigger : Trigger} {snapshot : StatSnapshot} {stats : List Stat} :
    World.Spares (afterSweep trigger snapshot stats) := by
  -- the stats that change are the same whatever is told, so they can be fixed
  have fixed (world : World) : World.Spares fun other =>
      ((other.visitAll (sweeping trigger snapshot) stats).marked
        !(sweptStats trigger snapshot world stats).isEmpty).visitAll pruning
          (sweptStats trigger snapshot world stats) :=
    World.spares_visitAll.comp (World.spares_marked.comp World.spares_visitAll)
  exact ⟨fun world => (fixed world).retold world, fun world => (fixed world).course world⟩

theorem afterSweep_perm {trigger : Trigger} {snapshot : StatSnapshot} {stats stats' : List Stat}
    (perm : stats.Perm stats') :
    afterSweep trigger snapshot stats world = afterSweep trigger snapshot stats' world := by
  have changed : (sweptStats trigger snapshot world stats).Perm
      (sweptStats trigger snapshot world stats') := perm.filter _
  rw [afterSweep, afterSweep, World.visitAll_perm perm, World.visitAll_perm changed,
    changed.isEmpty_eq]

theorem isVisit_sweepModifiers {trigger : Trigger} {snapshot : StatSnapshot} :
    IsVisit (sweepModifiers trigger snapshot) (fun _ => ()) (afterSweep trigger snapshot Stat.all)
      fun world stat => if (sweep trigger snapshot (world.view.lists stat)).isChanged then
        changesOf stat else [] := by
  refine ⟨spares_afterSweep, fun _ _ => rfl, fun _ _ => rfl, fun _ _ _ => stat_of_mem_changesOf,
    fun world => ?_⟩
  let order := (world.orders world.walks).stats
  obtain ⟨changed, sweeps⟩ := run_sweepStats trigger snapshot order
    (world.retold { world.telling with walks := world.walks + 1 })
  obtain ⟨rfl, -⟩ := sweepStats_ensures VisitOrder.nodup _ _ _ rfl sweeps
  have spares : World.Spares fun other =>
      (other.visitAll (sweeping trigger snapshot) order).marked
        !(sweptStats trigger snapshot world order).isEmpty :=
    World.spares_marked.comp World.spares_visitAll
  rw [sweepModifiers, run_bind_of_some run_nextOrder, run_bind_of_some sweeps,
    run_bind_of_some run_markIfAny, ← afterSweep_perm (world.orders world.walks).perm]
  exact run_settleStats_visited spares world _

/-- The modifiers of a source are taken out of some lists. -/
def afterWithdrawal (source : String) (stats : List Stat) (world : World) : World :=
  (world.visitAll (detaching source) stats).visitAll pruning (census source world.view stats).2

theorem spares_afterWithdrawal {source : String} {stats : List Stat} :
    World.Spares (afterWithdrawal source stats) := by
  have fixed (world : World) : World.Spares fun other =>
      (other.visitAll (detaching source) stats).visitAll pruning
        (census source world.view stats).2 :=
    World.spares_visitAll.comp World.spares_visitAll
  exact ⟨fun world => (fixed world).retold world, fun world => (fixed world).course world⟩

theorem afterWithdrawal_perm {source : String} {stats stats' : List Stat}
    (perm : stats.Perm stats') :
    afterWithdrawal source stats world = afterWithdrawal source stats' world := by
  have changed : (census source world.view stats).2.Perm (census source world.view stats').2 :=
    perm.filter _
  rw [afterWithdrawal, afterWithdrawal, World.visitAll_perm perm, World.visitAll_perm changed]

theorem isVisit_withdrawSource {source : String} :
    IsVisit (withdrawSource source) (fun world => (census source world.view Stat.all).1)
      (afterWithdrawal source Stat.all)
      fun world stat => if !(ofSource source (world.view.lists stat)).isEmpty then
        changesOf stat else [] := by
  refine ⟨spares_afterWithdrawal, fun _ _ => rfl, fun _ _ => rfl,
    fun _ _ _ => stat_of_mem_changesOf, fun world => ?_⟩
  have perm := (world.orders world.walks).perm
  obtain ⟨result, detaches⟩ := run_detachSource source (world.orders world.walks).stats
    (world.retold { world.telling with walks := world.walks + 1 })
  obtain ⟨rfl, -⟩ := detachSource_ensures VisitOrder.nodup _ _ _ rfl detaches
  have count : (census source world.view (world.orders world.walks).stats).1 =
      (census source world.view Stat.all).1 := (perm.map _).sum_nat
  have spares : World.Spares fun other =>
      other.visitAll (detaching source) (world.orders world.walks).stats := World.spares_visitAll
  have settles := run_settleStats_visited spares world fun stat =>
    !(ofSource source (world.view.lists stat)).isEmpty
  rw [withdrawSource, run_bind_of_some run_nextOrder, run_bind_of_some detaches,
    ← afterWithdrawal_perm perm, ← count]
  exact run_bind_eq_some.2 ⟨(), _, settles, rfl⟩

theorem isVisit_replaceCustomValue {id : String} {value : Float32} :
    IsVisit (replaceCustomValue id value) (fun _ => ())
      (fun world => { world with actor :=
        { world.actor with customValues := world.actor.customValues.insert id value } })
      fun world stat =>
        if world.actor.readsCustomValue id stat then [.statChanged stat] else [] := by
  refine ⟨⟨fun _ _ => rfl, fun _ => rfl⟩, fun _ _ => rfl, fun _ _ => rfl,
    fun world stat event member => ?_, fun world => ?_⟩
  · split at member
    · obtain rfl := List.mem_singleton.1 member
      rfl
    · cases member
  · have reported : ((world.orders world.walks).stats.filter
        (world.actor.readsCustomValue id)).map Event.statChanged =
        (world.orders world.walks).stats.flatMap fun stat =>
          if world.actor.readsCustomValue id stat then [.statChanged stat] else [] := by
      rw [List.map_eq_flatMap, flatMap_filter]
    rw [replaceCustomValue, run_actor_bind, run_bind_of_some run_nextOrder, reported]
    rfl

end Engine

end Roleplay
