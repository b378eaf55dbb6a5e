import Mathlib.Algebra.GroupWithZero.Nat
import Mathlib.Data.List.Nodup
import Roleplay.Proofs.Stats.View

/-! # Walks over the table

What becomes of the view when all modifiers or all effects are visited.  The order of a walk lists
every stat once, so its list is visited once, and the outcome is the same for every order.

* `Engine.sweepModifiers_does` and `Engine.receiveEffects_ensures` describe the two halves of a
  pass, up to the first hook;
* `Engine.withdrawSource_ensures` describes the removal of the modifiers of a source.
-/

namespace Roleplay

theorem VisitOrder.nodup {order : VisitOrder} : order.stats.Nodup :=
  order.perm.nodup_iff.2 (by decide)

theorem VisitOrder.mem {order : VisitOrder} {stat : Stat} : stat ∈ order.stats :=
  order.perm.mem_iff.2 (Stat.mem_all stat)

namespace View

def withLists (view : View) (stats : List Stat) (change : List Modifier → List Modifier) : View :=
  { view with lists := fun stat =>
      if stat ∈ stats then change (view.lists stat) else view.lists stat }

variable {view : View} {change : List Modifier → List Modifier} {stat : Stat} {stats : List Stat}

@[simp] theorem withLists_nil : view.withLists [] change = view := by
  simp [withLists]

theorem withLists_cons (change : List Modifier → List Modifier) (fresh : stat ∉ stats) :
    (view.withList stat (change (view.lists stat))).withLists stats change =
      view.withLists (stat :: stats) change := by
  simp only [withLists, withList, mk.injEq, and_true, true_and]
  funext other
  by_cases same : other = stat
  · subst same
    simp [fresh]
  · simp [same]

theorem withLists_cons_of_nil (keeps : change [] = []) (empty : view.lists stat = []) :
    view.withLists (stat :: stats) change = view.withLists stats change := by
  simp only [withLists, mk.injEq, and_true, true_and]
  funext other
  by_cases same : other = stat
  · subst same
    simp [keeps, empty]
  · simp [same]

theorem withLists_all (all : ∀ stat, stat ∈ stats) :
    view.withLists stats change = { view with lists := fun stat => change (view.lists stat) } := by
  simp [withLists, all]

theorem lists_withList_of_mem {list : List Modifier} (fresh : stat ∉ stats) :
    ∀ other ∈ stats, (view.withList stat list).lists other = view.lists other := by
  intro other member
  rw [lists_withList, if_neg fun same : other = stat => fresh (same ▸ member)]

end View

namespace Engine

/-! ## Sweeping -/

theorem sweepStats_ensures {trigger : Trigger} {snapshot : StatSnapshot} {stats : List Stat}
    (nodup : stats.Nodup) {view : View} :
    Ensures (fun world => world.view = view) (sweepStats trigger snapshot stats)
      fun changed world =>
        changed = stats.filter (fun stat => (sweep trigger snapshot (view.lists stat)).isChanged) ∧
          world.view = view.withLists stats fun list => (sweep trigger snapshot list).kept := by
  -- on the order, whose later stats are not touched by an earlier one
  induction stats generalizing view with
  | nil => exact ensures_pure fun world start => ⟨rfl, by simpa using start⟩
  | cons stat stats inductionHypothesis =>
    obtain ⟨fresh, nodup⟩ := List.nodup_cons.1 nodup
    refine ensures_actor_bind fun actor => ?_
    split
    · rename_i found
      intro world changed world' start returned
      obtain ⟨rfl, rfl⟩ := start
      have empty : world.view.lists stat = [] := by simp [World.view, Actor.modifiersOf, found]
      obtain ⟨rfl, swept⟩ := inductionHypothesis nodup world changed world' rfl returned
      refine ⟨?_, ?_⟩
      · simp [empty, sweep]
      · rw [swept, View.withLists_cons_of_nil rfl empty]
    · rename_i list found
      intro world changed world' start returned
      obtain ⟨rfl, rfl⟩ := start
      have listed : world.view.lists stat = list := by
        simp [World.view, Actor.modifiersOf, found]
      obtain ⟨_, set, sets, rest⟩ := run_bind_eq_some.1 returned
      obtain ⟨_, released, releases, rest⟩ := run_bind_eq_some.1 rest
      obtain ⟨others, swept, sweeps, rest⟩ := run_bind_eq_some.1 rest
      obtain ⟨rfl, rfl⟩ := Prod.mk.inj (Option.some.inj rest)
      have between : released.view =
          world.view.withList stat (sweep trigger snapshot (world.view.lists stat)).kept := by
        rw [releaseModifiers_quiet _ _ _ releases, setModifiers_does _ _ _ sets, listed]
        rfl
      obtain ⟨rfl, same⟩ := inductionHypothesis nodup released others swept between sweeps
      refine ⟨?_, ?_⟩
      · have untouched : stats.filter (fun other => (sweep trigger snapshot
            ((world.view.withList stat (sweep trigger snapshot (world.view.lists stat)).kept).lists
              other)).isChanged) =
            stats.filter fun other => (sweep trigger snapshot (world.view.lists other)).isChanged :=
          List.filter_congr fun other member => by
            rw [View.lists_withList_of_mem fresh other member]
        rw [untouched, List.filter_cons, listed]
      · exact same.trans (View.withLists_cons (fun list => (sweep trigger snapshot list).kept) fresh)

/-- The modifiers of every stat are swept; another pass is due if any of them changed. -/
def swept (trigger : Trigger) (snapshot : StatSnapshot) (view : View) : View :=
  { view with
    lists := fun stat => (sweep trigger snapshot (view.lists stat)).kept
    isDirty := view.isDirty ||
      Stat.all.any fun stat => (sweep trigger snapshot (view.lists stat)).isChanged }

theorem markIfAny_does {changed : List Stat} : Does (markIfAny changed) fun view =>
    { view with isDirty := view.isDirty || !changed.isEmpty } := by
  intro world result world' returned
  rw [markIfAny] at returned
  split at returned
  · rename_i none
    rw [does_pure _ _ _ returned]
    simp [none]
  · rename_i some
    rw [markDirty_does _ _ _ returned]
    simp [Bool.eq_false_iff.2 some]

theorem sweepModifiers_does {trigger : Trigger} {snapshot : StatSnapshot} :
    Does (sweepModifiers trigger snapshot) (swept trigger snapshot) := by
  intro world result world' returned
  obtain ⟨stats, ordered, orders, rest⟩ := run_bind_eq_some.1 returned
  obtain ⟨changed, between, sweeps, rest⟩ := run_bind_eq_some.1 rest
  have start := nextOrder_quiet _ _ _ orders
  obtain ⟨rfl, rfl⟩ := Prod.mk.inj (Option.some.inj orders)
  obtain ⟨rfl, same⟩ := sweepStats_ensures VisitOrder.nodup _ _ _ start sweeps
  -- the order visits every stat, so it does not matter in the end
  rw [View.withLists_all fun _ => VisitOrder.mem] at same
  have settled : world'.view = { between.view with
      isDirty := between.view.isDirty || Stat.all.any fun stat =>
        (sweep trigger snapshot (world.view.lists stat)).isChanged } := by
    obtain ⟨_, marked, marks, settles⟩ := run_bind_eq_some.1 rest
    -- the stats that changed are listed in the order of the walk
    have anyChanged : Stat.all.any (fun stat =>
        (sweep trigger snapshot (world.view.lists stat)).isChanged) =
        !((world.orders world.walks).stats.filter fun stat =>
          (sweep trigger snapshot (world.view.lists stat)).isChanged).isEmpty := by
      rw [← (world.orders world.walks).perm.any_eq, Bool.eq_iff_iff]
      simp only [Bool.not_eq_true', List.isEmpty_eq_false_iff, ne_eq, List.filter_eq_nil_iff,
        List.any_eq_true]
      grind
    rw [settleStats_quiet _ _ _ settles, markIfAny_does _ _ _ marks, anyChanged]
    rfl
  rw [settled, same]
  rfl

/-! ## Receiving -/

/-- The reactions of effects to a trigger. -/
def reactionsOf (trigger : Trigger) (snapshot : StatSnapshot) (effects : Dictionary AppliedEffect) :
    Dictionary EffectReaction :=
  effects.mapValues fun _ effect => effect.receive trigger snapshot

theorem mem_reactionsOf {trigger : Trigger} {snapshot : StatSnapshot}
    {effects : Dictionary AppliedEffect} {entry : String × EffectReaction}
    (member : entry ∈ (reactionsOf trigger snapshot effects).entries) :
    ∃ effect, effects.get? entry.1 = some effect ∧ effect.receive trigger snapshot = entry.2 := by
  have found := Dictionary.get?_eq_some_iff_mem.2 member
  rw [reactionsOf, Dictionary.get?_mapValues] at found
  exact Option.map_eq_some_iff.1 found

theorem receiveEffects_ensures {trigger : Trigger} {snapshot : StatSnapshot} {view : View} :
    Ensures (fun world => world.view = view) (receiveEffects trigger snapshot)
      fun reactions world =>
        reactions = (view.effects.mapValues fun _ effect => effect.receive trigger snapshot) ∧
          world.view = { view with
            effects := reactions.mapValues fun _ reaction => reaction.effect } := by
  intro world result world' start returned
  subst start
  obtain ⟨rfl, rfl⟩ := Prod.mk.inj (Option.some.inj returned)
  exact ⟨rfl, rfl⟩

/-! ## Detaching -/

/-- The modifiers of a list that come from elsewhere than a source. -/
def withoutSource (source : String) (list : List Modifier) : List Modifier :=
  list.filter fun modifier => !modifier.isFrom source

/-- The modifiers of a list that come from a source. -/
def ofSource (source : String) (list : List Modifier) : List Modifier :=
  list.filter (Modifier.isFrom source)

theorem withoutSource_eq_self {source : String} {list : List Modifier}
    (none : ofSource source list = []) : withoutSource source list = list := by
  refine List.filter_eq_self.2 fun modifier member => ?_
  simpa using List.filter_eq_nil_iff.1 none modifier member

/-- How many modifiers of a source some lists hold, and which of these hold any. -/
def census (source : String) (view : View) (stats : List Stat) : Nat × List Stat :=
  ((stats.map fun stat => (ofSource source (view.lists stat)).length).sum,
    stats.filter fun stat => !(ofSource source (view.lists stat)).isEmpty)

theorem census_cons {source : String} {view : View} {stat : Stat} {stats : List Stat} :
    census source view (stat :: stats) =
      ((ofSource source (view.lists stat)).length + (census source view stats).1,
        if (ofSource source (view.lists stat)).isEmpty then (census source view stats).2
        else stat :: (census source view stats).2) := by
  cases none : ofSource source (view.lists stat) <;> simp [census, none]

theorem census_congr {source : String} {view view' : View} {stats : List Stat}
    (same : ∀ stat ∈ stats, view'.lists stat = view.lists stat) :
    census source view' stats = census source view stats := by
  refine Prod.ext (congrArg List.sum (List.map_congr_left fun stat member => ?_))
    (List.filter_congr fun stat member => ?_)
  · rw [same stat member]
  · rw [same stat member]

theorem detachSource_ensures {source : String} {stats : List Stat} (nodup : stats.Nodup)
    {view : View} :
    Ensures (fun world => world.view = view) (detachSource source stats)
      fun result world => result = census source view stats ∧
        world.view = view.withLists stats (withoutSource source) := by
  induction stats generalizing view with
  | nil => exact ensures_pure fun world start => ⟨rfl, by simpa using start⟩
  | cons stat stats inductionHypothesis =>
    obtain ⟨fresh, nodup⟩ := List.nodup_cons.1 nodup
    refine ensures_actor_bind fun actor => ?_
    split
    · rename_i found
      intro world result world' start returned
      obtain ⟨rfl, rfl⟩ := start
      have empty : world.view.lists stat = [] := by simp [World.view, Actor.modifiersOf, found]
      obtain ⟨rfl, detached⟩ := inductionHypothesis nodup world result world' rfl returned
      refine ⟨by simp [census_cons, empty, ofSource], ?_⟩
      rw [detached, View.withLists_cons_of_nil rfl empty]
    · rename_i list found
      intro world result world' start returned
      obtain ⟨rfl, rfl⟩ := start
      have listed : world.view.lists stat = list := by
        simp [World.view, Actor.modifiersOf, found]
      obtain ⟨_, taken, takes, rest⟩ := run_bind_eq_some.1 returned
      obtain ⟨_, released, releases, rest⟩ := run_bind_eq_some.1 rest
      obtain ⟨_, set, sets, rest⟩ := run_bind_eq_some.1 rest
      obtain ⟨_, between, drops, rest⟩ := run_bind_eq_some.1 rest
      obtain ⟨others, detached, detaches, rest⟩ := run_bind_eq_some.1 rest
      obtain ⟨rfl, rfl⟩ := Prod.mk.inj (Option.some.inj rest)
      have start : between.view =
          world.view.withList stat (withoutSource source (world.view.lists stat)) := by
        rw [releaseList_quiet _ _ _ drops, setModifiers_does _ _ _ sets,
          releaseModifiers_quiet _ _ _ releases, takeList_quiet _ _ _ takes, listed]
        rfl
      obtain ⟨rfl, same⟩ := inductionHypothesis nodup between others detached start detaches
      refine ⟨?_, ?_⟩
      -- the lists of the later stats are as they were before this stop
      · rw [census_cons, listed, census_congr fun stat' member =>
          View.lists_withList_of_mem fresh stat' member]
        rfl
      · rw [same, View.withLists_cons _ fresh]

theorem withdrawSource_ensures {source : String} {view : View} :
    Ensures (fun world => world.view = view) (withdrawSource source) fun count world =>
      (count = 0 → world.view = view) ∧
        world.view = { view with lists := fun stat => withoutSource source (view.lists stat) } := by
  intro world count world' start returned
  subst start
  obtain ⟨stats, ordered, orders, rest⟩ := run_bind_eq_some.1 returned
  obtain ⟨result, detached, detaches, rest⟩ := run_bind_eq_some.1 rest
  obtain ⟨_, settled, settles, finishes⟩ := run_bind_eq_some.1 rest
  have start := nextOrder_quiet _ _ _ orders
  obtain ⟨rfl, rfl⟩ := Prod.mk.inj (Option.some.inj orders)
  obtain ⟨rfl, rfl⟩ := Prod.mk.inj (Option.some.inj finishes)
  obtain ⟨rfl, same⟩ := detachSource_ensures VisitOrder.nodup _ _ _ start detaches
  rw [View.withLists_all fun _ => VisitOrder.mem] at same
  have after : settled.view = detached.view := settleStats_quiet _ _ _ settles
  refine ⟨fun zero => ?_, after.trans same⟩
  have kept : (fun stat => withoutSource source (world.view.lists stat)) = world.view.lists := by
    funext stat
    -- nothing was removed in all, so nothing from this list either
    have none : (ofSource source (world.view.lists stat)).length = 0 :=
      List.sum_eq_zero_iff_forall_eq_nat.1 zero _
        (List.mem_map.2 ⟨stat, VisitOrder.mem, rfl⟩)
    exact withoutSource_eq_self (List.length_eq_zero_iff.1 none)
  exact (after.trans same).trans (congrArg (fun lists => { world.view with lists := lists }) kept)

end Engine

end Roleplay
