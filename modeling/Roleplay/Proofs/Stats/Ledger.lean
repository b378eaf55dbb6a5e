import Roleplay.Proofs.Stats.Removal
import Roleplay.Proofs.Stats.Unfolding

/-! # The books of the pools

An actor owns the modifiers that it has registered and the lists of its table.  Modifiers come in by
being offered, and go out by being released to the pool; lists are taken from the pool and returned
to it.  Nothing leaks and nothing is released twice, by whichever way it leaves.

* `Turnover` is what goes over the counter of the pools, `Pools.turnover` what has gone over it;
* `World.Balances` says that what goes over the counter accounts for the change of what the actor
  owns; `Engine.Step.balances` is one step, `Engine.Unfolds.balances` a run of them;
* `World.Audited` follows an actor whose pools are shared with others, and keeps the books on it;
* `World.Audited.ledger` is the statement for runs, with the end of the actor.
-/

namespace Roleplay

/-! ## Totals of a table -/

namespace StatTable

variable {α : Type} {weight : α → Nat} {table : StatTable α}

/-- The weights of all entries together. -/
def total (weight : α → Nat) (table : StatTable α) : Nat :=
  (table.toList.map fun entry => weight entry.2).sum

theorem total_eq : table.total weight =
    (Stat.all.map fun stat => (table.get? stat).elim 0 weight).sum := by
  rw [total, toList]
  induction Stat.all with
  | nil => rfl
  | cons stat stats inductionHypothesis =>
    cases found : table.get? stat <;> simp [found, inductionHypothesis]

/-- Replacing an entry changes the total by the new weight for the old one. -/
theorem total_put (weight : α → Nat) (table : StatTable α) (stat : Stat) (entry : Option α) :
    (table.put stat entry).total weight + (table.get? stat).elim 0 weight =
      table.total weight + entry.elim 0 weight := by
  have mem : stat ∈ Stat.all := Stat.mem_all stat
  have nodup : Stat.all.Nodup := @VisitOrder.nodup .declared
  rw [total_eq, total_eq, ← List.sum_map_erase _ mem, ← List.sum_map_erase _ mem, get?_put,
    if_pos rfl]
  have others : (Stat.all.erase stat).map (fun other =>
      ((table.put stat entry).get? other).elim 0 weight) =
      (Stat.all.erase stat).map fun other => (table.get? other).elim 0 weight := by
    refine List.map_congr_left fun other member => ?_
    rw [get?_put, if_neg (Ne.symm ((nodup.mem_erase_iff).1 member).1)]
  rw [others]
  omega

@[simp] theorem total_empty : (empty : StatTable α).total weight = 0 := by
  simp [total_eq]

end StatTable

/-- The number of modifiers that are registered. -/
def Actor.registered (actor : Actor) : Nat := actor.modifiers.total List.length

/-- The number of stats that have a list. -/
def Actor.listed (actor : Actor) : Nat := actor.modifiers.total fun _ => 1

/-! ## Turnover -/

/-- What goes over the counter of the pools. -/
@[ext] structure Turnover where
  /-- Modifiers that are offered to actors. -/
  offered : Nat
  /-- Modifiers that are released. -/
  released : Nat
  /-- Lists that are taken. -/
  taken : Nat
  /-- Lists that are returned. -/
  returned : Nat
deriving DecidableEq

namespace Turnover

variable {first second third : Turnover}

instance : Zero Turnover := ⟨⟨0, 0, 0, 0⟩⟩

instance : Add Turnover :=
  ⟨fun first second => ⟨first.offered + second.offered, first.released + second.released,
    first.taken + second.taken, first.returned + second.returned⟩⟩

@[simp] theorem offered_zero : (0 : Turnover).offered = 0 := rfl
@[simp] theorem released_zero : (0 : Turnover).released = 0 := rfl
@[simp] theorem taken_zero : (0 : Turnover).taken = 0 := rfl
@[simp] theorem returned_zero : (0 : Turnover).returned = 0 := rfl

@[simp] theorem offered_add : (first + second).offered = first.offered + second.offered := rfl
@[simp] theorem released_add : (first + second).released = first.released + second.released := rfl
@[simp] theorem taken_add : (first + second).taken = first.taken + second.taken := rfl
@[simp] theorem returned_add : (first + second).returned = first.returned + second.returned := rfl

theorem add_zero : first + 0 = first := rfl

theorem add_left_cancel (same : first + second = first + third) : second = third := by
  have offered := congrArg offered same
  have released := congrArg released same
  have taken := congrArg taken same
  have returned := congrArg returned same
  ext
  · exact Nat.add_left_cancel offered
  · exact Nat.add_left_cancel released
  · exact Nat.add_left_cancel taken
  · exact Nat.add_left_cancel returned

theorem add_assoc : first + second + third = first + (second + third) := by
  ext <;> simp [Nat.add_assoc]

end Turnover

/-! ## Pools -/

namespace Pool

variable {α : Type} [Recyclable α] {pool : Pool α}

@[simp] theorem capacity_take : pool.take.2.capacity = pool.capacity := by
  obtain ⟨_ | ⟨object, free⟩, capacity, taken, released, clean, within⟩ := pool <;> rfl

@[simp] theorem taken_take : pool.take.2.taken = pool.taken + 1 := by
  obtain ⟨_ | ⟨object, free⟩, capacity, taken, released, clean, within⟩ := pool <;> rfl

@[simp] theorem released_take : pool.take.2.released = pool.released := by
  obtain ⟨_ | ⟨object, free⟩, capacity, taken, released, clean, within⟩ := pool <;> rfl

@[simp] theorem capacity_release {object : α} :
    (pool.release object).capacity = pool.capacity := by
  rw [release]
  split <;> rfl

@[simp] theorem taken_release {object : α} : (pool.release object).taken = pool.taken := by
  rw [release]
  split <;> rfl

/-- An object for which there is no room has been released all the same. -/
@[simp] theorem released_release {object : α} :
    (pool.release object).released = pool.released + 1 := by
  rw [release]
  split <;> rfl

@[simp] theorem capacity_releaseAll {objects : List α} :
    (pool.releaseAll objects).capacity = pool.capacity := by
  induction objects generalizing pool with
  | nil => rfl
  | cons object objects inductionHypothesis => exact inductionHypothesis.trans capacity_release

@[simp] theorem taken_releaseAll {objects : List α} :
    (pool.releaseAll objects).taken = pool.taken := by
  induction objects generalizing pool with
  | nil => rfl
  | cons object objects inductionHypothesis => exact inductionHypothesis.trans taken_release

@[simp] theorem released_releaseAll {objects : List α} :
    (pool.releaseAll objects).released = pool.released + objects.length := by
  induction objects generalizing pool with
  | nil => rfl
  | cons object objects inductionHypothesis =>
    have later : ((pool.release object).releaseAll objects).released =
        (pool.release object).released + objects.length := inductionHypothesis
    rw [released_release] at later
    rw [List.length_cons, ← Nat.add_assoc, Nat.add_right_comm]
    exact later

end Pool

namespace Pools

variable {pools pools' : Pools}

def turnover (pools : Pools) : Turnover where
  offered := pools.offered
  released := pools.modifiers.released
  taken := pools.lists.taken
  returned := pools.lists.released

def capacities (pools : Pools) : Nat × Nat := (pools.modifiers.capacity, pools.lists.capacity)

/-- All that is held is in its default state, and there is room for it. -/
structure IsSound (pools : Pools) : Prop where
  modifiers : ∀ modifier ∈ pools.modifiers.free, modifier = Modifier.default
  lists : ∀ list ∈ pools.lists.free, list = []
  roomForModifiers : pools.modifiers.size ≤ 256
  roomForLists : pools.lists.size ≤ 32

/-- Pools are sound as long as their capacities are those that the pools of a program begin with. -/
theorem isSound_of_capacities (same : pools.capacities = initial.capacities) : pools.IsSound := by
  obtain ⟨modifiers, lists⟩ := Prod.mk.inj same
  exact ⟨pools.modifiers.clean, pools.lists.clean, pools.modifiers.within.trans modifiers.le,
    pools.lists.within.trans lists.le⟩

end Pools

/-! ## Balances -/

/-- What has gone over the counter between two worlds of an actor accounts for the change of what
the actor owns. -/
structure World.Balances (world world' : World) (made : Turnover) : Prop where
  turnover : world'.pools.turnover = world.pools.turnover + made
  modifiers : made.released + world'.actor.registered = made.offered + world.actor.registered
  lists : made.taken + world.actor.listed = made.returned + world'.actor.listed
  capacities : world'.pools.capacities = world.pools.capacities

namespace World

variable {world between world' : World}

theorem Balances.of_same (pools : world'.pools = world.pools)
    (modifiers : world'.actor.modifiers = world.actor.modifiers) : world.Balances world' 0 := by
  refine ⟨?_, ?_, ?_, ?_⟩
  · rw [pools, Turnover.add_zero]
  · simp [Actor.registered, modifiers]
  · simp [Actor.listed, modifiers]
  · rw [pools]

theorem Balances.trans {first second : Turnover} (earlier : world.Balances between first)
    (later : between.Balances world' second) : world.Balances world' (first + second) := by
  refine ⟨?_, ?_, ?_, later.capacities.trans earlier.capacities⟩
  · rw [later.turnover, earlier.turnover, Turnover.add_assoc]
  · have before := earlier.modifiers
    have after := later.modifiers
    simp only [Turnover.released_add, Turnover.offered_add]
    omega
  · have before := earlier.lists
    have after := later.lists
    simp only [Turnover.taken_add, Turnover.returned_add]
    omega

/-- An entry of the table is replaced, and the pools change by as much. -/
theorem Balances.of_put {made : Turnover} (stat : Stat) (entry : Option (List Modifier))
    (table : world'.actor.modifiers = world.actor.modifiers.put stat entry)
    (turnover : world'.pools.turnover = world.pools.turnover + made)
    (modifiers : made.released + entry.elim 0 List.length =
      made.offered + (world.actor.modifiers.get? stat).elim 0 List.length)
    (lists : made.taken + (world.actor.modifiers.get? stat).elim 0 (fun _ => 1) =
      made.returned + entry.elim 0 fun _ => 1)
    (capacities : world'.pools.capacities = world.pools.capacities) :
    world.Balances world' made := by
  have lengths := StatTable.total_put List.length world.actor.modifiers stat entry
  have ones := StatTable.total_put (fun _ => 1) world.actor.modifiers stat entry
  refine ⟨turnover, ?_, ?_, capacities⟩
  · rw [Actor.registered, Actor.registered, table]
    omega
  · rw [Actor.listed, Actor.listed, table]
    omega

end World

/-! ### Walks -/

namespace Visit

/-- The pool of lists after a stop at a list. -/
def pooled (visit : Visit) (list : List Modifier) (pool : Pool (List Modifier)) :
    Pool (List Modifier) :=
  if (visit.stop list).usesPool then visit.pool pool else pool

/-- At every stop, what leaves the list goes to the pool, and so does the list if it is dropped. -/
structure IsFair (visit : Visit) : Prop where
  modifiers : ∀ list, (visit.stop list).released.length +
    (visit.stop list).left.elim 0 List.length = list.length
  lists : ∀ list pool, ∃ taken returned,
    (visit.pooled list pool).taken = pool.taken + taken ∧
    (visit.pooled list pool).released = pool.released + returned ∧
    (visit.pooled list pool).capacity = pool.capacity ∧
    taken + 1 = returned + (visit.stop list).left.elim 0 fun _ => 1

end Visit

namespace World

variable {visit : Visit}

theorem exists_balances_visitAt (world : World) (fair : visit.IsFair) (stat : Stat) :
    ∃ made, world.Balances (world.visitAt visit stat) made := by
  rw [visitAt]
  cases found : world.actor.modifiers.get? stat with
  | none => exact ⟨0, .of_same rfl rfl⟩
  | some list =>
    obtain ⟨taken, returned, takes, returns, room, even⟩ := fair.lists list world.pools.lists
    refine ⟨⟨0, (visit.stop list).released.length, taken, returned⟩, ?_⟩
    refine .of_put stat (visit.stop list).left rfl ?_ ?_ ?_ ?_
    · ext
      · rfl
      · exact Pool.released_releaseAll
      · exact takes
      · exact returns
    · simpa [found] using fair.modifiers list
    · simpa [found] using even
    · exact Prod.ext Pool.capacity_releaseAll room

theorem exists_balances_visitAll (world : World) (fair : visit.IsFair) (stats : List Stat) :
    ∃ made, world.Balances (world.visitAll visit stats) made := by
  induction stats generalizing world with
  | nil => exact ⟨0, .of_same rfl rfl⟩
  | cons stat stats inductionHypothesis =>
    obtain ⟨first, earlier⟩ := exists_balances_visitAt world fair stat
    obtain ⟨second, later⟩ := inductionHypothesis (world.visitAt visit stat)
    exact ⟨first + second, earlier.trans later⟩

end World

namespace Engine

variable {world world' : World}

/-! ### The walks of the engine -/

theorem isFair_pruning : pruning.IsFair := by
  constructor
  · intro list
    cases list <;> simp [pruning]
  · intro list pool
    cases list with
    | nil => exact ⟨0, 1, Pool.taken_release, Pool.released_release, Pool.capacity_release, rfl⟩
    | cons modifier list => exact ⟨0, 0, rfl, rfl, rfl, rfl⟩

theorem length_sweep {trigger : Trigger} {snapshot : StatSnapshot} {list : List Modifier} :
    (sweep trigger snapshot list).released.length + (sweep trigger snapshot list).kept.length =
      list.length := by
  induction list with
  | nil => rfl
  | cons modifier list inductionHypothesis =>
    rw [sweep]
    cases modifier.condition with
    | none =>
      simp only [List.length_cons]
      omega
    | some condition =>
      dsimp only
      split
      · simp only [List.length_cons]
        omega
      · split
        · simp only [List.length_cons]
          omega
        · simp only [List.length_cons]
          omega

theorem isFair_sweeping (trigger : Trigger) (snapshot : StatSnapshot) :
    (sweeping trigger snapshot).IsFair :=
  ⟨fun _ => length_sweep, fun _ _ => ⟨0, 0, rfl, rfl, rfl, rfl⟩⟩

/-- The old list goes back for the one that is taken. -/
theorem isFair_detaching (source : String) : (detaching source).IsFair := by
  refine ⟨fun list => ?_, fun list pool => ⟨1, 1, ?_, ?_, ?_, rfl⟩⟩
  · exact (List.length_eq_length_filter_add (Modifier.isFrom source)).symm
  · exact Pool.taken_release.trans Pool.taken_take
  · exact Pool.released_release.trans (congrArg (· + 1) Pool.released_take)
  · exact Pool.capacity_release.trans Pool.capacity_take

theorem afterWithdrawal_balances (source : String) (stats : List Stat) (world : World) :
    ∃ made, world.Balances (afterWithdrawal source stats world) made := by
  obtain ⟨first, detached⟩ := world.exists_balances_visitAll (isFair_detaching source) stats
  obtain ⟨second, pruned⟩ := World.exists_balances_visitAll
    (world.visitAll (detaching source) stats) isFair_pruning (census source world.view stats).2
  exact ⟨first + second, detached.trans pruned⟩

theorem afterSweep_balances (trigger : Trigger) (snapshot : StatSnapshot) (stats : List Stat)
    (world : World) : ∃ made, world.Balances (afterSweep trigger snapshot stats world) made := by
  let changed := sweptStats trigger snapshot world stats
  let swept := world.visitAll (sweeping trigger snapshot) stats
  have marks : swept.Balances (swept.marked !changed.isEmpty) 0 := .of_same rfl rfl
  obtain ⟨first, sweeps⟩ := world.exists_balances_visitAll (isFair_sweeping trigger snapshot) stats
  obtain ⟨second, prunes⟩ :=
    World.exists_balances_visitAll (swept.marked !changed.isEmpty) isFair_pruning changed
  exact ⟨first + 0 + second, (sweeps.trans marks).trans prunes⟩

/-- A walk balances if what becomes of the world does. -/
theorem IsVisit.balances {α : Type} {engine : Engine α} {result : World → α} {value : α}
    {change : World → World} {events : World → Stat → List Event}
    (visits : IsVisit engine result change events)
    (balances : ∃ made, world.Balances (change world) made)
    (returned : engine.run world = some (value, world')) : ∃ made, world.Balances world' made := by
  obtain ⟨made, balance⟩ := balances
  obtain ⟨-, rfl⟩ := Prod.mk.inj (Option.some.inj ((visits.run world).symm.trans returned))
  exact ⟨made + 0, balance.trans (.of_same rfl rfl)⟩

/-! ### Single modifiers -/

theorem reject_balances {modifier : Modifier}
    (returned : (reject modifier).run world = some ((), world')) :
    world.Balances world' ⟨1, 1, 0, 0⟩ := by
  obtain ⟨-, rfl⟩ := Prod.mk.inj (Option.some.inj returned)
  refine ⟨?_, rfl, rfl, ?_⟩
  · ext
    · rfl
    · exact Pool.released_releaseAll
    · rfl
    · rfl
  · exact Prod.ext Pool.capacity_releaseAll rfl

/-- A stat without list takes one from the pool. -/
theorem accept_balances {modifier : Modifier}
    (returned : (accept modifier).run world = some ((), world')) :
    ∃ made, world.Balances world' made := by
  have length (list : List Modifier) : (insertModifier modifier list).length = list.length + 1 :=
    insertModifier_perm.length_eq
  obtain ⟨_, offered, offers, registers⟩ := run_bind_eq_some.1 returned
  obtain ⟨-, rfl⟩ := Prod.mk.inj (Option.some.inj offers)
  obtain ⟨list, between, listed, sets⟩ := run_bind_eq_some.1 registers
  obtain ⟨-, rfl⟩ := Prod.mk.inj (Option.some.inj sets)
  rw [listOf, run_actor_bind] at listed
  cases found : world.actor.modifiers.get? modifier.stat with
  | none =>
    simp only [found] at listed
    obtain ⟨rfl, rfl⟩ := Prod.mk.inj (Option.some.inj listed)
    have fresh : (Recyclable.fresh : List Modifier) = [] := rfl
    refine ⟨⟨1, 0, 1, 0⟩, .of_put modifier.stat
      (some (insertModifier modifier world.pools.lists.take.1)) rfl ?_ ?_ ?_ ?_⟩
    · ext
      · rfl
      · rfl
      · exact Pool.taken_take
      · exact Pool.released_take
    · simp [found, length, fresh]
    · simp [found]
    · exact Prod.ext rfl Pool.capacity_take
  | some list =>
    simp only [found] at listed
    obtain ⟨rfl, rfl⟩ := Prod.mk.inj (Option.some.inj listed)
    refine ⟨⟨1, 0, 0, 0⟩, .of_put modifier.stat (some (insertModifier modifier list)) rfl rfl ?_
      ?_ rfl⟩
    · simp [found, length, Nat.add_comm]
    · simp [found]

/-- A list that is left empty is returned. -/
theorem unregister_balances {stat : Stat} {modifier : Modifier} {isNamed : Modifier → Bool}
    (found : (world.actor.modifiersOf stat).find? isNamed = some modifier)
    (returned : (unregister stat modifier ((world.actor.modifiersOf stat).eraseP isNamed)).run
      world = some ((), world')) : ∃ made, world.Balances world' made := by
  obtain ⟨-, rfl⟩ := Prod.mk.inj (Option.some.inj (run_unregister.symm.trans returned))
  cases listed : world.actor.modifiers.get? stat with
  | none => simp [Actor.modifiersOf, listed] at found
  | some list =>
    have same : world.actor.modifiersOf stat = list := by simp [Actor.modifiersOf, listed]
    rw [same] at found ⊢
    have member : modifier ∈ list := List.mem_of_find?_eq_some found
    have shorter : (list.eraseP isNamed).length + 1 = list.length := by
      rw [List.length_eraseP_of_mem member (List.find?_some found)]
      exact Nat.sub_add_cancel (List.length_pos_of_mem member)
    cases left : list.eraseP isNamed with
    | nil =>
      rw [left] at shorter
      refine ⟨⟨0, 1, 0, 1⟩, .of_put stat none rfl ?_ ?_ ?_ ?_⟩
      · ext
        · rfl
        · exact Pool.released_releaseAll
        · exact Pool.taken_release
        · exact Pool.released_release
      · simpa [listed] using shorter
      · simp [listed]
      · exact Prod.ext Pool.capacity_releaseAll Pool.capacity_release
    | cons other others =>
      rw [left] at shorter
      refine ⟨⟨0, 1, 0, 0⟩, .of_put stat (some (other :: others)) rfl ?_ ?_ ?_ ?_⟩
      · ext
        · rfl
        · exact Pool.released_releaseAll
        · rfl
        · rfl
      · simpa [listed, Nat.add_comm] using shorter
      · simp [listed]
      · exact Prod.ext Pool.capacity_releaseAll rfl

/-- Every step balances. -/
theorem Step.balances {made : List Incident} (step : Step made world world') :
    ∃ made, world.Balances world' made := by
  cases step with
  | still still => exact ⟨0, .of_same still.pools still.modifiers⟩
  | take returned =>
    obtain ⟨-, rfl⟩ := Prod.mk.inj (Option.some.inj returned)
    refine ⟨0, ?_, rfl, rfl, Prod.ext Pool.capacity_take rfl⟩
    ext
    · rfl
    · exact Pool.released_take
    · rfl
    · rfl
  | reject returned => exact ⟨_, reject_balances returned⟩
  | accept returned => exact accept_balances returned
  | unregister found returned => exact unregister_balances found returned
  | withdraw returned =>
    exact isVisit_withdrawSource.balances (afterWithdrawal_balances _ _ world) returned
  | sweep returned =>
    exact isVisit_sweepModifiers.balances (afterSweep_balances _ _ _ world) returned
  | queue returned | hit queued returned | set returned =>
    obtain ⟨-, rfl⟩ := Prod.mk.inj (Option.some.inj returned)
    exact ⟨0, .of_same rfl rfl⟩

theorem Unfolds.balances {incidents : List Incident} (unfolds : Unfolds world incidents world') :
    ∃ made, world.Balances world' made := by
  induction unfolds with
  | refl => exact ⟨0, .of_same rfl rfl⟩
  | tail unfolded step inductionHypothesis =>
    obtain ⟨first, earlier⟩ := inductionHypothesis
    obtain ⟨second, later⟩ := step.balances
    exact ⟨first + second, earlier.trans later⟩

/-- Every operation balances, with all the hooks that it sets off. -/
theorem perform_balances {fuel : Nat} {operation : Operation} {response : Response}
    (returned : (perform fuel operation).run world = some (response, world')) :
    ∃ made, world.Balances world' made ∧ ∃ incidents, Unfolds world incidents world' := by
  obtain ⟨incidents, unfolds⟩ := perform_unfolds _ _ _ ⟨[], .refl⟩ returned
  obtain ⟨made, balances⟩ := unfolds.balances
  exact ⟨made, balances, incidents, unfolds⟩

/-- Giving an actor up releases what it owns, and offers nothing. -/
theorem discard_turnover : (discard world).turnover =
    world.pools.turnover + ⟨0, world.actor.registered, 0, world.actor.listed⟩ := by
  ext
  · rfl
  · rw [Actor.registered, StatTable.total]
    simp [Pools.turnover, discard, List.length_flatten, Function.comp_def]
  · exact Pool.taken_releaseAll
  · rw [Actor.listed, StatTable.total]
    simp [Pools.turnover, discard]

theorem discard_capacities : (discard world).capacities = world.pools.capacities :=
  Prod.ext Pool.capacity_releaseAll Pool.capacity_releaseAll

end Engine

/-! ## Runs -/

/-- The worlds that a new actor may get to, with all that has gone over the counter on its account.
The pools are shared with other actors, which may use them between the operations; what they do there
is on their own account. -/
inductive World.Audited (catalog : EffectCatalog) : Turnover → World → Prop where
  | new (pools : Pools) (orders : Nat → VisitOrder)
      (room : pools.capacities = Pools.initial.capacities) :
      Audited catalog 0 { World.new catalog pools with orders := orders }
  | perform {total made : Turnover} {world world' : World} {operation : Operation} {fuel : Nat}
      {response : Response} (audited : Audited catalog total world)
      (returned : (Engine.perform (fuel + 1) operation).run world = some (response, world'))
      (turnover : world'.pools.turnover = world.pools.turnover + made) :
      Audited catalog (total + made) world'
  | share {total : Turnover} {world : World} (pools : Pools)
      (room : pools.capacities = Pools.initial.capacities)
      (audited : Audited catalog total world) : Audited catalog total { world with pools := pools }

namespace World.Audited

variable {catalog : EffectCatalog} {total : Turnover} {world world' : World}

/-- Whatever has been offered has been released or is registered, and whatever list was taken has
been returned or is in the table. -/
theorem sums (audited : World.Audited catalog total world) :
    total.released + world.actor.registered = total.offered ∧
      total.taken = total.returned + world.actor.listed ∧
      world.pools.capacities = Pools.initial.capacities := by
  induction audited with
  | new pools orders room =>
    refine ⟨?_, ?_, room⟩
    · simp [Actor.registered, World.new, Actor.new]
    · simp [Actor.listed, World.new, Actor.new]
  | share pools room audited inductionHypothesis =>
    exact ⟨inductionHypothesis.1, inductionHypothesis.2.1, room⟩
  | @perform total made world world' operation fuel response audited returned turnover
      inductionHypothesis =>
    obtain ⟨modifiers, lists, room⟩ := inductionHypothesis
    obtain ⟨other, balances, -⟩ := Engine.perform_balances returned
    obtain rfl : other = made := Turnover.add_left_cancel (balances.turnover.symm.trans turnover)
    have releases := balances.modifiers
    have returns := balances.lists
    simp only [Turnover.released_add, Turnover.offered_add, Turnover.taken_add,
      Turnover.returned_add]
    exact ⟨by omega, by omega, balances.capacities.trans room⟩

/-- Whatever an operation does can be put on the books. -/
theorem exists_perform {fuel : Nat} {operation : Operation} {response : Response}
    (audited : World.Audited catalog total world)
    (returned : (Engine.perform (fuel + 1) operation).run world = some (response, world')) :
    ∃ made, world'.pools.turnover = world.pools.turnover + made ∧
      World.Audited catalog (total + made) world' := by
  obtain ⟨made, balances, -⟩ := Engine.perform_balances returned
  exact ⟨made, balances.turnover, audited.perform returned balances.turnover⟩

theorem exists_performAll {fuel : Nat} {operations : List Operation} {result : Response × World}
    (audited : World.Audited catalog total world)
    (returned : (Engine.performAll (fuel + 1) operations).run world = some result) :
    ∃ made, result.2.pools.turnover = world.pools.turnover + made ∧
      World.Audited catalog (total + made) result.2 := by
  induction operations generalizing world total with
  | nil =>
    obtain rfl := Option.some.inj returned
    exact ⟨0, rfl, audited⟩
  | cons operation operations inductionHypothesis =>
    cases operations with
    | nil => exact audited.exists_perform returned
    | cons next rest =>
      obtain ⟨response, between, performed, continued⟩ := Engine.run_bind_eq_some.1 returned
      obtain ⟨first, turnover, audited⟩ := audited.exists_perform performed
      obtain ⟨second, turnover', audited⟩ := inductionHypothesis audited continued
      rw [turnover, Turnover.add_assoc] at turnover'
      rw [Turnover.add_assoc] at audited
      exact ⟨first + second, turnover', audited⟩

/-- The books are right at every moment.  What an operation releases, its notifications and hooks
included, is what was offered meanwhile, and what was registered before and is no more; the lists
that were taken for an actor and not returned are those of the stats that have one.  The pools hold
nothing that is not in its default state, and no more than there is room for, at every moment of the
operation.  In the end the actor releases just what is registered and returns its lists, so that all
that was ever offered is released and all lists are returned. -/
theorem ledger (audited : World.Audited catalog total world) :
    (total.released + world.actor.registered = total.offered ∧
      total.taken = total.returned + world.actor.listed) ∧
    (∀ fuel operation response world',
      (Engine.perform (fuel + 1) operation).run world = some (response, world') →
      ∃ made, world'.pools.turnover = world.pools.turnover + made ∧
        World.Audited catalog (total + made) world' ∧
        made.released + world'.actor.registered = made.offered + world.actor.registered ∧
        made.taken + world.actor.listed = made.returned + world'.actor.listed ∧
        ∃ incidents, Engine.Unfolds world incidents world') ∧
    (∀ incidents moment, Engine.Unfolds world incidents moment →
      moment.pools.IsSound ∧ ∃ made, world.Balances moment made) ∧
    ∃ made, (Engine.discard world).turnover = world.pools.turnover + made ∧
      made = ⟨0, world.actor.registered, 0, world.actor.listed⟩ ∧
      (total + made).released = (total + made).offered ∧
      (total + made).taken = (total + made).returned ∧ (Engine.discard world).IsSound := by
  obtain ⟨modifiers, lists, room⟩ := audited.sums
  refine ⟨⟨modifiers, lists⟩, ?_, ?_, ?_⟩
  · intro fuel operation response world' returned
    obtain ⟨made, balances, unfolds⟩ := Engine.perform_balances returned
    exact ⟨made, balances.turnover, audited.perform returned balances.turnover,
      balances.modifiers, balances.lists, unfolds⟩
  · intro incidents moment unfolds
    obtain ⟨made, balances⟩ := unfolds.balances
    exact ⟨Pools.isSound_of_capacities (balances.capacities.trans room), made, balances⟩
  · exact ⟨_, Engine.discard_turnover, rfl, modifiers, lists,
      Pools.isSound_of_capacities (Engine.discard_capacities.trans room)⟩

/-- A modifier that calls for removal is rejected, and an effect enters and is suspended again. -/
theorem ledger_fury : ∃ world, World.Audited (.ofList [.fury]) ⟨3, 2, 4, 3⟩ world ∧
    world.actor.registered = 1 ∧ world.actor.listed = 1 ∧ world.pools.IsSound ∧
    (Engine.discard world).turnover = ⟨3, 3, 4, 4⟩ ∧ (Engine.discard world).IsSound := by
  have run : ((Engine.performAll 4 [.addBase .maxHp 100, .setHp 100, .addEffect "fury",
      .addModifier { Modifier.new .speed .add 1 with condition := some (.timed 0) } none,
      .setHp 20]).run (World.new (.ofList [.fury]) .initial)).any (fun result =>
        result.2.pools.turnover = ⟨3, 2, 4, 3⟩) = true := by
    decide +kernel
  obtain ⟨result, returned, counted⟩ := (Option.any_eq_true _ _).1 run
  obtain ⟨made, turnover, audited⟩ :=
    (World.Audited.new .initial (fun _ => .declared) rfl).exists_performAll returned
  have account := of_decide_eq_true counted
  -- nothing had gone over the counter before, so that all of it is on this account
  have opening : 0 + made = ⟨3, 2, 4, 3⟩ := turnover.symm.trans account
  rw [opening] at audited
  obtain ⟨⟨modifiers, lists⟩, -, moments, _, dropped, rfl, -, -, sound⟩ := audited.ledger
  have registered : result.2.actor.registered = 1 :=
    Nat.add_left_cancel (show 2 + result.2.actor.registered = 2 + 1 from modifiers)
  have listed : result.2.actor.listed = 1 :=
    Nat.add_left_cancel (show 3 + result.2.actor.listed = 3 + 1 from lists.symm)
  refine ⟨result.2, audited, registered, listed, (moments [] _ .refl).1, ?_, sound⟩
  rw [dropped, account, registered, listed]
  rfl

end World.Audited

end Roleplay
