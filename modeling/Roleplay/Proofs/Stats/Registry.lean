import Roleplay.Proofs.Stats.Moves
import Roleplay.Proofs.Stats.Register
import Roleplay.Proofs.Stats.Settlement

/-! # The registry of an actor

What holds of the table of modifiers after every operation, whatever hooks and notifications did in
between.

* `Engine.IsTidy` says which stats may have an empty list for a while, and which record of
  registrations goes with the table; every walk prunes what it has emptied;
* `Engine.Move.isRegister` is one move, for the list of every stat;
* `World.Reachable.isRegistry` is the statement for runs.
-/

namespace Roleplay

namespace Engine

variable {record : List Modifier} {pending : Stat → Prop} {stat : Stat} {list : List Modifier}
  {stats : List Stat}

/-! ## Empty lists -/

/-- The record of registrations is the given one, and only pending stats have an empty list. -/
structure IsTidy (record : List Modifier) (pending : Stat → Prop) (world : World) : Prop where
  registrations : world.registrations = record
  pending : ∀ stat, world.actor.modifiers.get? stat = some [] → pending stat

namespace IsTidy

variable {world world' : World}

theorem mono {more : Stat → Prop} (tidy : IsTidy record pending world)
    (implies : ∀ stat, pending stat → more stat) : IsTidy record more world :=
  ⟨tidy.registrations, fun stat empty => implies stat (tidy.pending stat empty)⟩

theorem of_same (tidy : IsTidy record pending world)
    (modifiers : world'.actor.modifiers = world.actor.modifiers)
    (registrations : world'.registrations = world.registrations) :
    IsTidy record pending world' := by
  refine ⟨registrations.trans tidy.registrations, fun stat empty => ?_⟩
  rw [modifiers] at empty
  exact tidy.pending stat empty

end IsTidy

theorem releaseModifiers_tidy : Keeps (IsTidy record pending) (releaseModifiers list) :=
  ensures_modify fun _ tidy => tidy.of_same rfl rfl

theorem takeList_tidy : Keeps (IsTidy record pending) takeList :=
  ensures_modifyGet fun _ tidy => tidy.of_same rfl rfl

theorem releaseList_tidy : Keeps (IsTidy record pending) (releaseList list) :=
  ensures_modify fun _ tidy => tidy.of_same rfl rfl

theorem nextOrder_tidy : Keeps (IsTidy record pending) nextOrder :=
  ensures_modifyGet fun _ tidy => tidy.of_same rfl rfl

theorem reportModifiers_tidy : Keeps (IsTidy record pending) (reportModifiers stat) :=
  ensures_modify fun _ tidy => tidy.of_same rfl rfl

theorem markIfAny_tidy : Keeps (IsTidy record pending) (markIfAny stats) := by
  rw [markIfAny]
  split
  · exact keeps_pure
  · exact ensures_modify fun _ tidy => tidy.of_same rfl rfl

/-- A stat whose list is set is pending only if the list is empty. -/
theorem setModifiers_tidy : Ensures (IsTidy record pending) (setModifiers stat list)
    fun _ => IsTidy record fun other => if other = stat then list = [] else pending other := by
  refine ensures_modifyActor fun world tidy => ⟨tidy.registrations, fun other empty => ?_⟩
  simp only [StatTable.get?_set] at empty
  split at empty
  next same =>
    rw [if_pos same.symm]
    exact Option.some.inj empty
  next different =>
    rw [if_neg fun same => different same.symm]
    exact tidy.pending other empty

theorem prune_tidy : Ensures (IsTidy record pending) (prune stat)
    fun _ => IsTidy record fun other => other ≠ stat ∧ pending other := by
  refine ensures_actor_bind fun actor => ?_
  split
  next emptied =>
    have erases : Ensures (fun world => IsTidy record pending world ∧ world.actor = actor)
        (modifyActor fun actor => { actor with modifiers := actor.modifiers.erase stat })
        fun _ => IsTidy record fun other => other ≠ stat ∧ pending other := by
      refine ensures_modifyActor fun world start => ⟨start.1.registrations, fun other empty => ?_⟩
      simp only [StatTable.get?_erase] at empty
      split at empty
      next => cases empty
      next different => exact ⟨fun same => different same.symm, start.1.pending other empty⟩
    exact erases.bind fun _ => releaseList_tidy
  next nonempty =>
    refine ensures_pure fun world start => ⟨start.1.registrations, fun other empty => ?_⟩
    obtain ⟨tidy, rfl⟩ := start
    refine ⟨fun same => nonempty ?_, tidy.pending other empty⟩
    rw [← same]
    exact empty

theorem settleStats_tidy : Ensures (IsTidy record pending) (settleStats stats)
    fun _ => IsTidy record fun other => other ∉ stats ∧ pending other := by
  induction stats generalizing pending with
  | nil => exact ensures_pure fun world tidy => tidy.mono fun _ held => ⟨by simp, held⟩
  | cons stat stats inductionHypothesis =>
    refine prune_tidy.bind fun _ => reportModifiers_tidy.bind fun _ => ?_
    intro world result world' tidy returned
    refine (inductionHypothesis world result world' tidy returned).mono fun other held => ?_
    obtain ⟨later, different, held⟩ := held
    exact ⟨by simp [later, different], held⟩

/-! ## Walks -/

/-- A sweep empties only lists of stats that it reports. -/
theorem sweepStats_tidy {trigger : Trigger} {snapshot : StatSnapshot} :
    Ensures (IsTidy record pending) (sweepStats trigger snapshot stats) fun changed =>
      IsTidy record fun stat => stat ∈ changed ∨ pending stat := by
  induction stats generalizing pending with
  | nil => exact ensures_pure fun _ tidy => tidy.mono fun _ held => Or.inr held
  | cons stat stats inductionHypothesis =>
    refine ensures_world_bind fun world tidy => Ensures.strengthen ?_ fun _ same => same ▸ tidy
    split
    next => exact inductionHypothesis
    next list found =>
      have emptied (empty : (sweep trigger snapshot list).kept = []) :
          (sweep trigger snapshot list).isChanged = true ∨ pending stat := by
        cases isChanged_of_kept_eq_nil empty with
        | inl none => exact Or.inr (tidy.pending stat (none ▸ found))
        | inr changed => exact Or.inl changed
      refine setModifiers_tidy.bind fun _ => releaseModifiers_tidy.bind fun _ => ?_
      refine inductionHypothesis.bind fun others => ensures_pure fun after tidy => ?_
      apply tidy.mono
      intro other held
      cases held with
      | inl later =>
        left
        split
        · exact .tail _ later
        · exact later
      | inr held =>
        split at held
        next same =>
          cases emptied held with
          | inl changed => simp [changed, same]
          | inr held => exact Or.inr (same ▸ held)
        next => exact Or.inr held

/-- Detaching empties only lists of stats that it reports. -/
theorem detachSource_tidy {source : String} :
    Ensures (IsTidy record pending) (detachSource source stats) fun detached =>
      IsTidy record fun stat => stat ∈ detached.2 ∨ pending stat := by
  induction stats generalizing pending with
  | nil => exact ensures_pure fun _ tidy => tidy.mono fun _ held => Or.inr held
  | cons stat stats inductionHypothesis =>
    refine ensures_world_bind fun world tidy => Ensures.strengthen ?_ fun _ same => same ▸ tidy
    split
    next => exact inductionHypothesis
    next list found =>
      have emptied (empty : (list.filter fun modifier => !modifier.isFrom source) = []) :
          (list.filter (Modifier.isFrom source)).isEmpty = false ∨ pending stat := by
        cases list with
        | nil => exact Or.inr (tidy.pending stat found)
        | cons first rest =>
          have own : first.isFrom source = true := by
            simpa using List.filter_eq_nil_iff.1 empty first (.head _)
          simp [own]
      refine takeList_tidy.bind fun _ => releaseModifiers_tidy.bind fun _ => ?_
      refine setModifiers_tidy.bind fun _ => releaseList_tidy.bind fun _ => ?_
      refine inductionHypothesis.bind fun others => ensures_pure fun after tidy => ?_
      apply tidy.mono
      intro other held
      cases held with
      | inl later =>
        left
        dsimp only
        split
        · exact later
        · exact .tail _ later
      | inr held =>
        split at held
        next same =>
          cases emptied held with
          | inl some => simp [some, same]
          | inr held => exact Or.inr (same ▸ held)
        next => exact Or.inr held

/-! ## Moves -/

/-- No list is empty. -/
abbrev IsPruned (record : List Modifier) : World → Prop := IsTidy record fun _ => False

theorem settleStats_pruned :
    Ensures (IsTidy record fun stat => stat ∈ stats ∨ False) (settleStats stats)
      fun _ => IsPruned record := by
  intro world result world' tidy returned
  apply (settleStats_tidy world result world' tidy returned).mono
  intro stat held
  exact held.2.elim held.1 id

theorem sweepModifiers_pruned {trigger : Trigger} {snapshot : StatSnapshot} :
    Keeps (IsPruned record) (sweepModifiers trigger snapshot) :=
  nextOrder_tidy.bind fun _ => sweepStats_tidy.bind fun _ => markIfAny_tidy.bind fun _ =>
    settleStats_pruned

theorem withdrawSource_pruned {source : String} :
    Keeps (IsPruned record) (withdrawSource source) :=
  nextOrder_tidy.bind fun _ => detachSource_tidy.bind fun _ => settleStats_pruned.bind fun _ =>
    keeps_pure

theorem unregister_pruned {modifier : Modifier} :
    Keeps (IsPruned record) (unregister stat modifier list) := by
  refine releaseModifiers_tidy.bind fun _ => setModifiers_tidy.bind fun _ => ?_
  intro world result world' tidy returned
  apply ((prune_tidy.bind fun _ => reportModifiers_tidy) world result world' tidy returned).mono
  intro other held
  rw [if_neg held.1] at held
  exact held.2

theorem insertModifier_ne_nil {modifier : Modifier} : insertModifier modifier list ≠ [] := by
  intro empty
  have perm : (insertModifier modifier list).Perm (modifier :: list) := insertModifier_perm
  rw [empty] at perm
  exact absurd perm.nil_eq (by simp)

theorem register_pruned {modifier : Modifier} :
    Ensures (IsPruned record) (register modifier) fun _ => IsPruned (record ++ [modifier]) := by
  have lists : Keeps (IsPruned record) (listOf modifier.stat) := by
    refine ensures_actor_bind fun actor => Ensures.strengthen ?_ fun _ start => start.1
    split
    · exact keeps_pure
    · exact takeList_tidy
  have sets {list : List Modifier} : Keeps (IsPruned record)
      (setModifiers modifier.stat (insertModifier modifier list)) := by
    intro world result world' tidy returned
    apply (setModifiers_tidy world result world' tidy returned).mono
    intro other held
    split at held
    · exact insertModifier_ne_nil held
    · exact held
  have records : Ensures (IsPruned record) (recordRegistration modifier)
      fun _ => IsPruned (record ++ [modifier]) :=
    ensures_modify fun world tidy =>
      ⟨congrArg (· ++ [modifier]) tidy.registrations, tidy.pending⟩
  exact lists.bind fun _ => sets.bind fun _ => records.bind fun _ => reportModifiers_tidy

end Engine

/-- The lists of all stats are registers of what was registered, and none is empty. -/
structure World.IsListed (world : World) : Prop where
  pruned : Engine.IsPruned world.registrations world
  register : ∀ stat, IsRegister world.registrations stat (world.view.lists stat)

namespace World.IsListed

variable {world world' : World}

theorem of_same (listed : world.IsListed)
    (modifiers : world'.actor.modifiers = world.actor.modifiers)
    (registrations : world'.registrations = world.registrations) : world'.IsListed := by
  have lists : world'.view.lists = world.view.lists := by
    funext stat
    simp [World.view, Actor.modifiersOf, modifiers]
  constructor
  · refine ⟨rfl, fun stat empty => listed.pruned.pending stat ?_⟩
    rwa [← modifiers]
  · rw [lists, registrations]
    exact listed.register

/-- A move that prunes and changes the lists as registers may be changed. -/
theorem of_pruned {record : List Modifier} (pruned : Engine.IsPruned record world')
    (register : ∀ stat, IsRegister record stat (world'.view.lists stat)) : world'.IsListed := by
  obtain rfl := pruned.registrations
  exact ⟨pruned, register⟩

theorem withList {record list : List Modifier} {stat : Stat}
    (pruned : Engine.IsPruned record world') (changed : world'.view = world.view.withList stat list)
    (own : IsRegister record stat list)
    (others : ∀ other, IsRegister record other (world.view.lists other)) : world'.IsListed := by
  apply of_pruned pruned
  intro other
  rw [changed, View.lists_withList]
  split
  next same =>
    rw [same]
    exact own
  next => exact others other

end World.IsListed

theorem Engine.Move.isListed {world world' : World} (move : Engine.Move world world')
    (listed : world.IsListed) : world'.IsListed := by
  cases move with
  | aside aside => exact listed.of_same aside.modifiers aside.registrations
  | @register modifier source accepted returned =>
    have lasting : source = none →
        ((modifier.withSource source).refresh world.actor.snapshot).callsForRemoval = false := by
      intro sourceless
      simpa [sourceless] using accepted
    refine .withList (Engine.register_pruned _ _ _ listed.pruned returned)
      (Engine.register_does _ _ _ returned) ?_ fun other => (listed.register other).append _
    exact (listed.register _).insert rfl rfl lasting
  | @unregister stat modifier isNamed returned =>
    exact .withList (Engine.unregister_pruned _ _ _ listed.pruned returned)
      (Engine.unregister_does _ _ _ returned)
      ((listed.register stat).sublist List.eraseP_sublist) listed.register
  | withdraw returned =>
    apply World.IsListed.of_pruned (Engine.withdrawSource_pruned _ _ _ listed.pruned returned)
    intro stat
    rw [(Engine.withdrawSource_ensures _ _ _ rfl returned).2]
    exact (listed.register stat).sublist List.filter_sublist
  | sweep returned =>
    apply World.IsListed.of_pruned (Engine.sweepModifiers_pruned _ _ _ listed.pruned returned)
    intro stat
    rw [Engine.sweepModifiers_does _ _ _ returned]
    show IsRegister _ stat (Engine.sweep _ _ (world.view.lists stat)).kept
    rw [Engine.kept_sweep]
    exact (listed.register stat).filterMap Engine.isGentle_survivor
  | receive returned | report returned | clear returned | setValue returned
  | start known returned | refresh applied returned | drop returned =>
    obtain ⟨_, rfl⟩ := Prod.mk.inj (Option.some.inj returned)
    exact listed.of_same rfl rfl

/-! ## Runs -/

/-- What the table of modifiers is like while no operation is under way. -/
structure World.IsRegistry (world : World) : Prop where
  nonempty : ∀ stat, ∀ list ∈ world.actor.modifiers.get? stat, list ≠ []
  stat_eq : ∀ stat, ∀ modifier ∈ world.actor.modifiersOf stat, modifier.stat = stat
  registered : ∀ stat, ∀ modifier ∈ world.actor.modifiersOf stat, modifier.isRegistered = true
  sorted : ∀ stat, (world.actor.modifiersOf stat).Pairwise fun first second =>
    first.op.rank ≤ second.op.rank
  /-- Modifiers of one operation stand in the order in which they were registered. -/
  inOrder : ∀ stat op, (((world.actor.modifiersOf stat).filter fun modifier =>
    modifier.op = op).map Modifier.imprint).Sublist (world.registrations.map Modifier.imprint)
  active : ∀ stat, ∀ modifier ∈ world.actor.modifiersOf stat,
    modifier.isActive = !modifier.callsForSuspension
  lasting : ∀ stat, ∀ modifier ∈ world.actor.modifiersOf stat,
    modifier.source = none → modifier.callsForRemoval = false
  idle : world.actor.isNotifying = false
  clean : world.actor.isDirty = false

theorem World.isListed_new {catalog : EffectCatalog} {pools : Pools}
    {orders : Nat → VisitOrder} :
    World.IsListed { World.new catalog pools with orders := orders } := by
  have absent (stat : Stat) : (Actor.new catalog).modifiers.get? stat = none :=
    StatTable.get?_empty
  refine ⟨⟨rfl, fun stat empty => ?_⟩, fun stat => ?_⟩
  · exact absurd ((absent stat).symm.trans empty) (by simp)
  · have unlisted : (Actor.new catalog).modifiersOf stat = [] := by
      simp [Actor.modifiersOf, absent]
    show IsRegister [] stat ((Actor.new catalog).modifiersOf stat)
    rw [unlisted]
    exact .nil

/-- After every operation, with whatever effects and hooks, the table of modifiers is in order. -/
theorem World.Reachable.isRegistry {catalog : EffectCatalog}
    {permits : World → Operation → Nat → Prop} {world : World}
    (reachable : World.Reachable catalog permits world) : world.IsRegistry := by
  have listed : world.IsListed :=
    reachable.of_moves (fun _ _ => World.isListed_new) fun _ _ move => move.isListed
  have settled := reachable.isSettled_view
  constructor
  case nonempty =>
    intro stat list found empty
    exact listed.pruned.pending stat (empty ▸ found)
  case stat_eq => exact fun stat => (listed.register stat).stat_eq
  case registered => exact fun stat => (listed.register stat).registered
  case sorted => exact fun stat => (listed.register stat).sorted
  case inOrder => exact fun stat => (listed.register stat).inOrder
  case active => exact settled.active
  case lasting => exact fun stat => (listed.register stat).lasting
  case idle => exact settled.notifying
  case clean => exact settled.idle rfl

/-- A list is sorted and keeps the order of registration while others come and go, and a list that
loses its last modifier is dropped. -/
theorem World.Reachable.isRegistry_raging :
    ∃ world, World.Reachable (.ofList [.fury]) (fun _ _ _ => True) world ∧
      (world.actor.modifiersOf .attack).map Modifier.value = [1, 10, 7] ∧
      (world.actor.modifiers.get? .speed).isNone = true ∧ world.IsRegistry := by
  have run : ((Engine.performAll 4 [.addBase .maxHp 100, .setHp 100, .addModifier .haste none,
      .addModifier (.new .attack .add 5) none, .addBase .attack 1, .addEffect "fury",
      .addModifier (.new .attack .add 7) none, .removeModifier .attack .add 5 none,
      .removeModifier .speed .add 5 none]).run
      (World.new (.ofList [.fury]) .initial)).any (fun result =>
        (result.2.actor.modifiersOf .attack).map Modifier.value = [1, 10, 7] ∧
        (result.2.actor.modifiers.get? .speed).isNone) = true := by
    decide +kernel
  obtain ⟨result, returned, facts⟩ := (Option.any_eq_true _ _).1 run
  obtain ⟨sorted, pruned⟩ := of_decide_eq_true facts
  have reachable : World.Reachable (.ofList [.fury]) (fun _ _ _ => True) result.2 :=
    World.Reachable.performAll (fun _ _ _ => trivial) (.new .initial fun _ => .declared) returned
  exact ⟨result.2, reachable, sorted, pruned, reachable.isRegistry⟩

end Roleplay
