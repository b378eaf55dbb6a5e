import Roleplay.Proofs.Decimal.Order
import Roleplay.Proofs.Stats.Registry
import Roleplay.Proofs.Stats.Termination
import Roleplay.Proofs.Stats.Visits

/-! # Removing a modifier by its own key

A modifier is removed by its operation, its value and its source.  The key of a registered modifier
names the modifier itself as long as its value is finite.  Then the first modifier that the key
names leaves its list, and all else about the lists stays as it is.  An infinite value is not near
itself, so that such a modifier has no key.

* `World.unregistered` is the world in which a modifier has left its list, `Engine.run_unregister`
  says that unregistering gets there;
* `Modifier.isNamedBy_self` and `Modifier.isNamedBy_of_not_finite` say which keys name what;
* `Engine.run_removeModifier` says what a removal comes to;
* `World.Reachable.removeModifier_own` is the statement for runs.
-/

namespace Roleplay

/-! ## Keys -/

namespace Modifier

variable {modifier : Modifier}

theorem isNamedBy_self (finite : modifier.value.isFinite = true) :
    isNamedBy modifier.op modifier.value modifier.source modifier = true := by
  simp [isNamedBy, Single.near_self finite]

theorem isNamedBy_of_not_finite {value : Float32} (infinite : value.isFinite = false)
    (op : ModifierOp) (source : Option String) : isNamedBy op value source modifier = false := by
  simp [isNamedBy, Single.near_of_not_finite infinite]

end Modifier

/-- The first item that a test holds of splits the list. -/
theorem exists_first {α : Type} {holds : α → Bool} {items : List α} {item : α}
    (member : item ∈ items) (held : holds item = true) :
    ∃ front first back, items = front ++ first :: back ∧
      (∀ other ∈ front, holds other = false) ∧ holds first = true := by
  have found : (items.find? holds).isSome = true := List.find?_isSome.2 ⟨item, member, held⟩
  obtain ⟨first, same⟩ := Option.isSome_iff_exists.1 found
  obtain ⟨holdsFirst, front, back, split, before⟩ := List.find?_eq_some_iff_append.1 same
  exact ⟨front, first, back, split, fun other inFront => by simpa using before other inFront,
    holdsFirst⟩

/-! ## Leaving a list -/

/-- The world in which a modifier has left the list of a stat, whose other modifiers are given.  A
list that is left empty is dropped. -/
def World.unregistered (world : World) (stat : Stat) (modifier : Modifier)
    (others : List Modifier) : World :=
  { world with
    actor := { world.actor with
      modifiers := world.actor.modifiers.put stat (if others.isEmpty then none else some others)
      events := world.actor.events ++ Engine.changesOf stat }
    pools := { world.pools with
      modifiers := world.pools.modifiers.releaseAll [modifier]
      lists := if others.isEmpty then world.pools.lists.release [] else world.pools.lists }
    reports := world.reports ++ Engine.changesOf stat }

theorem StatTable.put_set {α : Type} {table : StatTable α} {stat : Stat} {entry : α}
    {left : Option α} : (table.set stat entry).put stat left = table.put stat left := by
  refine ext_get? fun other => ?_
  simp only [get?_put, get?_set]
  split <;> rfl

namespace Engine

variable {perform : Performer} {world : World} {stat : Stat} {op : ModifierOp} {value : Float32}
  {source : Option String}

theorem run_unregister {modifier : Modifier} {others : List Modifier} :
    (unregister stat modifier others).run world =
      some ((), world.unregistered stat modifier others) := by
  let changed : World :=
    { world with
      actor := { world.actor with modifiers := world.actor.modifiers.set stat others }
      pools := { world.pools with modifiers := world.pools.modifiers.releaseAll [modifier] } }
  have enters : (unregister stat modifier others).run world =
      (do prune stat; reportModifiers stat : Engine Unit).run changed := rfl
  -- the list that is pruned is the one that has just been put there
  have listed : changed.actor.modifiers.get? stat = some others := by
    simp [changed, StatTable.get?_set]
  rw [enters, run_bind_of_some run_prune, World.visitAt, listed]
  have table (left : Option (List Modifier)) : changed.actor.modifiers.put stat left =
      world.actor.modifiers.put stat left := StatTable.put_set
  cases others with
  | nil =>
    simp only [pruning, List.isEmpty_nil, if_true, table]
    rfl
  | cons other others =>
    simp only [pruning, List.isEmpty_cons, Bool.false_eq_true, if_false, table]
    rfl

/-- The first modifier that the key names is unregistered, which is followed by a notification. -/
theorem run_removeModifier {front back : List Modifier} {first : Modifier}
    (split : world.actor.modifiersOf stat = front ++ first :: back)
    (before : ∀ other ∈ front, Modifier.isNamedBy op value source other = false)
    (named : Modifier.isNamedBy op value source first = true) :
    (removeModifier perform stat op value source).run world =
      ((notify perform .statsChanged).run (world.unregistered stat first (front ++ back))).map
        fun ended => (true, ended.2) := by
  have found : (world.actor.modifiersOf stat).find? (Modifier.isNamedBy op value source) =
      some first :=
    List.find?_eq_some_iff_append.2 ⟨named, front, back, split, fun other member => by
      simp [before other member]⟩
  have left : (world.actor.modifiersOf stat).eraseP (Modifier.isNamedBy op value source) =
      front ++ back := by
    rw [split, List.eraseP_append_right _ fun other member => by simp [before other member],
      List.eraseP_cons_of_pos named]
  rw [removeModifier, run_actor_bind]
  simp only [found, left]
  rw [run_bind_of_some run_unregister, StateT.run_bind, Option.map_eq_bind]
  rfl

theorem run_removeModifier_of_unnamed
    (unnamed : ∀ modifier, Modifier.isNamedBy op value source modifier = false) :
    (removeModifier perform stat op value source).run world = some (false, world) := by
  have missing : (world.actor.modifiersOf stat).find? (Modifier.isNamedBy op value source) =
      none :=
    List.find?_eq_none.2 fun modifier _ => by simp [unnamed modifier]
  rw [removeModifier, run_actor_bind]
  simp only [missing]
  rfl

end Engine

/-! ## Runs -/

/-- With built-in behaviours, every notification returns that follows a removal. -/
theorem World.Reachable.unregistered_returns {catalog : EffectCatalog}
    {permits : World → Operation → Nat → Prop} {world : World}
    (builtIn : ∀ id, ∀ definition ∈ catalog.get? id, definition.behavior.IsBuiltIn)
    (reachable : World.Reachable catalog permits world) (stat : Stat) (modifier : Modifier)
    (others : List Modifier) :
    ∃ world', ∀ fuel, (Engine.notify (Engine.perform (fuel + 1)) .statsChanged).run
      (world.unregistered stat modifier others) = some ((), world') := by
  have applied : AreBuiltIn world.actor.effects := reachable.builtIn builtIn
  have meets : (world.unregistered stat modifier others).view.Meets false AreBuiltIn
      fun _ => True :=
    ⟨reachable.isSettled_view.notifying, applied, trivial⟩
  have grows {trigger : Trigger} : Engine.Sustains AreBuiltIn trigger fun _ => True :=
    Engine.sustains_of_grows Engine.grows_true
  obtain ⟨_, world', returned, _⟩ := Engine.notify_returns isLasting_areBuiltIn
    (Engine.pass_yields_of_sustains isLasting_areBuiltIn grows) grows _ meets
  exact ⟨world', returned⟩

/-- A registered modifier and the removal by its own operation, value and source.  If the value is
finite, the first modifier that this key names leaves the list of the stat, which is dropped if
nothing is left of it.  The others stay in order, all other lists are as they were, and the answer
is true once the notification that follows has returned, which it does if all behaviours are
built-in.  If the value is not finite, the answer is false, and nothing is changed. -/
theorem World.Reachable.removeModifier_own {catalog : EffectCatalog}
    {permits : World → Operation → Nat → Prop} {world : World}
    (reachable : World.Reachable catalog permits world) {stat : Stat} {modifier : Modifier}
    (registered : modifier ∈ world.actor.modifiersOf stat) :
    let removal := Operation.removeModifier modifier.stat modifier.op modifier.value modifier.source
    let isNamed := Modifier.isNamedBy modifier.op modifier.value modifier.source
    modifier.stat = stat ∧
    (modifier.value.isFinite = true → ∃ front first back,
      world.actor.modifiersOf stat = front ++ first :: back ∧
      (∀ other ∈ front, isNamed other = false) ∧ isNamed first = true ∧
      let left := world.unregistered stat first (front ++ back)
      left.actor.modifiersOf stat = front ++ back ∧
      (∀ other, left.actor.modifiers.get? other =
        if stat = other then if (front ++ back).isEmpty then none else some (front ++ back)
        else world.actor.modifiers.get? other) ∧
      (∀ fuel, (Engine.perform (fuel + 1) removal).run world =
        ((Engine.notify (Engine.perform fuel) .statsChanged).run left).map
          fun ended => (.truth true, ended.2)) ∧
      ((∀ id, ∀ definition ∈ catalog.get? id, definition.behavior.IsBuiltIn) →
        ∃ world', ∀ fuel, (Engine.perform (fuel + 2) removal).run world =
          some (.truth true, world'))) ∧
    (modifier.value.isFinite = false →
      ∀ fuel, (Engine.perform (fuel + 1) removal).run world = some (.truth false, world)) := by
  obtain rfl : modifier.stat = stat := reachable.isRegistry.stat_eq stat modifier registered
  intro removal isNamed
  refine ⟨rfl, fun finite => ?_, fun infinite fuel => ?_⟩
  · -- the modifier itself is named, so that there is a first one
    obtain ⟨front, first, back, split, before, named⟩ :=
      exists_first registered (Modifier.isNamedBy_self finite)
    have performs (fuel : Nat) : (Engine.perform (fuel + 1) removal).run world =
        ((Engine.notify (Engine.perform fuel) .statsChanged).run
          (world.unregistered modifier.stat first (front ++ back))).map
            fun ended => (.truth true, ended.2) := by
      rw [Engine.perform, Engine.act, StateT.run_bind, Engine.run_removeModifier split before named,
        Option.map_eq_bind, Option.map_eq_bind, Option.bind_eq_bind, Option.bind_assoc]
      rfl
    refine ⟨front, first, back, split, before, named, ?_, fun other => StatTable.get?_put,
      performs, fun builtIn => ?_⟩
    · rw [Actor.modifiersOf, World.unregistered, StatTable.get?_put, if_pos rfl]
      cases front ++ back <;> rfl
    · obtain ⟨world', returned⟩ :=
        reachable.unregistered_returns builtIn modifier.stat first (front ++ back)
      exact ⟨world', fun fuel => by rw [performs, returned]; rfl⟩
  · have unnamed (other : Modifier) : isNamed other = false :=
      Modifier.isNamedBy_of_not_finite infinite _ _
    exact Engine.run_bind_of_some (Engine.run_removeModifier_of_unnamed unnamed)

/-- Of two modifiers with one operation and value, the one without source is removed by its key. -/
theorem World.Reachable.removeModifier_own_sharp :
    ∃ world, World.Reachable (.ofList []) (fun _ _ _ => True) world ∧
      (world.actor.modifiersOf .attack).map Modifier.value = [5, 5, 7] ∧
      ∃ modifier ∈ world.actor.modifiersOf .attack, modifier.value = 5 ∧ modifier.source = none ∧
        ∃ world', ∀ fuel, (Engine.perform (fuel + 2)
          (.removeModifier modifier.stat modifier.op 5 none)).run world =
            some (.truth true, world') := by
  have run : ((Engine.performAll 4 [.addModifier (.new .attack .add 5) (some "sword"),
      .addModifier (.new .attack .add 5) none, .addModifier (.new .attack .add 7) none]).run
      (World.new (.ofList []) .initial)).any (fun result =>
        (result.2.actor.modifiersOf .attack).map Modifier.value = [5, 5, 7] ∧
        (result.2.actor.modifiersOf .attack).any fun modifier =>
          modifier.value = 5 ∧ modifier.source = none) = true := by
    decide +kernel
  obtain ⟨result, returned, facts⟩ := (Option.any_eq_true _ _).1 run
  obtain ⟨values, some⟩ := of_decide_eq_true facts
  obtain ⟨modifier, registered, key⟩ := List.any_eq_true.1 some
  obtain ⟨value, source⟩ := of_decide_eq_true key
  have reachable : World.Reachable (.ofList []) (fun _ _ _ => True) result.2 :=
    World.Reachable.performAll (fun _ _ _ => trivial) (.new .initial fun _ => .declared) returned
  have finite : modifier.value.isFinite = true := by
    rw [value]
    decide +kernel
  obtain ⟨-, removes, -⟩ := World.Reachable.removeModifier_own reachable registered
  obtain ⟨front, first, back, -, -, -, -, -, -, returns⟩ := removes finite
  obtain ⟨world', performs⟩ := returns (EffectCatalog.isBuiltIn_ofList (by simp))
  rw [value, source] at performs
  exact ⟨result.2, reachable, values, modifier, registered, value, source, world', performs⟩

/-! ### Infinite values -/

/-- A modifier of infinite value is not removed by its key. -/
theorem World.Reachable.not_forall_removeModifier_own :
    ¬∀ (world : World), World.Reachable (.ofList []) (fun _ _ _ => True) world →
      ∀ stat, ∀ modifier ∈ world.actor.modifiersOf stat, ∃ fuel world',
        (Engine.perform fuel (.removeModifier modifier.stat modifier.op modifier.value
          modifier.source)).run world = some (.truth true, world') := by
  intro removes
  have run : ((Engine.performAll 4 [.addModifier (.new .attack .add Single.infinity) none]).run
      (World.new (.ofList []) .initial)).any (fun result =>
        (result.2.actor.modifiersOf .attack).any fun modifier =>
          modifier.value = Single.infinity) = true := by
    decide +kernel
  obtain ⟨result, returned, facts⟩ := (Option.any_eq_true _ _).1 run
  obtain ⟨modifier, registered, value⟩ := List.any_eq_true.1 facts
  have reachable : World.Reachable (.ofList []) (fun _ _ _ => True) result.2 :=
    World.Reachable.performAll (fun _ _ _ => trivial) (.new .initial fun _ => .declared) returned
  have infinite : modifier.value.isFinite = false := by
    rw [of_decide_eq_true value]
    decide +kernel
  obtain ⟨fuel, world', removed⟩ := removes result.2 reachable .attack modifier registered
  cases fuel with
  | zero => cases removed
  | succ fuel =>
    -- no modifier is named by the key, so that the operation answers at once
    obtain ⟨_, _, ran, answers⟩ := Engine.run_bind_eq_some.1 removed
    rw [Engine.run_removeModifier_of_unnamed
      fun _ => Modifier.isNamedBy_of_not_finite infinite _ _] at ran
    obtain ⟨rfl, rfl⟩ := Prod.mk.inj (Option.some.inj ran)
    cases answers

end Roleplay
