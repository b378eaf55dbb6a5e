import Roleplay.Proofs.Stats.Currency
import Roleplay.Proofs.Stats.Walk

/-! # Which flags are current

What holds of the conditions in a view at each point of an operation.

* `View.IsOrderly` is what holds at all times, within operations as well;
* `View.IsCurrentUpTo` says which nodes may be behind the state; nothing is said while another pass
  is due, or once a notification has been cut off;
* `IsCurrentUpTo.received` is the step of a notification: after a pass every node is current for the
  state before it, which is still the state unless another pass is due.
-/

namespace Roleplay

namespace View

/-- A property of all nodes that decide on modifiers and effects. -/
def EachNode (property : ConditionNode → Prop) (view : View) : Prop :=
  (∀ stat, ∀ modifier ∈ view.lists stat, ∀ condition ∈ modifier.condition,
    ∀ node ∈ condition.nodes, property node) ∧
  ∀ id, ∀ effect ∈ view.effects.get? id, ∀ condition ∈ effect.duration,
    ∀ node ∈ condition.nodes, property node

def EachModifier (property : Modifier → Prop) (view : View) : Prop :=
  ∀ stat, ∀ modifier ∈ view.lists stat, property modifier

/-- Every flag that no change of stats can falsify is current, and modifiers are active as their
flags say. -/
structure IsOrderly (isBusy : Bool) (view : View) : Prop where
  notifying : view.isNotifying = isBusy
  idle : isBusy = false → view.isDirty = false
  timely : view.EachNode ConditionNode.IsTimely
  active : view.EachModifier fun modifier => modifier.isActive = !modifier.callsForSuspension

/-- Unless another pass is due or was cut off, every node is current but for stale ones. -/
def IsCurrentUpTo (stale : ConditionNode → Prop) (view : View) : Prop :=
  view.isDirty = true ∨ 0 < view.cutOffs ∨
    view.EachNode fun node => stale node ∨ ∀ snapshot, view.Shows snapshot → node.IsCurrent snapshot

structure IsSettled (isBusy : Bool) (view : View) : Prop extends IsOrderly isBusy view where
  current : view.IsCurrentUpTo fun _ => False

/-! ## Nodes of a changed view -/

variable {view : View} {property : ConditionNode → Prop} {isBusy : Bool} {stat : Stat}
  {list : List Modifier} {id : String} {effect : AppliedEffect}

theorem EachNode.mono {weaker : ConditionNode → Prop} (each : view.EachNode property)
    (implies : ∀ node, property node → weaker node) : view.EachNode weaker :=
  ⟨fun stat modifier member condition conditional node inside =>
      implies node (each.1 stat modifier member condition conditional node inside),
    fun id effect applied condition limited node inside =>
      implies node (each.2 id effect applied condition limited node inside)⟩

theorem EachNode.withList (each : view.EachNode property)
    (fits : ∀ modifier ∈ list, modifier ∈ view.lists stat ∨
      ∀ condition ∈ modifier.condition, ∀ node ∈ condition.nodes, property node) :
    (view.withList stat list).EachNode property := by
  refine ⟨fun other modifier member => ?_, each.2⟩
  rw [lists_withList] at member
  split at member
  · rename_i same
    subst same
    cases fits modifier member with
    | inl earlier =>
      exact each.1 other modifier earlier
    | inr new =>
      exact new
  · exact each.1 other modifier member

theorem EachNode.insertEffect (each : view.EachNode property)
    (fits : ∀ condition ∈ effect.duration, ∀ node ∈ condition.nodes, property node) :
    EachNode property { view with effects := view.effects.insert id effect } := by
  refine ⟨each.1, fun other applied found => ?_⟩
  simp only [Dictionary.get?_insert] at found
  split at found
  · obtain rfl := Option.some.inj found
    exact fits
  · exact each.2 other applied found

theorem EachNode.eraseEffect (each : view.EachNode property) :
    EachNode property { view with effects := view.effects.erase id } := by
  refine ⟨each.1, fun other applied found => ?_⟩
  simp only [Dictionary.get?_erase] at found
  split at found
  · exact absurd found (by simp)
  · exact each.2 other applied found

/-- The view after all modifiers and effects have received a trigger. -/
def received (trigger : Trigger) (snapshot : StatSnapshot) (view : View) : View :=
  { Engine.swept trigger snapshot view with
    effects := view.effects.mapValues fun _ effect => (effect.receive trigger snapshot).effect }

theorem EachNode.received {trigger : Trigger} {snapshot : StatSnapshot}
    {after : ConditionNode → Prop} (each : view.EachNode property)
    (passes : ∀ node, property node → after (node.notify trigger snapshot).2) :
    (view.received trigger snapshot).EachNode after := by
  constructor
  · intro stat modifier member condition conditional node inside
    obtain ⟨earlier, inList, same, _⟩ := Engine.mem_kept_sweep member
    rw [Option.mem_def, same] at conditional
    obtain ⟨before, had, rfl⟩ := Option.map_eq_some_iff.1 conditional
    obtain ⟨old, wasInside, rfl⟩ := Condition.mem_nodes_notify inside
    exact passes old (each.1 stat earlier inList before had old wasInside)
  · intro id effect applied condition limited node inside
    simp only [View.received, Dictionary.get?_mapValues] at applied
    obtain ⟨earlier, wasApplied, rfl⟩ := Option.map_eq_some_iff.1 applied
    rw [Option.mem_def, AppliedEffect.duration_receive] at limited
    obtain ⟨before, had, rfl⟩ := Option.map_eq_some_iff.1 limited
    obtain ⟨old, wasInside, rfl⟩ := Condition.mem_nodes_notify inside
    exact passes old (each.2 id earlier wasApplied before had old wasInside)

/-! ## Orderly views -/

theorem IsOrderly.withList (orderly : view.IsOrderly isBusy)
    (fits : ∀ modifier ∈ list, modifier ∈ view.lists stat ∨
      (∀ condition ∈ modifier.condition, ∀ node ∈ condition.nodes, node.IsTimely) ∧
        modifier.isActive = !modifier.callsForSuspension) :
    (view.withList stat list).IsOrderly isBusy := by
  refine ⟨orderly.notifying, orderly.idle,
    orderly.timely.withList fun modifier member => (fits modifier member).imp_right And.left,
    fun other modifier member => ?_⟩
  rw [lists_withList] at member
  split at member
  · rename_i same
    subst same
    cases fits modifier member with
    | inl earlier =>
      exact orderly.active other modifier earlier
    | inr new =>
      exact new.2
  · exact orderly.active other modifier member

theorem IsOrderly.received {trigger : Trigger} {snapshot : StatSnapshot}
    (orderly : view.IsOrderly true) : (view.received trigger snapshot).IsOrderly true := by
  refine ⟨orderly.notifying, fun idle => absurd idle (by simp),
    orderly.timely.received fun node => ConditionNode.isTimely_notify,
    fun stat modifier member => ?_⟩
  obtain ⟨earlier, inList, _, active⟩ := Engine.mem_kept_sweep member
  exact active (orderly.active stat earlier inList)

/-- A change of stats leaves only nodes behind that look at stats. -/
theorem IsOrderly.isCurrentUpTo_stats (orderly : view.IsOrderly isBusy) :
    view.IsCurrentUpTo fun node => node.predicate.subscribes .stats = true :=
  Or.inr (Or.inr (orderly.timely.mono fun _ timely =>
    timely.imp_right fun current snapshot _ => current snapshot))

/-! ## Current views -/

/-- All snapshots of one state agree. -/
theorem Shows.isCurrent {first second : StatSnapshot} {node : ConditionNode}
    (shows : view.Shows first) (alsoShows : view.Shows second) (current : node.IsCurrent first) :
    node.IsCurrent second :=
  current.trans (Predicate.holds_congr (fun stat => (shows.1 stat).trans (alsoShows.1 stat).symm)
    (shows.2.trans alsoShows.2.symm))

theorem Shows.of_unswept {trigger : Trigger} {snapshot other : StatSnapshot}
    (unchanged : ∀ stat, (Engine.sweep trigger snapshot (view.lists stat)).isChanged = false)
    (shows : (view.received trigger snapshot).Shows other) : view.Shows other := by
  refine ⟨fun stat => (shows.1 stat).trans ?_, shows.2⟩
  -- values are folded from what the sweep leaves alone unless it reports a change
  have filtered (modifiers : List Modifier) :
      ((modifiers.filter fun modifier => modifier.isActive).map
        fun modifier => (modifier.op, modifier.currentValue view.customValues)) =
      (modifiers.map fun modifier =>
        (modifier.isActive, modifier.op, modifier.currentValue view.customValues)).filterMap
          fun entry => if entry.1 then some entry.2 else none := by
    rw [List.filterMap_map, ← List.filterMap_eq_filter, List.map_filterMap]
    congr 1
    funext modifier
    cases active : modifier.isActive <;> simp [active, Option.guard]
  have kept := Engine.map_kept_sweep (f := fun modifier =>
    (modifier.isActive, modifier.op, modifier.currentValue view.customValues))
    (fun _ _ => rfl) (unchanged stat)
  simp only [value, View.received, Engine.swept, filtered, kept]

/-- After a pass every node is current, or another pass is due. -/
theorem IsCurrentUpTo.received {trigger : Trigger} {snapshot : StatSnapshot}
    (current : view.IsCurrentUpTo fun node => node.predicate.subscribes trigger.kind = true)
    (shows : view.Shows snapshot) :
    (view.received trigger snapshot).IsCurrentUpTo fun _ => False := by
  rcases current with dirty | cutOff | each
  · exact Or.inl (by simp [View.received, Engine.swept, dirty])
  · exact Or.inr (Or.inl cutOff)
  · by_cases unchanged :
      ∀ stat, (Engine.sweep trigger snapshot (view.lists stat)).isChanged = false
    · refine Or.inr (Or.inr (each.received fun node fits => Or.inr fun other seen => ?_))
      have now := ConditionNode.isCurrent_notify (fits.imp_right fun fresh => fresh snapshot shows)
      exact shows.isCurrent (Shows.of_unswept unchanged seen) now
    · obtain ⟨stat, changed⟩ := not_forall.1 unchanged
      refine Or.inl ?_
      simp only [View.received, Engine.swept, Bool.or_eq_true, List.any_eq_true]
      exact Or.inr ⟨stat, Stat.mem_all stat, by simpa using changed⟩

/-- Lost health leaves only nodes behind that look at damage. -/
theorem IsCurrentUpTo.withHp {hp : Float32} {damage : List Damage}
    (current : view.IsCurrentUpTo fun _ => False) :
    IsCurrentUpTo (fun node => node.predicate.subscribes .damage = true)
      { view with damage := damage, hp := hp } := by
  rcases current with dirty | cutOff | each
  · exact Or.inl dirty
  · exact Or.inr (Or.inl cutOff)
  · refine Or.inr (Or.inr (each.mono fun node fits => ?_))
    cases looks : node.predicate.subscribes .damage with
    | true => exact Or.inl looks
    | false =>
      refine Or.inr fun snapshot shows => ?_
      have fresh := fits.resolve_left id { snapshot with hp := view.hp } ⟨shows.1, rfl⟩
      exact fresh.trans (Predicate.holds_of_not_subscribes_damage looks fun _ => rfl)

theorem IsCurrentUpTo.insertEffect (current : view.IsCurrentUpTo fun _ => False)
    (fits : ∀ condition ∈ effect.duration, ∀ node ∈ condition.nodes,
      ∀ snapshot, view.Shows snapshot → node.IsCurrent snapshot) :
    IsCurrentUpTo (fun _ => False) { view with effects := view.effects.insert id effect } := by
  rcases current with dirty | cutOff | each
  · exact Or.inl dirty
  · exact Or.inr (Or.inl cutOff)
  · exact Or.inr (Or.inr (each.insertEffect fun condition limited node inside =>
      Or.inr (fits condition limited node inside)))

theorem IsCurrentUpTo.eraseEffect (current : view.IsCurrentUpTo fun _ => False) :
    IsCurrentUpTo (fun _ => False) { view with effects := view.effects.erase id } := by
  rcases current with dirty | cutOff | each
  · exact Or.inl dirty
  · exact Or.inr (Or.inl cutOff)
  · exact Or.inr (Or.inr each.eraseEffect)

end View

end Roleplay
