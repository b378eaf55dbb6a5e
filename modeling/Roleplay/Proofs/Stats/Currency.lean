import Roleplay.Stats.Effect
import Roleplay.Stats.Engine

/-! # Current flags

A node is current for a snapshot if its cached flag is what its predicate says there.

* `ConditionNode.isCurrent_notify`: whatever looks at a trigger is current afterwards;
* `ConditionNode.IsTimely`: a node that does not look at stats does not depend on them either, so
  its flag is current for all snapshots;
* `Condition.holds_notify`: a chain that reports no change says what it said before;
* `Engine.map_kept_sweep` carries this to the lists of modifiers.
-/

namespace Roleplay

/-! ## Predicates -/

namespace Predicate

variable {predicate : Predicate} {first second : StatSnapshot}

theorem holds_congr (values : ∀ stat, first.get stat = second.get stat)
    (hp : first.hp = second.hp) : predicate.holds first = predicate.holds second := by
  cases predicate <;> simp [holds, StatSnapshot.hpRatio, values, hp]

theorem holds_of_not_subscribes_stats (ignores : predicate.subscribes .stats = false) :
    predicate.holds first = predicate.holds second := by
  cases predicate with
  | timed seconds elapsed => rfl
  | damageCount count received => rfl
  | statValue stat comparison value => exact absurd ignores (by simp [subscribes])
  | hpRatio comparison ratio => exact absurd ignores (by simp [subscribes])

/-- Health matters only to predicates that look at damage. -/
theorem holds_of_not_subscribes_damage (ignores : predicate.subscribes .damage = false)
    (values : ∀ stat, first.get stat = second.get stat) :
    predicate.holds first = predicate.holds second := by
  cases predicate with
  | timed seconds elapsed => rfl
  | damageCount count received => exact absurd ignores (by simp [subscribes])
  | statValue stat comparison value => simp [holds, values]
  | hpRatio comparison ratio => exact absurd ignores (by simp [subscribes])

end Predicate

/-! ## Nodes -/

namespace ConditionNode

variable {node : ConditionNode} {trigger : Trigger} {snapshot : StatSnapshot}

def IsCurrent (snapshot : StatSnapshot) (node : ConditionNode) : Prop :=
  node.isMet = node.predicate.holds snapshot

/-- Either the node looks at stats, or its flag does not depend on them. -/
def IsTimely (node : ConditionNode) : Prop :=
  node.predicate.subscribes .stats = true ∨ ∀ snapshot, node.IsCurrent snapshot

theorem IsCurrent.isTimely (current : node.IsCurrent snapshot) : node.IsTimely := by
  cases looks : node.predicate.subscribes .stats with
  | true => exact Or.inl looks
  | false =>
    exact Or.inr fun _ => current.trans (Predicate.holds_of_not_subscribes_stats looks)

theorem isCurrent_refresh : (node.refresh snapshot).2.IsCurrent snapshot := rfl

theorem isCurrent_notify (current : node.predicate.subscribes trigger.kind = true ∨
    node.IsCurrent snapshot) : (node.notify trigger snapshot).2.IsCurrent snapshot := by
  rw [notify]
  split
  · exact isCurrent_refresh
  · rename_i ignores
    exact current.resolve_left ignores

theorem isTimely_notify (timely : node.IsTimely) : (node.notify trigger snapshot).2.IsTimely := by
  rw [notify]
  split
  · exact isCurrent_refresh.isTimely
  · exact timely

theorem junction_notify : (node.notify trigger snapshot).2.junction = node.junction := by
  rw [notify]
  split <;> rfl

theorem outcome_notify : (node.notify trigger snapshot).2.outcome = node.outcome := by
  rw [notify]
  split <;> rfl

theorem isMet_notify (unchanged : (node.notify trigger snapshot).1 = false) :
    (node.notify trigger snapshot).2.isMet = node.isMet := by
  rw [notify] at unchanged ⊢
  -- an unchanged node was evaluated to what it was, or not evaluated
  split
  · rename_i looks
    rw [if_pos looks] at unchanged
    exact bne_eq_false_iff_eq.1 unchanged
  · rfl

end ConditionNode

/-! ## Chains -/

namespace Condition

variable {condition : Condition} {trigger : Trigger} {snapshot : StatSnapshot}

@[simp] theorem nodes_changeAll {change : ConditionNode → Bool × ConditionNode} :
    (changeAll change condition).2.nodes = condition.nodes.map fun node => (change node).2 := by
  simp [changeAll, nodes]

theorem fst_changeAll {change : ConditionNode → Bool × ConditionNode} :
    (changeAll change condition).1 = condition.nodes.any fun node => (change node).1 := by
  simp [changeAll, nodes, List.any_map, Function.comp_def]

theorem mem_nodes_refresh {node : ConditionNode}
    (member : node ∈ (condition.refresh snapshot).2.nodes) : node.IsCurrent snapshot := by
  rw [refresh, nodes_changeAll] at member
  obtain ⟨earlier, _, rfl⟩ := List.mem_map.1 member
  exact ConditionNode.isCurrent_refresh

theorem mem_nodes_notify {node : ConditionNode}
    (member : node ∈ (condition.notify trigger snapshot).2.nodes) :
    ∃ earlier ∈ condition.nodes, (earlier.notify trigger snapshot).2 = node := by
  rw [notify, nodes_changeAll] at member
  exact List.mem_map.1 member

/-- Refreshing changes no flag of a chain that is current. -/
theorem refresh_of_current (current : ∀ node ∈ condition.nodes, node.IsCurrent snapshot) :
    (condition.refresh snapshot).2 = condition := by
  have same : ∀ node ∈ condition.nodes, (node.refresh snapshot).2 = node := by
    intro node member
    have isMet : node.isMet = node.predicate.holds snapshot := current node member
    rw [ConditionNode.refresh, ← isMet]
  obtain ⟨head, tail⟩ := condition
  simp only [nodes, List.mem_cons, forall_eq_or_imp] at same
  simp only [refresh, changeAll, List.map_map, mk.injEq]
  exact ⟨same.1, (List.map_congr_left same.2).trans (List.map_id _)⟩

theorem holdsFrom_notify {head : ConditionNode} {tail : List ConditionNode}
    (unchanged : ∀ node ∈ head :: tail, (node.notify trigger snapshot).1 = false) :
    holdsFrom (head.notify trigger snapshot).2
        (tail.map fun node => (node.notify trigger snapshot).2) = holdsFrom head tail := by
  -- on the chain, in which each flag is combined with the rest by the junction of its node
  induction tail generalizing head with
  | nil => exact ConditionNode.isMet_notify (unchanged head (by simp))
  | cons next rest inductionHypothesis =>
    have later := inductionHypothesis fun node member => unchanged node (.tail _ member)
    simp only [List.map_cons, holdsFrom, ConditionNode.junction_notify, later,
      ConditionNode.isMet_notify (unchanged head (by simp))]

theorem holds_notify (unchanged : (condition.notify trigger snapshot).1 = false) :
    (condition.notify trigger snapshot).2.holds = condition.holds := by
  rw [notify, fst_changeAll, List.any_eq_false] at unchanged
  have each : ∀ node ∈ condition.head :: condition.tail, (node.notify trigger snapshot).1 = false :=
    fun node member => by simpa using unchanged node member
  simpa [holds, notify, changeAll, List.map_map, Function.comp_def] using holdsFrom_notify each

theorem callsForSuspension_notify (unchanged : (condition.notify trigger snapshot).1 = false) :
    (condition.notify trigger snapshot).2.callsForSuspension = condition.callsForSuspension := by
  have outcome : (condition.notify trigger snapshot).2.head.outcome = condition.head.outcome :=
    ConditionNode.outcome_notify
  rw [callsForSuspension, callsForSuspension, holds_notify unchanged, outcome]

end Condition

/-! ## Modifiers -/

theorem Modifier.refresh_of_current {modifier : Modifier} {snapshot : StatSnapshot}
    (current : ∀ condition ∈ modifier.condition, ∀ node ∈ condition.nodes,
      node.IsCurrent snapshot) : modifier.refresh snapshot = modifier := by
  obtain ⟨stat, op, value, condition, customValueId, isHidden, source, isActive, isRegistered⟩ :=
    modifier
  cases condition with
  | none => rfl
  | some condition =>
    simp only [refresh, Option.map_some, Condition.refresh_of_current (current condition rfl)]

theorem Modifier.refresh_of_unconditional {modifier : Modifier} {snapshot : StatSnapshot}
    (unconditional : modifier.condition = none) : modifier.refresh snapshot = modifier :=
  refresh_of_current fun _ conditional => absurd conditional (by simp [unconditional])

namespace Engine

variable {trigger : Trigger} {snapshot : StatSnapshot} {list : List Modifier}

theorem mem_kept_sweep {modifier : Modifier}
    (member : modifier ∈ (sweep trigger snapshot list).kept) :
    ∃ earlier ∈ list,
      modifier.condition = (earlier.condition.map fun c => (c.notify trigger snapshot).2) ∧
      (earlier.isActive = !earlier.callsForSuspension →
        modifier.isActive = !modifier.callsForSuspension) := by
  induction list with
  | nil => exact absurd member (by simp [sweep])
  | cons first rest inductionHypothesis =>
    have inRest (later : modifier ∈ (sweep trigger snapshot rest).kept) :
        ∃ earlier ∈ first :: rest,
          modifier.condition = (earlier.condition.map fun c => (c.notify trigger snapshot).2) ∧
          (earlier.isActive = !earlier.callsForSuspension →
            modifier.isActive = !modifier.callsForSuspension) := by
      obtain ⟨earlier, inList, facts⟩ := inductionHypothesis later
      exact ⟨earlier, .tail _ inList, facts⟩
    -- a modifier is kept as it was, with the same flags, or with the suspension read anew
    simp only [sweep] at member
    split at member
    · rename_i unconditional
      cases List.mem_cons.1 member with
      | inl same =>
        subst same
        exact ⟨modifier, by simp, by simp [unconditional], id⟩
      | inr later =>
        exact inRest later
    · rename_i condition conditional
      split at member
      · rename_i unchanged
        cases List.mem_cons.1 member with
        | inl same =>
          subst same
          refine ⟨first, by simp, by simp [conditional], fun active => ?_⟩
          have same := Condition.callsForSuspension_notify (by simpa using unchanged)
          simpa [Modifier.callsForSuspension, conditional, same] using active
        | inr later =>
          exact inRest later
      · split at member
        · exact inRest member
        · cases List.mem_cons.1 member with
          | inl same =>
            subst same
            exact ⟨first, by simp, by simp [conditional], fun _ => by
              simp [Modifier.callsForSuspension]⟩
          | inr later =>
            exact inRest later

/-- A sweep that reports no change leaves everything but conditions as it was. -/
theorem map_kept_sweep {α : Type} {f : Modifier → α}
    (ignores : ∀ modifier condition, f { modifier with condition := condition } = f modifier)
    (unchanged : (sweep trigger snapshot list).isChanged = false) :
    (sweep trigger snapshot list).kept.map f = list.map f := by
  -- whatever changes a flag in the list is reported
  induction list with
  | nil => rfl
  | cons first rest inductionHypothesis =>
    simp only [sweep] at unchanged ⊢
    split
    · rename_i unconditional
      simp only [unconditional] at unchanged
      rw [List.map_cons, inductionHypothesis unchanged, List.map_cons]
    · rename_i condition conditional
      simp only [conditional] at unchanged
      split at unchanged
      · rename_i same
        rw [if_pos same, List.map_cons, inductionHypothesis unchanged, List.map_cons, ignores]
      · split at unchanged
        · exact absurd unchanged (by simp)
        · exact absurd unchanged (by simp)

end Engine

/-! ## Effects -/

namespace EffectCatalog

variable {definitions : List EffectDefinition} {id : String} {definition : EffectDefinition}
  (known : (EffectCatalog.ofList definitions).get? id = some definition)

include known

theorem mem_of_get?_ofList : definition ∈ definitions := by
  obtain ⟨entry, member, same⟩ := List.mem_map.1 (Dictionary.mem_of_get?_ofList known)
  obtain ⟨_, rfl⟩ := Prod.mk.inj same
  exact member

theorem id_of_get?_ofList : definition.id = id := by
  obtain ⟨entry, _, same⟩ := List.mem_map.1 (Dictionary.mem_of_get?_ofList known)
  obtain ⟨named, rfl⟩ := Prod.mk.inj same
  exact named

end EffectCatalog

namespace AppliedEffect

variable {effect : AppliedEffect} {trigger : Trigger} {snapshot : StatSnapshot} {isToggled : Bool}

theorem receiveInterval_spec :
    (effect.receiveInterval trigger snapshot isToggled).effect.definition = effect.definition ∧
      (effect.receiveInterval trigger snapshot isToggled).effect.duration = effect.duration ∧
      (effect.receiveInterval trigger snapshot isToggled).effect.isActive = effect.isActive ∧
      (effect.receiveInterval trigger snapshot isToggled).isToggled = isToggled ∧
      (effect.receiveInterval trigger snapshot isToggled).isExpired = false := by
  rw [receiveInterval]
  split
  · rename_i active _
    exact ⟨rfl, rfl, rfl, rfl, rfl⟩
  · exact ⟨rfl, rfl, rfl, rfl, rfl⟩

theorem duration_receive : (effect.receive trigger snapshot).effect.duration =
    effect.duration.map fun c => (c.notify trigger snapshot).2 := by
  rw [receive]
  split
  · rename_i unlimited
    rw [receiveInterval_spec.2.1, unlimited]
    rfl
  · rename_i duration limited
    simp only [limited, Option.map_some]
    split
    · split
      · rfl
      · rw [receiveInterval_spec.2.1]
    · rw [receiveInterval_spec.2.1]

theorem definition_receive :
    (effect.receive trigger snapshot).effect.definition = effect.definition := by
  rw [receive]
  split
  · exact receiveInterval_spec.1
  · dsimp only
    split
    · split
      · rfl
      · exact receiveInterval_spec.1
    · exact receiveInterval_spec.1

/-- An effect is toggled if it was active and no longer is, or the other way round. -/
theorem isToggled_receive : (effect.receive trigger snapshot).isToggled =
    ((effect.receive trigger snapshot).effect.isActive != effect.isActive) := by
  rw [receive]
  split
  · rw [receiveInterval_spec.2.2.2.1, receiveInterval_spec.2.2.1]
    simp
  · dsimp only
    split
    · split
      · simp
      · rw [receiveInterval_spec.2.2.2.1, receiveInterval_spec.2.2.1]
    · rw [receiveInterval_spec.2.2.2.1, receiveInterval_spec.2.2.1]
      simp

end AppliedEffect

end Roleplay
