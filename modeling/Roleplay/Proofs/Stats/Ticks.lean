import Roleplay.Proofs.Stats.Currency

/-! # When effects tick

What a tick condition looks at never changes, and decides which triggers can fire intervals.

* `AppliedEffect.IsCalm` singles out the effects whose intervals do nothing unless time passes, and
  `AppliedEffect.IsCalm.intervals_receive` says so;
* `AppliedEffect.Burns` singles out effects that deal damage at every hit, and
  `AppliedEffect.Burns.receive` says so.
-/

namespace Roleplay

/-! ## Tick conditions -/

namespace Predicate

variable {predicate : Predicate} {kind : TriggerKind}

theorem subscribes_observe {trigger : Trigger} :
    (predicate.observe trigger).subscribes kind = predicate.subscribes kind := by
  cases predicate <;> cases trigger <;> cases kind <;> rfl

theorem subscribes_reset : predicate.reset.subscribes kind = predicate.subscribes kind := by
  cases predicate <;> cases kind <;> rfl

theorem subscribes_rewind : predicate.rewind.subscribes kind = predicate.subscribes kind := by
  cases predicate <;> cases kind <;> rfl

end Predicate

namespace Condition

variable {condition changed : Condition} {kind : TriggerKind} {trigger : Trigger}
  {snapshot : StatSnapshot}

/-- A change of single nodes that keeps what they look at. -/
theorem subscribes_of_map (change : ConditionNode → ConditionNode)
    (same : ∀ node, (change node).predicate.subscribes kind = node.predicate.subscribes kind)
    (nodes : changed.nodes = condition.nodes.map change) :
    changed.subscribes kind = condition.subscribes kind := by
  simp [subscribes, nodes, List.any_map, Function.comp_def, same]

theorem subscribes_notify :
    (condition.notify trigger snapshot).2.subscribes kind = condition.subscribes kind := by
  apply subscribes_of_map (fun node => (node.notify trigger snapshot).2) _ nodes_changeAll
  intro node
  rw [ConditionNode.notify]
  split
  · exact Predicate.subscribes_observe
  · rfl

theorem subscribes_rewind :
    (condition.rewind snapshot).subscribes kind = condition.subscribes kind :=
  subscribes_of_map (ConditionNode.rewind snapshot) (fun _ => Predicate.subscribes_rewind) rfl

theorem subscribes_reset : condition.reset.subscribes kind = condition.subscribes kind :=
  subscribes_of_map ConditionNode.reset (fun _ => Predicate.subscribes_reset) rfl

/-- A trigger that no node looks at changes nothing. -/
theorem fst_notify_of_not_subscribes (ignores : condition.subscribes trigger.kind = false) :
    (condition.notify trigger snapshot).1 = false := by
  rw [notify, fst_changeAll, List.any_eq_false]
  intro node member
  have deaf : node.predicate.subscribes trigger.kind = false := by
    simpa using List.any_eq_false.1 ignores node member
  simp [ConditionNode.notify, deaf]

end Condition

/-! ## Effects -/

/-- One of the behaviors that come with the library. -/
def Behavior.IsBuiltIn (behavior : Behavior) : Prop :=
  behavior = .standard ∨ ∃ amount, behavior = .damageOverTime amount

namespace AppliedEffect

variable {effect : AppliedEffect} {kind : TriggerKind} {trigger : Trigger}
  {snapshot : StatSnapshot} {isToggled : Bool}

theorem subscribes_countIntervals {limit : Nat} {tick : Condition} :
    (countIntervals snapshot limit tick).2.subscribes kind = tick.subscribes kind := by
  induction limit generalizing tick with
  | zero => rfl
  | succ limit inductionHypothesis =>
    rw [countIntervals]
    split
    · exact inductionHypothesis.trans Condition.subscribes_rewind
    · rfl

theorem subscribes_receiveTick {tick : Condition} :
    (receiveTick trigger snapshot tick).2.subscribes kind = tick.subscribes kind := by
  simp only [receiveTick]
  split
  · split
    · rw [Condition.subscribes_reset, subscribes_countIntervals, Condition.subscribes_notify]
    · rw [subscribes_countIntervals, Condition.subscribes_notify]
  · exact Condition.subscribes_notify

theorem fst_receiveTick_of_not_subscribes {tick : Condition}
    (ignores : tick.subscribes trigger.kind = false) :
    (receiveTick trigger snapshot tick).1 = 0 := by
  simp [receiveTick, Condition.fst_notify_of_not_subscribes ignores]

/-- The tick condition, if there is one, does not look at a kind of trigger. -/
def TickIgnores (kind : TriggerKind) (effect : AppliedEffect) : Prop :=
  ∀ tick ∈ effect.tick, tick.subscribes kind = false

theorem TickIgnores.receiveInterval (ignores : effect.TickIgnores kind) :
    (effect.receiveInterval trigger snapshot isToggled).effect.TickIgnores kind := by
  rw [AppliedEffect.receiveInterval]
  split
  next tick active found =>
    intro after same
    obtain rfl := Option.some.inj same
    rw [subscribes_receiveTick]
    exact ignores tick found
  next => exact ignores

theorem TickIgnores.receive (ignores : effect.TickIgnores kind) :
    (effect.receive trigger snapshot).effect.TickIgnores kind := by
  rw [AppliedEffect.receive]
  split
  · exact ignores.receiveInterval
  · dsimp only
    split
    · split
      · exact ignores
      · apply receiveInterval
        exact ignores
    · apply receiveInterval
      exact ignores

theorem intervals_receiveInterval (ignores : effect.TickIgnores trigger.kind) :
    (effect.receiveInterval trigger snapshot isToggled).intervals = 0 := by
  rw [AppliedEffect.receiveInterval]
  split
  next tick active found => exact fst_receiveTick_of_not_subscribes (ignores tick found)
  next => rfl

theorem intervals_receive (ignores : effect.TickIgnores trigger.kind) :
    (effect.receive trigger snapshot).intervals = 0 := by
  rw [AppliedEffect.receive]
  split
  · exact intervals_receiveInterval ignores
  · dsimp only
    split
    · split
      · rfl
      · apply intervals_receiveInterval
        exact ignores
    · apply intervals_receiveInterval
      exact ignores

/-- An effect whose interval hook, if it does anything, is called by time alone. -/
structure IsCalm (effect : AppliedEffect) : Prop where
  builtIn : effect.definition.behavior.IsBuiltIn
  timely : effect.definition.behavior = .standard ∨
    effect.TickIgnores .stats ∧ effect.TickIgnores .damage

theorem isCalm_receive (calm : effect.IsCalm) :
    (effect.receive trigger snapshot).effect.IsCalm := by
  constructor
  · rw [definition_receive]
    exact calm.builtIn
  · rw [definition_receive]
    exact calm.timely.imp_right fun ignores => ⟨ignores.1.receive, ignores.2.receive⟩

theorem IsCalm.intervals_receive (calm : effect.IsCalm) (untimely : trigger.kind ≠ .time) :
    effect.definition.behavior = .standard ∨ (effect.receive trigger snapshot).intervals = 0 := by
  apply calm.timely.imp_right
  intro ignores
  apply AppliedEffect.intervals_receive
  cases trigger with
  | tick delta => exact absurd rfl untimely
  | statsChanged => exact ignores.1
  | damage amount => exact ignores.2

/-- An effect without duration that deals damage at every hit. -/
structure Burns (effect : AppliedEffect) : Prop where
  damaging : ∃ amount, effect.definition.behavior = .damageOverTime amount
  unlimited : effect.duration = none
  tick : effect.tick = some (.damageCount 1)
  active : effect.isActive = true

/-- A hit meets the tick condition, and rewinding it makes it wait for the next one. -/
theorem receiveTick_damageCount : receiveTick trigger snapshot (.damageCount 1) =
    (match trigger with | .damage _ => 1 | _ => 0, .damageCount 1) := by
  cases trigger <;> rfl

theorem Burns.receive (burns : effect.Burns) :
    effect.receive trigger snapshot =
      ⟨effect, false, false, match trigger with | .damage _ => 1 | _ => 0⟩ := by
  rw [AppliedEffect.receive, burns.unlimited]
  simp only [receiveInterval, burns.active, burns.tick, receiveTick_damageCount]
  rw [← burns.tick, ← burns.active]

end AppliedEffect

end Roleplay
