import Mathlib.Data.List.Basic
import Roleplay.Proofs.Stats.Currency
import Roleplay.Proofs.Stats.View

/-! # Lists of registered modifiers

What holds of the list of a stat, and which changes of the list keep it.

* `Modifier.imprint` is what never changes of a registered modifier;
* `IsRegister` says that a list holds registered modifiers of one stat in the order of their
  operations, and those of one operation in the order of a record;
* `IsRegister.insert` registers one more, `IsRegister.filterMap` drops some and changes others.
-/

namespace Roleplay

namespace Modifier

/-- A modifier apart from its state: from the progress of its condition, and from whether it is
active. -/
def imprint (modifier : Modifier) : Modifier :=
  { modifier with condition := modifier.condition.map Condition.reset, isActive := true }

end Modifier

structure IsRegister (record : List Modifier) (stat : Stat) (list : List Modifier) : Prop where
  stat_eq : ∀ modifier ∈ list, modifier.stat = stat
  registered : ∀ modifier ∈ list, modifier.isRegistered = true
  lasting : ∀ modifier ∈ list, modifier.source = none → modifier.callsForRemoval = false
  sorted : list.Pairwise fun first second => first.op.rank ≤ second.op.rank
  inOrder : ∀ op, ((list.filter fun modifier => modifier.op = op).map Modifier.imprint).Sublist
    (record.map Modifier.imprint)

namespace IsRegister

variable {record list : List Modifier} {stat : Stat} {modifier : Modifier}

theorem nil : IsRegister record stat [] :=
  ⟨by simp, by simp, by simp, .nil, by simp⟩

/-- The record may go on with modifiers of other stats. -/
theorem append (register : IsRegister record stat list) (more : List Modifier) :
    IsRegister (record ++ more) stat list := by
  refine ⟨register.stat_eq, register.registered, register.lasting, register.sorted, fun op => ?_⟩
  rw [List.map_append]
  exact (register.inOrder op).trans (List.sublist_append_left _ _)

/-! ## Registering -/

theorem pairwise_insertModifier
    (sorted : list.Pairwise fun first second => first.op.rank ≤ second.op.rank) :
    (Engine.insertModifier modifier list).Pairwise
      fun first second => first.op.rank ≤ second.op.rank := by
  induction list with
  | nil => simp [Engine.insertModifier]
  | cons other rest inductionHypothesis =>
    obtain ⟨smallest, sortedRest⟩ := List.pairwise_cons.1 sorted
    rw [Engine.insertModifier]
    split
    next before =>
      refine List.pairwise_cons.2 ⟨fun later member => ?_, inductionHypothesis sortedRest⟩
      cases List.mem_cons.1 (Engine.insertModifier_perm.mem_iff.1 member) with
      | inl same => rwa [same]
      | inr inRest => exact smallest later inRest
    next behind =>
      refine List.pairwise_cons.2 ⟨fun later member => ?_, sorted⟩
      cases List.mem_cons.1 member with
      | inl same =>
        rw [same]
        omega
      | inr inRest =>
        have least := smallest later inRest
        omega

/-- Among the modifiers of its operation, a new one is the last. -/
theorem filter_insertModifier
    (sorted : list.Pairwise fun first second => first.op.rank ≤ second.op.rank) (op : ModifierOp) :
    (Engine.insertModifier modifier list).filter (fun other => other.op = op) =
      list.filter (fun other => other.op = op) ++ [modifier].filter fun other => other.op = op := by
  induction list with
  | nil => rfl
  | cons other rest inductionHypothesis =>
    obtain ⟨smallest, sortedRest⟩ := List.pairwise_cons.1 sorted
    rw [Engine.insertModifier]
    split
    next before =>
      rw [List.filter_cons, List.filter_cons, inductionHypothesis sortedRest]
      split <;> rfl
    next behind =>
      by_cases same : modifier.op = op
      · -- everything behind the new one has another operation
        have others : (other :: rest).filter (fun other => other.op = op) = [] := by
          refine List.filter_eq_nil_iff.2 fun later member => ?_
          have larger : modifier.op.rank < later.op.rank := by
            cases List.mem_cons.1 member with
            | inl same =>
              rw [same]
              omega
            | inr inRest =>
              have least := smallest later inRest
              omega
          intro equal
          rw [same, of_decide_eq_true equal] at larger
          exact Nat.lt_irrefl _ larger
        rw [others, List.filter_cons_of_pos (by simpa using same), others]
        simp [same]
      · rw [List.filter_cons_of_neg (by simpa using same)]
        simp [same]

theorem insert (register : IsRegister record stat list) (stat_eq : modifier.stat = stat)
    (registered : modifier.isRegistered = true)
    (lasting : modifier.source = none → modifier.callsForRemoval = false) :
    IsRegister (record ++ [modifier]) stat (Engine.insertModifier modifier list) := by
  have each {property : Modifier → Prop} (new : property modifier)
      (earlier : ∀ other ∈ list, property other) :
      ∀ other ∈ Engine.insertModifier modifier list, property other := by
    intro other member
    cases List.mem_cons.1 (Engine.insertModifier_perm.mem_iff.1 member) with
    | inl same => rwa [same]
    | inr inList => exact earlier other inList
  refine ⟨each stat_eq register.stat_eq, each registered register.registered,
    each lasting register.lasting, pairwise_insertModifier register.sorted, fun op => ?_⟩
  rw [filter_insertModifier register.sorted, List.map_append, List.map_append]
  exact (register.inOrder op).append (List.filter_sublist.map _)

/-! ## Dropping and changing -/

theorem sublist_filterMap {α β : Type} {change : α → Option α} {key : α → β}
    (same : ∀ object changed, change object = some changed → key changed = key object)
    (objects : List α) : ((objects.filterMap change).map key).Sublist (objects.map key) := by
  induction objects with
  | nil => exact .slnil
  | cons object objects inductionHypothesis =>
    cases changed : change object with
    | none =>
      rw [List.filterMap_cons_none changed]
      exact inductionHypothesis.cons _
    | some result =>
      rw [List.filterMap_cons_some changed, List.map_cons, List.map_cons,
        same object result changed]
      exact inductionHypothesis.cons_cons _

/-- A change of single modifiers that keeps their imprints and does not bring any to call for
removal. -/
def IsGentle (change : Modifier → Option Modifier) : Prop :=
  ∀ modifier changed, change modifier = some changed → changed.imprint = modifier.imprint ∧
    (modifier.callsForRemoval = false → changed.callsForRemoval = false)

theorem filterMap {change : Modifier → Option Modifier} (register : IsRegister record stat list)
    (gentle : IsGentle change) : IsRegister record stat (list.filterMap change) := by
  have op_eq {modifier changed : Modifier} (found : change modifier = some changed) :
      changed.op = modifier.op := by
    have same := congrArg Modifier.op (gentle _ _ found).1
    exact same
  refine ⟨?_, ?_, ?_, ?_, fun op => ?_⟩
  · intro changed member
    obtain ⟨modifier, inList, found⟩ := List.mem_filterMap.1 member
    have same := congrArg Modifier.stat (gentle _ _ found).1
    exact same.trans (register.stat_eq modifier inList)
  · intro changed member
    obtain ⟨modifier, inList, found⟩ := List.mem_filterMap.1 member
    have same := congrArg Modifier.isRegistered (gentle _ _ found).1
    exact same.trans (register.registered modifier inList)
  · intro changed member sourceless
    obtain ⟨modifier, inList, found⟩ := List.mem_filterMap.1 member
    have source := congrArg Modifier.source (gentle _ _ found).1
    exact (gentle _ _ found).2 (register.lasting modifier inList (source.symm.trans sourceless))
  · refine register.sorted.filterMap change fun first second before => ?_
    intro changed found other foundOther
    rwa [op_eq found, op_eq foundOther]
  · have filtered : (list.filterMap change).filter (fun modifier => modifier.op = op) =
        (list.filter fun modifier => modifier.op = op).filterMap change := by
      rw [List.filter_filterMap, List.filterMap_filter]
      refine List.filterMap_congr fun modifier _ => ?_
      cases found : change modifier with
      | none => simp
      | some changed => simp [Option.filter, op_eq found]
    rw [filtered]
    exact (sublist_filterMap (fun modifier changed found => (gentle _ _ found).1) _).trans
      (register.inOrder op)

theorem sublist {shorter : List Modifier} (register : IsRegister record stat list)
    (dropped : shorter.Sublist list) : IsRegister record stat shorter := by
  refine ⟨fun modifier member => register.stat_eq modifier (dropped.subset member),
    fun modifier member => register.registered modifier (dropped.subset member),
    fun modifier member => register.lasting modifier (dropped.subset member),
    register.sorted.sublist dropped, fun op => ?_⟩
  exact ((dropped.filter _).map _).trans (register.inOrder op)

end IsRegister

/-! ## Sweeping -/

theorem ConditionNode.reset_notify {node : ConditionNode} {trigger : Trigger}
    {snapshot : StatSnapshot} : (node.notify trigger snapshot).2.reset = node.reset := by
  rw [notify]
  split
  · obtain ⟨predicate, outcome, junction, isMet⟩ := node
    cases predicate <;> cases trigger <;> rfl
  · rfl

theorem Condition.reset_notify {condition : Condition} {trigger : Trigger}
    {snapshot : StatSnapshot} : (condition.notify trigger snapshot).2.reset = condition.reset := by
  simp [reset, notify, changeAll, ConditionNode.reset_notify, Function.comp_def]

theorem Condition.callsForRemoval_notify {condition : Condition} {trigger : Trigger}
    {snapshot : StatSnapshot} (unchanged : (condition.notify trigger snapshot).1 = false) :
    (condition.notify trigger snapshot).2.callsForRemoval = condition.callsForRemoval := by
  have outcome : (condition.notify trigger snapshot).2.head.outcome = condition.head.outcome :=
    ConditionNode.outcome_notify
  rw [callsForRemoval, callsForRemoval, holds_notify unchanged, outcome]

namespace Engine

variable {trigger : Trigger} {snapshot : StatSnapshot} {list : List Modifier}

/-- What a sweep makes of one modifier, if it does not release it. -/
def survivor (trigger : Trigger) (snapshot : StatSnapshot) (modifier : Modifier) :
    Option Modifier :=
  match modifier.condition with
  | none => some modifier
  | some condition =>
    let (changed, condition) := condition.notify trigger snapshot
    if !changed then some { modifier with condition := some condition }
    else if condition.callsForRemoval then none
    else some { modifier with
      condition := some condition
      isActive := !condition.callsForSuspension }

theorem kept_sweep :
    (sweep trigger snapshot list).kept = list.filterMap (survivor trigger snapshot) := by
  induction list with
  | nil => rfl
  | cons modifier rest inductionHypothesis =>
    rw [List.filterMap_cons, ← inductionHypothesis]
    simp only [sweep, survivor]
    cases modifier.condition with
    | none => rfl
    | some condition =>
      dsimp only
      split
      · rfl
      · split <;> rfl

theorem isGentle_survivor : IsRegister.IsGentle (survivor trigger snapshot) := by
  intro modifier changed found
  cases conditional : modifier.condition with
  | none =>
    simp only [survivor, conditional, Option.some.injEq] at found
    rw [found]
    exact ⟨rfl, id⟩
  | some condition =>
    simp only [survivor, conditional] at found
    split at found
    next unchanged =>
      cases found
      refine ⟨?_, fun lasting => ?_⟩
      · simp [Modifier.imprint, conditional, Condition.reset_notify]
      · have same := Condition.callsForRemoval_notify (by simpa using unchanged)
        simpa [Modifier.callsForRemoval, conditional, same] using lasting
    next =>
      split at found
      next => cases found
      next stays =>
        cases found
        refine ⟨?_, fun _ => ?_⟩
        · simp [Modifier.imprint, conditional, Condition.reset_notify]
        · simpa [Modifier.callsForRemoval] using stays

/-- A sweep that leaves nothing has released something, if there was anything. -/
theorem isChanged_of_kept_eq_nil (empty : (sweep trigger snapshot list).kept = []) :
    list = [] ∨ (sweep trigger snapshot list).isChanged = true := by
  cases list with
  | nil => exact Or.inl rfl
  | cons modifier rest =>
    refine Or.inr ?_
    simp only [sweep] at empty ⊢
    cases conditional : modifier.condition with
    | none => simp [conditional] at empty
    | some condition =>
      simp only [conditional] at empty ⊢
      split at empty
      · cases empty
      · split at empty
        next unchanged removed =>
          rw [if_neg unchanged, if_pos removed]
        next => cases empty

end Engine

end Roleplay
