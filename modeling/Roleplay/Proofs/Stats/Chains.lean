import Mathlib.Data.List.Forall2
import Roleplay.Proofs.Stats.Register
import Roleplay.Proofs.Stats.Ticks

/-! # What chains of conditions remember

A chain is evaluated once and is then told one trigger after the other.  Its nodes do not depend on
each other, so what becomes of a node is decided by the triggers that the node itself looks at.

* `Condition.after` is a chain after some deliveries, `Condition.nodes_after` says that its nodes go
  their own ways;
* `ConditionNode.Tracks` says how a node stands: what it has observed, and which snapshot its flag
  is from;
* `Condition.notify_iff_flags` says when a delivery is reported;
* `Condition.holds_eq_formula` and `Condition.holds_eq_decider` say how the flags are combined;
* `Condition.tracks_deliveries` puts them together.
-/

namespace Roleplay

/-- A trigger that is delivered, with the snapshot that predicates are evaluated on. -/
structure Delivery where
  trigger : Trigger
  snapshot : StatSnapshot

namespace Delivery

variable {deliveries : List Delivery}

/-- The deliveries whose triggers a predicate looks at. -/
def heard (predicate : Predicate) (deliveries : List Delivery) : List Delivery :=
  deliveries.filter fun delivery => predicate.subscribes delivery.trigger.kind

/-- The lengths of the frames that have gone by. -/
def deltas (deliveries : List Delivery) : List Float32 :=
  deliveries.filterMap fun delivery =>
    match delivery.trigger with
    | .tick delta => some delta
    | _ => none

def hits (deliveries : List Delivery) : Nat :=
  deliveries.countP fun delivery => delivery.trigger.kind = .damage

/-- The snapshot of the last delivery that a predicate looks at, or the initial one. -/
def lastSnapshot (predicate : Predicate) (initial : StatSnapshot) (deliveries : List Delivery) :
    StatSnapshot :=
  (heard predicate deliveries).getLast?.elim initial Delivery.snapshot

theorem hits_le_length : hits deliveries ≤ deliveries.length := List.countP_le_length

theorem lastSnapshot_cons {predicate : Predicate} {initial : StatSnapshot} {delivery : Delivery} :
    lastSnapshot predicate initial (delivery :: deliveries) =
      lastSnapshot predicate
        (if predicate.subscribes delivery.trigger.kind then delivery.snapshot else initial)
        deliveries := by
  rw [lastSnapshot, lastSnapshot, heard, heard, List.filter_cons]
  split
  · rw [List.getLast?_cons]
    cases (deliveries.filter _).getLast? <;> rfl
  · rfl

end Delivery

/-! ## Predicates -/

namespace Predicate

variable {deliveries : List Delivery}

def observeAll (deliveries : List Delivery) (predicate : Predicate) : Predicate :=
  deliveries.foldl (fun predicate delivery => predicate.observe delivery.trigger) predicate

theorem observe_of_not_subscribes {predicate : Predicate} {trigger : Trigger}
    (ignores : predicate.subscribes trigger.kind = false) :
    predicate.observe trigger = predicate := by
  cases predicate <;> cases trigger <;> first | rfl | cases ignores

theorem heard_observe {predicate : Predicate} {trigger : Trigger} :
    Delivery.heard (predicate.observe trigger) deliveries =
      Delivery.heard predicate deliveries := by
  simp only [Delivery.heard, subscribes_observe]

theorem lastSnapshot_observe {predicate : Predicate} {trigger : Trigger} {initial : StatSnapshot} :
    Delivery.lastSnapshot (predicate.observe trigger) initial deliveries =
      Delivery.lastSnapshot predicate initial deliveries := by
  rw [Delivery.lastSnapshot, Delivery.lastSnapshot, heard_observe]

/-- What a predicate does not look at, it need not be told. -/
theorem observeAll_heard {predicate : Predicate} :
    predicate.observeAll (Delivery.heard predicate deliveries) =
      predicate.observeAll deliveries := by
  induction deliveries generalizing predicate with
  | nil => rfl
  | cons delivery deliveries inductionHypothesis =>
    rw [Delivery.heard, List.filter_cons]
    split
    next looks =>
      have others : Delivery.heard predicate deliveries =
          Delivery.heard (predicate.observe delivery.trigger) deliveries := heard_observe.symm
      rw [observeAll, List.foldl_cons, ← observeAll, ← Delivery.heard, others, inductionHypothesis]
      rfl
    next ignores =>
      rw [← Delivery.heard, inductionHypothesis, observeAll, observeAll, List.foldl_cons,
        observe_of_not_subscribes (by simpa using ignores)]

theorem observeAll_timed {seconds elapsed : Float32} :
    (timed seconds elapsed).observeAll deliveries =
      timed seconds ((Delivery.deltas deliveries).foldl (· + ·) elapsed) := by
  induction deliveries generalizing elapsed with
  | nil => rfl
  | cons delivery deliveries inductionHypothesis =>
    obtain ⟨trigger, snapshot⟩ := delivery
    cases trigger <;> exact inductionHypothesis

theorem observeAll_damageCount {count received : UInt32} :
    (damageCount count received).observeAll deliveries =
      damageCount count (received + UInt32.ofNat (Delivery.hits deliveries)) := by
  induction deliveries generalizing received with
  | nil => simp [observeAll, Delivery.hits]
  | cons delivery deliveries inductionHypothesis =>
    obtain ⟨trigger, snapshot⟩ := delivery
    cases trigger with
    | damage amount =>
      refine (@inductionHypothesis (received + 1)).trans ?_
      have one : Delivery.hits (⟨.damage amount, snapshot⟩ :: deliveries) =
          Delivery.hits deliveries + 1 :=
        List.countP_cons_of_pos rfl
      rw [one, UInt32.ofNat_add, UInt32.add_assoc, UInt32.add_comm 1]
      rfl
    | tick | statsChanged => exact inductionHypothesis

end Predicate

/-! ## Nodes -/

namespace ConditionNode

variable {deliveries : List Delivery} {node now : ConditionNode} {initial : StatSnapshot}

/-- A node after some deliveries. -/
def after (deliveries : List Delivery) (node : ConditionNode) : ConditionNode :=
  deliveries.foldl (fun node delivery => (node.notify delivery.trigger delivery.snapshot).2) node

theorem after_cons {delivery : Delivery} : node.after (delivery :: deliveries) =
    (node.notify delivery.trigger delivery.snapshot).2.after deliveries := rfl

theorem predicate_notify {trigger : Trigger} {snapshot : StatSnapshot} :
    (node.notify trigger snapshot).2.predicate = node.predicate.observe trigger := by
  rw [notify]
  split
  next => rfl
  next ignores => exact (Predicate.observe_of_not_subscribes (by simpa using ignores)).symm

theorem predicate_after : (node.after deliveries).predicate =
    node.predicate.observeAll deliveries := by
  induction deliveries generalizing node with
  | nil => rfl
  | cons delivery deliveries inductionHypothesis =>
    rw [after_cons, inductionHypothesis, predicate_notify]
    rfl

theorem outcome_after : (node.after deliveries).outcome = node.outcome := by
  induction deliveries generalizing node with
  | nil => rfl
  | cons delivery deliveries inductionHypothesis =>
    rw [after_cons, inductionHypothesis, outcome_notify]

theorem junction_after : (node.after deliveries).junction = node.junction := by
  induction deliveries generalizing node with
  | nil => rfl
  | cons delivery deliveries inductionHypothesis =>
    rw [after_cons, inductionHypothesis, junction_notify]

/-- The flag is from the last trigger that the node looks at. -/
theorem isCurrent_after (current : node.IsCurrent initial) : (node.after deliveries).IsCurrent
    (Delivery.lastSnapshot node.predicate initial deliveries) := by
  -- whatever the node looks at makes it current, and nothing else changes it
  induction deliveries generalizing node initial with
  | nil => exact current
  | cons delivery deliveries inductionHypothesis =>
    rw [after_cons, Delivery.lastSnapshot_cons]
    split
    next looks =>
      have looked : (node.notify delivery.trigger delivery.snapshot).2.IsCurrent
          delivery.snapshot := isCurrent_notify (Or.inl looks)
      have now := inductionHypothesis looked
      rwa [predicate_notify, Predicate.lastSnapshot_observe] at now
    next ignores =>
      have same : (node.notify delivery.trigger delivery.snapshot).2 = node := by
        rw [notify, if_neg ignores]
      rw [same]
      exact inductionHypothesis current

/-- A node reports a delivery just if its flag turns. -/
theorem notify_iff_isMet {trigger : Trigger} {snapshot : StatSnapshot} :
    (node.notify trigger snapshot).1 = true ↔
      (node.notify trigger snapshot).2.isMet ≠ node.isMet := by
  rw [notify]
  split
  · simp [refresh]
  · simp

/-- How a node stands after some deliveries, if it was evaluated before them. -/
structure Tracks (initial : StatSnapshot) (deliveries : List Delivery)
    (node now : ConditionNode) : Prop where
  outcome : now.outcome = node.outcome
  junction : now.junction = node.junction
  /-- Every trigger that the node looks at has been observed once, and no other one. -/
  observed : now.predicate = node.predicate.observeAll (Delivery.heard node.predicate deliveries)
  elapsed : ∀ seconds elapsed, node.predicate = .timed seconds elapsed →
    now.predicate = .timed seconds ((Delivery.deltas deliveries).foldl (· + ·) elapsed)
  received : ∀ count received, node.predicate = .damageCount count received →
    ∃ total, now.predicate = .damageCount count total ∧
      (received = 0 → total.toNat = Delivery.hits deliveries) ∧
      (received.toNat + Delivery.hits deliveries < UInt32.size →
        total.toNat = received.toNat + Delivery.hits deliveries)
  flag : now.isMet =
    now.predicate.holds (Delivery.lastSnapshot node.predicate initial deliveries)

theorem tracks_after (few : deliveries.length < UInt32.size) :
    node.Tracks initial deliveries ((node.refresh initial).2.after deliveries) := by
  have predicate : ((node.refresh initial).2.after deliveries).predicate =
      node.predicate.observeAll deliveries :=
    predicate_after
  refine ⟨outcome_after, junction_after, ?_, ?_, ?_, isCurrent_after isCurrent_refresh⟩
  · rw [predicate, Predicate.observeAll_heard]
  · intro seconds elapsed timed
    rw [predicate, timed, Predicate.observeAll_timed]
  · intro count received counts
    have hits : Delivery.hits deliveries < UInt32.size :=
      Nat.lt_of_le_of_lt Delivery.hits_le_length few
    have total (fits : received.toNat + Delivery.hits deliveries < UInt32.size) :
        (received + UInt32.ofNat (Delivery.hits deliveries)).toNat =
          received.toNat + Delivery.hits deliveries := by
      rw [UInt32.toNat_add, UInt32.toNat_ofNat_of_lt' hits, Nat.mod_eq_of_lt fits]
    refine ⟨_, by rw [predicate, counts, Predicate.observeAll_damageCount], ?_, total⟩
    rintro rfl
    exact (total (by simpa using hits)).trans (Nat.zero_add _)

end ConditionNode

/-! ## Chains -/

def Junction.combine : Junction → Bool → Bool → Bool
  | .and, first, second => first && second
  | .or, first, second => first || second

/-- Whether the flag of a node settles what the nodes from here on come to. -/
def ConditionNode.decides (node : ConditionNode) : Bool :=
  match node.junction with
  | .and => !node.isMet
  | .or => node.isMet

namespace Condition

variable {deliveries : List Delivery} {condition : Condition} {trigger : Trigger}
  {snapshot : StatSnapshot}

/-- A chain after some deliveries. -/
def after (deliveries : List Delivery) (condition : Condition) : Condition :=
  deliveries.foldl (fun condition delivery =>
    (condition.notify delivery.trigger delivery.snapshot).2) condition

/-- The nodes of a chain go their own ways. -/
theorem nodes_after :
    (condition.after deliveries).nodes = condition.nodes.map (ConditionNode.after deliveries) := by
  induction deliveries generalizing condition with
  | nil => exact (List.map_id _).symm
  | cons delivery deliveries inductionHypothesis =>
    have first : (condition.notify delivery.trigger delivery.snapshot).2.nodes =
        condition.nodes.map fun node => (node.notify delivery.trigger delivery.snapshot).2 := by
      rw [notify, nodes_changeAll]
    refine inductionHypothesis.trans ?_
    rw [first, List.map_map]
    rfl

/-- The cached flags of a chain. -/
def flags (condition : Condition) : List Bool := condition.nodes.map ConditionNode.isMet

/-- A chain reports a delivery just if the flag of some node turns. -/
theorem notify_iff_flags : (condition.notify trigger snapshot).1 = true ↔
    (condition.notify trigger snapshot).2.flags ≠ condition.flags := by
  rw [flags, flags, notify, nodes_changeAll, fst_changeAll, List.any_eq_true, List.map_map, ne_eq,
    List.map_inj_left]
  simp only [Function.comp_apply, not_forall, ConditionNode.notify_iff_isMet, exists_prop]

/-! ### The formula of the flags -/

theorem nodes_ne_nil : condition.nodes ≠ [] := List.cons_ne_nil _ _

def last (condition : Condition) : ConditionNode := condition.nodes.getLast nodes_ne_nil

/-- The flags joined by their junctions, nested to the right. -/
def formula (condition : Condition) : Bool :=
  condition.nodes.dropLast.foldr (fun node rest => node.junction.combine node.isMet rest)
    condition.last.isMet

/-- The first node behind which nothing has to be looked at. -/
def decider (condition : Condition) : ConditionNode :=
  (condition.nodes.find? ConditionNode.decides).getD condition.last

theorem holds_eq_formula : condition.holds = condition.formula := by
  obtain ⟨head, tail⟩ := condition
  -- on the chain, whose first node is joined to the formula of the others
  induction tail generalizing head with
  | nil => rfl
  | cons next rest inductionHypothesis =>
    have others : holdsFrom next rest = formula ⟨next, rest⟩ := inductionHypothesis next
    have unfolded : formula ⟨head, next :: rest⟩ =
        head.junction.combine head.isMet (formula ⟨next, rest⟩) := rfl
    rw [unfolded, ← others, holds, holdsFrom]
    cases head.junction <;> rfl

theorem holds_eq_decider : condition.holds = condition.decider.isMet := by
  obtain ⟨head, tail⟩ := condition
  induction tail generalizing head with
  | nil =>
    rw [decider, nodes, List.find?_singleton]
    split <;> rfl
  | cons next rest inductionHypothesis =>
    have others : holdsFrom next rest = (decider ⟨next, rest⟩).isMet := inductionHypothesis next
    have unfolded : decider ⟨head, next :: rest⟩ =
        if head.decides then head else decider ⟨next, rest⟩ := by
      rw [decider, nodes, List.find?_cons]
      cases head.decides <;> rfl
    rw [unfolded, holds, holdsFrom, others, ConditionNode.decides]
    cases head.junction <;> cases met : head.isMet <;> simp [met]

/-- After an evaluation and fewer than `UInt32.size` deliveries, every node stands as what it looks
at says, whatever becomes of the others.  Whether the chain holds is the formula of the flags, and a
look at the first node that decides it.  A further delivery is reported just if it turns a flag; one
that is not reported leaves what the chain calls for as it was. -/
theorem tracks_deliveries (condition : Condition) (initial : StatSnapshot)
    (deliveries : List Delivery) (few : deliveries.length < UInt32.size) :
    let now := (condition.refresh initial).2.after deliveries
    List.Forall₂ (ConditionNode.Tracks initial deliveries) condition.nodes now.nodes ∧
    now.holds = now.formula ∧ now.holds = now.decider.isMet ∧
    ∀ trigger snapshot,
      ((now.notify trigger snapshot).1 = true ↔
        (now.notify trigger snapshot).2.flags ≠ now.flags) ∧
      ((now.notify trigger snapshot).1 = false →
        (now.notify trigger snapshot).2.holds = now.holds ∧
        (now.notify trigger snapshot).2.callsForRemoval = now.callsForRemoval ∧
        (now.notify trigger snapshot).2.callsForSuspension = now.callsForSuspension) := by
  intro now
  have nodes : now.nodes = condition.nodes.map fun node =>
      (node.refresh initial).2.after deliveries := by
    rw [nodes_after, refresh, nodes_changeAll, List.map_map]
    rfl
  refine ⟨?_, holds_eq_formula, holds_eq_decider, fun trigger snapshot =>
    ⟨notify_iff_flags, fun unchanged => ⟨holds_notify unchanged,
      callsForRemoval_notify unchanged, callsForSuspension_notify unchanged⟩⟩⟩
  rw [nodes, List.forall₂_map_right_iff]
  exact List.forall₂_same.2 fun node _ => ConditionNode.tracks_after few

/-- Met after two seconds, or once two hits have been received. -/
def ambush : Condition := (timed 2).join .or (damageCount 2)

/-- A second goes by, a stat changes, and two hits follow. -/
def ambushDeliveries : List Delivery :=
  [.tick 1, .statsChanged, .damage 3, .damage 3].map fun trigger => ⟨trigger, ⟨.empty, 0⟩⟩

/-- The hits meet the second node, while the timer of the first one runs. -/
theorem tracks_deliveries_ambush :
    let now := (ambush.refresh ⟨.empty, 0⟩).2.after ambushDeliveries
    ambushDeliveries.length < UInt32.size ∧
      now.flags = [false, true] ∧ now.callsForRemoval = true ∧
      now.nodes.map ConditionNode.predicate = [.timed 2 1, .damageCount 2 2] ∧
      now.holds = now.formula ∧
      List.Forall₂ (ConditionNode.Tracks ⟨.empty, 0⟩ ambushDeliveries) ambush.nodes now.nodes := by
  have tracks := tracks_deliveries ambush ⟨.empty, 0⟩ ambushDeliveries (by decide)
  exact ⟨by decide, by decide +kernel, by decide +kernel, by decide +kernel, tracks.2.1, tracks.1⟩

end Condition

end Roleplay
