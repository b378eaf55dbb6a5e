import Roleplay.Decimal.Single
import Roleplay.Stats.Stat

/-! # Conditions

Conditions decide when modifiers and effects end or pause.  A condition is a chain of nodes, each
with a predicate and a cached flag that tells whether the predicate was met when the node was last
looked at.  A node looks again only at the triggers that its predicate subscribes to, and reports a
change only when the flag turns.

* `Predicate.holds` evaluates a predicate on a `StatSnapshot`;
* `Condition.notify` delivers a trigger to a chain, `Condition.refresh` re-evaluates all of it;
* `Condition.holds` combines the cached flags, nested to the right;
* `Condition.rewind` and `Condition.reset` start a chain over.
-/

namespace Roleplay

/-! ## What conditions look at -/

structure StatSnapshot where
  values : StatTable Float32
  hp : Float32
deriving Inhabited

namespace StatSnapshot

def get (snapshot : StatSnapshot) (stat : Stat) : Float32 := (snapshot.values.get? stat).getD 0

/-- Current over maximal health, zero if the maximum is not positive. -/
def hpRatio (snapshot : StatSnapshot) : Float32 :=
  let maximum := snapshot.get .maxHp
  if maximum ≤ 0 then 0 else snapshot.hp / maximum

end StatSnapshot

inductive TriggerKind where
  | time
  | stats
  | damage
deriving Repr, DecidableEq

inductive Trigger where
  /-- Seconds that have passed. -/
  | tick (delta : Float32)
  | statsChanged
  | damage (amount : Float32)
deriving DecidableEq

namespace TriggerKind

def all : List TriggerKind := [time, stats, damage]

/-- The bit of a kind in a set of kinds. -/
def bit : TriggerKind → Nat
  | time => 1
  | stats => 2
  | damage => 4

end TriggerKind

namespace Trigger

def kind : Trigger → TriggerKind
  | tick _ => .time
  | statsChanged => .stats
  | damage _ => .damage

end Trigger

/-- A comparison of two numbers; equality allows a difference of `Single.epsilon`. -/
inductive Comparison where
  | less
  | lessEquals
  | equals
  | notEquals
  | greaterEquals
  | greater
deriving Repr, DecidableEq

namespace Comparison

def all : List Comparison := [less, lessEquals, equals, notEquals, greaterEquals, greater]

def name : Comparison → String
  | less => "Less"
  | lessEquals => "LessEquals"
  | equals => "Equals"
  | notEquals => "NotEquals"
  | greaterEquals => "GreaterEquals"
  | greater => "Greater"

/-- The name in saved files. -/
def fileName : Comparison → String
  | less => "less"
  | lessEquals => "lessEquals"
  | equals => "equals"
  | notEquals => "notEquals"
  | greaterEquals => "greaterEquals"
  | greater => "greater"

def holds : Comparison → Float32 → Float32 → Bool
  | less, left, right => left < right
  | lessEquals, left, right => left ≤ right
  | equals, left, right => Single.near left right
  | notEquals, left, right => Single.epsilon < (left - right).abs
  | greaterEquals, left, right => right ≤ left
  | greater, left, right => right < left

end Comparison

/-! ## Predicates -/

inductive Predicate where
  /-- Met once the seconds have elapsed. -/
  | timed (seconds elapsed : Float32)
  | statValue (stat : Stat) (comparison : Comparison) (value : Float32)
  | hpRatio (comparison : Comparison) (ratio : Float32)
  /-- Met once so many hits have been received. -/
  | damageCount (count received : UInt32)
deriving DecidableEq

namespace Predicate

/-- Which triggers a predicate has to look at. -/
def subscribes : Predicate → TriggerKind → Bool
  | timed .., .time => true
  | statValue .., .stats => true
  | hpRatio .., .stats => true
  | hpRatio .., .damage => true
  | damageCount .., .damage => true
  | _, _ => false

/-- Takes note of a trigger: timers run, hits are counted. -/
def observe : Predicate → Trigger → Predicate
  | timed seconds elapsed, .tick delta => timed seconds (elapsed + delta)
  | damageCount count received, .damage _ => damageCount count (received + 1)
  | predicate, _ => predicate

def holds (predicate : Predicate) (snapshot : StatSnapshot) : Bool :=
  match predicate with
  | timed seconds elapsed => seconds ≤ elapsed
  | statValue stat comparison value => comparison.holds (snapshot.get stat) value
  | hpRatio comparison ratio => comparison.holds snapshot.hpRatio ratio
  | damageCount count received => count ≤ received

def reset : Predicate → Predicate
  | timed seconds _ => timed seconds 0
  | damageCount count _ => damageCount count 0
  | predicate => predicate

/-- Like `reset`, but a timer keeps the time past its threshold. -/
def rewind : Predicate → Predicate
  | timed seconds elapsed => timed seconds (Single.positivePart (elapsed - seconds))
  | predicate => predicate.reset

end Predicate

/-! ## Nodes -/

/-- How a node is joined to the next one of its chain. -/
inductive Junction where
  | and
  | or
deriving Repr, DecidableEq, Inhabited

/-- What a condition does to its owner once it holds, as a set of bits. -/
structure Outcome where
  bits : UInt8
deriving Repr, DecidableEq

namespace Outcome

def nothing : Outcome := ⟨0⟩

def remove : Outcome := ⟨1⟩

def deactivate : Outcome := ⟨2⟩

def removes (outcome : Outcome) : Bool := outcome.bits &&& 1 = 1

def deactivates (outcome : Outcome) : Bool := outcome.bits &&& 2 = 2

def union (first second : Outcome) : Outcome := ⟨first.bits ||| second.bits⟩

end Outcome

structure ConditionNode where
  predicate : Predicate
  outcome : Outcome
  junction : Junction
  /-- Whether the predicate held when it was last looked at. -/
  isMet : Bool
deriving DecidableEq

namespace ConditionNode

def ofPredicate (predicate : Predicate) : ConditionNode := ⟨predicate, .remove, .and, false⟩

/-- Evaluates the node again; tells whether its flag turned. -/
def refresh (snapshot : StatSnapshot) (node : ConditionNode) : Bool × ConditionNode :=
  let met := node.predicate.holds snapshot
  (met != node.isMet, { node with isMet := met })

/-- Delivers a trigger, if the node subscribes to it. -/
def notify (trigger : Trigger) (snapshot : StatSnapshot) (node : ConditionNode) :
    Bool × ConditionNode :=
  if node.predicate.subscribes trigger.kind then
    ({ node with predicate := node.predicate.observe trigger } : ConditionNode).refresh snapshot
  else (false, node)

def rewind (snapshot : StatSnapshot) (node : ConditionNode) : ConditionNode :=
  let predicate := node.predicate.rewind
  { node with predicate := predicate, isMet := predicate.holds snapshot }

def reset (node : ConditionNode) : ConditionNode :=
  { node with predicate := node.predicate.reset, isMet := false }

end ConditionNode

/-! ## Chains -/

/-- A chain of nodes; the first one decides what becomes of the owner. -/
structure Condition where
  head : ConditionNode
  tail : List ConditionNode
deriving DecidableEq

namespace Condition

def ofPredicate (predicate : Predicate) : Condition := ⟨.ofPredicate predicate, []⟩

def timed (seconds : Float32) : Condition := ofPredicate (.timed seconds 0)

def statValue (stat : Stat) (comparison : Comparison) (value : Float32) : Condition :=
  ofPredicate (.statValue stat comparison value)

def hpRatio (comparison : Comparison) (ratio : Float32) : Condition :=
  ofPredicate (.hpRatio comparison ratio)

def damageCount (count : UInt32) : Condition := ofPredicate (.damageCount count 0)

def nodes (condition : Condition) : List ConditionNode := condition.head :: condition.tail

def withOutcome (condition : Condition) (outcome : Outcome) : Condition :=
  { condition with head := { condition.head with outcome := outcome } }

/-- Joins nodes to the end of a chain. -/
def joinNodes (junction : Junction) (others : List ConditionNode) (node : ConditionNode) :
    List ConditionNode → ConditionNode × List ConditionNode
  | [] => ({ node with junction := junction }, others)
  | next :: rest =>
    let (next, rest) := joinNodes junction others next rest
    (node, next :: rest)

/-- Appends a chain to the end of another. -/
def join (condition : Condition) (junction : Junction) (other : Condition) : Condition :=
  let (head, tail) := joinNodes junction other.nodes condition.head condition.tail
  ⟨head, tail⟩

/-! ### Looking -/

def subscribes (condition : Condition) (kind : TriggerKind) : Bool :=
  condition.nodes.any fun node => node.predicate.subscribes kind

/-- The kinds that the chain subscribes to, as a sum of bits. -/
def subscriptionBits (condition : Condition) : Nat :=
  (TriggerKind.all.filter condition.subscribes).foldl (fun bits kind => bits + kind.bit) 0

/-- The formula of the cached flags, nested to the right. -/
def holdsFrom (node : ConditionNode) : List ConditionNode → Bool
  | [] => node.isMet
  | next :: rest =>
    match node.junction with
    | .and => node.isMet && holdsFrom next rest
    | .or => node.isMet || holdsFrom next rest

def holds (condition : Condition) : Bool := holdsFrom condition.head condition.tail

def callsForRemoval (condition : Condition) : Bool :=
  condition.head.outcome.removes && condition.holds

def callsForSuspension (condition : Condition) : Bool :=
  condition.head.outcome.deactivates && condition.holds

/-! ### Changing -/

/-- Applies a change to every node; tells whether any node reported one. -/
def changeAll (change : ConditionNode → Bool × ConditionNode) (condition : Condition) :
    Bool × Condition :=
  let head := change condition.head
  let tail := condition.tail.map change
  (head.1 || tail.any (·.1), ⟨head.2, tail.map (·.2)⟩)

def refreshHead (snapshot : StatSnapshot) (condition : Condition) : Bool × Condition :=
  let (changed, head) := condition.head.refresh snapshot
  (changed, { condition with head := head })

/-- Evaluates every node again; tells whether any flag turned. -/
def refresh (snapshot : StatSnapshot) (condition : Condition) : Bool × Condition :=
  changeAll (ConditionNode.refresh snapshot) condition

/-- Delivers a trigger to the nodes that subscribe to it; tells whether any flag turned. -/
def notify (trigger : Trigger) (snapshot : StatSnapshot) (condition : Condition) :
    Bool × Condition :=
  changeAll (ConditionNode.notify trigger snapshot) condition

/-- Starts the chain over after it held.  Timers carry over the time past their threshold, and
every node is evaluated again. -/
def rewind (snapshot : StatSnapshot) (condition : Condition) : Condition :=
  ⟨condition.head.rewind snapshot, condition.tail.map (ConditionNode.rewind snapshot)⟩

def reset (condition : Condition) : Condition :=
  ⟨condition.head.reset, condition.tail.map ConditionNode.reset⟩

end Condition

end Roleplay
