import Roleplay.Dictionary
import Roleplay.Stats.Condition

/-! # Modifiers

A modifier changes one stat by one operation.  The modifiers of a stat are folded in the order of
their operations; a run of percentages is summed before it is applied.

* `ModifierOp.apply` applies one operation, `foldEntries` a sorted list of them;
* `Modifier` carries the operation with its condition, source and state.
-/

namespace Roleplay

/-- The operations in the order in which they are folded. -/
inductive ModifierOp where
  | baseAdd
  /-- Neighbouring ones are summed and applied as one factor. -/
  | percentAdd
  | add
  | percentMult
  | negate
  | min
  | max
  | replace
  | zero
  | one
deriving Repr, DecidableEq, Inhabited

namespace ModifierOp

def all : List ModifierOp :=
  [baseAdd, percentAdd, add, percentMult, negate, min, max, replace, zero, one]

def rank : ModifierOp → Nat
  | baseAdd => 0
  | percentAdd => 1
  | add => 2
  | percentMult => 3
  | negate => 4
  | min => 5
  | max => 6
  | replace => 7
  | zero => 8
  | one => 9

def name : ModifierOp → String
  | baseAdd => "base_add"
  | percentAdd => "percent_add"
  | add => "add"
  | percentMult => "percent_mult"
  | negate => "negate"
  | min => "min"
  | max => "max"
  | replace => "replace"
  | zero => "zero"
  | one => "one"

/-- The operation of a name written in any ASCII case. -/
def ofName? (name : String) : Option ModifierOp :=
  all.find? fun op => Text.sameIgnoringCase op.name.toList name.toList

def apply : ModifierOp → Float32 → Float32 → Float32
  | baseAdd, total, value | add, total, value => total + value
  | percentAdd, total, value | percentMult, total, value => total * (1 + value)
  | negate, total, _ => -total
  | min, total, value => Single.maximum total value
  | max, total, value => Single.minimum total value
  | replace, _, value => value
  | zero, _, _ => 0
  | one, _, _ => 1

end ModifierOp

/-! ## Folding -/

/-- A fold under way: the total, and the sum of a run of percentages that is not yet applied. -/
structure Tally where
  total : Float32
  percent : Option Float32
deriving DecidableEq

namespace Tally

/-- Applies the run of percentages, if there is one. -/
def flush (tally : Tally) : Float32 :=
  match tally.percent with
  | some sum => tally.total * (1 + sum)
  | none => tally.total

def add (tally : Tally) (entry : ModifierOp × Float32) : Tally :=
  if entry.1 = .percentAdd then
    { tally with percent := some (tally.percent.getD 0 + entry.2) }
  else ⟨entry.1.apply tally.flush entry.2, none⟩

end Tally

/-- Folds operations and values, sorted by operation, over a base. -/
def foldEntries (base : Float32) (entries : List (ModifierOp × Float32)) : Float32 :=
  (entries.foldl Tally.add ⟨base, none⟩).flush

/-! ## Modifiers -/

structure Modifier where
  stat : Stat
  op : ModifierOp
  value : Float32
  condition : Option Condition
  /-- The name of the custom value that replaces `value`. -/
  customValueId : Option String
  isHidden : Bool
  /-- Who registered the modifier; an independent one has no source. -/
  source : Option String
  isActive : Bool
  isRegistered : Bool
deriving DecidableEq

namespace Modifier

def default : Modifier := ⟨.maxHp, .baseAdd, 0, none, none, false, none, true, false⟩

instance : Inhabited Modifier := ⟨default⟩

def new (stat : Stat) (op : ModifierOp) (value : Float32) : Modifier :=
  { default with stat := stat, op := op, value := value }

/-- A copy that is not registered anywhere. -/
def copy (modifier : Modifier) : Modifier := { modifier with isRegistered := false }

def withSource (source : Option String) (modifier : Modifier) : Modifier :=
  { modifier with source := source }

/-- The value that is folded; a custom value that is not set counts as zero. -/
def currentValue (customValues : Dictionary Float32) (modifier : Modifier) : Float32 :=
  match modifier.customValueId with
  | some id => (customValues.get? id).getD 0
  | none => modifier.value

def callsForRemoval (modifier : Modifier) : Bool := modifier.condition.any Condition.callsForRemoval

def callsForSuspension (modifier : Modifier) : Bool :=
  modifier.condition.any Condition.callsForSuspension

/-- Whether a key names the modifier; values may differ by `Single.epsilon`. -/
def isNamedBy (op : ModifierOp) (value : Float32) (source : Option String)
    (modifier : Modifier) : Bool :=
  modifier.op = op && Single.near modifier.value value && modifier.source = source

def isFrom (source : String) (modifier : Modifier) : Bool := modifier.source = some source

def refresh (snapshot : StatSnapshot) (modifier : Modifier) : Modifier :=
  { modifier with condition := modifier.condition.map fun c => (c.refresh snapshot).2 }

/-- The modifier as a registered one, active as its condition says. -/
def enlist (modifier : Modifier) : Modifier :=
  { modifier with isActive := !modifier.callsForSuspension, isRegistered := true }

end Modifier

end Roleplay
