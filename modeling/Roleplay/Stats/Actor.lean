import Roleplay.Stats.Effect
import Roleplay.Stats.Pool

/-! # Actors

The state of one actor's stats, and the world that its operations run in.

* `Actor` holds the modifiers of each stat, the applied effects, queued damage and health;
* `Actor.calculate` folds the modifiers of a stat;
* `World` adds the shared pools and the record of what has happened;
* `Engine` is a computation on a world that may run out of fuel.

The table of modifiers has no order of its own.  Whoever walks it follows the order that the world
prescribes for that walk, so statements about all orders are statements about all worlds.
-/

namespace Roleplay

/-- An order in which the table of modifiers is walked. -/
structure VisitOrder where
  stats : List Stat
  perm : stats.Perm Stat.all

def VisitOrder.declared : VisitOrder := ⟨Stat.all, .refl _⟩

structure Actor where
  catalog : EffectCatalog
  /-- The modifiers of each stat, sorted by operation; a stat without modifiers has no list. -/
  modifiers : StatTable (List Modifier)
  effects : Dictionary AppliedEffect
  damage : List Damage
  customValues : Dictionary Float32
  hp : Float32
  /-- The events not yet taken by the owner. -/
  events : List Event
  /-- Whether a notification is under way. -/
  isNotifying : Bool
  /-- Whether another pass is due once the pass under way has ended. -/
  isDirty : Bool

namespace Actor

def new (catalog : EffectCatalog) : Actor :=
  ⟨catalog, .empty, .empty, [], .empty, 0, [], false, false⟩

def modifiersOf (actor : Actor) (stat : Stat) : List Modifier :=
  (actor.modifiers.get? stat).getD []

/-- The operations and values of the modifiers that count. -/
def countedEntries (actor : Actor) (stat : Stat) (ignoreHidden : Bool) :
    List (ModifierOp × Float32) :=
  ((actor.modifiersOf stat).filter fun m => m.isActive && !(ignoreHidden && m.isHidden)).map
    fun m => (m.op, m.currentValue actor.customValues)

/-- The value of a stat: its active modifiers folded over zero. -/
def calculate (actor : Actor) (stat : Stat) (ignoreHidden : Bool) : Float32 :=
  foldEntries 0 (actor.countedEntries stat ignoreHidden)

def get (actor : Actor) (stat : Stat) : Float32 := actor.calculate stat false

def hpLimit (actor : Actor) : Float32 := Single.positivePart (actor.get .maxHp)

def isDead (actor : Actor) : Bool := actor.hp ≤ 0

def hasEffect (actor : Actor) (id : String) : Bool :=
  (actor.effects.get? id).any AppliedEffect.isActive

/-- The values of all stats that have modifiers, and health. -/
def snapshot (actor : Actor) : StatSnapshot :=
  ⟨.ofList (actor.modifiers.toList.map fun entry => (entry.1, actor.get entry.1)), actor.hp⟩

/-- Whether a modifier of a stat takes its value from a custom value. -/
def readsCustomValue (actor : Actor) (id : String) (stat : Stat) : Bool :=
  (actor.modifiersOf stat).any fun modifier => modifier.customValueId = some id

end Actor

/-- An actor with what surrounds it. -/
structure World where
  actor : Actor
  pools : Pools
  /-- The order of each walk over the table of modifiers. -/
  orders : Nat → VisitOrder
  walks : Nat
  /-- The modifiers that were registered so far, as they were then. -/
  registrations : List Modifier
  calls : List HookCall
  /-- The effects whose interval hooks were called while they were not applied and active. -/
  strays : List String
  /-- The effects whose interval hooks the pass under way has still to call, each as often as that. -/
  due : List String
  /-- The number of notifications that were cut off before the conditions settled. -/
  cutOffs : Nat
  /-- The events that were reported so far, whether the owner has taken them or not. -/
  reports : List Event

def World.new (catalog : EffectCatalog) (pools : Pools) : World :=
  ⟨.new catalog, pools, fun _ => .declared, 0, [], [], [], [], 0, []⟩

/-- A computation on a world, absent if it runs out of fuel. -/
abbrev Engine := StateT World Option

namespace Engine

def exhausted {α : Type} : Engine α := fun _ => none

def actor : Engine Actor := do
  let world ← get
  pure world.actor

def modifyActor (change : Actor → Actor) : Engine Unit :=
  modify fun world => { world with actor := change world.actor }

def report (events : List Event) : Engine Unit :=
  modify fun world => { world with
    actor := { world.actor with events := world.actor.events ++ events }
    reports := world.reports ++ events }

/-- The order of the next walk over the table of modifiers. -/
def nextOrder : Engine (List Stat) :=
  modifyGet fun world =>
    ((world.orders world.walks).stats, { world with walks := world.walks + 1 })

/-! ## Pools -/

def takeModifier : Engine Modifier :=
  modifyGet fun world =>
    let (modifier, pool) := world.pools.modifiers.take
    (modifier, { world with pools := { world.pools with modifiers := pool } })

def releaseModifiers (modifiers : List Modifier) : Engine Unit :=
  modify fun world =>
    { world with pools :=
        { world.pools with modifiers := world.pools.modifiers.releaseAll modifiers } }

def takeList : Engine (List Modifier) :=
  modifyGet fun world =>
    let (list, pool) := world.pools.lists.take
    (list, { world with pools := { world.pools with lists := pool } })

def releaseList (list : List Modifier) : Engine Unit :=
  modify fun world =>
    { world with pools := { world.pools with lists := world.pools.lists.release list } }

/-! ## The table of modifiers -/

def setModifiers (stat : Stat) (list : List Modifier) : Engine Unit :=
  modifyActor fun actor => { actor with modifiers := actor.modifiers.set stat list }

/-- Drops the list of a stat that has no modifiers left. -/
def prune (stat : Stat) : Engine Unit := do
  let actor ← Engine.actor
  match actor.modifiers.get? stat with
  | some [] =>
    modifyActor fun actor => { actor with modifiers := actor.modifiers.erase stat }
    releaseList []
  | _ => pure ()

def reportModifiers (stat : Stat) : Engine Unit :=
  report [.modifiersChanged stat, .statChanged stat]

def settleStats : List Stat → Engine Unit
  | [] => pure ()
  | stat :: stats => do
    prune stat
    reportModifiers stat
    settleStats stats

end Engine

end Roleplay
