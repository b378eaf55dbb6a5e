import Roleplay.Stats.Modifier

/-! # Operations on an actor

The public operations on an actor's stats, as data.  Effects run programs of such operations when
they begin, end and tick, so an operation and its answer have to be values.

* `Operation` lists the operations, `Response` what they answer;
* `Program` is a sequence of operations, each chosen by the answers before it;
* `Event` is a change that an operation reports, `Event.sortRuns` puts a report into its standard
  order.
-/

namespace Roleplay

inductive StatsError where
  | unknownEffect (id : String)
deriving Repr, DecidableEq

def StatsError.message : StatsError → String
  | unknownEffect id => "Status effect " ++ id ++ " is not registered"

/-! ## Events -/

/-- A change that is reported to the owner of an actor. -/
inductive Event where
  | statChanged (stat : Stat)
  | modifiersChanged (stat : Stat)
  | effectAdded (id : String)
  | effectRemoved (id : String)
  | damaged (amount hp : Float32) (source : Option String)
deriving DecidableEq

namespace Event

/-- The stat that a change of modifiers or of a computed value concerns. -/
def stat? : Event → Option Stat
  | statChanged stat => some stat
  | modifiersChanged stat => some stat
  | _ => none

/-- Puts an event of a stat behind the earlier ones of stats up to its own. -/
def placeInRun (event : Event) (stat : Stat) : List (Stat × Event) → List (Stat × Event)
  | [] => [(stat, event)]
  | (other, earlier) :: run =>
    if stat.index < other.index then (stat, event) :: (other, earlier) :: run
    else (other, earlier) :: placeInRun event stat run

/-- Sorts the rest of a report; `run` is the sorted run of stat events that is being read. -/
def sortRunsFrom (run : List (Stat × Event)) : List Event → List Event
  | [] => run.map (·.2)
  | event :: events =>
    match event.stat? with
    | some stat => sortRunsFrom (placeInRun event stat run) events
    | none => run.map (·.2) ++ event :: sortRunsFrom [] events

/-- Sorts every run of neighbouring stat events by stat; events of one stat keep their order. -/
def sortRuns (events : List Event) : List Event := sortRunsFrom [] events

end Event

/-! ## Operations -/

structure Damage where
  amount : Float32
  source : Option String
deriving DecidableEq

inductive Operation where
  /-- Adds a `baseAdd` modifier of the source `base`. -/
  | addBase (stat : Stat) (value : Float32)
  | addModifier (modifier : Modifier) (source : Option String)
  | removeModifier (stat : Stat) (op : ModifierOp) (value : Float32) (source : Option String)
  | removeSource (source : String)
  | modifiers (stat : Stat)
  | calculate (stat : Stat) (ignoreHidden : Bool)
  | setCustomValue (id : String) (value : Float32)
  | customValue (id : String)
  | setHp (hp : Float32)
  | hp
  | isDead
  | addEffect (id : String)
  | refreshEffect (id : String)
  | removeEffect (id : String)
  | hasEffect (id : String)
  | effects
  /-- Queues damage for the next `process`. -/
  | queueDamage (damage : Damage)
  /-- Advances time, then applies the queued damage. -/
  | process (delta : Float32)
  | notify (trigger : Trigger)
  | snapshot
  | takeEvents
  | takePooled
  | poolSizes
deriving DecidableEq

inductive Response where
  | done
  | truth (truth : Bool)
  | count (count : Nat)
  | number (number : Float32)
  | optionalNumber (number : Option Float32)
  | modifiers (modifiers : List Modifier)
  | modifier (modifier : Modifier)
  | outcome (outcome : Except StatsError Unit)
  | effects (effects : List (String × Bool))
  | snapshot (snapshot : StatSnapshot)
  | events (events : List Event)
  | sizes (modifiers lists : Nat)

/-- A sequence of operations; each may depend on the responses so far. -/
inductive Program where
  | done
  | step (operation : Operation) (next : Response → Program)

/-- Performs operations in order, whatever they answer. -/
def Program.ofList : List Operation → Program
  | [] => .done
  | operation :: operations => .step operation fun _ => ofList operations

end Roleplay
