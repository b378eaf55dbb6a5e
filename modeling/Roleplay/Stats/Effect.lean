import Roleplay.Stats.Operation

/-! # Status effects

An effect brings a bundle of modifiers, may last only as long as its duration condition allows, and
may do something whenever its tick condition holds.

* `Behavior` says what an effect does when it enters, exits and ticks;
* `EffectDefinition` is the shared definition, `AppliedEffect` its state on one actor;
* `AppliedEffect.receive` delivers a trigger to an applied effect and tells what has to follow.
-/

namespace Roleplay

/-! ## Definitions -/

/-- The source of the modifiers and the damage of an effect. -/
def effectSource (id : String) : String := "effect:" ++ id

/-- What an effect is made of, its behavior apart. -/
structure EffectSpec where
  id : String
  /-- Ends the effect once it calls for removal, suspends it while it calls for deactivation. -/
  duration : Option Condition
  /-- Drives the interval hook. -/
  tick : Option Condition
  modifiers : List Modifier
deriving DecidableEq

namespace EffectSpec

def source (spec : EffectSpec) : String := effectSource spec.id

/-- Registers a pooled copy of a modifier of the effect. -/
def attachment (spec : EffectSpec) (modifier : Modifier) : List Operation :=
  [.takePooled, .addModifier modifier.copy (some spec.source)]

/-- Registers a pooled copy of every modifier of the effect. -/
def attachments (spec : EffectSpec) : List Operation := spec.modifiers.flatMap spec.attachment

def detachments (spec : EffectSpec) : List Operation := [.removeSource spec.source]

end EffectSpec

inductive HookKind where
  | enter
  | exit
  | interval
deriving Repr, DecidableEq

structure HookCall where
  effect : String
  kind : HookKind
deriving Repr, DecidableEq

/-- The programs that an effect runs; they may depend on the hooks called before. -/
structure Behavior where
  program : HookKind → EffectSpec → List HookCall → Program

namespace Behavior

/-- Attaches the modifiers on entering and detaches them on leaving. -/
def standard : Behavior :=
  ⟨fun kind spec _ =>
    match kind with
    | .enter => Program.ofList spec.attachments
    | .exit => Program.ofList spec.detachments
    | .interval => .done⟩

def damageOverTime (amount : Float32) : Behavior :=
  ⟨fun kind spec calls =>
    match kind with
    | .interval => Program.ofList [.queueDamage ⟨amount, some spec.source⟩]
    | kind => standard.program kind spec calls⟩

/-- Performs given operations, on entering and leaving after the standard ones. -/
def extending (enter exit interval : List Operation) : Behavior :=
  ⟨fun kind spec _ =>
    match kind with
    | .enter => Program.ofList (spec.attachments ++ enter)
    | .exit => Program.ofList (spec.detachments ++ exit)
    | .interval => Program.ofList interval⟩

end Behavior

structure EffectDefinition extends EffectSpec where
  behavior : Behavior

/-- The effects that can be applied, by id. -/
abbrev EffectCatalog := Dictionary EffectDefinition

/-- Registers definitions in order; a later one of the same id replaces an earlier one. -/
def EffectCatalog.ofList (definitions : List EffectDefinition) : EffectCatalog :=
  Dictionary.ofList (definitions.map fun definition => (definition.id, definition))

/-! ## Applied effects -/

/-- The most intervals that one trigger fires. -/
def maxIntervals : Nat := 64

structure AppliedEffect where
  definition : EffectDefinition
  duration : Option Condition
  tick : Option Condition
  /-- Cleared while the duration suspends the effect. -/
  isActive : Bool

structure EffectReaction where
  effect : AppliedEffect
  isExpired : Bool
  /-- Whether the effect was suspended or resumed. -/
  isToggled : Bool
  intervals : Nat

namespace AppliedEffect

/-- An effect with its conditions evaluated for the first time. -/
def start (definition : EffectDefinition) (snapshot : StatSnapshot) : AppliedEffect :=
  let first (condition : Condition) : Condition := (condition.reset.refresh snapshot).2
  let duration := definition.duration.map first
  ⟨definition, duration, definition.tick.map first, !duration.any Condition.callsForSuspension⟩

/-- Restarts the duration; tells the effect as it was activated or not before. -/
def refresh (snapshot : StatSnapshot) (effect : AppliedEffect) : AppliedEffect :=
  let duration := effect.duration.map fun c => (c.reset.refresh snapshot).2
  { effect with duration := duration, isActive := !duration.any Condition.callsForSuspension }

/-- Rewinds a tick condition as long as it holds, at most so many times; gives the number of
times. -/
def countIntervals (snapshot : StatSnapshot) : Nat → Condition → Nat × Condition
  | 0, tick => (0, tick)
  | limit + 1, tick =>
    if tick.holds then
      let (count, tick) := countIntervals snapshot limit (tick.rewind snapshot)
      (count + 1, tick)
    else (0, tick)

/-- Delivers a trigger to a tick condition.  A tick that reaches the limit starts over. -/
def receiveTick (trigger : Trigger) (snapshot : StatSnapshot) (tick : Condition) :
    Nat × Condition :=
  let (changed, tick) := tick.notify trigger snapshot
  if changed && tick.holds then
    let (count, tick) := countIntervals snapshot maxIntervals tick
    (count, if count = maxIntervals then tick.reset else tick)
  else (0, tick)

/-- Delivers a trigger to the tick condition of an active effect. -/
def receiveInterval (trigger : Trigger) (snapshot : StatSnapshot) (isToggled : Bool)
    (effect : AppliedEffect) : EffectReaction :=
  match effect.isActive, effect.tick with
  | true, some tick =>
    let (count, tick) := receiveTick trigger snapshot tick
    ⟨{ effect with tick := some tick }, false, isToggled, count⟩
  | _, _ => ⟨effect, false, isToggled, 0⟩

/-- Delivers a trigger: first to the duration, which may expire, suspend or resume the effect, then
to the tick of an effect that is active. -/
def receive (trigger : Trigger) (snapshot : StatSnapshot) (effect : AppliedEffect) :
    EffectReaction :=
  match effect.duration with
  | none => effect.receiveInterval trigger snapshot false
  | some duration =>
    let (changed, duration) := duration.notify trigger snapshot
    let effect := { effect with duration := some duration }
    if changed then
      if duration.callsForRemoval then ⟨effect, true, false, 0⟩
      else
        let isActive := !duration.callsForSuspension
        { effect with isActive := isActive }.receiveInterval trigger snapshot
          (isActive != effect.isActive)
    else effect.receiveInterval trigger snapshot false

end AppliedEffect

end Roleplay
