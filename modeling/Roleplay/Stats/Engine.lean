import Roleplay.Stats.Actor

/-! # The engine

How operations on an actor are performed.  After each change the conditions of all modifiers and
effects are notified, which may change more; passes over them go on until nothing changes, or the
limit of passes is reached.  Effects run programs of operations in between.

* `Engine.notify` delivers a trigger, `Engine.pass` is one pass;
* `Engine.act` performs an operation, given how the operations of hooks are performed;
* `Engine.perform` ties the knot: its fuel bounds the nesting of hooks and the damage that one call
  of `process` applies.
-/

namespace Roleplay

/-- How operations are performed that hooks ask for. -/
abbrev Performer := Operation → Engine Response

namespace Engine

/-- The most passes that one notification makes. -/
def maxPasses : Nat := 8

/-! ## Hooks -/

def runProgram (perform : Performer) : Program → Engine Unit
  | .done => pure ()
  | .step operation next => do
    let response ← perform operation
    runProgram perform (next response)

/-- Records a hook call; gives the earlier ones. -/
def recordCall (kind : HookKind) (id : String) : Engine (List HookCall) :=
  modifyGet fun world => (world.calls, { world with
    calls := world.calls ++ [⟨id, kind⟩]
    strays :=
      if kind = .interval && !world.actor.hasEffect id then world.strays ++ [id]
      else world.strays
    due := if kind = .interval then world.due.erase id else world.due })

/-- Records a hook call and runs the hook's program. -/
def callHook (perform : Performer) (kind : HookKind) (definition : EffectDefinition) :
    Engine Unit := do
  let earlier ← recordCall kind definition.id
  runProgram perform (definition.behavior.program kind definition.toEffectSpec earlier)

def callHooks (perform : Performer) (kind : HookKind) (definition : EffectDefinition) :
    Nat → Engine Unit
  | 0 => pure ()
  | count + 1 => do
    callHook perform kind definition
    callHooks perform kind definition count

/-! ## One pass of a notification -/

/-- What a sweep makes of a list of modifiers. -/
structure Sweep where
  kept : List Modifier
  released : List Modifier
  isChanged : Bool

/-- Delivers a trigger to the modifiers of a list that subscribe to it.  A modifier whose condition
changed is released if it calls for removal, and is otherwise set active or inactive. -/
def sweep (trigger : Trigger) (snapshot : StatSnapshot) : List Modifier → Sweep
  | [] => ⟨[], [], false⟩
  | modifier :: rest =>
    let others := sweep trigger snapshot rest
    match modifier.condition with
    | none => { others with kept := modifier :: others.kept }
    | some condition =>
      let (changed, condition) := condition.notify trigger snapshot
      let modifier := { modifier with condition := some condition }
      if !changed then { others with kept := modifier :: others.kept }
      else if condition.callsForRemoval then
        ⟨others.kept, modifier :: others.released, true⟩
      else
        let modifier := { modifier with isActive := !condition.callsForSuspension }
        ⟨modifier :: others.kept, others.released, true⟩

/-- Sweeps the lists of some stats; gives the stats whose modifiers changed. -/
def sweepStats (trigger : Trigger) (snapshot : StatSnapshot) : List Stat → Engine (List Stat)
  | [] => pure []
  | stat :: stats => do
    let actor ← Engine.actor
    match actor.modifiers.get? stat with
    | none => sweepStats trigger snapshot stats
    | some list =>
      let result := sweep trigger snapshot list
      setModifiers stat result.kept
      releaseModifiers result.released
      let others ← sweepStats trigger snapshot stats
      pure (if result.isChanged then stat :: others else others)

def dropEffect (id : String) : Engine Unit :=
  modifyActor fun actor => { actor with effects := actor.effects.erase id }

/-- Ends an effect: its exit hook runs if it was active. -/
def removeEffect (perform : Performer) (id : String) : Engine Bool := do
  let actor ← Engine.actor
  match actor.effects.get? id with
  | none => pure false
  | some effect =>
    dropEffect id
    if effect.isActive then callHook perform .exit effect.definition
    report [.effectRemoved id]
    pure true

/-- Calls the enter or exit hooks of effects that were resumed or suspended. -/
def toggleEffects (perform : Performer) : List EffectReaction → Engine Unit
  | [] => pure ()
  | reaction :: reactions => do
    if reaction.isToggled then
      callHook perform (if reaction.effect.isActive then .enter else .exit)
        reaction.effect.definition
    toggleEffects perform reactions

def fireIntervals (perform : Performer) : List EffectReaction → Engine Unit
  | [] => pure ()
  | reaction :: reactions => do
    callHooks perform .interval reaction.effect.definition reaction.intervals
    fireIntervals perform reactions

def removeEffects (perform : Performer) : List String → Engine Unit
  | [] => pure ()
  | id :: ids => do
    let _ ← removeEffect perform id
    removeEffects perform ids

def markDirty : Engine Unit := modifyActor fun actor => { actor with isDirty := true }

/-- Asks for another pass if the modifiers of any stat changed. -/
def markIfAny (changed : List Stat) : Engine Unit := unless changed.isEmpty do markDirty

/-- Delivers a trigger to all modifiers.  If any of them changed, another pass is due. -/
def sweepModifiers (trigger : Trigger) (snapshot : StatSnapshot) : Engine Unit := do
  let order ← nextOrder
  let changed ← sweepStats trigger snapshot order
  markIfAny changed
  settleStats changed

/-- Records the interval hooks that have to be called. -/
def recordDue (reactions : List EffectReaction) : Engine Unit :=
  modify fun world => { world with
    due := reactions.flatMap fun reaction =>
      List.replicate reaction.intervals reaction.effect.definition.id }

/-- Delivers a trigger to all effects; gives what has to follow. -/
def receiveEffects (trigger : Trigger) (snapshot : StatSnapshot) :
    Engine (Dictionary EffectReaction) := do
  let actor ← Engine.actor
  let reactions := actor.effects.mapValues fun _ effect => effect.receive trigger snapshot
  modifyActor fun actor =>
    { actor with effects := reactions.mapValues fun _ reaction => reaction.effect }
  recordDue reactions.values
  pure reactions

def expired (reactions : Dictionary EffectReaction) : List String :=
  (reactions.entries.filter fun entry => entry.2.isExpired).map (·.1)

/-- One pass: the modifiers first, then the effects, whose hooks run only after all of them have
received the trigger.  Everything looks at the snapshot from the start of the pass. -/
def pass (perform : Performer) (trigger : Trigger) : Engine Unit := do
  let actor ← Engine.actor
  sweepModifiers trigger actor.snapshot
  -- hooks may add and remove effects, so the reactions are fixed before the first hook runs
  let reactions ← receiveEffects trigger actor.snapshot
  toggleEffects perform reactions.values
  fireIntervals perform reactions.values
  removeEffects perform (expired reactions)

/-! ## Notifications -/

/-- Asks whether another pass is due, and takes the request back. -/
def takeDirty : Engine Bool :=
  modifyGet fun world =>
    (world.actor.isDirty, { world with actor := { world.actor with isDirty := false } })

def countCutOff : Engine Unit := modify fun world => { world with cutOffs := world.cutOffs + 1 }

/-- Makes further passes as long as they are due, at most so many. -/
def settle (perform : Performer) : Nat → Engine Unit
  | 0 => do
    if ← takeDirty then countCutOff
  | passes + 1 => do
    if ← takeDirty then
      pass perform .statsChanged
      settle perform passes

def setNotifying (isNotifying : Bool) : Engine Unit :=
  modifyActor fun actor => { actor with isNotifying := isNotifying }

/-- Delivers a trigger to all conditions.  During a notification it only asks for another pass. -/
def notify (perform : Performer) (trigger : Trigger) : Engine Unit := do
  let actor ← Engine.actor
  if actor.isNotifying then
    -- a hook or an earlier pass is under way, whose notification goes on for this one too
    markDirty
  else
    setNotifying true
    pass perform trigger
    settle perform (maxPasses - 1)
    setNotifying false

/-! ## Modifiers -/

/-- Puts a modifier behind those of operations up to its own. -/
def insertModifier (modifier : Modifier) : List Modifier → List Modifier
  | [] => [modifier]
  | other :: rest =>
    if other.op.rank ≤ modifier.op.rank then other :: insertModifier modifier rest
    else modifier :: other :: rest

/-- The list of a stat, or one from the pool. -/
def listOf (stat : Stat) : Engine (List Modifier) := do
  let actor ← Engine.actor
  match actor.modifiers.get? stat with
  | some list => pure list
  | none => takeList

def recordRegistration (modifier : Modifier) : Engine Unit :=
  modify fun world => { world with registrations := world.registrations ++ [modifier] }

def register (modifier : Modifier) : Engine Unit := do
  let list ← listOf modifier.stat
  setModifiers modifier.stat (insertModifier modifier list)
  recordRegistration modifier
  reportModifiers modifier.stat

def recordOffer : Engine Unit :=
  modify fun world => { world with
    pools := { world.pools with offered := world.pools.offered + 1 } }

/-- Registers a modifier under a source.  A modifier without source whose condition already calls
for removal is rejected. -/
def addModifier (perform : Performer) (modifier : Modifier) (source : Option String) :
    Engine Bool := do
  recordOffer
  let actor ← Engine.actor
  let modifier := (modifier.withSource source).refresh actor.snapshot
  if source.isNone && modifier.callsForRemoval then
    releaseModifiers [modifier]
    pure false
  else
    register modifier.enlist
    notify perform .statsChanged
    pure true

/-- Takes a modifier out of the list of a stat, whose other modifiers are given. -/
def unregister (stat : Stat) (modifier : Modifier) (others : List Modifier) : Engine Unit := do
  releaseModifiers [modifier]
  setModifiers stat others
  prune stat
  reportModifiers stat

/-- Removes the first modifier that a key names. -/
def removeModifier (perform : Performer) (stat : Stat) (op : ModifierOp) (value : Float32)
    (source : Option String) : Engine Bool := do
  let actor ← Engine.actor
  let list := actor.modifiersOf stat
  match list.find? (Modifier.isNamedBy op value source) with
  | none => pure false
  | some modifier =>
    unregister stat modifier (list.eraseP (Modifier.isNamedBy op value source))
    notify perform .statsChanged
    pure true

/-- Takes the modifiers of a source out of the lists of some stats, rebuilding each list on one
from the pool; gives how many were removed and from which stats. -/
def detachSource (source : String) : List Stat → Engine (Nat × List Stat)
  | [] => pure (0, [])
  | stat :: stats => do
    let actor ← Engine.actor
    match actor.modifiers.get? stat with
    | none => detachSource source stats
    | some list =>
      -- the kept modifiers move to a list from the pool, and the old list goes back empty
      let _ ← takeList
      let removed := list.filter (Modifier.isFrom source)
      releaseModifiers removed
      setModifiers stat (list.filter fun modifier => !modifier.isFrom source)
      releaseList []
      let (count, others) ← detachSource source stats
      pure (removed.length + count, if removed.isEmpty then others else stat :: others)

/-- Takes the modifiers of a source out of all lists; gives how many there were. -/
def withdrawSource (source : String) : Engine Nat := do
  let order ← nextOrder
  let (count, changed) ← detachSource source order
  settleStats changed
  pure count

def removeSource (perform : Performer) (source : String) : Engine Nat := do
  let count ← withdrawSource source
  if count > 0 then notify perform .statsChanged
  pure count

/-! ## Custom values and health -/

def setCustomValue (perform : Performer) (id : String) (value : Float32) : Engine Unit := do
  let actor ← Engine.actor
  let order ← nextOrder
  modifyActor fun actor => { actor with customValues := actor.customValues.insert id value }
  report ((order.filter (actor.readsCustomValue id)).map .statChanged)
  notify perform .statsChanged

def setHp (perform : Performer) (hp : Float32) : Engine Unit := do
  modifyActor fun actor => { actor with hp := Single.clamp hp 0 actor.hpLimit }
  notify perform .statsChanged

/-- Takes damage off health, leaving the given damage queued. -/
def sufferDamage (damage : Damage) (rest : List Damage) : Engine Unit := do
  let actor ← Engine.actor
  let hp := Single.clamp (actor.hp - damage.amount) 0 actor.hpLimit
  modifyActor fun actor => { actor with damage := rest, hp := hp }
  report [.damaged damage.amount hp damage.source]

def drainDamage (perform : Performer) : Nat → Engine Unit
  | 0 => do
    let actor ← Engine.actor
    if actor.damage.isEmpty then pure () else exhausted
  | fuel + 1 => do
    let actor ← Engine.actor
    match actor.damage with
    | [] => pure ()
    | damage :: rest =>
      sufferDamage damage rest
      notify perform (.damage damage.amount)
      drainDamage perform fuel

def process (perform : Performer) (fuel : Nat) (delta : Float32) : Engine Unit := do
  notify perform (.tick delta)
  drainDamage perform fuel

/-! ## Effects -/

def placeEffect (id : String) (effect : AppliedEffect) : Engine Unit :=
  modifyActor fun actor => { actor with effects := actor.effects.insert id effect }

/-- Applies an effect unless it is applied already. -/
def addEffect (perform : Performer) (id : String) : Engine (Except StatsError Unit) := do
  let actor ← Engine.actor
  if actor.effects.contains id then pure (.ok ())
  else
    match actor.catalog.get? id with
    | none => pure (.error (.unknownEffect id))
    | some definition =>
      let effect := AppliedEffect.start definition actor.snapshot
      placeEffect id effect
      report [.effectAdded id]
      if effect.isActive then callHook perform .enter definition
      pure (.ok ())

def refreshEffect (perform : Performer) (id : String) : Engine Bool := do
  let actor ← Engine.actor
  match actor.effects.get? id with
  | none => pure false
  | some effect =>
    let refreshed := effect.refresh actor.snapshot
    placeEffect id refreshed
    if refreshed.isActive != effect.isActive then
      callHook perform (if refreshed.isActive then .enter else .exit) effect.definition
    pure true

/-! ## Operations -/

/-- Performs an operation, given how the operations of hooks are performed and how much damage may
be applied. -/
def act (perform : Performer) (fuel : Nat) : Operation → Engine Response
  | .addBase stat value => do
    let _ ← takeModifier
    let added ← addModifier perform (Modifier.new stat .baseAdd value) (some "base")
    pure (.truth added)
  | .addModifier modifier source => do
    let added ← addModifier perform modifier source
    pure (.truth added)
  | .removeModifier stat op value source => do
    let removed ← removeModifier perform stat op value source
    pure (.truth removed)
  | .removeSource source => do
    let count ← removeSource perform source
    pure (.count count)
  | .modifiers stat => do
    let actor ← Engine.actor
    pure (.modifiers (actor.modifiersOf stat))
  | .calculate stat ignoreHidden => do
    let actor ← Engine.actor
    pure (.number (actor.calculate stat ignoreHidden))
  | .setCustomValue id value => do
    setCustomValue perform id value
    pure .done
  | .customValue id => do
    let actor ← Engine.actor
    pure (.optionalNumber (actor.customValues.get? id))
  | .setHp hp => do
    setHp perform hp
    pure .done
  | .hp => do
    let actor ← Engine.actor
    pure (.number actor.hp)
  | .isDead => do
    let actor ← Engine.actor
    pure (.truth actor.isDead)
  | .addEffect id => do
    let outcome ← addEffect perform id
    pure (.outcome outcome)
  | .refreshEffect id => do
    let refreshed ← refreshEffect perform id
    pure (.truth refreshed)
  | .removeEffect id => do
    let removed ← removeEffect perform id
    pure (.truth removed)
  | .hasEffect id => do
    let actor ← Engine.actor
    pure (.truth (actor.hasEffect id))
  | .effects => do
    let actor ← Engine.actor
    pure (.effects (actor.effects.entries.map fun entry => (entry.1, entry.2.isActive)))
  | .queueDamage damage => do
    modifyActor fun actor => { actor with damage := actor.damage ++ [damage] }
    pure .done
  | .process delta => do
    process perform fuel delta
    pure .done
  | .notify trigger => do
    notify perform trigger
    pure .done
  | .snapshot => do
    let actor ← Engine.actor
    pure (.snapshot actor.snapshot)
  | .takeEvents => do
    let actor ← Engine.actor
    modifyActor fun actor => { actor with events := [] }
    pure (.events actor.events)
  | .takePooled => do
    let modifier ← takeModifier
    pure (.modifier modifier)
  | .poolSizes => do
    let world ← get
    pure (.sizes world.pools.modifiers.size world.pools.lists.size)

/-- Performs an operation with a bound on the nesting of hooks and on the damage applied. -/
def perform : Nat → Performer
  | 0 => fun _ => exhausted
  | fuel + 1 => act (perform fuel) fuel

/-- Performs operations in order; the response of the last one counts. -/
def performAll (fuel : Nat) : List Operation → Engine Response
  | [] => pure .done
  | [operation] => perform fuel operation
  | operation :: operations => do
    let _ ← perform fuel operation
    performAll fuel operations

/-- Gives an actor up: its modifiers and lists go back to the pools. -/
def discard (world : World) : Pools :=
  let lists := world.actor.modifiers.toList.map (·.2)
  { world.pools with
    modifiers := world.pools.modifiers.releaseAll lists.flatten
    lists := world.pools.lists.releaseAll lists }

end Engine

end Roleplay
