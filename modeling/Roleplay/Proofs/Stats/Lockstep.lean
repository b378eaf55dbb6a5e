import Roleplay.Proofs.Stats.Moves
import Roleplay.Proofs.Stats.Ticks
import Roleplay.Proofs.Stats.Walk

/-! # Two runs of the engine

Relational statements: what two computations do alike from worlds that are related.

* `Engine.Matches` says that whatever the first computation returns, the second one returns too, and
  that the worlds stay related; there is one rule for every construct of the engine;
* `Engine.Likeness` is what a relation of worlds has to provide, `Engine.IsLocal` a change of the
  world that neither looks at nor touches what related worlds may differ in;
* `Engine.Likeness.act` carries a relation from the hooks to the operations.
-/

namespace Roleplay

/-- What the owner of an actor is told, and what that depends on. -/
structure Telling where
  events : List Event
  orders : Nat → VisitOrder
  walks : Nat
  reports : List Event

/-- Health, and the damage that waits to be taken off it. -/
def Actor.health (actor : Actor) : Float32 × List Damage := (actor.hp, actor.damage)

/-- The operations that may change health or queue damage. -/
def Operation.concernsHealth : Operation → Bool
  | .setHp _ | .queueDamage _ | .process _ => true
  | _ => false

namespace World

def telling (world : World) : Telling :=
  ⟨world.actor.events, world.orders, world.walks, world.reports⟩

def retold (world : World) (telling : Telling) : World :=
  { world with
    actor := { world.actor with events := telling.events }
    orders := telling.orders
    walks := telling.walks
    reports := telling.reports }

@[simp] theorem retold_telling {world : World} : world.retold world.telling = world := rfl

@[simp] theorem telling_retold {world : World} {telling : Telling} :
    (world.retold telling).telling = telling := rfl

@[simp] theorem retold_retold {world : World} {telling later : Telling} :
    (world.retold telling).retold later = world.retold later := rfl

end World

namespace Engine

variable {α β : Type} {relation : World → World → Prop}

def Matches (relation : World → World → Prop) (first second : Engine α) : Prop :=
  ∀ world world' result after, relation world world' → first.run world = some (result, after) →
    ∃ after', second.run world' = some (result, after') ∧ relation after after'

/-! ## Rules -/

theorem matches_pure {result : α} : Matches relation (pure result) (pure result) := by
  intro world world' value after related returned
  obtain ⟨rfl, rfl⟩ := Prod.mk.inj (Option.some.inj returned)
  exact ⟨world', rfl, related⟩

theorem matches_exhausted {second : Engine α} : Matches relation exhausted second :=
  fun _ _ _ _ _ returned => absurd returned (by simp [exhausted, StateT.run])

/-- What is known of the value that the first computation returns may be used in what follows. -/
theorem Matches.bind_of {first first' : Engine α} {next next' : α → Engine β} (known : α → Prop)
    (same : Matches relation first first')
    (ensures : ∀ world world' value after, relation world world' →
      first.run world = some (value, after) → known value)
    (continues : ∀ value, known value → Matches relation (next value) (next' value)) :
    Matches relation (first >>= next) (first' >>= next') := by
  intro world world' result after related returned
  obtain ⟨value, between, ran, rest⟩ := run_bind_eq_some.1 returned
  obtain ⟨between', ran', stillRelated⟩ := same world world' value between related ran
  obtain ⟨after', rest', ends⟩ :=
    continues value (ensures world world' value between related ran)
      between between' result after stillRelated rest
  exact ⟨after', run_bind_eq_some.2 ⟨value, between', ran', rest'⟩, ends⟩

theorem Matches.bind {first first' : Engine α} {next next' : α → Engine β}
    (same : Matches relation first first')
    (continues : ∀ value, Matches relation (next value) (next' value)) :
    Matches relation (first >>= next) (first' >>= next') :=
  bind_of (fun _ => True) same (fun _ _ _ _ _ _ => trivial) fun value _ => continues value

theorem matches_runProgram {perform perform' : Performer}
    (matching : ∀ operation, Matches relation (perform operation) (perform' operation))
    (program : Program) :
    Matches relation (runProgram perform program) (runProgram perform' program) := by
  induction program with
  | done => exact matches_pure
  | step operation next inductionHypothesis =>
    exact (matching operation).bind inductionHypothesis

/-- Related programs that are run under related performers, one operation after the other. -/
theorem matches_ofList {perform perform' : Performer} {operations : List Operation}
    (matching : ∀ operation ∈ operations,
      Matches relation (perform operation) (perform' operation)) :
    Matches relation (runProgram perform (Program.ofList operations))
      (runProgram perform' (Program.ofList operations)) := by
  induction operations with
  | nil => exact matches_pure
  | cons operation rest inductionHypothesis =>
    exact (matching operation (.head _)).bind fun _ =>
      inductionHypothesis fun other member => matching other (.tail _ member)

/-! ## One run -/

theorem matches_self {engine : Engine α} : Matches Eq engine engine := by
  rintro world _ result after rfl returned
  exact ⟨after, returned, rfl⟩

/-- A world that meets a condition, beside itself. -/
def Same (condition : World → Prop) (world world' : World) : Prop :=
  world' = world ∧ condition world

theorem matches_of_keeps {condition : World → Prop} {engine : Engine α}
    (keeps : Keeps condition engine) : Matches (Same condition) engine engine := by
  rintro world _ result after ⟨rfl, start⟩ returned
  exact ⟨after, returned, rfl, keeps _ result after start returned⟩

theorem keeps_of_matches {condition : World → Prop} {engine : Engine α}
    (matching : Matches (Same condition) engine engine) : Keeps condition engine := by
  intro world result after start returned
  obtain ⟨_, _, _, ends⟩ := matching world world result after ⟨rfl, start⟩ returned
  exact ends

/-! ## Hooks -/

section Hooks

variable {isAllowed : EffectDefinition → Prop} {perform perform' : Performer}
  (hooks : ∀ kind definition, isAllowed definition →
    Matches relation (callHook perform kind definition) (callHook perform' kind definition))

include hooks

theorem matches_callHooks {kind : HookKind} {definition : EffectDefinition}
    (allowed : isAllowed definition) {count : Nat} :
    Matches relation (callHooks perform kind definition count)
      (callHooks perform' kind definition count) := by
  induction count with
  | zero => exact matches_pure
  | succ count inductionHypothesis =>
    exact (hooks kind definition allowed).bind fun _ => inductionHypothesis

theorem matches_toggleEffects {reactions : List EffectReaction}
    (allowed : ∀ reaction ∈ reactions, isAllowed reaction.effect.definition) :
    Matches relation (toggleEffects perform reactions) (toggleEffects perform' reactions) := by
  induction reactions with
  | nil => exact matches_pure
  | cons reaction reactions inductionHypothesis =>
    have others := inductionHypothesis fun other member => allowed other (.tail _ member)
    simp only [toggleEffects]
    split
    · exact (hooks _ _ (allowed reaction (.head _))).bind fun _ => others
    · exact others

theorem matches_fireIntervals {reactions : List EffectReaction}
    (allowed : ∀ reaction ∈ reactions, isAllowed reaction.effect.definition) :
    Matches relation (fireIntervals perform reactions) (fireIntervals perform' reactions) := by
  induction reactions with
  | nil => exact matches_pure
  | cons reaction reactions inductionHypothesis =>
    exact (matches_callHooks hooks (allowed reaction (.head _))).bind fun _ =>
      inductionHypothesis fun other member => allowed other (.tail _ member)

end Hooks

/-! ## Likenesses -/

/-- Computations that set health and the queue of damage, by what the actor is but for its events,
keep the worlds related. -/
def TakesHealth (relation : World → World → Prop) : Prop :=
  ∀ change : Actor → Float32 × List Damage,
    (∀ actor events, change { actor with events := events } = change actor) →
    Matches relation
      (modifyActor fun actor =>
        { actor with hp := (change actor).1, damage := (change actor).2 })
      (modifyActor fun actor =>
        { actor with hp := (change actor).1, damage := (change actor).2 })

/-- The change does the same whatever is told, tells nothing, leaves health alone, and puts no
effects into place but allowed ones. -/
structure IsLocal (isAllowed : EffectDefinition → Prop) (change : World → α × World) : Prop where
  retold : ∀ world telling, change (world.retold telling) =
    ((change world).1, (change world).2.retold telling)
  catalog : ∀ world, (change world).2.actor.catalog = world.actor.catalog
  health : ∀ world, (change world).2.actor.health = world.actor.health
  effects : ∀ world, (∀ id, ∀ effect ∈ world.actor.effects.get? id, isAllowed effect.definition) →
    ∀ id, ∀ effect ∈ (change world).2.actor.effects.get? id, isAllowed effect.definition

/-- Related worlds differ in no more than what is told, their effects are allowed, and what depends
on the orders of walks keeps them related. -/
structure Likeness (relation : World → World → Prop) (isAllowed : EffectDefinition → Prop) :
    Prop where
  actor : ∀ world world', relation world world' →
    world'.actor = { world.actor with events := world'.actor.events }
  catalog : ∀ world world', relation world world' →
    ∀ id, ∀ definition ∈ world.actor.catalog.get? id, isAllowed definition
  effects : ∀ world world', relation world world' →
    ∀ id, ∀ effect ∈ world.actor.effects.get? id, isAllowed effect.definition
  modifyGet : ∀ {α : Type} (change : World → α × World), IsLocal isAllowed change →
    Matches relation (modifyGet change : Engine α) (modifyGet change)
  report : ∀ events, Matches relation (report events) (report events)
  sweepModifiers : ∀ trigger snapshot,
    Matches relation (sweepModifiers trigger snapshot) (sweepModifiers trigger snapshot)
  withdrawSource : ∀ source, Matches relation (withdrawSource source) (withdrawSource source)
  replaceCustomValue : ∀ id value,
    Matches relation (replaceCustomValue id value) (replaceCustomValue id value)

namespace Likeness

variable {isAllowed : EffectDefinition → Prop} (likeness : Likeness relation isAllowed)

include likeness

/-- Reading the actor, whose events are not looked at. -/
theorem actor_bind {next next' : Actor → Engine β}
    (blind : ∀ actor events, next' { actor with events := events } = next' actor)
    (continues : ∀ world world', relation world world' →
      Matches relation (next world.actor) (next' world.actor)) :
    Matches relation (Engine.actor >>= next) (Engine.actor >>= next') := by
  intro world world' result after related returned
  obtain ⟨after', returned', ends⟩ :=
    continues world world' related world world' result after related returned
  refine ⟨after', ?_, ends⟩
  rw [run_actor_bind, likeness.actor world world' related, blind]
  exact returned'

theorem modify {change : World → World}
    (isLocal : IsLocal isAllowed fun world => ((), change world)) :
    Matches relation (modify change : Engine Unit) (modify change) :=
  likeness.modifyGet _ isLocal

/-- A change of the actor that leaves its catalog, its health and its effects alone. -/
theorem modifyActor {change : Actor → Actor}
    (blind : ∀ actor events,
      change { actor with events := events } = { change actor with events := events })
    (catalog : ∀ actor, (change actor).catalog = actor.catalog)
    (health : ∀ actor, (change actor).health = actor.health)
    (effects : ∀ actor, (change actor).effects = actor.effects) :
    Matches relation (modifyActor change) (modifyActor change) := by
  refine likeness.modify ⟨fun world telling => ?_, fun world => catalog world.actor,
    fun world => health world.actor, fun world allowed => ?_⟩
  · exact congrArg (fun actor => ((), { world.retold telling with actor := actor }))
      (blind world.actor telling.events)
  · exact (effects world.actor).symm ▸ allowed

/-! ## Changes that related worlds take alike -/

theorem takeModifier : Matches relation takeModifier takeModifier :=
  likeness.modifyGet _ ⟨fun _ _ => rfl, fun _ => rfl, fun _ => rfl, fun _ allowed => allowed⟩

theorem releaseModifiers {modifiers : List Modifier} :
    Matches relation (releaseModifiers modifiers) (releaseModifiers modifiers) :=
  likeness.modify ⟨fun _ _ => rfl, fun _ => rfl, fun _ => rfl, fun _ allowed => allowed⟩

theorem takeList : Matches relation takeList takeList :=
  likeness.modifyGet _ ⟨fun _ _ => rfl, fun _ => rfl, fun _ => rfl, fun _ allowed => allowed⟩

theorem releaseList {list : List Modifier} :
    Matches relation (releaseList list) (releaseList list) :=
  likeness.modify ⟨fun _ _ => rfl, fun _ => rfl, fun _ => rfl, fun _ allowed => allowed⟩

theorem recordCall {kind : HookKind} {id : String} :
    Matches relation (recordCall kind id) (recordCall kind id) :=
  likeness.modifyGet _ ⟨fun _ _ => rfl, fun _ => rfl, fun _ => rfl, fun _ allowed => allowed⟩

theorem recordRegistration {modifier : Modifier} :
    Matches relation (recordRegistration modifier) (recordRegistration modifier) :=
  likeness.modify ⟨fun _ _ => rfl, fun _ => rfl, fun _ => rfl, fun _ allowed => allowed⟩

theorem recordOffer : Matches relation recordOffer recordOffer :=
  likeness.modify ⟨fun _ _ => rfl, fun _ => rfl, fun _ => rfl, fun _ allowed => allowed⟩

theorem countCutOff : Matches relation countCutOff countCutOff :=
  likeness.modify ⟨fun _ _ => rfl, fun _ => rfl, fun _ => rfl, fun _ allowed => allowed⟩

theorem markDirty : Matches relation markDirty markDirty :=
  likeness.modifyActor (fun _ _ => rfl) (fun _ => rfl) (fun _ => rfl) fun _ => rfl

theorem setNotifying {isNotifying : Bool} :
    Matches relation (setNotifying isNotifying) (setNotifying isNotifying) :=
  likeness.modifyActor (fun _ _ => rfl) (fun _ => rfl) (fun _ => rfl) fun _ => rfl

theorem setModifiers {stat : Stat} {list : List Modifier} :
    Matches relation (setModifiers stat list) (setModifiers stat list) :=
  likeness.modifyActor (fun _ _ => rfl) (fun _ => rfl) (fun _ => rfl) fun _ => rfl

theorem takeDirty : Matches relation takeDirty takeDirty :=
  likeness.modifyGet _ ⟨fun _ _ => rfl, fun _ => rfl, fun _ => rfl, fun _ allowed => allowed⟩

theorem placeEffect {id : String} {effect : AppliedEffect}
    (allowed : isAllowed effect.definition) :
    Matches relation (placeEffect id effect) (placeEffect id effect) := by
  refine likeness.modify ⟨fun _ _ => rfl, fun _ => rfl, fun _ => rfl, fun world others => ?_⟩
  intro other applied found
  simp only [Dictionary.get?_insert, Option.mem_def] at found
  split at found
  · obtain rfl := Option.some.inj found
    exact allowed
  · exact others other applied found

theorem dropEffect {id : String} : Matches relation (dropEffect id) (dropEffect id) := by
  refine likeness.modify ⟨fun _ _ => rfl, fun _ => rfl, fun _ => rfl, fun world others => ?_⟩
  intro other applied found
  simp only [Dictionary.get?_erase, Option.mem_def] at found
  split at found
  · cases found
  · exact others other applied found

theorem receiveEffects {trigger : Trigger} {snapshot : StatSnapshot} :
    Matches relation (receiveEffects trigger snapshot) (receiveEffects trigger snapshot) := by
  refine likeness.modifyGet (fun world =>
    (world.actor.effects.mapValues fun _ effect => effect.receive trigger snapshot,
      { world with
        actor := { world.actor with
          effects := (world.actor.effects.mapValues fun _ effect =>
            effect.receive trigger snapshot).mapValues fun _ reaction => reaction.effect }
        due := (world.actor.effects.mapValues fun _ effect =>
          effect.receive trigger snapshot).values.flatMap fun reaction =>
            List.replicate reaction.intervals reaction.effect.definition.id }))
    ⟨fun _ _ => rfl, fun _ => rfl, fun _ => rfl, fun world others => ?_⟩
  intro id effect found
  simp only [Dictionary.get?_mapValues, Option.map_map, Option.mem_def,
    Option.map_eq_some_iff] at found
  obtain ⟨earlier, applied, rfl⟩ := found
  rw [Function.comp_apply, AppliedEffect.definition_receive]
  exact others id earlier applied

/-- The reactions of a pass are those of effects that are allowed. -/
theorem allowed_of_receiveEffects {trigger : Trigger} {snapshot : StatSnapshot}
    {world world' after : World} {reactions : Dictionary EffectReaction}
    (related : relation world world')
    (returned : (Engine.receiveEffects trigger snapshot).run world = some (reactions, after)) :
    ∀ reaction ∈ reactions.values, isAllowed reaction.effect.definition := by
  obtain ⟨rfl, _⟩ := receiveEffects_ensures world reactions after rfl returned
  intro reaction member
  obtain ⟨entry, inEntries, rfl⟩ := List.mem_map.1 member
  obtain ⟨effect, applied, same⟩ := mem_reactionsOf inEntries
  rw [← same, AppliedEffect.definition_receive]
  exact likeness.effects world world' related entry.1 effect applied

/-! ## The table of modifiers -/

theorem prune {stat : Stat} : Matches relation (prune stat) (prune stat) := by
  refine likeness.actor_bind (fun _ _ => rfl) fun world world' related => ?_
  split
  · exact Matches.bind
      (likeness.modifyActor (fun _ _ => rfl) (fun _ => rfl) (fun _ => rfl) fun _ => rfl)
      fun _ => likeness.releaseList
  · exact matches_pure

theorem reportModifiers {stat : Stat} :
    Matches relation (reportModifiers stat) (reportModifiers stat) :=
  likeness.report _

theorem register {modifier : Modifier} :
    Matches relation (register modifier) (register modifier) := by
  have lists : Matches relation (listOf modifier.stat) (listOf modifier.stat) := by
    refine likeness.actor_bind (fun _ _ => rfl) fun world world' related => ?_
    split
    · exact matches_pure
    · exact likeness.takeList
  exact lists.bind fun _ => likeness.setModifiers.bind fun _ =>
    likeness.recordRegistration.bind fun _ => likeness.reportModifiers

theorem unregister {stat : Stat} {modifier : Modifier} {others : List Modifier} :
    Matches relation (unregister stat modifier others) (unregister stat modifier others) :=
  likeness.releaseModifiers.bind fun _ => likeness.setModifiers.bind fun _ =>
    likeness.prune.bind fun _ => likeness.reportModifiers

theorem sufferDamage {damage : Damage} {rest : List Damage} (health : TakesHealth relation) :
    Matches relation (sufferDamage damage rest) (sufferDamage damage rest) := by
  refine likeness.actor_bind (fun _ _ => rfl) fun world world' related => ?_
  have suffers := health (fun _ =>
    (Single.clamp (world.actor.hp - damage.amount) 0 world.actor.hpLimit, rest)) fun _ _ => rfl
  exact suffers.bind fun _ => likeness.report _

/-! ## Notifications -/

section Performers

variable {perform perform' : Performer}

/-- A hook matches if its program does, whatever hooks were called before. -/
theorem callHook {kind : HookKind} {definition : EffectDefinition}
    (programs : ∀ earlier, Matches relation
      (runProgram perform (definition.behavior.program kind definition.toEffectSpec earlier))
      (runProgram perform' (definition.behavior.program kind definition.toEffectSpec earlier))) :
    Matches relation (callHook perform kind definition) (callHook perform' kind definition) :=
  likeness.recordCall.bind programs

variable (hooks : ∀ kind definition, isAllowed definition →
  Matches relation (Engine.callHook perform kind definition)
    (Engine.callHook perform' kind definition))

include hooks

theorem removeEffect {id : String} :
    Matches relation (removeEffect perform id) (removeEffect perform' id) := by
  refine likeness.actor_bind (fun _ _ => rfl) fun world world' related => ?_
  cases applied : world.actor.effects.get? id with
  | none => exact matches_pure
  | some effect =>
    have allowed := likeness.effects world world' related id effect applied
    refine likeness.dropEffect.bind fun _ => ?_
    dsimp only
    split
    · exact (hooks _ _ allowed).bind fun _ => (likeness.report _).bind fun _ => matches_pure
    · exact (likeness.report _).bind fun _ => matches_pure

theorem removeEffects {ids : List String} :
    Matches relation (removeEffects perform ids) (removeEffects perform' ids) := by
  induction ids with
  | nil => exact matches_pure
  | cons id ids inductionHypothesis =>
    exact (likeness.removeEffect hooks).bind fun _ => inductionHypothesis

theorem pass {trigger : Trigger} :
    Matches relation (pass perform trigger) (pass perform' trigger) := by
  refine likeness.actor_bind (fun _ _ => rfl) fun world world' related => ?_
  refine (likeness.sweepModifiers _ _).bind fun _ => ?_
  refine Matches.bind_of (fun reactions => ∀ reaction ∈ reactions.values,
    isAllowed reaction.effect.definition) likeness.receiveEffects
    (fun _ _ _ _ related received => likeness.allowed_of_receiveEffects related received)
    fun reactions allowed => ?_
  exact (matches_toggleEffects hooks allowed).bind fun _ =>
    (matches_fireIntervals hooks allowed).bind fun _ => likeness.removeEffects hooks

theorem settle {passes : Nat} :
    Matches relation (settle perform passes) (settle perform' passes) := by
  induction passes with
  | zero =>
    refine likeness.takeDirty.bind fun isDirty => ?_
    cases isDirty with
    | false => exact matches_pure
    | true => exact likeness.countCutOff
  | succ passes inductionHypothesis =>
    refine likeness.takeDirty.bind fun isDirty => ?_
    cases isDirty with
    | false => exact matches_pure
    | true => exact (likeness.pass hooks).bind fun _ => inductionHypothesis

theorem notify {trigger : Trigger} :
    Matches relation (notify perform trigger) (notify perform' trigger) := by
  refine likeness.actor_bind (fun _ _ => rfl) fun world world' related => ?_
  split
  · exact likeness.markDirty
  · exact likeness.setNotifying.bind fun _ => (likeness.pass hooks).bind fun _ =>
      (likeness.settle hooks).bind fun _ => likeness.setNotifying

/-! ## Operations -/

theorem addModifier {modifier : Modifier} {source : Option String} :
    Matches relation (addModifier perform modifier source)
      (addModifier perform' modifier source) := by
  refine likeness.recordOffer.bind fun _ =>
    likeness.actor_bind (fun _ _ => rfl) fun world world' related => ?_
  dsimp only
  split
  · exact likeness.releaseModifiers.bind fun _ => matches_pure
  · exact likeness.register.bind fun _ => (likeness.notify hooks).bind fun _ => matches_pure

theorem removeModifier {stat : Stat} {op : ModifierOp} {value : Float32}
    {source : Option String} :
    Matches relation (removeModifier perform stat op value source)
      (removeModifier perform' stat op value source) := by
  refine likeness.actor_bind (fun _ _ => rfl) fun world world' related => ?_
  dsimp only
  split
  · exact matches_pure
  · exact likeness.unregister.bind fun _ => (likeness.notify hooks).bind fun _ => matches_pure

theorem removeSource {source : String} :
    Matches relation (removeSource perform source) (removeSource perform' source) := by
  refine (likeness.withdrawSource source).bind fun count => ?_
  dsimp only
  split
  · exact (likeness.notify hooks).bind fun _ => matches_pure
  · exact matches_pure

theorem setHp {hp : Float32} (health : TakesHealth relation) :
    Matches relation (setHp perform hp) (setHp perform' hp) := by
  have sets := health (fun actor => (Single.clamp hp 0 actor.hpLimit, actor.damage)) fun _ _ => rfl
  exact sets.bind fun _ => likeness.notify hooks

theorem drainDamage {fuel : Nat} (health : TakesHealth relation) :
    Matches relation (drainDamage perform fuel) (drainDamage perform' fuel) := by
  induction fuel with
  | zero =>
    refine likeness.actor_bind (fun _ _ => rfl) fun world world' related => ?_
    split
    · exact matches_pure
    · exact matches_exhausted
  | succ fuel inductionHypothesis =>
    refine likeness.actor_bind (fun _ _ => rfl) fun world world' related => ?_
    split
    · exact matches_pure
    · exact (likeness.sufferDamage health).bind fun _ => (likeness.notify hooks).bind fun _ =>
        inductionHypothesis

theorem addEffect {id : String} :
    Matches relation (addEffect perform id) (addEffect perform' id) := by
  refine likeness.actor_bind (fun _ _ => rfl) fun world world' related => ?_
  split
  · exact matches_pure
  · cases known : world.actor.catalog.get? id with
    | none => exact matches_pure
    | some definition =>
      have allowed := likeness.catalog world world' related id definition known
      refine (likeness.placeEffect allowed).bind fun _ => (likeness.report _).bind fun _ => ?_
      split
      · exact (hooks _ _ allowed).bind fun _ => matches_pure
      · exact matches_pure

theorem refreshEffect {id : String} :
    Matches relation (refreshEffect perform id) (refreshEffect perform' id) := by
  refine likeness.actor_bind (fun _ _ => rfl) fun world world' related => ?_
  cases applied : world.actor.effects.get? id with
  | none => exact matches_pure
  | some effect =>
    have allowed := likeness.effects world world' related id effect applied
    dsimp only
    refine Matches.bind (likeness.placeEffect allowed) fun _ => ?_
    split
    · exact (hooks _ _ allowed).bind fun _ => matches_pure
    · exact matches_pure

/-- What hooks do alike, operations do alike; the one exception tells what related worlds may
differ in. -/
theorem act {fuel : Nat} {operation : Operation} (blind : operation ≠ .takeEvents)
    (health : operation.concernsHealth = true → TakesHealth relation) :
    Matches relation (act perform fuel operation) (act perform' fuel operation) := by
  cases operation with
  | addBase stat value =>
    exact likeness.takeModifier.bind fun _ => (likeness.addModifier hooks).bind fun _ =>
      matches_pure
  | addModifier modifier source => exact (likeness.addModifier hooks).bind fun _ => matches_pure
  | removeModifier stat op value source =>
    exact (likeness.removeModifier hooks).bind fun _ => matches_pure
  | removeSource source => exact (likeness.removeSource hooks).bind fun _ => matches_pure
  | setCustomValue id value =>
    have sets : Matches relation (setCustomValue perform id value)
        (setCustomValue perform' id value) := by
      rw [setCustomValue_eq, setCustomValue_eq]
      exact (likeness.replaceCustomValue id value).bind fun _ => likeness.notify hooks
    exact sets.bind fun _ => matches_pure
  | setHp hp => exact (likeness.setHp hooks (health rfl)).bind fun _ => matches_pure
  | addEffect id => exact (likeness.addEffect hooks).bind fun _ => matches_pure
  | refreshEffect id => exact (likeness.refreshEffect hooks).bind fun _ => matches_pure
  | removeEffect id => exact (likeness.removeEffect hooks).bind fun _ => matches_pure
  | queueDamage damage =>
    have queues := health rfl (fun actor => (actor.hp, actor.damage ++ [damage])) fun _ _ => rfl
    exact queues.bind fun _ => matches_pure
  | process delta =>
    exact ((likeness.notify hooks).bind fun _ =>
      likeness.drainDamage hooks (health rfl)).bind fun _ => matches_pure
  | notify trigger => exact (likeness.notify hooks).bind fun _ => matches_pure
  | takeEvents => exact absurd rfl blind
  | takePooled => exact likeness.takeModifier.bind fun _ => matches_pure
  | modifiers | calculate | customValue | hp | isDead | hasEffect | effects | snapshot =>
    exact likeness.actor_bind (fun _ _ => rfl) fun _ _ _ => matches_pure
  | poolSizes =>
    exact likeness.modifyGet (fun world =>
        (Response.sizes world.pools.modifiers.size world.pools.lists.size, world))
      ⟨fun _ _ => rfl, fun _ => rfl, fun _ => rfl, fun _ allowed => allowed⟩

end Performers

end Likeness

end Engine

end Roleplay
