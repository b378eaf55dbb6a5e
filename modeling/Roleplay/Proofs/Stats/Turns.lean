import Mathlib.Data.List.Basic
import Roleplay.Proofs.Stats.Currency
import Roleplay.Proofs.Stats.Visits
import Roleplay.Proofs.Stats.Walk

/-! # Hooks in turn

The enter and exit hooks of an effect are called in turn, enter first, and between the two the
effect is active.  A pass turns the activity of effects before it calls their hooks, so in between
some effects are active without having entered, or have entered without being active.

* `HookCall.switches` are the enter and exit calls of an effect, and `HookCall.AreInTurn` says that
  they alternate;
* `Course.Attends` compares the activity of effects with the hooks that were called, but for the
  effects whose hooks are still to be called;
* `Course.Attends.called` is one call, `Course.Attends.changed` and `Course.Attends.turned` are a
  change of one effect, `Course.Attends.received` is a trigger that all effects receive;
* `Engine.SparesCourse` says of a computation that it has to do with neither effects nor hooks.
-/

namespace Roleplay

/-! ## Calls -/

namespace HookCall

/-- The enter and exit calls of an effect, in order. -/
def switches (id : String) (calls : List HookCall) : List HookKind :=
  (calls.filter fun call => call.effect = id && call.kind != .interval).map HookCall.kind

/-- Enter and exit in turn, enter first. -/
def AreInTurn (kinds : List HookKind) : Prop :=
  ∀ i, ∀ kind ∈ kinds[i]?, kind = if i % 2 = 0 then .enter else .exit

/-- Whether an enter hook was called whose exit hook was not. -/
def isEntered (id : String) (calls : List HookCall) : Bool :=
  (switches id calls).length % 2 = 1

/-- The hook that is called when an effect has become active, or no longer is. -/
def switchOf (isActive : Bool) : HookKind := if isActive then .enter else .exit

variable {id other : String} {kind : HookKind} {calls : List HookCall} {isActive : Bool}

theorem switchOf_ne_interval : switchOf isActive ≠ .interval := by
  cases isActive <;> simp [switchOf]

theorem switches_append_of_ne (different : other ≠ id) :
    switches id (calls ++ [⟨other, kind⟩]) = switches id calls := by
  simp [switches, different]

theorem switches_append_interval :
    switches id (calls ++ [⟨other, .interval⟩]) = switches id calls := by
  simp [switches]

theorem switches_append_switch : switches id (calls ++ [⟨id, switchOf isActive⟩]) =
    switches id calls ++ [switchOf isActive] := by
  simp [switches, switchOf_ne_interval]

theorem isEntered_append_switch :
    isEntered id (calls ++ [⟨id, switchOf isActive⟩]) = !isEntered id calls := by
  rw [isEntered, isEntered, switches_append_switch, List.length_append, List.length_singleton]
  rcases Nat.mod_two_eq_zero_or_one (switches id calls).length with even | odd
  · simp [Nat.add_mod, even]
  · simp [Nat.add_mod, odd]

/-- One more call in turn. -/
theorem AreInTurn.append (inTurn : AreInTurn (switches id calls))
    (entered : isEntered id calls = !isActive) :
    AreInTurn (switches id (calls ++ [⟨id, switchOf isActive⟩])) := by
  rw [switches_append_switch]
  intro i kind found
  rcases Nat.lt_trichotomy i (switches id calls).length with earlier | last | beyond
  · rw [List.getElem?_append_left earlier] at found
    exact inTurn i kind found
  · -- whether the effect has entered is the parity of the number of calls so far
    subst last
    simp only [List.getElem?_concat_length, Option.mem_def, Option.some.injEq] at found
    subst found
    cases isActive with
    | true =>
      have even : ¬(switches id calls).length % 2 = 1 := by simpa [isEntered] using entered
      have even : (switches id calls).length % 2 = 0 := by omega
      simp [switchOf, even]
    | false =>
      have odd : (switches id calls).length % 2 = 1 := by simpa [isEntered] using entered
      simp [switchOf, odd]
  · have none : (switches id calls ++ [switchOf isActive])[i]? = none := by
      rw [List.getElem?_eq_none_iff, List.length_append, List.length_singleton]
      omega
    rw [none] at found
    cases found

end HookCall

/-! ## Effects and their hooks -/

namespace Course

/-- Whether an effect is applied and active. -/
def isActive (course : Course) (id : String) : Bool :=
  (course.effects.get? id).any AppliedEffect.isActive

theorem isActive_of_applied {course : Course} {id : String} {effect : AppliedEffect}
    (applied : course.effects.get? id = some effect) : course.isActive id = effect.isActive := by
  rw [isActive, applied, Option.any_some]

def withEffects (course : Course) (effects : Dictionary AppliedEffect) : Course :=
  { course with effects := effects }

/-- A hook of an effect is called. -/
def called (course : Course) (kind : HookKind) (id : String) : Course :=
  { course with
    calls := course.calls ++ [⟨id, kind⟩]
    strays :=
      if kind = .interval && !course.isActive id then course.strays ++ [id] else course.strays
    due := if kind = .interval then course.due.erase id else course.due }

/-- An effect is active just if it has entered and not exited, but for the effects whose enter or
exit hooks are still to be called, each with the activity that it has now.  Effects whose interval
hooks are still to be called are active. -/
structure Attends (switching : List (String × Bool)) (firing : List String) (course : Course) :
    Prop where
  catalog : ∀ id, ∀ definition ∈ course.catalog.get? id, definition.id = id
  effects : ∀ id, ∀ effect ∈ course.effects.get? id, effect.definition.id = id
  inTurn : ∀ id, HookCall.AreInTurn (HookCall.switches id course.calls)
  strays : course.strays = []
  settled : ∀ id, (∀ isActive, (id, isActive) ∉ switching) →
    HookCall.isEntered id course.calls = course.isActive id
  switching : ∀ id isActive, (id, isActive) ∈ switching →
    course.isActive id = isActive ∧ HookCall.isEntered id course.calls = !isActive
  due : course.due = firing
  firing : ∀ id ∈ firing, course.isActive id = true

/-- No hook of an effect is still to be called. -/
structure IsFree (firing : List String) (id : String) (course : Course) : Prop where
  settled : HookCall.isEntered id course.calls = course.isActive id
  silent : id ∉ firing

namespace Attends

variable {course : Course} {switching : List (String × Bool)} {firing : List String} {id : String}
  {isActive : Bool}

theorem isFree (attends : course.Attends [] []) : course.IsFree [] id :=
  ⟨attends.settled id fun _ => List.not_mem_nil, List.not_mem_nil⟩

/-- Where the hooks were called as the activity says, no enter or exit hook is to be called. -/
theorem notMem (attends : course.Attends switching firing) (free : course.IsFree firing id) :
    (id, isActive) ∉ switching := by
  intro member
  obtain ⟨active, entered⟩ := attends.switching id isActive member
  rw [free.settled, active] at entered
  cases isActive with
  | false => cases entered
  | true => cases entered

/-- The enter or exit hook of an effect is called that was to be called. -/
theorem called (attends : course.Attends ((id, isActive) :: switching) firing)
    (once : ∀ isActive, (id, isActive) ∉ switching) :
    (course.called (HookCall.switchOf isActive) id).Attends switching firing := by
  obtain ⟨active, entered⟩ := attends.switching id isActive (.head _)
  -- the calls of all other effects are as they were
  refine ⟨attends.catalog, attends.effects, fun other => ?_, ?_, fun other settled => ?_,
    fun other turned member => ?_, ?_, attends.firing⟩
  · by_cases same : id = other
    · subst same
      exact (attends.inTurn id).append entered
    · rw [Course.called, HookCall.switches_append_of_ne same]
      exact attends.inTurn other
  · simp [Course.called, HookCall.switchOf_ne_interval, attends.strays]
  · by_cases same : id = other
    · subst same
      rw [Course.called, HookCall.isEntered_append_switch, entered, Bool.not_not]
      exact active.symm
    · have before := attends.settled other fun turned member => by
        rcases List.mem_cons.1 member with head | tail
        · exact same (Prod.mk.inj head).1.symm
        · exact settled turned tail
      rw [HookCall.isEntered, Course.called, HookCall.switches_append_of_ne same]
      exact before
  · have different : id ≠ other := by
      rintro rfl
      exact once turned member
    rw [HookCall.isEntered, Course.called, HookCall.switches_append_of_ne different]
    exact attends.switching other turned (.tail _ member)
  · simp [Course.called, HookCall.switchOf_ne_interval, attends.due]

/-- An interval hook is called that was to be called. -/
theorem called_interval (attends : course.Attends switching (id :: firing)) :
    (course.called .interval id).Attends switching firing := by
  have active := attends.firing id (.head _)
  have same (other : String) : HookCall.switches other (course.called .interval id).calls =
      HookCall.switches other course.calls := HookCall.switches_append_interval
  refine ⟨attends.catalog, attends.effects, fun other => ?_, ?_, fun other settled => ?_,
    fun other turned member => ?_, ?_, fun other member => attends.firing other (.tail _ member)⟩
  · rw [same]
    exact attends.inTurn other
  · simp [Course.called, active, attends.strays]
  · rw [HookCall.isEntered, same]
    exact attends.settled other settled
  · rw [HookCall.isEntered, same]
    exact attends.switching other turned member
  · simp [Course.called, attends.due]

theorem renotified {isNotifying : Bool} (attends : course.Attends switching firing) :
    Attends switching firing { course with isNotifying := isNotifying } :=
  ⟨attends.catalog, attends.effects, attends.inTurn, attends.strays, attends.settled,
    attends.switching, attends.due, attends.firing⟩

/-! ### Changes of one effect -/

section Change

-- the effect of the id is replaced, put into place or dropped
variable {effects : Dictionary AppliedEffect} {next : Option AppliedEffect}
  (attends : course.Attends switching firing)
  (replaced : ∀ other,
    effects.get? other = if id = other then next else course.effects.get? other)
  (named : ∀ effect ∈ next, effect.definition.id = id)

include replaced

omit attends named in
theorem isActive_replaced {other : String} :
    (course.withEffects effects).isActive other =
      if id = other then next.any AppliedEffect.isActive else course.isActive other := by
  rw [Course.isActive, withEffects, replaced]
  split
  · rfl
  · rfl

include attends named

theorem id_replaced {other : String} {effect : AppliedEffect}
    (found : effect ∈ effects.get? other) : effect.definition.id = other := by
  rw [replaced] at found
  split at found
  next here => exact here ▸ named effect found
  next => exact attends.effects other effect found

/-- An effect changes without being suspended or resumed. -/
theorem changed (same : next.any AppliedEffect.isActive = course.isActive id) :
    (course.withEffects effects).Attends switching firing := by
  have active (other : String) :
      (course.withEffects effects).isActive other = course.isActive other := by
    rw [isActive_replaced replaced]
    split
    next here => rw [same, here]
    next => rfl
  refine ⟨attends.catalog, fun other effect => id_replaced attends replaced named, attends.inTurn,
    attends.strays, fun other settled => ?_, fun other turned member => ?_, attends.due,
    fun other member => ?_⟩
  · rw [active]
    exact attends.settled other settled
  · rw [active]
    exact attends.switching other turned member
  · rw [active]
    exact attends.firing other member

/-- An effect begins, ends, is suspended or resumed: its hook is to be called next. -/
theorem turned (free : course.IsFree firing id)
    (turned : next.any AppliedEffect.isActive = isActive)
    (flips : course.isActive id = !isActive) :
    (course.withEffects effects).Attends ((id, isActive) :: switching) firing := by
  have active {other : String} : (course.withEffects effects).isActive other =
      if id = other then next.any AppliedEffect.isActive else course.isActive other :=
    isActive_replaced replaced
  refine ⟨attends.catalog, fun other effect => id_replaced attends replaced named, attends.inTurn,
    attends.strays, fun other absent => ?_, fun other turnedOther member => ?_, attends.due,
    fun other member => ?_⟩
  · rw [active]
    split
    next here => exact absurd (here ▸ .head _) (absent isActive)
    next =>
      exact attends.settled other fun turnedOther member => absent turnedOther (.tail _ member)
  · rcases List.mem_cons.1 member with head | tail
    · -- its calls agreed with its activity, which is the other one now
      obtain ⟨rfl, rfl⟩ := Prod.mk.inj head
      rw [active, if_pos rfl]
      exact ⟨turned, free.settled.trans flips⟩
    · have different : id ≠ other := by
        rintro rfl
        exact attends.notMem free tail
      rw [active, if_neg different]
      exact attends.switching other turnedOther tail
  · have different : id ≠ other := by
      rintro rfl
      exact free.silent member
    rw [active, if_neg different]
    exact attends.firing other member

end Change

end Attends

end Course

/-! ## Triggers -/

namespace AppliedEffect

variable {effect : AppliedEffect} {trigger : Trigger} {snapshot : StatSnapshot}

theorem ticks_receiveInterval {isToggled : Bool}
    (ticks : (effect.receiveInterval trigger snapshot isToggled).intervals ≠ 0) :
    (effect.receiveInterval trigger snapshot isToggled).effect.isActive = true := by
  rw [receiveInterval] at ticks ⊢
  split at ticks
  next tick active found => exact active
  next => exact absurd rfl ticks

/-- Only active effects tick. -/
theorem ticks_receive (ticks : (effect.receive trigger snapshot).intervals ≠ 0) :
    (effect.receive trigger snapshot).effect.isActive = true := by
  rw [receive] at ticks ⊢
  split at ticks
  next unlimited => exact ticks_receiveInterval ticks
  next duration limited =>
    dsimp only at ticks ⊢
    split at ticks
    next changed =>
      rw [if_pos changed]
      split at ticks
      next => exact absurd rfl ticks
      next stays =>
        rw [if_neg stays]
        exact ticks_receiveInterval ticks
    next unchanged =>
      rw [if_neg unchanged]
      exact ticks_receiveInterval ticks

end AppliedEffect

namespace EffectReaction

/-- The effects whose enter or exit hooks have to be called, each with its new activity. -/
def turns (reactions : List EffectReaction) : List (String × Bool) :=
  (reactions.filter isToggled).map fun reaction =>
    (reaction.effect.definition.id, reaction.effect.isActive)

/-- The effects whose interval hooks have to be called, each as often as that. -/
def fired (reactions : List EffectReaction) : List String :=
  reactions.flatMap fun reaction =>
    List.replicate reaction.intervals reaction.effect.definition.id

variable {reaction : EffectReaction} {reactions : List EffectReaction}

theorem turns_cons : turns (reaction :: reactions) =
    if reaction.isToggled then
      (reaction.effect.definition.id, reaction.effect.isActive) :: turns reactions
    else turns reactions := by
  rw [turns, List.filter_cons]
  split
  · rfl
  · rfl

theorem fired_cons : fired (reaction :: reactions) =
    List.replicate reaction.intervals reaction.effect.definition.id ++ fired reactions :=
  List.flatMap_cons

theorem notMem_turns {id : String} {isActive : Bool}
    (other : id ∉ reactions.map fun reaction => reaction.effect.definition.id) :
    (id, isActive) ∉ turns reactions := by
  intro member
  obtain ⟨reaction, toggled, same⟩ := List.mem_map.1 member
  exact other (List.mem_map.2 ⟨reaction, List.mem_of_mem_filter toggled, congrArg Prod.fst same⟩)

end EffectReaction

namespace Course

variable {course : Course} {trigger : Trigger} {snapshot : StatSnapshot}

/-- All effects receive a trigger. -/
def received (trigger : Trigger) (snapshot : StatSnapshot) (course : Course) : Course :=
  { course with
    effects := (Engine.reactionsOf trigger snapshot course.effects).mapValues fun _ reaction =>
      reaction.effect
    due := EffectReaction.fired (Engine.reactionsOf trigger snapshot course.effects).values }

theorem get?_received {id : String} : (course.received trigger snapshot).effects.get? id =
    (course.effects.get? id).map fun effect => (effect.receive trigger snapshot).effect := by
  rw [received, Engine.reactionsOf, Dictionary.get?_mapValues, Dictionary.get?_mapValues,
    Option.map_map]
  rfl

section Reactions

variable (named : ∀ id, ∀ effect ∈ course.effects.get? id, effect.definition.id = id)

include named

theorem id_of_mem_reactions {entry : String × EffectReaction}
    (member : entry ∈ (Engine.reactionsOf trigger snapshot course.effects).entries) :
    entry.2.effect.definition.id = entry.1 := by
  obtain ⟨effect, found, same⟩ := Engine.mem_reactionsOf member
  rw [← same, AppliedEffect.definition_receive]
  exact named entry.1 effect found

/-- The reactions are those of the effects of their ids. -/
theorem mem_reactions_iff {reaction : EffectReaction} :
    reaction ∈ (Engine.reactionsOf trigger snapshot course.effects).values ↔
      ∃ effect, course.effects.get? reaction.effect.definition.id = some effect ∧
        effect.receive trigger snapshot = reaction := by
  constructor
  · intro member
    obtain ⟨entry, inEntries, rfl⟩ := List.mem_map.1 member
    obtain ⟨effect, found, same⟩ := Engine.mem_reactionsOf inEntries
    exact ⟨effect, id_of_mem_reactions named inEntries ▸ found, same⟩
  · rintro ⟨effect, found, same⟩
    refine List.mem_map.2 ⟨(reaction.effect.definition.id, reaction), ?_, rfl⟩
    apply Dictionary.get?_eq_some_iff_mem.1
    rw [Engine.reactionsOf, Dictionary.get?_mapValues, found, Option.map_some, same]

/-- Ids are unique, so an effect reacts only once. -/
theorem nodup_reactions :
    ((Engine.reactionsOf trigger snapshot course.effects).values.map fun reaction =>
      reaction.effect.definition.id).Nodup := by
  rw [Dictionary.values, List.map_map, List.nodup_iff_pairwise_ne, List.pairwise_map]
  refine (Engine.reactionsOf trigger snapshot course.effects).sorted.imp_of_mem ?_
  intro first second here there less
  rw [Function.comp_apply, Function.comp_apply, id_of_mem_reactions named here,
    id_of_mem_reactions named there]
  exact String.ne_of_lt less

end Reactions

/-- When all effects have received a trigger, the hooks of their reactions are to be called. -/
theorem Attends.received (attends : course.Attends [] []) :
    (course.received trigger snapshot).Attends
      (EffectReaction.turns (Engine.reactionsOf trigger snapshot course.effects).values)
      (EffectReaction.fired (Engine.reactionsOf trigger snapshot course.effects).values) := by
  have settled (id : String) : HookCall.isEntered id course.calls = course.isActive id :=
    attends.isFree.settled
  refine ⟨attends.catalog, fun id effect found => ?_, attends.inTurn, attends.strays,
    fun id free => ?_, fun id isActive member => ?_, rfl, fun id member => ?_⟩
  · rw [get?_received] at found
    obtain ⟨earlier, applied, rfl⟩ := Option.map_eq_some_iff.1 found
    rw [AppliedEffect.definition_receive]
    exact attends.effects id earlier applied
  · -- an effect that has no hook to be called has not been toggled
    refine (settled id).trans ?_
    rw [isActive, isActive, get?_received]
    cases applied : course.effects.get? id with
    | none => rfl
    | some effect =>
      have name := attends.effects id effect applied
      have untoggled : (effect.receive trigger snapshot).isToggled = false := by
        refine Bool.eq_false_iff.2 fun toggled => ?_
        have reacts : effect.receive trigger snapshot ∈
            (Engine.reactionsOf trigger snapshot course.effects).values := by
          refine (mem_reactions_iff attends.effects).2 ⟨effect, ?_, rfl⟩
          rw [AppliedEffect.definition_receive, name, applied]
        refine free (effect.receive trigger snapshot).effect.isActive (List.mem_map.2
          ⟨_, List.mem_filter.2 ⟨reacts, toggled⟩, ?_⟩)
        rw [AppliedEffect.definition_receive, name]
      rw [AppliedEffect.isToggled_receive, bne_eq_false_iff_eq] at untoggled
      exact untoggled.symm
  · obtain ⟨reaction, turned, same⟩ := List.mem_map.1 member
    obtain ⟨inValues, toggled⟩ := List.mem_filter.1 turned
    obtain ⟨rfl, rfl⟩ := Prod.mk.inj same
    obtain ⟨effect, applied, received⟩ := (mem_reactions_iff attends.effects).1 inValues
    constructor
    · rw [Course.isActive, get?_received, applied, Option.map_some, received, Option.any_some]
    · rw [← received, AppliedEffect.isToggled_receive, received, bne_iff_ne, ne_comm,
        ← Bool.eq_not] at toggled
      refine (settled _).trans ?_
      rw [Course.isActive, applied, Option.any_some, toggled]
  · obtain ⟨reaction, inValues, fires⟩ := List.mem_flatMap.1 member
    obtain ⟨ticks, rfl⟩ := List.mem_replicate.1 fires
    obtain ⟨effect, applied, received⟩ := (mem_reactions_iff attends.effects).1 inValues
    rw [← received] at ticks
    rw [Course.isActive, get?_received, applied, Option.map_some, Option.any_some]
    exact AppliedEffect.ticks_receive ticks

end Course

namespace Engine

/-! ## Computations apart from effects -/

variable {α β : Type}

/-- The computation changes no effects and calls no hooks. -/
def SparesCourse (engine : Engine α) : Prop :=
  ∀ world result world', engine.run world = some (result, world') → world'.course = world.course

theorem SparesCourse.keeps {engine : Engine α} {course : Course} (spares : SparesCourse engine) :
    Keeps (fun world => world.course = course) engine :=
  fun world result world' start returned => (spares world result world' returned).trans start

theorem sparesCourse_pure {result : α} : SparesCourse (pure result : Engine α) := by
  intro world value world' returned
  obtain ⟨rfl, rfl⟩ := Prod.mk.inj (Option.some.inj returned)
  rfl

theorem SparesCourse.bind {engine : Engine α} {next : α → Engine β} (spares : SparesCourse engine)
    (continues : ∀ value, SparesCourse (next value)) : SparesCourse (engine >>= next) := by
  intro world result world' returned
  obtain ⟨value, between, ran, rest⟩ := run_bind_eq_some.1 returned
  rw [continues value between result world' rest, spares world value between ran]

theorem sparesCourse_modifyGet {change : World → α × World}
    (same : ∀ world, (change world).2.course = world.course) :
    SparesCourse (modifyGet change : Engine α) := by
  intro world result world' returned
  obtain ⟨_, rfl⟩ := Prod.mk.inj (Option.some.inj returned)
  exact same world

theorem sparesCourse_modify {change : World → World}
    (same : ∀ world, (change world).course = world.course) :
    SparesCourse (modify change : Engine Unit) :=
  sparesCourse_modifyGet same

theorem sparesCourse_actor_bind {next : Actor → Engine β}
    (continues : ∀ actor, SparesCourse (next actor)) :
    SparesCourse (Engine.actor >>= next) :=
  fun world result world' returned =>
    continues world.actor world result world' (run_actor_bind.symm.trans returned)

theorem IsVisit.sparesCourse {engine : Engine α} {result : World → α} {change : World → World}
    {events : World → Stat → List Event} (visit : IsVisit engine result change events) :
    SparesCourse engine := by
  intro world value world' returned
  rw [visit.run] at returned
  obtain ⟨_, rfl⟩ := Prod.mk.inj (Option.some.inj returned)
  exact visit.spares.course world

theorem sparesCourse_modifyActor {change : Actor → Actor}
    (same : ∀ world : World,
      World.course { world with actor := change world.actor } = world.course) :
    SparesCourse (modifyActor change) :=
  sparesCourse_modify same

theorem report_sparesCourse {events : List Event} : SparesCourse (report events) :=
  sparesCourse_modify fun _ => rfl

theorem takeModifier_sparesCourse : SparesCourse takeModifier :=
  sparesCourse_modifyGet fun _ => rfl

theorem recordOffer_sparesCourse : SparesCourse recordOffer :=
  sparesCourse_modify fun _ => rfl

theorem releaseModifiers_sparesCourse {modifiers : List Modifier} :
    SparesCourse (releaseModifiers modifiers) :=
  sparesCourse_modify fun _ => rfl

theorem releaseList_sparesCourse {list : List Modifier} : SparesCourse (releaseList list) :=
  sparesCourse_modify fun _ => rfl

theorem markDirty_sparesCourse : SparesCourse markDirty := sparesCourse_modify fun _ => rfl

theorem takeDirty_sparesCourse : SparesCourse takeDirty := sparesCourse_modifyGet fun _ => rfl

theorem countCutOff_sparesCourse : SparesCourse countCutOff := sparesCourse_modify fun _ => rfl

theorem setModifiers_sparesCourse {stat : Stat} {list : List Modifier} :
    SparesCourse (setModifiers stat list) :=
  sparesCourse_modify fun _ => rfl

theorem prune_sparesCourse {stat : Stat} : SparesCourse (prune stat) := by
  refine sparesCourse_actor_bind fun actor => ?_
  split
  · exact (sparesCourse_modifyActor fun _ => rfl).bind fun _ => releaseList_sparesCourse
  · exact sparesCourse_pure

theorem recordRegistration_sparesCourse {modifier : Modifier} :
    SparesCourse (recordRegistration modifier) :=
  sparesCourse_modify fun _ => rfl

theorem register_sparesCourse {modifier : Modifier} : SparesCourse (register modifier) := by
  have lists : SparesCourse (listOf modifier.stat) := by
    refine sparesCourse_actor_bind fun actor => ?_
    split
    · exact sparesCourse_pure
    · exact sparesCourse_modifyGet fun _ => rfl
  exact lists.bind fun _ => setModifiers_sparesCourse.bind fun _ =>
    recordRegistration_sparesCourse.bind fun _ => report_sparesCourse

theorem unregister_sparesCourse {stat : Stat} {modifier : Modifier} {others : List Modifier} :
    SparesCourse (unregister stat modifier others) :=
  releaseModifiers_sparesCourse.bind fun _ => setModifiers_sparesCourse.bind fun _ =>
    prune_sparesCourse.bind fun _ => report_sparesCourse

theorem sufferDamage_sparesCourse {damage : Damage} {rest : List Damage} :
    SparesCourse (sufferDamage damage rest) :=
  sparesCourse_actor_bind fun _ => (sparesCourse_modifyActor fun _ => rfl).bind fun _ =>
    report_sparesCourse

/-! ## Changes of effects -/

theorem placeEffect_course {world : World} {id : String} {effect : AppliedEffect} :
    Ensures (fun between => between = world) (placeEffect id effect) fun _ between =>
      between.course = world.course.withEffects (world.course.effects.insert id effect) := by
  refine ensures_modify ?_
  rintro _ rfl
  rfl

theorem dropEffect_course {world : World} {id : String} :
    Ensures (fun between => between = world) (dropEffect id) fun _ between =>
      between.course = world.course.withEffects (world.course.effects.erase id) := by
  refine ensures_modify ?_
  rintro _ rfl
  rfl

theorem receiveEffects_course {course : Course} {trigger : Trigger} {snapshot : StatSnapshot} :
    Ensures (fun world => world.course = course) (receiveEffects trigger snapshot)
      fun reactions world => reactions = reactionsOf trigger snapshot course.effects ∧
        world.course = course.received trigger snapshot := by
  rintro world reactions world' rfl returned
  obtain ⟨rfl, rfl⟩ := Prod.mk.inj (Option.some.inj returned)
  exact ⟨rfl, rfl⟩

/-! ## Operations apart from effects

Most operations have to do with effects only by the notifications that they cause. -/

/-- A condition on effects and hooks. -/
abbrev KeepsCourse (holds : Course → Prop) (engine : Engine α) : Prop :=
  Keeps (fun world => holds world.course) engine

theorem SparesCourse.keepsCourse {holds : Course → Prop} {engine : Engine α}
    (spares : SparesCourse engine) : KeepsCourse holds engine := by
  intro world result world' start returned
  rw [spares world result world' returned]
  exact start

section Apart

variable {holds : Course → Prop} {perform : Performer}
  (notifies : ∀ trigger, KeepsCourse holds (notify perform trigger))

theorem keepsCourse_drainDamage
    (notifies : ∀ amount, KeepsCourse holds (notify perform (.damage amount))) {fuel : Nat} :
    KeepsCourse holds (drainDamage perform fuel) := by
  induction fuel with
  | zero =>
    refine ensures_actor_bind fun actor => Ensures.strengthen ?_ fun _ start => start.1
    split
    · exact keeps_pure
    · exact ensures_exhausted
  | succ fuel inductionHypothesis =>
    refine ensures_actor_bind fun actor => Ensures.strengthen ?_ fun _ start => start.1
    split
    · exact keeps_pure
    · exact sufferDamage_sparesCourse.keepsCourse.bind fun _ =>
        (notifies _).bind fun _ => inductionHypothesis

include notifies

theorem keepsCourse_addModifier {modifier : Modifier} {source : Option String} :
    KeepsCourse holds (addModifier perform modifier source) := by
  refine recordOffer_sparesCourse.keepsCourse.bind fun _ => ?_
  refine ensures_actor_bind fun actor => Ensures.strengthen ?_ fun _ start => start.1
  dsimp only
  split
  · exact releaseModifiers_sparesCourse.keepsCourse.bind fun _ => keeps_pure
  · exact register_sparesCourse.keepsCourse.bind fun _ => (notifies _).bind fun _ => keeps_pure

theorem keepsCourse_removeModifier {stat : Stat} {op : ModifierOp} {value : Float32}
    {source : Option String} :
    KeepsCourse holds (removeModifier perform stat op value source) := by
  refine ensures_actor_bind fun actor => Ensures.strengthen ?_ fun _ start => start.1
  dsimp only
  split
  · exact keeps_pure
  · exact unregister_sparesCourse.keepsCourse.bind fun _ => (notifies _).bind fun _ => keeps_pure

theorem keepsCourse_removeSource {source : String} :
    KeepsCourse holds (removeSource perform source) := by
  refine isVisit_withdrawSource.sparesCourse.keepsCourse.bind fun count => ?_
  dsimp only
  split
  · exact (notifies _).bind fun _ => keeps_pure
  · exact keeps_pure

variable (holds) in
theorem keepsCourse_act {fuel : Nat} {operation : Operation}
    (apart : ∀ id, operation ≠ .addEffect id ∧ operation ≠ .refreshEffect id ∧
      operation ≠ .removeEffect id) :
    KeepsCourse holds (act perform fuel operation) := by
  cases operation with
  | addBase stat value =>
    exact takeModifier_sparesCourse.keepsCourse.bind fun _ =>
      (keepsCourse_addModifier notifies).bind fun _ => keeps_pure
  | addModifier modifier source =>
    exact (keepsCourse_addModifier notifies).bind fun _ => keeps_pure
  | removeModifier stat op value source =>
    exact (keepsCourse_removeModifier notifies).bind fun _ => keeps_pure
  | removeSource source => exact (keepsCourse_removeSource notifies).bind fun _ => keeps_pure
  | setCustomValue id value =>
    have sets : KeepsCourse holds (setCustomValue perform id value) := by
      rw [setCustomValue_eq]
      exact isVisit_replaceCustomValue.sparesCourse.keepsCourse.bind fun _ => notifies _
    exact sets.bind fun _ => keeps_pure
  | setHp hp =>
    have sets : KeepsCourse holds (setHp perform hp) :=
      (sparesCourse_modifyActor fun _ => rfl).keepsCourse.bind fun _ => notifies _
    exact sets.bind fun _ => keeps_pure
  | queueDamage damage =>
    exact (sparesCourse_modifyActor fun _ => rfl).keepsCourse.bind fun _ => keeps_pure
  | process delta =>
    have processes : KeepsCourse holds (process perform fuel delta) :=
      (notifies _).bind fun _ => keepsCourse_drainDamage fun _ => notifies _
    exact processes.bind fun _ => keeps_pure
  | notify trigger => exact (notifies _).bind fun _ => keeps_pure
  | takeEvents =>
    refine ensures_actor_bind fun actor => Ensures.strengthen ?_ fun _ start => start.1
    exact (sparesCourse_modifyActor fun _ => rfl).keepsCourse.bind fun _ => keeps_pure
  | takePooled => exact takeModifier_sparesCourse.keepsCourse.bind fun _ => keeps_pure
  | addEffect id => exact absurd rfl (apart id).1
  | refreshEffect id => exact absurd rfl (apart id).2.1
  | removeEffect id => exact absurd rfl (apart id).2.2
  | modifiers | calculate | customValue | hp | isDead | hasEffect | effects | snapshot =>
    exact ensures_actor_bind fun _ => ensures_pure fun _ start => start.1
  | poolSizes => exact ensures_modifyGet fun _ start => start

end Apart

end Engine

end Roleplay
