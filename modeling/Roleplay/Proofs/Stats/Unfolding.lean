import Roleplay.Proofs.Stats.Lockstep

/-! # How operations unfold

What operations are made of, as far as the pools, the table of modifiers, health and the damage that
waits are concerned: steps, each of which comes with its incidents.  Nothing else changes any of
these, whichever hooks run meanwhile.

* `Incident` is what a run does about health;
* `Engine.Step` lists the steps, each by the part of the engine that makes it, and with the
  incidents that it makes;
* `Engine.Unfolds` puts steps together, `Engine.perform_unfolds` and `Engine.performAll_unfolds` say
  that operations are made of them.
-/

namespace Roleplay

/-- What is done about health, with the actor right before and right after it. -/
inductive Incident where
  /-- Damage is queued. -/
  | queue (damage : Damage)
  /-- Damage is taken off health. -/
  | hit (before : Actor) (damage : Damage) (after : Actor)
  /-- Health is set. -/
  | set (before : Actor) (hp : Float32) (after : Actor)

/-- Whether an event tells of a hit. -/
def Event.isHit : Event → Bool
  | .damaged .. => true
  | _ => false

namespace Engine

variable {α : Type} {origin world world' : World}

/-! ## Steps -/

/-- Pools, modifiers and health have been left alone, and no hit has been reported. -/
structure Still (world world' : World) : Prop where
  pools : world'.pools = world.pools
  modifiers : world'.actor.modifiers = world.actor.modifiers
  health : world'.actor.health = world.actor.health
  hits : world'.reports.filter Event.isHit = world.reports.filter Event.isHit

inductive Step : List Incident → World → World → Prop
  | still {world world' : World} : Still world world' → Step [] world world'
  | take {world world' : World} {modifier : Modifier} :
      takeModifier.run world = some (modifier, world') → Step [] world world'
  | reject {world world' : World} {modifier : Modifier} :
      (reject modifier).run world = some ((), world') → Step [] world world'
  | accept {world world' : World} {modifier : Modifier} :
      (accept modifier).run world = some ((), world') → Step [] world world'
  | unregister {world world' : World} {stat : Stat} {modifier : Modifier}
      {isNamed : Modifier → Bool} :
      (world.actor.modifiersOf stat).find? isNamed = some modifier →
      (unregister stat modifier ((world.actor.modifiersOf stat).eraseP isNamed)).run world =
        some ((), world') → Step [] world world'
  | withdraw {world world' : World} {source : String} {count : Nat} :
      (withdrawSource source).run world = some (count, world') → Step [] world world'
  | sweep {world world' : World} {trigger : Trigger} {snapshot : StatSnapshot} :
      (sweepModifiers trigger snapshot).run world = some ((), world') → Step [] world world'
  | queue {world world' : World} {damage : Damage} :
      (enqueue damage).run world = some ((), world') → Step [.queue damage] world world'
  | hit {world world' : World} {damage : Damage} {rest : List Damage} :
      world.actor.damage = damage :: rest →
      (sufferDamage damage rest).run world = some ((), world') →
      Step [.hit world.actor damage world'.actor] world world'
  | set {world world' : World} {hp : Float32} :
      (writeHp hp).run world = some ((), world') →
      Step [.set world.actor hp world'.actor] world world'

/-- The steps that lead from one world to another, with their incidents, the earliest first. -/
inductive Unfolds (origin : World) : List Incident → World → Prop
  | refl : Unfolds origin [] origin
  | tail {incidents made : List Incident} {moment world : World}
      (unfolded : Unfolds origin incidents moment) (step : Step made moment world) :
      Unfolds origin (incidents ++ made) world

def HasUnfolded (origin world : World) : Prop := ∃ incidents, Unfolds origin incidents world

theorem HasUnfolded.tail {made : List Incident} (unfolded : HasUnfolded origin world)
    (step : Step made world world') : HasUnfolded origin world' := by
  obtain ⟨_, unfolds⟩ := unfolded
  exact ⟨_, .tail unfolds step⟩

theorem keeps_of_step {engine : Engine α}
    (steps : ∀ {world result world'}, engine.run world = some (result, world') →
      ∃ made, Step made world world') : Keeps (HasUnfolded origin) engine := by
  intro world result world' start returned
  obtain ⟨_, step⟩ := steps returned
  exact start.tail step

/-- A step from a world that is known. -/
theorem ensures_step {engine : Engine α} (start : HasUnfolded origin world)
    (steps : ∀ result world', engine.run world = some (result, world') →
      ∃ made, Step made world world') :
    Ensures (fun between => between = world) engine fun _ => HasUnfolded origin := by
  rintro between result world' rfl returned
  obtain ⟨_, step⟩ := steps result world' returned
  exact start.tail step

theorem keeps_modify_still {change : World → World} (still : ∀ world, Still world (change world)) :
    Keeps (HasUnfolded origin) (modify change) :=
  ensures_modify fun world start => start.tail (.still (still world))

theorem keeps_modifyGet_still {change : World → α × World}
    (still : ∀ world, Still world (change world).2) :
    Keeps (HasUnfolded origin) (modifyGet change) :=
  ensures_modifyGet fun world start => start.tail (.still (still world))

theorem report_still {events : List Event} (calm : ∀ event ∈ events, event.isHit = false) :
    Keeps (HasUnfolded origin) (report events) := by
  have none : events.filter Event.isHit = [] := List.filter_eq_nil_iff.2 (by simpa using calm)
  exact keeps_modify_still fun world => ⟨rfl, rfl, rfl, by simp [none]⟩

theorem placeEffect_still {id : String} {effect : AppliedEffect} :
    Keeps (HasUnfolded origin) (placeEffect id effect) :=
  keeps_modify_still fun _ => ⟨rfl, rfl, rfl, rfl⟩

theorem receiveEffects_still {trigger : Trigger} {snapshot : StatSnapshot} :
    Keeps (HasUnfolded origin) (receiveEffects trigger snapshot) := by
  intro world reactions world' start returned
  obtain ⟨-, rfl⟩ := Prod.mk.inj (Option.some.inj returned)
  exact start.tail (.still ⟨rfl, rfl, rfl, rfl⟩)

theorem replaceCustomValue_still {id : String} {value : Float32} :
    Keeps (HasUnfolded origin) (replaceCustomValue id value) := by
  refine ensures_actor_bind fun actor => Ensures.strengthen ?_ fun _ start => start.1
  have orders : Keeps (HasUnfolded origin) nextOrder :=
    keeps_modifyGet_still fun _ => ⟨rfl, rfl, rfl, rfl⟩
  have replaces : Keeps (HasUnfolded origin) (modifyActor fun actor =>
      { actor with customValues := actor.customValues.insert id value }) :=
    keeps_modify_still fun _ => ⟨rfl, rfl, rfl, rfl⟩
  refine orders.bind fun order => replaces.bind fun _ => report_still ?_
  intro event member
  obtain ⟨stat, -, rfl⟩ := List.mem_map.1 member
  rfl

theorem keepsPasses_hasUnfolded : KeepsPasses (HasUnfolded origin) where
  recordCall _ _ := keeps_modifyGet_still fun _ => ⟨rfl, rfl, rfl, rfl⟩
  takeModifier := keeps_of_step fun returned => ⟨_, .take returned⟩
  reject _ := keeps_of_step fun returned => ⟨_, .reject returned⟩
  accept _ _ _ start _ := ensures_step start fun _ _ returned => ⟨_, .accept returned⟩
  unregister _ _ _ _ start found :=
    ensures_step start fun _ _ returned => ⟨_, .unregister found returned⟩
  withdrawSource _ := keeps_of_step fun returned => ⟨_, .withdraw returned⟩
  replaceCustomValue _ _ := replaceCustomValue_still
  writeHp _ := keeps_of_step fun returned => ⟨_, .set returned⟩
  enqueue _ := keeps_of_step fun returned => ⟨_, .queue returned⟩
  sufferDamage _ _ _ start queued :=
    ensures_step start fun _ _ returned => ⟨_, .hit queued returned⟩
  start _ _ _ _ start _ := placeEffect_still.strengthen fun _ same => same ▸ start
  refresh _ _ _ _ start _ := placeEffect_still.strengthen fun _ same => same ▸ start
  dropEffect _ := keeps_modify_still fun _ => ⟨rfl, rfl, rfl, rfl⟩
  reportAdded _ := report_still (by simp [Event.isHit])
  reportRemoved _ := report_still (by simp [Event.isHit])
  clearEvents := keeps_modify_still fun _ => ⟨rfl, rfl, rfl, rfl⟩
  sweepModifiers _ _ := keeps_of_step fun returned => ⟨_, .sweep returned⟩
  receiveEffects _ _ := receiveEffects_still
  markDirty := keeps_modify_still fun _ => ⟨rfl, rfl, rfl, rfl⟩
  takeDirty := keeps_modifyGet_still fun _ => ⟨rfl, rfl, rfl, rfl⟩
  countCutOff := keeps_modify_still fun _ => ⟨rfl, rfl, rfl, rfl⟩
  setNotifying _ := keeps_modify_still fun _ => ⟨rfl, rfl, rfl, rfl⟩

/-- Every operation is made of steps, on whichever level of hooks. -/
theorem perform_unfolds {fuel : Nat} {operation : Operation} :
    Keeps (HasUnfolded origin) (perform fuel operation) :=
  keepsPasses_hasUnfolded.perform

theorem performAll_unfolds {fuel : Nat} {operations : List Operation} :
    Keeps (HasUnfolded origin) (performAll fuel operations) := by
  induction operations with
  | nil => exact keeps_pure
  | cons operation operations inductionHypothesis =>
    cases operations with
    | nil => exact perform_unfolds
    | cons next rest => exact perform_unfolds.bind fun _ => inductionHypothesis

end Engine

end Roleplay
