import Roleplay.Proofs.Stats.Entrance
import Roleplay.Proofs.Stats.Following
import Roleplay.Proofs.Stats.Termination
import Roleplay.Proofs.Stats.Timers

/-! # Time that is carried over

An applied and active effect that ticks by a timer fires an interval for every period of time that
goes by, however calls of `process` cut the time up.  Only a call that fires as many intervals as a
trigger may throws away what is left of its time.

* `Timer.Frames.follows` goes through calls of `process` one after the other;
* `World.Reachable.intervals_carried` is the number of intervals for runs, and
  `World.Reachable.not_forall_intervals_carried` a run that loses one.
-/

namespace Roleplay

/-! ## Effects of runs -/

section Applied

variable {property : String → AppliedEffect → Prop}
  (refreshes : ∀ id effect snapshot, property id effect → property id (effect.refresh snapshot))
  (receives : ∀ id effect trigger snapshot, property id effect →
    property id (effect.receive trigger snapshot).effect)

include refreshes receives

theorem Engine.Move.applied {world world' : World} (move : Engine.Move world world')
    (starts : ∀ id definition snapshot, world.actor.catalog.get? id = some definition →
      property id (.start definition snapshot))
    (each : ∀ id, ∀ effect ∈ world.view.effects.get? id, property id effect) :
    ∀ id, ∀ effect ∈ world'.view.effects.get? id, property id effect := by
  -- an effect that is put into place is the one that is found there
  have placed {id : String} {placed : AppliedEffect} (holds : property id placed) :
      ∀ other, ∀ effect ∈ (world.view.effects.insert id placed).get? other,
        property other effect := by
    intro other effect found
    rw [Dictionary.get?_insert] at found
    split at found
    next here =>
      obtain rfl := Option.some.inj found
      exact here ▸ holds
    next => exact each other effect found
  cases move with
  | aside aside =>
    have same : world'.view.effects = world.view.effects := aside.effects
    rwa [same]
  | report returned | clear returned | setValue returned =>
    obtain ⟨_, rfl⟩ := Prod.mk.inj (Option.some.inj returned)
    exact each
  | register accepted returned =>
    rw [Engine.register_does _ _ _ returned]
    exact each
  | unregister returned =>
    rw [Engine.unregister_does _ _ _ returned]
    exact each
  | withdraw returned =>
    rw [(Engine.withdrawSource_ensures _ _ _ rfl returned).2]
    exact each
  | sweep returned =>
    rw [Engine.sweepModifiers_does _ _ _ returned]
    exact each
  | @receive trigger snapshot reactions returned =>
    obtain ⟨rfl, same⟩ := Engine.receiveEffects_ensures _ _ _ rfl returned
    rw [same]
    intro id effect found
    simp only [Dictionary.get?_mapValues, Option.map_map] at found
    obtain ⟨earlier, applied, rfl⟩ := Option.map_eq_some_iff.1 found
    exact receives id earlier trigger snapshot (each id earlier applied)
  | start known returned =>
    rw [Engine.placeEffect_does _ _ _ returned]
    exact placed (starts _ _ _ known)
  | refresh applied returned =>
    rw [Engine.placeEffect_does _ _ _ returned]
    exact placed (refreshes _ _ _ (each _ _ applied))
  | drop returned =>
    rw [Engine.dropEffect_does _ _ _ returned]
    intro other effect found
    rw [Dictionary.get?_erase] at found
    split at found
    · cases found
    · exact each other effect found

/-- What holds of effects that begin, and is kept by triggers and refreshing, holds of all effects
that are ever applied. -/
theorem World.Reachable.applied {catalog : EffectCatalog}
    {permits : World → Operation → Nat → Prop} {world : World}
    (reachable : World.Reachable catalog permits world)
    (starts : ∀ id definition snapshot, catalog.get? id = some definition →
      property id (.start definition snapshot)) :
    ∀ id, ∀ effect ∈ world.view.effects.get? id, property id effect := by
  have both : world.view.IsKnown catalog ∧
      ∀ id, ∀ effect ∈ world.view.effects.get? id, property id effect := by
    apply reachable.of_moves
    · intro pools orders
      refine ⟨⟨rfl, ?_⟩, ?_⟩
      · rintro id effect ⟨⟩
      · rintro id effect ⟨⟩
    · intro world world' move start
      obtain ⟨known, each⟩ := start
      refine ⟨move.isKnown known, move.applied refreshes receives ?_ each⟩
      intro id definition snapshot found
      exact starts id definition snapshot (known.catalog ▸ found)
  exact both.2

end Applied

namespace AppliedEffect

variable {effect : AppliedEffect} {trigger : Trigger} {snapshot : StatSnapshot} {isToggled : Bool}

/-- The tick condition, if there is one, waits for time to pass if it is a single timer. -/
def Waits (effect : AppliedEffect) : Prop := ∀ tick ∈ effect.tick, tick.Waits

theorem waits_start {definition : EffectDefinition} : (start definition snapshot).Waits := by
  intro tick found
  obtain ⟨defined, _, rfl⟩ := Option.map_eq_some_iff.1 found
  exact Condition.waits_start

theorem Waits.receiveInterval (waits : effect.Waits) :
    (effect.receiveInterval trigger snapshot isToggled).effect.Waits := by
  rw [AppliedEffect.receiveInterval]
  split
  next tick active found =>
    rintro after ⟨⟩
    exact (waits tick found).receiveTick
  next => exact waits

theorem Waits.receive (waits : effect.Waits) : (effect.receive trigger snapshot).effect.Waits := by
  rw [AppliedEffect.receive]
  split
  · exact waits.receiveInterval
  · dsimp only
    split
    · split
      · exact waits
      · apply receiveInterval
        exact waits
    · apply receiveInterval
      exact waits

end AppliedEffect

namespace World.Reachable

section Reachable

variable {permits : World → Operation → Nat → Prop} {world : World}

/-- Between operations timers wait for time to pass. -/
theorem waits {catalog : EffectCatalog} (reachable : World.Reachable catalog permits world) :
    ∀ id, ∀ effect ∈ world.view.effects.get? id, effect.Waits :=
  reachable.applied (fun _ _ _ waits => waits) (fun _ _ _ _ waits => waits.receive)
    fun _ _ _ _ => AppliedEffect.waits_start

theorem effect_named {definitions : List EffectDefinition}
    (reachable : World.Reachable (.ofList definitions) permits world) :
    ∀ id, ∀ effect ∈ world.view.effects.get? id, effect.definition.id = id :=
  reachable.applied (fun _ _ _ named => named)
    (fun _ _ _ _ named =>
      (congrArg (fun definition => definition.id) AppliedEffect.definition_receive).trans named)
    fun _ _ _ known => EffectCatalog.id_of_get?_ofList known

end Reachable

end World.Reachable

/-! ## Frames -/

namespace Engine

variable {before between after : World → Prop} {fuel : Nat}

theorem ensures_performAll_cons {operation : Operation} {operations : List Operation}
    (first : Ensures before (perform fuel operation) fun _ => between)
    (rest : Ensures between (performAll fuel operations) fun _ => after) :
    Ensures before (performAll fuel (operation :: operations)) fun _ => after := by
  cases operations with
  | nil => exact first.weaken fun _ world holds => rest world .done world holds rfl
  | cons next operations => exact first.bind fun _ => rest

end Engine

/-- Calls of `process` fire the intervals of the time that goes by, less the time that is lost. -/
theorem Timer.Frames.follows {id : String} {exits fired fuel : Nat} {node : ConditionNode}
    {seconds elapsed : Float32} {deltas : List Float32} {lost : ℚ} (positive : 0 < seconds)
    (frames : Timer.Frames seconds elapsed deltas lost) (waits : ¬seconds ≤ elapsed)
    (forward : ∀ delta ∈ deltas, 0 ≤ delta) :
    Engine.Ensures
      (Engine.Following false id exits (some (⟨node.timed seconds elapsed, []⟩, fired)))
      (Engine.performAll (fuel + 1) (deltas.map .process)) fun _ world => ∃ tick,
        Engine.Following false id exits (some (tick, fired +
          ⌊(Single.value elapsed + (deltas.map Single.value).sum - lost) /
            Single.value seconds⌋₊)) world := by
  have heard (trigger : Trigger) (elapsed : Float32) (snapshot : StatSnapshot)
      (timeless : trigger.kind ≠ .time) :
      AppliedEffect.receiveTick trigger snapshot ⟨node.timed seconds elapsed, []⟩ =
        (0, ⟨node.timed seconds elapsed, []⟩) :=
    AppliedEffect.receiveTick_timed_of_ne timeless
  -- by induction on the frames; the timer begins each with what the one before has left of it
  induction frames generalizing fired with
  | @nil elapsed =>
    refine Engine.ensures_pure fun world following => ⟨⟨node.timed seconds elapsed, []⟩, ?_⟩
    rw [List.map_nil, List.sum_nil, add_zero, sub_zero, Timer.floor_eq_zero positive waits]
    exact following
  | @carry elapsed delta rest deltas count lost sum splits few frames inductionHypothesis =>
    have forward := (Timer.Frames.forward_of_cons forward).2
    have receives (snapshot : StatSnapshot) :
        AppliedEffect.receiveTick (.tick delta) snapshot ⟨node.timed seconds elapsed, []⟩ =
          (count, ⟨node.timed seconds rest, []⟩) := by
      rw [AppliedEffect.receiveTick_timed positive waits, splits.take_eq few.le, Timer.carried,
        if_neg few.ne]
    rw [List.map_cons, List.map_cons, List.sum_cons,
      Timer.Frames.floor_carry positive sum forward splits frames, ← Nat.add_assoc]
    exact Engine.ensures_performAll_cons
      (Engine.process_follows receives fun trigger snapshot => heard trigger rest snapshot)
      (inductionHypothesis splits.short forward)
  | @cut elapsed delta rest deltas lost sum splits frames inductionHypothesis =>
    have forward := (Timer.Frames.forward_of_cons forward).2
    have receives (snapshot : StatSnapshot) :
        AppliedEffect.receiveTick (.tick delta) snapshot ⟨node.timed seconds elapsed, []⟩ =
          (maxIntervals, ⟨node.timed seconds 0, []⟩) := by
      rw [AppliedEffect.receiveTick_timed positive waits, splits.take_eq (Nat.le_refl _),
        Timer.carried, if_pos rfl]
    rw [List.map_cons, List.map_cons, List.sum_cons,
      Timer.Frames.floor_cut positive sum forward splits frames, ← Nat.add_assoc]
    exact Engine.ensures_performAll_cons
      (Engine.process_follows receives fun trigger snapshot => heard trigger 0 snapshot)
      (inductionHypothesis (Single.not_le_of_lt positive) forward)

/-! ## Runs -/

def World.intervals (world : World) (id : String) : Nat := world.calls.count ⟨id, .interval⟩

/-- An applied and active effect whose tick is a single timer fires an interval for every period of
the time that has elapsed or goes by in calls of `process`, whatever hooks do, as long as its exit
hook is not called.  If some calls fire as many intervals as one trigger may, the time is without
what is left of these calls. -/
theorem World.Reachable.intervals_carried {definitions : List EffectDefinition}
    {permits : World → Operation → Nat → Prop} {world world' : World} {id : String}
    {effect : AppliedEffect} {node : ConditionNode} {seconds elapsed : Float32}
    {deltas : List Float32} {lost : ℚ} {fuel : Nat} {response : Response}
    (reachable : World.Reachable (.ofList definitions) permits world)
    (applied : world.actor.effects.get? id = some effect) (active : effect.isActive = true)
    (ticks : effect.tick = some ⟨node, []⟩) (timed : node.predicate = .timed seconds elapsed)
    (positive : 0 < seconds) (forward : ∀ delta ∈ deltas, 0 ≤ delta)
    (frames : Timer.Frames seconds elapsed deltas lost)
    (returned : (Engine.performAll (fuel + 1) (deltas.map .process)).run world =
      some (response, world'))
    (stays : world'.exits id = world.exits id) :
    world'.intervals id = world.intervals id +
      ⌊(Single.value elapsed + (deltas.map Single.value).sum - lost) / Single.value seconds⌋₊ := by
  have single : (⟨node, []⟩ : Condition).seconds? = some seconds := by
    simp [Condition.seconds?, timed, Predicate.seconds?]
  obtain ⟨first, waiting, same, short⟩ :=
    reachable.waits id effect applied _ ticks seconds single positive
  obtain ⟨rfl, -⟩ := Condition.mk.inj same
  obtain ⟨-, rfl⟩ := Predicate.timed.inj timed
  have starts : Engine.Following false id (world.exits id)
      (some (⟨first.timed seconds waiting, []⟩, world.intervals id)) world := by
    refine ⟨reachable.isSettled_view.notifying, ?_, reachable.effect_named, Nat.le_refl _, ?_⟩
    · intro name definition known
      have same : world.course.catalog = .ofList definitions := reachable.isKnown.catalog
      exact EffectCatalog.id_of_get?_ofList (same ▸ known)
    · rintro tick count known -
      obtain ⟨rfl, rfl⟩ := Prod.mk.inj (Option.some.inj known)
      exact ⟨⟨effect, applied, active, ticks⟩, rfl⟩
  obtain ⟨tick, following⟩ :=
    frames.follows positive short forward world response world' starts returned
  exact (following.2.stands tick _ rfl stays).count

/-- An effect that deals damage every second. -/
def EffectDefinition.drip : EffectDefinition :=
  ⟨⟨"drip", none, some (.timed 1), []⟩, .damageOverTime 1⟩

/-- Whether the drip, added in a new world, stays for frames of these lengths and fires so many
intervals. -/
def World.dripFires (deltas : List Float32) (fired : Nat) : Bool :=
  ((Engine.perform 1 (.addEffect "drip")).run (World.new (.ofList [.drip]) .initial)).any
    fun first =>
      (first.2.actor.effects.get? "drip").any (fun effect =>
        effect.isActive = true ∧ effect.tick = some (.timed 1)) ∧
      first.2.intervals "drip" = 0 ∧
      ((Engine.performAll 70 (deltas.map .process)).run first.2).any fun last =>
        last.2.exits "drip" = first.2.exits "drip" ∧ last.2.intervals "drip" = fired

theorem World.of_dripFires {deltas : List Float32} {fired : Nat}
    (fires : World.dripFires deltas fired = true) :
    ∃ world, World.Reachable (.ofList [.drip]) (fun _ _ _ => True) world ∧
      (∃ effect, world.actor.effects.get? "drip" = some effect ∧ effect.isActive = true ∧
        effect.tick = some (.timed 1)) ∧
      world.intervals "drip" = 0 ∧
      ∃ world' response, (Engine.performAll 70 (deltas.map .process)).run world =
          some (response, world') ∧
        world'.exits "drip" = world.exits "drip" ∧ world'.intervals "drip" = fired := by
  obtain ⟨⟨_, world⟩, begun, facts⟩ := (Option.any_eq_true _ _).1 fires
  obtain ⟨stands, none, run⟩ := of_decide_eq_true facts
  obtain ⟨effect, applied, facts⟩ := (Option.any_eq_true _ _).1 stands
  obtain ⟨⟨response, world'⟩, processed, last⟩ := (Option.any_eq_true _ _).1 run
  have reachable : World.Reachable (.ofList [.drip]) (fun _ _ _ => True) world :=
    (World.Reachable.new .initial fun _ => .declared).perform begun trivial
  exact ⟨world, reachable, ⟨effect, applied, of_decide_eq_true facts⟩, none, world', response,
    processed, of_decide_eq_true last⟩

/-- A long frame fires as many intervals as one trigger may, and loses half a second; what is left
of the next one completes an interval with the last. -/
theorem World.Reachable.intervals_carried_drip : ∃ world world' response,
    World.Reachable (.ofList [.drip]) (fun _ _ _ => True) world ∧
      (Engine.performAll 70 (([64.5, 2.5, 0.5] : List Float32).map .process)).run world =
        some (response, world') ∧
      world'.intervals "drip" = world.intervals "drip" +
        ⌊(Single.value 0 + (([64.5, 2.5, 0.5] : List Float32).map Single.value).sum -
          (Single.value 0.5 + 0)) / Single.value 1⌋₊ := by
  obtain ⟨world, reachable, ⟨effect, applied, active, ticks⟩, -, world', response, processed,
    stays, -⟩ := World.of_dripFires (by decide +kernel : World.dripFires [64.5, 2.5, 0.5] 67 = true)
  have frames : Timer.Frames 1 0 [64.5, 2.5, 0.5] (Single.value 0.5 + 0) :=
    .cut (by decide +kernel) (by decide +kernel)
      (.carry (by decide +kernel) (by decide +kernel : Timer.Splits 1 2 (0 + 2.5) 0.5) (by decide)
        (.carry (by decide +kernel) (by decide +kernel : Timer.Splits 1 1 (0.5 + 0.5) 0)
          (by decide) .nil))
  exact ⟨world, world', response, reachable, processed,
    reachable.intervals_carried applied active ticks rfl (by decide +kernel) (by decide +kernel)
      frames processed stays⟩

/-- A frame that makes just as many intervals due as one trigger may fire loses what is left of it,
though nothing that was due was left out: after 65 seconds 64 intervals have been fired. -/
theorem World.Reachable.not_forall_intervals_carried :
    ¬∀ definitions world world' id effect node seconds elapsed (deltas : List Float32) fuel
        response,
      World.Reachable (.ofList definitions) (fun _ _ _ => True) world →
      world.actor.effects.get? id = some effect → effect.isActive = true →
      effect.tick = some ⟨node, []⟩ → node.predicate = .timed seconds elapsed → 0 < seconds →
      (∀ delta ∈ deltas, 0 ≤ delta) → (∃ lost, Timer.Frames seconds elapsed deltas lost) →
      (Engine.performAll (fuel + 1) (deltas.map .process)).run world = some (response, world') →
      world'.exits id = world.exits id →
      world'.intervals id = world.intervals id +
        ⌊(Single.value elapsed + (deltas.map Single.value).sum) / Single.value seconds⌋₊ := by
  intro carries
  obtain ⟨world, reachable, ⟨effect, applied, active, ticks⟩, none, world', response, processed,
    stays, fired⟩ := World.of_dripFires (by decide +kernel : World.dripFires [64.5, 0.5] 64 = true)
  have frames : Timer.Frames 1 0 [64.5, 0.5] (Single.value 0.5 + 0) :=
    .cut (by decide +kernel) (by decide +kernel)
      (.carry (by decide +kernel) (by decide +kernel : Timer.Splits 1 0 (0 + 0.5) 0.5) (by decide)
        .nil)
  have periods : (Single.value 0 + (([64.5, 0.5] : List Float32).map Single.value).sum) /
      Single.value 1 = 65 := by
    decide +kernel
  have carried := carries _ _ _ _ _ _ 1 0 [64.5, 0.5] _ _ reachable applied active ticks rfl
    (by decide +kernel) (by decide +kernel) ⟨_, frames⟩ processed stays
  rw [periods, Nat.floor_ofNat, none, fired] at carried
  cases carried

end Roleplay
