import Roleplay.Proofs.Stats.Turns

/-! # One effect through a notification

Whatever hooks do to the other effects, an active effect hears every trigger of a notification and
fires the intervals that its tick condition calls for, as long as it does not leave.  It leaves when
it ends or is suspended, and then its exit hook is called.

* `Course.Follows` says how often an effect has exited and, if it has not exited again, how its tick
  condition stands and how often it has fired;
* `Course.Follows.called` is a call of a hook, `Course.Follows.changed` a change of an effect;
* `Engine.pass_follows` is one pass, `Engine.process_follows` is a call of `process`.
-/

namespace Roleplay

/-! ## Standings -/

/-- How a tick condition stands and how many intervals have been fired, if that is known. -/
abbrev Standing := Option (Condition × Nat)

namespace Standing

/-- So many more intervals have been fired. -/
def later (more : Nat) (standing : Standing) : Standing := standing.map fun s => (s.1, s.2 + more)

@[simp] theorem later_zero {standing : Standing} : standing.later 0 = standing := by
  cases standing <;> rfl

@[simp] theorem later_later {standing : Standing} {first second : Nat} :
    (standing.later first).later second = standing.later (first + second) := by
  cases standing with
  | none => rfl
  | some standing => simp [later, Nat.add_assoc]

end Standing

namespace Course

/-- An effect is applied and active, its tick condition stands like this, and its interval hook has
been called so many times. -/
structure Stands (id : String) (tick : Condition) (count : Nat) (course : Course) : Prop where
  applied : ∃ effect, course.effects.get? id = some effect ∧ effect.isActive = true ∧
    effect.tick = some tick
  count : course.calls.count ⟨id, .interval⟩ = count

/-- The exit hook of an effect has been called so many times at least.  If it has not been called
more often, the effect stands as it is known to. -/
structure Follows (id : String) (exits : Nat) (standing : Standing) (course : Course) : Prop where
  catalog : ∀ id, ∀ definition ∈ course.catalog.get? id, definition.id = id
  effects : ∀ id, ∀ effect ∈ course.effects.get? id, effect.definition.id = id
  exited : exits ≤ course.calls.count ⟨id, .exit⟩
  stands : ∀ tick count, standing = some (tick, count) →
    course.calls.count ⟨id, .exit⟩ = exits → course.Stands id tick count

namespace Follows

variable {course : Course} {id other : String} {exits : Nat} {standing : Standing}
  {kind : HookKind}

theorem unknown (follows : course.Follows id exits standing) : course.Follows id exits none :=
  ⟨follows.catalog, follows.effects, follows.exited, fun _ _ known => nomatch known⟩

/-- Nothing is said about an effect that has exited again. -/
theorem left (follows : course.Follows id (exits + 1) none) : course.Follows id exits standing :=
  ⟨follows.catalog, follows.effects, Nat.le_of_succ_le follows.exited, fun _ _ _ same =>
    absurd (same ▸ follows.exited) (Nat.not_succ_le_self exits)⟩

theorem left_or_stands {tick : Condition} {count : Nat}
    (follows : course.Follows id exits (some (tick, count))) :
    course.Follows id (exits + 1) none ∨ course.Stands id tick count := by
  rcases Nat.eq_or_lt_of_le follows.exited with same | more
  · exact .inr (follows.stands tick count rfl same.symm)
  · exact .inl ⟨follows.catalog, follows.effects, more, fun _ _ known => nomatch known⟩

theorem renotified {isNotifying : Bool} (follows : course.Follows id exits standing) :
    Follows id exits standing { course with isNotifying := isNotifying } :=
  ⟨follows.catalog, follows.effects, follows.exited, fun tick count known same =>
    ⟨(follows.stands tick count known same).applied, (follows.stands tick count known same).count⟩⟩

/-! ### Calls -/

theorem called (follows : course.Follows id exits standing) :
    (course.called kind other).Follows id exits
      (standing.later (([⟨other, kind⟩] : List HookCall).count ⟨id, .interval⟩)) := by
  refine ⟨follows.catalog, follows.effects, ?_, fun tick count known same => ?_⟩
  · rw [Course.called, List.count_append]
    exact Nat.le_trans follows.exited (Nat.le_add_right _ _)
  · obtain ⟨⟨standingTick, earlier⟩, rfl, shifted⟩ := Option.map_eq_some_iff.1 known
    obtain ⟨rfl, rfl⟩ := Prod.mk.inj shifted
    rw [Course.called, List.count_append] at same
    have before := follows.stands standingTick earlier rfl
      (Nat.le_antisymm (same ▸ Nat.le_add_right _ _) follows.exited)
    refine ⟨before.applied, ?_⟩
    rw [Course.called, List.count_append, before.count]

theorem called_exit (follows : course.Follows id exits none) :
    (course.called .exit id).Follows id (exits + 1) none := by
  refine ⟨follows.catalog, follows.effects, ?_, fun _ _ known => nomatch known⟩
  rw [Course.called, List.count_append, List.count_singleton_self]
  exact Nat.succ_le_succ follows.exited

/-! ### Changes of one effect -/

section Change

-- the effect of the id `other` is replaced, put into place or dropped
variable {effects : Dictionary AppliedEffect} {next : Option AppliedEffect}
  (follows : course.Follows id exits standing)
  (replaced : ∀ name,
    effects.get? name = if other = name then next else course.effects.get? name)
  (named : ∀ effect ∈ next, effect.definition.id = other)

include follows replaced named

/-- The change of the effect that is followed leaves it standing as it stood. -/
theorem changed (same : other = id → ∀ tick count, standing = some (tick, count) →
      course.Stands id tick count →
      ∃ effect, next = some effect ∧ effect.isActive = true ∧ effect.tick = some tick) :
    (course.withEffects effects).Follows id exits standing := by
  refine ⟨follows.catalog, fun name effect found => ?_, follows.exited,
    fun tick count known kept => ?_⟩
  · simp only [withEffects, replaced] at found
    split at found
    next here => exact here ▸ named effect found
    next => exact follows.effects name effect found
  · have before := follows.stands tick count known kept
    refine ⟨?_, before.count⟩
    simp only [withEffects, replaced]
    split
    next here => exact same here tick count known before
    next => exact before.applied

/-- Nothing is known of an effect that is changed in any other way. -/
theorem forgotten : (course.withEffects effects).Follows id exits
    (if other = id then none else standing) := by
  split
  · exact follows.unknown.changed replaced named fun _ _ _ known => nomatch known
  next different => exact follows.changed replaced named fun same => absurd same different

end Change

end Follows

end Course

/-! ## Triggers -/

/-- What becomes of an active effect whose tick condition makes so many intervals of a trigger: it
expires without ticking, is suspended, or ticks. -/
inductive EffectReaction.Proceeds (tick after : Condition) (count : Nat) :
    EffectReaction → Prop where
  | expires {reaction : EffectReaction} (expired : reaction.isExpired = true)
      (silent : reaction.intervals = 0) (active : reaction.effect.isActive = true)
      (stands : reaction.effect.tick = some tick) : Proceeds tick after count reaction
  | pauses {reaction : EffectReaction} (toggled : reaction.isToggled = true)
      (inactive : reaction.effect.isActive = false) : Proceeds tick after count reaction
  | ticks {reaction : EffectReaction} (fires : reaction.intervals = count)
      (active : reaction.effect.isActive = true) (stands : reaction.effect.tick = some after) :
      Proceeds tick after count reaction

namespace AppliedEffect

variable {effect : AppliedEffect} {trigger : Trigger} {snapshot : StatSnapshot}
  {tick after : Condition} {count : Nat}

theorem proceeds_receiveInterval {isToggled : Bool} (ticks : effect.tick = some tick)
    (receives : receiveTick trigger snapshot tick = (count, after))
    (toggled : isToggled = (effect.isActive != true)) :
    (effect.receiveInterval trigger snapshot isToggled).Proceeds tick after count := by
  rw [receiveInterval, ticks]
  cases active : effect.isActive with
  | true =>
    simp only [receives]
    exact .ticks rfl rfl rfl
  | false =>
    rw [active] at toggled
    exact .pauses toggled active

theorem proceeds_receive (active : effect.isActive = true) (ticks : effect.tick = some tick)
    (receives : receiveTick trigger snapshot tick = (count, after)) :
    (effect.receive trigger snapshot).Proceeds tick after count := by
  rw [receive]
  split
  · exact proceeds_receiveInterval ticks receives (by simp [active])
  · dsimp only
    split
    · split
      · exact .expires rfl rfl active ticks
      · exact proceeds_receiveInterval ticks receives (by simp [active])
    · exact proceeds_receiveInterval ticks receives (by simp [active])

end AppliedEffect

theorem EffectReaction.count_fired {id : String} {reactions : List EffectReaction} :
    (fired reactions).count id = ((reactions.filter fun reaction =>
      reaction.effect.definition.id = id).map EffectReaction.intervals).sum := by
  induction reactions with
  | nil => rfl
  | cons reaction reactions inductionHypothesis =>
    rw [fired_cons, List.count_append, List.count_replicate, inductionHypothesis, List.filter_cons]
    by_cases same : reaction.effect.definition.id = id
    · simp [same]
    · simp [same]

namespace Course

variable {course : Course} {trigger : Trigger} {snapshot : StatSnapshot} {id : String}
  {exits count fired : Nat} {standing : Standing} {tick after : Condition}

theorem count_fired_reactions {effect : AppliedEffect}
    (named : ∀ id, ∀ effect ∈ course.effects.get? id, effect.definition.id = id)
    (applied : course.effects.get? id = some effect) :
    (EffectReaction.fired (Engine.reactionsOf trigger snapshot course.effects).values).count id =
      (effect.receive trigger snapshot).intervals := by
  have alone : (Engine.reactionsOf trigger snapshot course.effects).values.filter (fun reaction =>
      reaction.effect.definition.id = id) =
      ((Engine.reactionsOf trigger snapshot course.effects).get? id).toList :=
    Dictionary.filter_values fun _ => id_of_mem_reactions named
  rw [EffectReaction.count_fired, alone, Engine.reactionsOf, Dictionary.get?_mapValues, applied]
  rfl

/-- All effects have received a trigger, and hooks are still to be called: the effect is to be
removed, or its exit hook is to be called, or its interval hook so many times. -/
inductive Hears (id : String) (exits fired : Nat) (tick after : Condition) (count : Nat)
    (reactions : Dictionary EffectReaction) (course : Course) : Prop where
  | expires (expired : id ∈ Engine.expired reactions)
      (silent : (EffectReaction.fired reactions.values).count id = 0)
      (follows : course.Follows id exits (some (tick, fired)))
  | pauses (turned : (id, false) ∈ EffectReaction.turns reactions.values)
      (follows : course.Follows id exits none)
  | ticks (fires : (EffectReaction.fired reactions.values).count id = count)
      (follows : course.Follows id exits (some (after, fired)))

namespace Follows

theorem received (follows : course.Follows id exits standing) :
    (course.received trigger snapshot).Follows id exits none := by
  refine ⟨follows.catalog, fun name effect found => ?_, follows.exited,
    fun _ _ known => nomatch known⟩
  rw [get?_received] at found
  obtain ⟨earlier, applied, rfl⟩ := Option.map_eq_some_iff.1 found
  rw [AppliedEffect.definition_receive]
  exact follows.effects name earlier applied

theorem known (follows : course.Follows id exits none) (stands : course.Stands id tick fired) :
    course.Follows id exits (some (tick, fired)) := by
  refine ⟨follows.catalog, follows.effects, follows.exited, fun _ _ same _ => ?_⟩
  obtain ⟨rfl, rfl⟩ := Prod.mk.inj (Option.some.inj same)
  exact stands

theorem hears (follows : course.Follows id exits standing) (stands : course.Stands id tick fired)
    (receives : AppliedEffect.receiveTick trigger snapshot tick = (count, after)) :
    (course.received trigger snapshot).Hears id exits fired tick after count
      (Engine.reactionsOf trigger snapshot course.effects) := by
  obtain ⟨⟨effect, applied, active, ticks⟩, calls⟩ := stands
  have found : (Engine.reactionsOf trigger snapshot course.effects).get? id =
      some (effect.receive trigger snapshot) := by
    rw [Engine.reactionsOf, Dictionary.get?_mapValues, applied, Option.map_some]
  have member := Dictionary.get?_eq_some_iff_mem.1 found
  have here : (course.received trigger snapshot).effects.get? id =
      some (effect.receive trigger snapshot).effect := by
    rw [get?_received, applied, Option.map_some]
  have fires : (EffectReaction.fired
      (Engine.reactionsOf trigger snapshot course.effects).values).count id =
      (effect.receive trigger snapshot).intervals :=
    count_fired_reactions follows.effects applied
  cases AppliedEffect.proceeds_receive active ticks receives with
  | expires expired silent active stands =>
    refine .expires (List.mem_map.2 ⟨_, List.mem_filter.2 ⟨member, expired⟩, rfl⟩)
      (fires.trans silent) (follows.received.known ⟨⟨_, here, active, stands⟩, calls⟩)
  | pauses toggled inactive =>
    refine .pauses (List.mem_map.2 ⟨effect.receive trigger snapshot,
      List.mem_filter.2 ⟨List.mem_map.2 ⟨_, member, rfl⟩, toggled⟩, ?_⟩) follows.received
    rw [inactive, AppliedEffect.definition_receive, follows.effects id effect applied]
  | ticks intervals active stands =>
    exact .ticks (fires.trans intervals) (follows.received.known ⟨⟨_, here, active, stands⟩, calls⟩)

end Follows

end Course

namespace Engine

variable {α : Type} {isBusy : Bool} {id : String} {exits fired : Nat} {standing : Standing}

/-- An effect is followed while a notification is under way, or while none is. -/
abbrev Following (isBusy : Bool) (id : String) (exits : Nat) (standing : Standing)
    (world : World) : Prop :=
  world.course.isNotifying = isBusy ∧ world.course.Follows id exits standing

/-- Operations of hooks leave an effect standing as it stands, as long as it does not leave. -/
def IsSteady (perform : Performer) : Prop :=
  ∀ id exits standing operation, Keeps (Following true id exits standing) (perform operation)

theorem SparesCourse.following {engine : Engine α} (spares : SparesCourse engine) :
    Keeps (Following isBusy id exits standing) engine :=
  @SparesCourse.keepsCourse α
    (fun course => course.isNotifying = isBusy ∧ course.Follows id exits standing) engine spares

theorem recordCall_follows {kind : HookKind} {other : String} :
    Ensures (Following isBusy id exits standing) (recordCall kind other) fun _ =>
      Following isBusy id exits
        (standing.later (([⟨other, kind⟩] : List HookCall).count ⟨id, .interval⟩)) :=
  ensures_modifyGet fun _ following => ⟨following.1, following.2.called⟩

section Performers

variable {perform : Performer} (steady : IsSteady perform)

include steady

theorem callHook_follows {kind : HookKind} {definition : EffectDefinition} :
    Ensures (Following true id exits standing) (callHook perform kind definition) fun _ =>
      Following true id exits
        (standing.later (([⟨definition.id, kind⟩] : List HookCall).count ⟨id, .interval⟩)) :=
  recordCall_follows.bind fun _ => keeps_runProgram (steady _ _ _) _

/-- Enter and exit hooks fire no intervals. -/
theorem callHook_switch_follows {isActive : Bool} {definition : EffectDefinition} :
    Keeps (Following true id exits standing)
      (callHook perform (HookCall.switchOf isActive) definition) := by
  have silent : ([⟨definition.id, HookCall.switchOf isActive⟩] : List HookCall).count
      ⟨id, .interval⟩ = 0 := by
    cases isActive <;> simp [HookCall.switchOf]
  have calls : Ensures (Following true id exits standing)
      (callHook perform (HookCall.switchOf isActive) definition) fun _ => Following true id exits
        (standing.later (([⟨definition.id, HookCall.switchOf isActive⟩] : List HookCall).count
          ⟨id, .interval⟩)) :=
    callHook_follows steady
  rwa [silent, Standing.later_zero] at calls

/-- An effect has left when its exit hook has been called. -/
theorem callHook_exit_follows {definition : EffectDefinition} (named : definition.id = id) :
    Ensures (Following true id exits none) (callHook perform .exit definition) fun _ =>
      Following true id (exits + 1) none := by
  subst named
  have records : Ensures (Following true definition.id exits none) (recordCall .exit definition.id)
      fun _ => Following true definition.id (exits + 1) none :=
    ensures_modifyGet fun _ following => ⟨following.1, following.2.called_exit⟩
  exact records.bind fun _ => keeps_runProgram (steady _ _ _) _

/-- An effect is changed before its exit hook is called. -/
theorem callHook_exit_forgotten {definition : EffectDefinition} :
    Ensures (Following true id exits (if definition.id = id then none else standing))
      (callHook perform .exit definition) fun _ => Following true id exits standing := by
  split
  next named =>
    exact (callHook_exit_follows steady named).weaken fun _ _ left => ⟨left.1, left.2.left⟩
  next =>
    have keeps : Keeps (Following true id exits standing)
        (callHook perform (HookCall.switchOf false) definition) :=
      callHook_switch_follows steady
    exact keeps

/-! ### Changes of effects -/

section Replaced

-- the effect of the id `other` is replaced, put into place or dropped
variable {world between : World} {other : String} {effects : Dictionary AppliedEffect}
  {next : Option AppliedEffect} (following : Following isBusy id exits standing world)
  (edited : between.course = world.course.withEffects effects)
  (replaced : ∀ name,
    effects.get? name = if other = name then next else world.course.effects.get? name)
  (named : ∀ effect ∈ next, effect.definition.id = other)

include following edited replaced named

omit steady in
theorem Following.changed (same : other = id → ∀ tick count, standing = some (tick, count) →
      world.course.Stands id tick count →
      ∃ effect, next = some effect ∧ effect.isActive = true ∧ effect.tick = some tick) :
    Following isBusy id exits standing between := by
  rw [Following, edited]
  exact ⟨following.1, following.2.changed replaced named same⟩

omit steady in
theorem Following.forgotten :
    Following isBusy id exits (if other = id then none else standing) between := by
  rw [Following, edited]
  exact ⟨following.1, following.2.forgotten replaced named⟩

end Replaced

theorem addEffect_follows {other : String} :
    Keeps (Following true id exits standing) (addEffect perform other) := by
  refine ensures_world_bind fun world following => ?_
  cases applied : world.actor.effects.contains other with
  | true => exact ensures_pure fun _ same => same ▸ following
  | false =>
    simp only [Bool.false_eq_true, if_false]
    cases known : world.actor.catalog.get? other with
    | none => exact ensures_pure fun _ same => same ▸ following
    | some definition =>
      obtain rfl : definition.id = other := following.2.catalog other definition known
      have missing : world.course.effects.get? definition.id = none :=
        Option.isNone_iff_eq_none.1 (Option.isSome_eq_false_iff.1 applied)
      have named : ∀ effect ∈ some (AppliedEffect.start definition world.actor.snapshot),
          effect.definition.id = definition.id := by
        rintro _ ⟨⟩
        rfl
      have placed (between : World) (edited : between.course = world.course.withEffects
          (world.course.effects.insert definition.id (.start definition world.actor.snapshot))) :
          Following true id exits standing between := by
        refine following.changed edited (fun _ => Dictionary.get?_insert) named ?_
        -- an effect that was not applied did not stand
        rintro rfl tick count _ ⟨⟨effect, found, _⟩, _⟩
        cases missing.symm.trans found
      refine placeEffect_course.bind fun _ => report_sparesCourse.keeps.bind fun _ => ?_
      have enters : Keeps (Following true id exits standing)
          (callHook perform (HookCall.switchOf true) definition) := callHook_switch_follows steady
      split
      · exact (enters.strengthen placed).bind fun _ => keeps_pure
      · exact keeps_pure.strengthen placed

theorem refreshEffect_follows {other : String} :
    Keeps (Following true id exits standing) (refreshEffect perform other) := by
  refine ensures_world_bind fun world following => ?_
  cases applied : world.actor.effects.get? other with
  | none => exact ensures_pure fun _ same => same ▸ following
  | some effect =>
    obtain rfl : effect.definition.id = other := following.2.effects other effect applied
    have named : ∀ refreshed ∈ some (effect.refresh world.actor.snapshot),
        refreshed.definition.id = effect.definition.id := by
      rintro _ ⟨⟩
      rfl
    refine placeEffect_course.bind fun _ => ?_
    dsimp only
    cases active : (effect.refresh world.actor.snapshot).isActive with
    | true =>
      have placed (between : World) (edited : between.course = world.course.withEffects
          (world.course.effects.insert effect.definition.id
            (effect.refresh world.actor.snapshot))) : Following true id exits standing between := by
        refine following.changed edited (fun _ => Dictionary.get?_insert) named ?_
        -- refreshing starts the duration over, not the tick condition
        rintro rfl tick count _ ⟨⟨earlier, found, _, ticks⟩, _⟩
        obtain rfl := Option.some.inj (applied.symm.trans found)
        exact ⟨_, rfl, active, ticks⟩
      have enters : Keeps (Following true id exits standing)
          (callHook perform (HookCall.switchOf true) effect.definition) :=
        callHook_switch_follows steady
      split
      · exact (enters.strengthen placed).bind fun _ => keeps_pure
      · exact keeps_pure.strengthen placed
    | false =>
      split
      next flips =>
        have exits : Ensures (fun between => between.course = world.course.withEffects
              (world.course.effects.insert effect.definition.id
                (effect.refresh world.actor.snapshot)))
            (callHook perform .exit effect.definition) fun _ => Following true id exits standing :=
          (callHook_exit_forgotten steady).strengthen fun between edited =>
            following.forgotten edited (fun _ => Dictionary.get?_insert) named
        exact exits.bind fun _ => keeps_pure
      next unchanged =>
        -- an effect that was suspended did not stand
        refine keeps_pure.strengthen fun between edited =>
          following.changed edited (fun _ => Dictionary.get?_insert) named ?_
        rintro rfl tick count _ ⟨⟨earlier, found, wasActive, _⟩, _⟩
        obtain rfl := Option.some.inj (applied.symm.trans found)
        simp [wasActive] at unchanged

theorem removeEffect_follows {other : String} :
    Keeps (Following true id exits standing) (removeEffect perform other) := by
  refine ensures_world_bind fun world following => ?_
  cases applied : world.actor.effects.get? other with
  | none => exact ensures_pure fun _ same => same ▸ following
  | some effect =>
    obtain rfl : effect.definition.id = other := following.2.effects other effect applied
    have named : ∀ other ∈ (none : Option AppliedEffect),
        other.definition.id = effect.definition.id := by
      rintro _ ⟨⟩
    refine dropEffect_course.bind fun _ => ?_
    dsimp only
    split
    next active =>
      have exits : Ensures (fun between => between.course =
            world.course.withEffects (world.course.effects.erase effect.definition.id))
          (callHook perform .exit effect.definition)
          fun _ => Following true id exits standing :=
        (callHook_exit_forgotten steady).strengthen fun between edited =>
          following.forgotten edited (fun _ => Dictionary.get?_erase) named
      exact Ensures.bind exits fun _ => report_sparesCourse.following.bind fun _ => keeps_pure
    next suspended =>
      refine (report_sparesCourse.following.strengthen fun between edited => ?_).bind
        fun _ => keeps_pure
      refine following.changed edited (fun _ => Dictionary.get?_erase) named ?_
      -- a suspended effect did not stand
      rintro rfl tick count _ ⟨⟨earlier, found, active, _⟩, _⟩
      obtain rfl := Option.some.inj (applied.symm.trans found)
      exact absurd active suspended

/-- An effect that stands leaves when it is removed. -/
theorem removeEffect_leaves {tick : Condition} :
    Ensures (Following true id exits (some (tick, fired))) (removeEffect perform id) fun _ =>
      Following true id (exits + 1) none := by
  intro world result world' following returned
  rcases following.2.left_or_stands with left | ⟨⟨effect, applied, active, _⟩, _⟩
  · exact removeEffect_follows steady world result world' ⟨following.1, left⟩ returned
  · have named : effect.definition.id = id := following.2.effects id effect applied
    have found : world.actor.effects.get? id = some effect := applied
    have leaves : Ensures (fun between => between = world)
        (do dropEffect id
            callHook perform .exit effect.definition
            report [.effectRemoved id]
            pure true) fun _ => Following true id (exits + 1) none := by
      refine dropEffect_course.bind fun _ => Ensures.bind ?_ fun _ =>
        report_sparesCourse.following.bind fun _ => keeps_pure
      refine (callHook_exit_follows steady named).strengthen fun between edited => ?_
      have gone := following.forgotten edited (fun _ => Dictionary.get?_erase) (by rintro _ ⟨⟩)
      rwa [if_pos rfl] at gone
    rw [removeEffect, run_actor_bind] at returned
    simp only [found, active, if_true] at returned
    exact leaves world result world' rfl returned

/-! ### Notifications -/

theorem removeEffects_follows {ids : List String} :
    Keeps (Following true id exits standing) (removeEffects perform ids) := by
  induction ids with
  | nil => exact keeps_pure
  | cons other ids inductionHypothesis =>
    exact (removeEffect_follows steady).bind fun _ => inductionHypothesis

theorem removeEffects_leaves {tick : Condition} {ids : List String} (member : id ∈ ids) :
    Ensures (Following true id exits (some (tick, fired))) (removeEffects perform ids) fun _ =>
      Following true id (exits + 1) none := by
  induction ids with
  | nil => cases member
  | cons other ids inductionHypothesis =>
    cases member with
    | head =>
      exact (removeEffect_leaves steady).bind fun _ => removeEffects_follows steady
    | tail _ later =>
      exact (removeEffect_follows steady).bind fun _ => inductionHypothesis later

theorem toggleEffects_follows {reactions : List EffectReaction} :
    Keeps (Following true id exits standing) (toggleEffects perform reactions) := by
  induction reactions with
  | nil => exact keeps_pure
  | cons reaction reactions inductionHypothesis =>
    simp only [toggleEffects]
    split
    · exact Ensures.bind (callHook_switch_follows steady) fun _ => inductionHypothesis
    · exact inductionHypothesis

/-- A suspended effect leaves when its exit hook is called. -/
theorem toggleEffects_leaves {reactions : List EffectReaction}
    (turned : (id, false) ∈ EffectReaction.turns reactions) :
    Ensures (Following true id exits none) (toggleEffects perform reactions) fun _ =>
      Following true id (exits + 1) none := by
  induction reactions with
  | nil => cases turned
  | cons reaction reactions inductionHypothesis =>
    rw [EffectReaction.turns_cons] at turned
    simp only [toggleEffects]
    split
    next toggled =>
      rw [if_pos toggled] at turned
      rcases List.mem_cons.1 turned with here | later
      · obtain ⟨named, suspended⟩ := Prod.mk.inj here
        rw [← suspended]
        exact Ensures.bind (callHook_exit_follows steady named.symm) fun _ =>
          toggleEffects_follows steady
      · exact Ensures.bind (callHook_switch_follows steady) fun _ => inductionHypothesis later
    next unchanged =>
      rw [if_neg unchanged] at turned
      exact inductionHypothesis turned

theorem callHooks_follows {definition : EffectDefinition} {count : Nat} :
    Ensures (Following true id exits standing) (callHooks perform .interval definition count)
      fun _ => Following true id exits
        (standing.later ((List.replicate count definition.id).count id)) := by
  induction count generalizing standing with
  | zero =>
    refine ensures_pure fun world following => ?_
    rwa [List.replicate_zero, List.count_nil, Standing.later_zero]
  | succ count inductionHypothesis =>
    have fires : ([⟨definition.id, .interval⟩] : List HookCall).count ⟨id, .interval⟩ =
        [definition.id].count id := by
      simp [List.count_singleton]
    rw [List.replicate_succ, ← List.singleton_append, List.count_append, ← fires,
      ← Standing.later_later]
    exact (callHook_follows steady).bind fun _ => inductionHypothesis

theorem fireIntervals_follows {reactions : List EffectReaction} :
    Ensures (Following true id exits standing) (fireIntervals perform reactions) fun _ =>
      Following true id exits (standing.later ((EffectReaction.fired reactions).count id)) := by
  induction reactions generalizing standing with
  | nil =>
    refine ensures_pure fun world following => ?_
    rwa [EffectReaction.fired, List.flatMap_nil, List.count_nil, Standing.later_zero]
  | cons reaction reactions inductionHypothesis =>
    rw [EffectReaction.fired_cons, List.count_append, ← Standing.later_later]
    exact (callHooks_follows steady).bind fun _ => inductionHypothesis

/-! ### Passes -/

/-- The hooks of a pass, when all effects have received the trigger. -/
def react (perform : Performer) (reactions : Dictionary EffectReaction) : Engine Unit := do
  toggleEffects perform reactions.values
  fireIntervals perform reactions.values
  removeEffects perform (expired reactions)

theorem react_left {reactions : Dictionary EffectReaction} :
    Keeps (Following true id exits none) (react perform reactions) :=
  (toggleEffects_follows steady).bind fun _ => (fireIntervals_follows steady).bind fun _ =>
    removeEffects_follows steady

variable {tick after : Condition} {count : Nat}

theorem react_follows {reactions : Dictionary EffectReaction} :
    Ensures (fun world => world.course.isNotifying = true ∧
        world.course.Hears id exits fired tick after count reactions)
      (react perform reactions) fun _ => Following true id exits (some (after, fired + count)) := by
  have left (result : Unit) (world : World) (gone : Following true id (exits + 1) none world) :
      Following true id exits (some (after, fired + count)) world := ⟨gone.1, gone.2.left⟩
  intro world result world' start returned
  obtain ⟨busy, hears⟩ := start
  cases hears with
  | expires expired silent follows =>
    have ends : Ensures (Following true id exits (some (tick, fired))) (react perform reactions)
        fun _ => Following true id exits (some (after, fired + count)) := by
      refine (toggleEffects_follows steady).bind fun _ =>
        (fireIntervals_follows steady).bind fun _ => ?_
      rw [silent, Standing.later_zero]
      exact (removeEffects_leaves steady expired).weaken left
    exact ends world result world' ⟨busy, follows⟩ returned
  -- its tick condition was not asked, but its exit hook is called before anything else is known
  | pauses turned follows =>
    have ends : Ensures (Following true id exits none) (react perform reactions)
        fun _ => Following true id exits (some (after, fired + count)) :=
      (toggleEffects_leaves steady turned).bind fun _ => (fireIntervals_follows steady).bind
        fun _ => (removeEffects_follows steady).weaken left
    exact ends world result world' ⟨busy, follows⟩ returned
  | ticks fires follows =>
    have ticks : Ensures (Following true id exits (some (after, fired))) (react perform reactions)
        fun _ => Following true id exits (some (after, fired + count)) := by
      refine (toggleEffects_follows steady).bind fun _ =>
        (fireIntervals_follows steady).bind fun _ => ?_
      rw [fires]
      exact removeEffects_follows steady
    exact ticks world result world' ⟨busy, follows⟩ returned

theorem pass_follows {trigger : Trigger}
    (receives : ∀ snapshot, AppliedEffect.receiveTick trigger snapshot tick = (count, after)) :
    Ensures (Following true id exits (some (tick, fired))) (pass perform trigger) fun _ =>
      Following true id exits (some (after, fired + count)) := by
  refine ensures_world_bind fun world following => ?_
  have sweeps : Ensures (fun between => between = world)
      (sweepModifiers trigger world.actor.snapshot) fun _ between =>
        between.course = world.course :=
    isVisit_sweepModifiers.sparesCourse.keeps.strengthen fun between same => same ▸ rfl
  refine sweeps.bind fun _ => receiveEffects_course.bind fun reactions =>
    ensures_of_and fun same => ?_
  subst same
  change Ensures _ (react perform _) _
  -- an effect that has left may be back, but then nothing is claimed of it
  rcases following.2.left_or_stands with left | stands
  · refine ((react_left steady).strengthen fun between heard => ?_).weaken
      fun _ _ gone => ⟨gone.1, gone.2.left⟩
    rw [Following, heard]
    exact ⟨following.1, left.received⟩
  · have hears := following.2.hears stands (receives world.actor.snapshot)
    refine (react_follows steady).strengthen fun between heard => ⟨?_, heard ▸ hears⟩
    rw [heard]
    exact following.1

theorem settle_follows {passes : Nat}
    (ignores : ∀ snapshot, AppliedEffect.receiveTick .statsChanged snapshot tick = (0, tick)) :
    Keeps (Following true id exits (some (tick, fired))) (settle perform passes) := by
  induction passes with
  | zero =>
    refine takeDirty_sparesCourse.following.bind fun isDirty => ?_
    cases isDirty with
    | false => exact keeps_pure
    | true => exact countCutOff_sparesCourse.following
  | succ passes inductionHypothesis =>
    refine takeDirty_sparesCourse.following.bind fun isDirty => ?_
    cases isDirty with
    | false => exact keeps_pure
    | true => exact (pass_follows steady ignores).bind fun _ => inductionHypothesis

/-- Outside of notifications, an effect that stands makes of a trigger what its tick condition
makes of it. -/
theorem notify_follows {trigger : Trigger}
    (receives : ∀ snapshot, AppliedEffect.receiveTick trigger snapshot tick = (count, after))
    (ignores : ∀ snapshot, AppliedEffect.receiveTick .statsChanged snapshot after = (0, after)) :
    Ensures (Following false id exits (some (tick, fired))) (notify perform trigger) fun _ =>
      Following false id exits (some (after, fired + count)) := by
  refine ensures_world_bind fun world following => ?_
  have idle : world.actor.isNotifying = false := following.1
  simp only [idle, Bool.false_eq_true, if_false]
  have begins : Ensures (fun between => between = world) (setNotifying true)
      fun _ => Following true id exits (some (tick, fired)) := by
    refine ensures_modify ?_
    rintro _ rfl
    exact ⟨rfl, following.2.renotified⟩
  have ends : Ensures (Following true id exits (some (after, fired + count))) (setNotifying false)
      fun _ => Following false id exits (some (after, fired + count)) :=
    ensures_modify fun _ following => ⟨rfl, following.2.renotified⟩
  exact begins.bind fun _ => (pass_follows steady receives).bind fun _ =>
    (settle_follows steady ignores).bind fun _ => ends

omit steady in
/-- During a notification, another one only asks for a further pass. -/
theorem notify_spares {trigger : Trigger} :
    Keeps (Following true id exits standing) (notify perform trigger) := by
  refine ensures_world_bind fun world following => ?_
  have busy : world.actor.isNotifying = true := following.1
  simp only [busy, if_true]
  exact markDirty_sparesCourse.following.strengthen fun between same => same ▸ following

/-! ### Operations -/

theorem act_follows {fuel : Nat} {operation : Operation} :
    Keeps (Following true id exits standing) (act perform fuel operation) := by
  cases operation with
  | addEffect other => exact (addEffect_follows steady).bind fun _ => keeps_pure
  | refreshEffect other => exact (refreshEffect_follows steady).bind fun _ => keeps_pure
  | removeEffect other => exact (removeEffect_follows steady).bind fun _ => keeps_pure
  | _ =>
    exact keepsCourse_act
      (fun course => course.isNotifying = true ∧ course.Follows id exits standing)
      (fun _ => notify_spares) (by simp)

end Performers

theorem isSteady_perform {fuel : Nat} : IsSteady (Engine.perform fuel) := by
  induction fuel with
  | zero => exact fun _ _ _ _ => ensures_exhausted
  | succ fuel inductionHypothesis => exact fun _ _ _ _ => act_follows inductionHypothesis

/-- An effect that stands fires the intervals that its tick condition makes of the time that has
passed, whatever else happens in a call of `process`. -/
theorem process_follows {tick after : Condition} {count fuel : Nat} {delta : Float32}
    (receives : ∀ snapshot,
      AppliedEffect.receiveTick (.tick delta) snapshot tick = (count, after))
    (ignores : ∀ trigger snapshot, trigger.kind ≠ .time →
      AppliedEffect.receiveTick trigger snapshot after = (0, after)) :
    Ensures (Following false id exits (some (tick, fired)))
      (Engine.perform (fuel + 1) (.process delta)) fun _ =>
        Following false id exits (some (after, fired + count)) := by
  have drains : KeepsCourse
      (fun course => course.isNotifying = false ∧
        course.Follows id exits (some (after, fired + count)))
      (drainDamage (Engine.perform fuel) fuel) :=
    keepsCourse_drainDamage fun amount => notify_follows isSteady_perform
      (fun snapshot => ignores _ snapshot (by simp [Trigger.kind]))
      fun snapshot => ignores _ snapshot (by simp [Trigger.kind])
  have ticks : Ensures (Following false id exits (some (tick, fired)))
      (notify (Engine.perform fuel) (.tick delta)) fun _ =>
        Following false id exits (some (after, fired + count)) :=
    notify_follows isSteady_perform receives
      fun snapshot => ignores _ snapshot (by simp [Trigger.kind])
  exact (ticks.bind fun _ => drains).bind fun _ => keeps_pure

end Engine

end Roleplay
