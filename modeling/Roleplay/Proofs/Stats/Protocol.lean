import Roleplay.Proofs.Stats.Turns

/-! # The protocol of hooks

Hooks may perform any operations, and so may withdraw, suspend or resume effects whose own hooks are
still to be called by the pass that is under way.  The pass calls them all the same: then an
interval hook runs for an effect that is gone, or an exit hook before the enter hook.  As long as no
operation gets in the way of such hooks, they are called in turn, and only active effects tick.

* `World.interferes` says when an operation gets in the way, `Engine.performTactfully` performs
  operations as long as none does;
* `Engine.IsCareful` is what operations of hooks have to keep, and one lemma for every part of the
  engine says that it keeps it then;
* `World.Reachable.keepsProtocol` is the protocol for runs without interference,
  `World.Reachable.not_forall_keepsProtocol` a run with one.
-/

namespace Roleplay

/-! ## Interference -/

namespace World

/-- Whether the notification under way has still to call hooks of an effect.  An enter or exit hook
is outstanding when the calls so far do not agree with the activity of the effect. -/
def isAwaited (world : World) (id : String) : Bool :=
  world.actor.isNotifying &&
    (HookCall.isEntered id world.calls != world.actor.hasEffect id || world.due.contains id)

/-- Whether an operation begins, ends, suspends or resumes an effect whose hooks are still to be
called. -/
def interferes (world : World) : Operation → Bool
  | .addEffect id =>
    world.isAwaited id && !world.actor.effects.contains id &&
      (world.actor.catalog.get? id).any fun definition =>
        (AppliedEffect.start definition world.actor.snapshot).isActive
  | .refreshEffect id =>
    world.isAwaited id && (world.actor.effects.get? id).any fun effect =>
      (effect.refresh world.actor.snapshot).isActive != effect.isActive
  | .removeEffect id => world.isAwaited id && world.actor.hasEffect id
  | _ => false

end World

namespace Engine

/-- Performs operations as long as none of them interferes, and neither do those of hooks. -/
def performTactfully : Nat → Performer
  | 0 => fun _ => exhausted
  | fuel + 1 => fun operation => do
    let world ← get
    if world.interferes operation then exhausted
    else act (performTactfully fuel) fuel operation

variable {α β : Type}

theorem run_get_bind {next : World → Engine β} {world : World} :
    ((get : Engine World) >>= next).run world = (next world).run world := rfl

theorem run_performTactfully {fuel : Nat} {operation : Operation} {world : World} :
    (performTactfully (fuel + 1) operation).run world =
      if world.interferes operation then none
      else (act (performTactfully fuel) fuel operation).run world := by
  rw [performTactfully, run_get_bind]
  split
  · rfl
  · rfl

/-! ### What is performed tactfully is performed -/

theorem likeness_eq : Likeness Eq fun _ => True where
  actor := by
    rintro world _ rfl
    rfl
  catalog _ _ _ _ _ _ := trivial
  effects _ _ _ _ _ _ := trivial
  modifyGet _ _ := matches_self
  report _ := matches_self
  sweepModifiers _ _ := matches_self
  withdrawSource _ := matches_self
  replaceCustomValue _ _ := matches_self

theorem performTactfully_matches {fuel : Nat} {operation : Operation} :
    Matches Eq (performTactfully fuel operation) (perform fuel operation) := by
  induction fuel generalizing operation with
  | zero => exact matches_exhausted
  | succ fuel inductionHypothesis =>
    have hooks (kind : HookKind) (definition : EffectDefinition) (_ : True) :
        Matches Eq (callHook (performTactfully fuel) kind definition)
          (callHook (perform fuel) kind definition) :=
      likeness_eq.callHook fun _ => matches_runProgram (fun _ => inductionHypothesis) _
    have acts : Matches Eq (act (performTactfully fuel) fuel operation)
        (act (perform fuel) fuel operation) := by
      -- events are taken without hooks, and what is taken is the same
      by_cases taking : operation = .takeEvents
      · subst taking
        exact matches_self
      · exact likeness_eq.act hooks taking fun _ _ _ => matches_self
    intro world world' result after same returned
    rw [run_performTactfully] at returned
    split at returned
    · cases returned
    · exact acts world world' result after same returned

/-! ## Hooks -/

variable {isBusy : Bool} {switching : List (String × Bool)} {firing : List String}

/-- A notification is under way or not, and hooks have been called as the activity of effects says,
but for those that are still to be called. -/
abbrev Attending (isBusy : Bool) (switching : List (String × Bool)) (firing : List String)
    (world : World) : Prop :=
  world.course.isNotifying = isBusy ∧ world.course.Attends switching firing

/-- Operations leave the hooks alone that are still to be called.  Outside of notifications there
are none. -/
def IsCareful (perform : Performer) : Prop :=
  ∀ isBusy switching firing operation, (isBusy = false → switching = [] ∧ firing = []) →
    Keeps (Attending isBusy switching firing) (perform operation)

theorem SparesCourse.attending {engine : Engine α} (spares : SparesCourse engine) :
    Keeps (Attending isBusy switching firing) engine := by
  intro world result world' attending returned
  rw [Attending, spares world result world' returned]
  exact attending

theorem recordCall_switch {id : String} {isActive : Bool}
    (once : ∀ isActive, (id, isActive) ∉ switching) :
    Ensures (Attending isBusy ((id, isActive) :: switching) firing)
      (recordCall (HookCall.switchOf isActive) id) fun _ => Attending isBusy switching firing :=
  ensures_modifyGet fun _ attending => ⟨attending.1, attending.2.called once⟩

theorem recordCall_interval {id : String} :
    Ensures (Attending isBusy switching (id :: firing)) (recordCall .interval id)
      fun _ => Attending isBusy switching firing :=
  ensures_modifyGet fun _ attending => ⟨attending.1, attending.2.called_interval⟩

theorem receiveEffects_attending {trigger : Trigger} {snapshot : StatSnapshot} :
    Ensures (Attending isBusy [] []) (receiveEffects trigger snapshot) fun reactions world =>
      (reactions.values.map fun reaction => reaction.effect.definition.id).Nodup ∧
        Attending isBusy (EffectReaction.turns reactions.values)
          (EffectReaction.fired reactions.values) world := by
  intro world reactions world' attending returned
  obtain ⟨rfl, rfl⟩ := Prod.mk.inj (Option.some.inj returned)
  exact ⟨Course.nodup_reactions attending.2.effects, attending.1, attending.2.received⟩

section Performers

variable {perform : Performer} (careful : IsCareful perform)

include careful

theorem callHook_switch (outside : isBusy = false → switching = [] ∧ firing = [])
    {definition : EffectDefinition} {isActive : Bool}
    (once : ∀ isActive, (definition.id, isActive) ∉ switching) :
    Ensures (Attending isBusy ((definition.id, isActive) :: switching) firing)
      (callHook perform (HookCall.switchOf isActive) definition)
      fun _ => Attending isBusy switching firing :=
  (recordCall_switch once).bind fun _ =>
    keeps_runProgram (fun operation => careful _ _ _ operation outside) _

theorem callHook_interval {definition : EffectDefinition} :
    Ensures (Attending true switching (definition.id :: firing))
      (callHook perform .interval definition) fun _ => Attending true switching firing :=
  recordCall_interval.bind fun _ =>
    keeps_runProgram (fun operation => careful _ _ _ operation (by simp)) _

theorem callHooks_interval {definition : EffectDefinition} {count : Nat} :
    Ensures (Attending true switching (List.replicate count definition.id ++ firing))
      (callHooks perform .interval definition count) fun _ => Attending true switching firing := by
  induction count with
  | zero => exact keeps_pure
  | succ count inductionHypothesis =>
    rw [List.replicate_succ, List.cons_append]
    exact (callHook_interval careful).bind fun _ => inductionHypothesis

theorem fireIntervals_attending {reactions : List EffectReaction} :
    Ensures (Attending true switching (EffectReaction.fired reactions))
      (fireIntervals perform reactions) fun _ => Attending true switching [] := by
  induction reactions with
  | nil => exact keeps_pure
  | cons reaction reactions inductionHypothesis =>
    rw [EffectReaction.fired_cons]
    exact (callHooks_interval careful).bind fun _ => inductionHypothesis

/-- The enter and exit hooks of a pass are called one after the other. -/
theorem toggleEffects_attending {reactions : List EffectReaction}
    (unique : (reactions.map fun reaction => reaction.effect.definition.id).Nodup) :
    Ensures (Attending true (EffectReaction.turns reactions) firing)
      (toggleEffects perform reactions) fun _ => Attending true [] firing := by
  induction reactions with
  | nil => exact keeps_pure
  | cons reaction reactions inductionHypothesis =>
    obtain ⟨once, unique⟩ := List.nodup_cons.1 unique
    have others := inductionHypothesis unique
    rw [EffectReaction.turns_cons]
    simp only [toggleEffects]
    split
    · exact (callHook_switch careful (by simp) fun _ => EffectReaction.notMem_turns once).bind
        fun _ => others
    · exact others

/-! ## Changes of one effect -/

section Change

variable (outside : isBusy = false → switching = [] ∧ firing = []) {id : String}

include outside

omit careful in
theorem isFree_of_not_isAwaited {world : World}
    (attending : Attending isBusy switching firing world)
    (calm : world.isAwaited id = false) : world.course.IsFree firing id := by
  cases isBusy with
  | false =>
    obtain ⟨rfl, rfl⟩ := outside rfl
    exact attending.2.isFree
  | true =>
    have busy : world.actor.isNotifying = true := attending.1
    have due : world.due = firing := attending.2.due
    rw [World.isAwaited, busy, due, Bool.true_and, Bool.or_eq_false_iff] at calm
    exact ⟨bne_eq_false_iff_eq.1 calm.1, by simpa using calm.2⟩

section Replaced

variable {world : World} {effects : Dictionary AppliedEffect} {next : Option AppliedEffect}
  (attending : Attending isBusy switching firing world)

include attending

omit careful outside in
/-- An effect has been replaced that is as active as it was. -/
theorem Attending.changed {between : World}
    (edited : between.course = world.course.withEffects effects)
    (replaced : ∀ other,
      effects.get? other = if id = other then next else world.course.effects.get? other)
    (named : ∀ effect ∈ next, effect.definition.id = id)
    (same : next.any AppliedEffect.isActive = world.course.isActive id) :
    Attending isBusy switching firing between := by
  rw [Attending, edited]
  exact ⟨attending.1, attending.2.changed replaced named same⟩

/-- An effect has been turned, and its hook is called next. -/
theorem callHook_turned {definition : EffectDefinition} {isActive : Bool}
    (free : world.course.IsFree firing definition.id)
    (replaced : ∀ other, effects.get? other =
      if definition.id = other then next else world.course.effects.get? other)
    (named : ∀ effect ∈ next, effect.definition.id = definition.id)
    (turned : next.any AppliedEffect.isActive = isActive)
    (flips : world.course.isActive definition.id = !isActive) :
    Ensures (fun between => between.course = world.course.withEffects effects)
      (callHook perform (HookCall.switchOf isActive) definition)
      fun _ => Attending isBusy switching firing := by
  refine (callHook_switch careful outside fun _ => attending.2.notMem free).strengthen ?_
  intro between edited
  rw [Attending, edited]
  exact ⟨attending.1, attending.2.turned replaced named free turned flips⟩

end Replaced

theorem addEffect_attending :
    Ensures (fun world => Attending isBusy switching firing world ∧
        world.interferes (.addEffect id) = false)
      (addEffect perform id) fun _ => Attending isBusy switching firing := by
  refine ensures_world_bind fun world start => ?_
  obtain ⟨attending, tactful⟩ := start
  cases applied : world.actor.effects.contains id with
  | true => exact ensures_pure fun _ same => same ▸ attending
  | false =>
    simp only [Bool.false_eq_true, if_false]
    cases known : world.actor.catalog.get? id with
    | none => exact ensures_pure fun _ same => same ▸ attending
    | some definition =>
      obtain rfl : definition.id = id := attending.2.catalog id definition known
      have inactive : world.course.isActive definition.id = false := by
        have missing : world.course.effects.get? definition.id = none :=
          Option.isNone_iff_eq_none.1 (Option.isSome_eq_false_iff.1 applied)
        rw [Course.isActive, missing, Option.any_none]
      have named : ∀ effect ∈ some (AppliedEffect.start definition world.actor.snapshot),
          effect.definition.id = definition.id := by
        rintro _ ⟨⟩
        rfl
      refine placeEffect_course.bind fun _ => report_sparesCourse.keeps.bind fun _ => ?_
      -- an effect whose duration suspends it from the start is not turned
      split
      next active =>
        have calm : world.isAwaited definition.id = false := by
          simpa [World.interferes, applied, known, active] using tactful
        have free := isFree_of_not_isAwaited outside attending calm
        exact (callHook_turned careful outside attending free (fun _ => Dictionary.get?_insert)
          named active inactive).bind fun _ => keeps_pure
      next suspended =>
        have same := (Bool.eq_false_iff.2 suspended).trans inactive.symm
        exact ensures_pure fun between edited =>
          attending.changed edited (fun _ => Dictionary.get?_insert) named same

theorem refreshEffect_attending :
    Ensures (fun world => Attending isBusy switching firing world ∧
        world.interferes (.refreshEffect id) = false)
      (refreshEffect perform id) fun _ => Attending isBusy switching firing := by
  refine ensures_world_bind fun world start => ?_
  obtain ⟨attending, tactful⟩ := start
  cases applied : world.actor.effects.get? id with
  | none => exact ensures_pure fun _ same => same ▸ attending
  | some effect =>
    obtain rfl : effect.definition.id = id := attending.2.effects id effect applied
    have was : world.course.isActive effect.definition.id = effect.isActive :=
      Course.isActive_of_applied applied
    have named : ∀ refreshed ∈ some (effect.refresh world.actor.snapshot),
        refreshed.definition.id = effect.definition.id := by
      rintro _ ⟨⟩
      rfl
    refine placeEffect_course.bind fun _ => ?_
    dsimp only
    split
    next flips =>
      have calm : world.isAwaited effect.definition.id = false := by
        simpa [World.interferes, applied, flips] using tactful
      have free := isFree_of_not_isAwaited outside attending calm
      have turns := was.trans (Bool.eq_not.2 (bne_iff_ne.1 flips).symm)
      exact (callHook_turned careful outside attending free (fun _ => Dictionary.get?_insert)
        named rfl turns).bind fun _ => keeps_pure
    next steady =>
      have same : (effect.refresh world.actor.snapshot).isActive = effect.isActive := by
        simpa using steady
      exact ensures_pure fun between edited =>
        attending.changed edited (fun _ => Dictionary.get?_insert) named (same.trans was.symm)

/-- An effect is removed that is suspended, or has no hooks that are still to be called. -/
theorem removeEffect_attending :
    Ensures (fun world => Attending isBusy switching firing world ∧
        (world.actor.hasEffect id = true → world.course.IsFree firing id))
      (removeEffect perform id) fun _ => Attending isBusy switching firing := by
  refine ensures_world_bind fun world start => ?_
  obtain ⟨attending, free⟩ := start
  cases applied : world.actor.effects.get? id with
  | none => exact ensures_pure fun _ same => same ▸ attending
  | some effect =>
    obtain rfl : effect.definition.id = id := attending.2.effects id effect applied
    have was : world.course.isActive effect.definition.id = effect.isActive :=
      Course.isActive_of_applied applied
    have named : ∀ other ∈ (none : Option AppliedEffect),
        other.definition.id = effect.definition.id := by
      rintro _ ⟨⟩
    refine dropEffect_course.bind fun _ => ?_
    dsimp only
    split
    next active =>
      have ends : Ensures (fun between => between.course =
            world.course.withEffects (world.course.effects.erase effect.definition.id))
          (callHook perform (HookCall.switchOf false) effect.definition)
          fun _ => Attending isBusy switching firing :=
        callHook_turned careful outside attending (free (was.trans active))
          (fun _ => Dictionary.get?_erase) named rfl (was.trans active)
      exact Ensures.bind ends fun _ => report_sparesCourse.attending.bind fun _ => keeps_pure
    next suspended =>
      have same := (was.trans (Bool.eq_false_iff.2 suspended)).symm
      refine (report_sparesCourse.attending.strengthen fun between edited => ?_).bind
        fun _ => keeps_pure
      exact attending.changed edited (fun _ => Dictionary.get?_erase) named same

end Change

/-! ## Notifications -/

theorem removeEffects_attending {ids : List String} :
    Keeps (Attending true [] []) (removeEffects perform ids) := by
  induction ids with
  | nil => exact keeps_pure
  | cons id ids inductionHypothesis =>
    -- after the hooks of a pass no others are to be called
    refine ((removeEffect_attending careful (by simp)).strengthen fun world attending => ?_).bind
      fun _ => inductionHypothesis
    exact ⟨attending, fun _ => attending.2.isFree⟩

theorem pass_attending {trigger : Trigger} :
    Keeps (Attending true [] []) (pass perform trigger) := by
  refine ensures_world_bind fun world attending => ?_
  have sweeps : Ensures (fun between => between = world)
      (sweepModifiers trigger world.actor.snapshot) fun _ => Attending true [] [] :=
    isVisit_sweepModifiers.sparesCourse.attending.strengthen fun between same => same ▸ attending
  refine sweeps.bind fun _ => receiveEffects_attending.bind fun reactions =>
    ensures_of_and fun unique => ?_
  exact (toggleEffects_attending careful unique).bind fun _ =>
    (fireIntervals_attending careful).bind fun _ => removeEffects_attending careful

theorem settle_attending {passes : Nat} : Keeps (Attending true [] []) (settle perform passes) := by
  induction passes with
  | zero =>
    refine takeDirty_sparesCourse.attending.bind fun isDirty => ?_
    cases isDirty with
    | false => exact keeps_pure
    | true => exact countCutOff_sparesCourse.attending
  | succ passes inductionHypothesis =>
    refine takeDirty_sparesCourse.attending.bind fun isDirty => ?_
    cases isDirty with
    | false => exact keeps_pure
    | true => exact (pass_attending careful).bind fun _ => inductionHypothesis

section Operations

variable (outside : isBusy = false → switching = [] ∧ firing = [])

include outside

theorem notify_attending {trigger : Trigger} :
    Keeps (Attending isBusy switching firing) (notify perform trigger) := by
  refine ensures_world_bind fun world attending => ?_
  cases isBusy with
  | true =>
    have busy : world.actor.isNotifying = true := attending.1
    simp only [busy, if_true]
    exact markDirty_sparesCourse.attending.strengthen fun between same => same ▸ attending
  | false =>
    obtain ⟨rfl, rfl⟩ := outside rfl
    have idle : world.actor.isNotifying = false := attending.1
    simp only [idle, Bool.false_eq_true, if_false]
    have begins : Ensures (fun between => between = world) (setNotifying true)
        fun _ => Attending true [] [] := by
      refine ensures_modify ?_
      rintro _ rfl
      exact ⟨rfl, attending.2.renotified⟩
    have ends : Ensures (Attending true [] []) (setNotifying false)
        fun _ => Attending false [] [] :=
      ensures_modify fun _ attending => ⟨rfl, attending.2.renotified⟩
    exact begins.bind fun _ => (pass_attending careful).bind fun _ =>
      (settle_attending careful).bind fun _ => ends

/-! ## Operations -/

theorem act_attending_of_apart {fuel : Nat} {operation : Operation}
    (apart : ∀ id, operation ≠ .addEffect id ∧ operation ≠ .refreshEffect id ∧
      operation ≠ .removeEffect id) :
    Keeps (Attending isBusy switching firing) (act perform fuel operation) :=
  keepsCourse_act (fun course => course.isNotifying = isBusy ∧ course.Attends switching firing)
    (fun _ => notify_attending careful outside) apart

/-- An operation that does not interfere leaves the hooks alone that are still to be called, if the
operations of hooks do. -/
theorem act_attending {fuel : Nat} {operation : Operation} :
    Ensures (fun world => Attending isBusy switching firing world ∧
        world.interferes operation = false)
      (act perform fuel operation) fun _ => Attending isBusy switching firing := by
  cases operation with
  | addEffect id => exact (addEffect_attending careful outside).bind fun _ => keeps_pure
  | refreshEffect id => exact (refreshEffect_attending careful outside).bind fun _ => keeps_pure
  | removeEffect id =>
    refine ((removeEffect_attending careful outside).strengthen fun world start => ?_).bind
      fun _ => keeps_pure
    obtain ⟨attending, tactful⟩ := start
    refine ⟨attending, fun active => isFree_of_not_isAwaited outside attending ?_⟩
    simpa [World.interferes, active] using tactful
  | _ =>
    exact (act_attending_of_apart careful outside (by simp)).strengthen fun _ start => start.1

end Operations

end Performers

/-- As long as no operation interferes, hooks are called as they should be. -/
theorem isCareful_performTactfully {fuel : Nat} : IsCareful (performTactfully fuel) := by
  induction fuel with
  | zero => exact fun _ _ _ _ _ => ensures_exhausted
  | succ fuel inductionHypothesis =>
    intro isBusy switching firing operation outside world response world' attending returned
    rw [run_performTactfully] at returned
    split at returned
    -- an operation that interferes has no outcome
    · cases returned
    · rename_i tactful
      exact act_attending inductionHypothesis outside world response world'
        ⟨attending, Bool.eq_false_iff.2 tactful⟩ returned

end Engine

/-! ## Runs -/

/-- Enter and exit hooks were called in turn, enter first, and interval hooks only while their
effects were applied and active. -/
structure World.KeepsProtocol (world : World) : Prop where
  inTurn : ∀ id, HookCall.AreInTurn (HookCall.switches id world.calls)
  strays : world.strays = []

/-- Whether neither the operation interferes nor those of the hooks that it calls. -/
def World.IsTactful (world : World) (operation : Operation) (fuel : Nat) : Prop :=
  ((Engine.performTactfully (fuel + 1) operation).run world).isSome = true

instance (world : World) (operation : Operation) (fuel : Nat) :
    Decidable (world.IsTactful operation fuel) :=
  inferInstanceAs (Decidable (_ = true))

namespace World.Reachable

variable {definitions : List EffectDefinition} {world : World}

/-- Between operations no notification is under way, and no hook is still to be called. -/
theorem attending (reachable : World.Reachable (.ofList definitions) World.IsTactful world) :
    Engine.Attending false [] [] world := by
  induction reachable with
  | new pools orders =>
    refine ⟨rfl, fun id definition => EffectCatalog.id_of_get?_ofList, fun id effect applied => ?_,
      fun id => ?_, rfl, fun id _ => rfl, fun id isActive turned => ?_, rfl, fun id fires => ?_⟩
    · cases applied
    · rintro i kind ⟨⟩
    · cases turned
    · cases fires
  | @perform world world' operation fuel response reached returned permitted
      inductionHypothesis =>
    obtain ⟨⟨answer, after⟩, performed⟩ := Option.isSome_iff_exists.1 permitted
    -- what is performed tactfully is what is performed
    obtain ⟨_, same, rfl⟩ := Engine.performTactfully_matches world world answer after rfl performed
    obtain ⟨rfl, rfl⟩ := Prod.mk.inj (Option.some.inj (same.symm.trans returned))
    exact Engine.isCareful_performTactfully false [] [] operation (fun _ => ⟨rfl, rfl⟩) world answer
      after inductionHypothesis performed
  | share pools reached inductionHypothesis => exact inductionHypothesis

/-- Whatever else hooks do, they are called in turn, and only active effects tick, as long as no
operation begins, ends, suspends or resumes an effect whose hooks the notification under way has
still to call.  Then the active effects are those that have entered and not exited. -/
theorem keepsProtocol (reachable : World.Reachable (.ofList definitions) World.IsTactful world) :
    world.KeepsProtocol ∧
      ∀ id, HookCall.isEntered id world.calls = world.actor.hasEffect id := by
  have attends := reachable.attending.2
  exact ⟨⟨attends.inTurn, attends.strays⟩, fun id => attends.isFree.settled⟩

end World.Reachable

/-- An effect that makes room for the next one. -/
def EffectDefinition.dawn : EffectDefinition :=
  ⟨⟨"dawn", none, none, []⟩, .extending [.addEffect "day"] [] []⟩

/-- An effect that ends the one before it. -/
def EffectDefinition.day : EffectDefinition :=
  ⟨⟨"day", none, none, []⟩, .extending [.removeEffect "dawn"] [] []⟩

/-- An effect that ends another one when it ticks. -/
def EffectDefinition.dusk : EffectDefinition :=
  ⟨⟨"dusk", none, some (.timed 1), []⟩, .extending [] [] [.removeEffect "day"]⟩

/-- Hooks within hooks add and remove other effects. -/
theorem World.Reachable.keepsProtocol_dawn : ∃ world,
    World.Reachable (.ofList [.dawn, .day, .dusk]) World.IsTactful world ∧
      world.calls = [⟨"dawn", .enter⟩, ⟨"day", .enter⟩, ⟨"dawn", .exit⟩, ⟨"dusk", .enter⟩,
        ⟨"dusk", .interval⟩, ⟨"day", .exit⟩] ∧ world.KeepsProtocol ∧
      ∀ id, HookCall.isEntered id world.calls = world.actor.hasEffect id := by
  have run : ((Engine.perform 4 (.addEffect "dawn")).run
      (World.new (.ofList [.dawn, .day, .dusk]) .initial)).any (fun first =>
        first.2.IsTactful (.addEffect "dusk") 3 ∧
        ((Engine.perform 4 (.addEffect "dusk")).run first.2).any fun second =>
          second.2.IsTactful (.process 1) 3 ∧
          ((Engine.perform 4 (.process 1)).run second.2).any fun third =>
            third.2.calls = [⟨"dawn", .enter⟩, ⟨"day", .enter⟩, ⟨"dawn", .exit⟩, ⟨"dusk", .enter⟩,
              ⟨"dusk", .interval⟩, ⟨"day", .exit⟩]) = true := by
    decide +kernel
  obtain ⟨first, dawned, facts⟩ := (Option.any_eq_true _ _).1 run
  obtain ⟨tactfulDusk, run⟩ := of_decide_eq_true facts
  obtain ⟨second, dusked, facts⟩ := (Option.any_eq_true _ _).1 run
  obtain ⟨tactfulProcess, run⟩ := of_decide_eq_true facts
  obtain ⟨third, processed, calls⟩ := (Option.any_eq_true _ _).1 run
  have tactfulDawn : (World.new (.ofList [.dawn, .day, .dusk]) .initial).IsTactful
      (.addEffect "dawn") 3 := by
    decide +kernel
  have reachable : World.Reachable (.ofList [.dawn, .day, .dusk]) World.IsTactful third.2 :=
    (((World.Reachable.new .initial fun _ => .declared).perform dawned tactfulDawn).perform dusked
      tactfulDusk).perform processed tactfulProcess
  exact ⟨third.2, reachable, of_decide_eq_true calls, reachable.keepsProtocol⟩

/-- An effect that ends another one when it ticks, before that one ticks. -/
def EffectDefinition.bell : EffectDefinition :=
  ⟨⟨"bell", none, some (.timed 1), []⟩, .extending [] [] [.removeEffect "echo"]⟩

def EffectDefinition.echo : EffectDefinition :=
  ⟨⟨"echo", none, some (.timed 1), []⟩, .extending [] [] []⟩

/-- The interval hook of an effect is called though the hook before it has removed the effect. -/
theorem World.Reachable.not_forall_keepsProtocol :
    ¬∀ definitions world, World.Reachable (.ofList definitions) (fun _ _ _ => True) world →
      world.KeepsProtocol := by
  intro keeps
  have run : ((Engine.performAll 4 [.addEffect "bell", .addEffect "echo", .process 1]).run
      (World.new (.ofList [.bell, .echo]) .initial)).any
        (fun result => result.2.strays = ["echo"]) = true := by
    decide +kernel
  obtain ⟨result, returned, strays⟩ := (Option.any_eq_true _ _).1 run
  have reachable : World.Reachable (.ofList [.bell, .echo]) (fun _ _ _ => True) result.2 :=
    World.Reachable.performAll (fun _ _ _ => trivial) (.new .initial fun _ => .declared) returned
  have none := (keeps [.bell, .echo] result.2 reachable).strays
  rw [of_decide_eq_true strays] at none
  cases none

end Roleplay
