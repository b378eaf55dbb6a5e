import Roleplay.Proofs.Stats.Hooks

/-! # Notifications keep bundles up

A notification suspends, resumes and ends effects.  Each time the hook of the effect runs within the
notification, so that its bundle follows at once.

* `Engine.pass_evolves` is one pass, `Engine.notify_evolves` a whole notification;
* `Engine.removeEffect_evolves` is the end of an effect, within a notification or outside.
-/

namespace Roleplay

/-- What the hook that a reaction calls does to the share of its effect. -/
def EffectReaction.serve (reaction : EffectReaction) (share : Share) : Share :=
  if reaction.isToggled then
    share.afterHook (reaction.effect.definition.bundleOf reaction.effect.definition.modifiers)
      (if reaction.effect.isActive then .enter else .exit)
  else share

/-- A change of a view that concerns only shares. -/
structure View.ServesAll (change : String → Share → Share) (before after : View) : Prop where
  catalog : after.catalog = before.catalog
  notifying : after.isNotifying = before.isNotifying
  effects : after.effects = before.effects
  plain : before.IsPlain → after.IsPlain
  share : ∀ id, after.share id = change id (before.share id)

namespace View

variable {id : String} {change : Share → Share} {first second : String → Share → Share}
  {view between after : View}

theorem ServesAll.refl : ServesAll (fun _ share => share) view view :=
  ⟨rfl, rfl, rfl, fun plain => plain, fun _ => rfl⟩

theorem ServesAll.trans (serves : ServesAll first view between)
    (continues : ServesAll second between after) :
    ServesAll (fun id share => second id (first id share)) view after :=
  ⟨continues.catalog.trans serves.catalog, continues.notifying.trans serves.notifying,
    continues.effects.trans serves.effects, fun plain => continues.plain (serves.plain plain),
    fun id => by rw [continues.share, serves.share]⟩

theorem Serves.all (serves : Serves id change view after) :
    ServesAll (fun other share => if other = id then change share else share) view after := by
  refine ⟨serves.catalog, serves.notifying, serves.effects, serves.plain, fun other => ?_⟩
  split
  · rename_i same
    subst same
    exact serves.own
  · rename_i different
    exact serves.others other different

/-- After the hooks of a pass each share fits the effects that have received the trigger. -/
theorem evolves_of_received {trigger : Trigger}
    {snapshot : StatSnapshot} (plain : view.IsPlain)
    (serves : View.ServesAll (fun id share =>
      ((view.effects.mapValues fun _ effect => effect.receive trigger snapshot).values.filter
        fun reaction => reaction.effect.definition.id = id).foldl
          (fun share reaction => reaction.serve share) share)
      (view.received trigger snapshot) after) : view.Evolves after := by
  refine ⟨serves.catalog, serves.notifying, serves.plain plain.received, fun id => ?_⟩
  have named : ∀ entry ∈
      (view.effects.mapValues fun _ effect => effect.receive trigger snapshot).entries,
      entry.2.effect.definition.id = entry.1 := by
    intro entry member
    have found := Dictionary.get?_eq_some_iff_mem.2 member
    rw [Dictionary.get?_mapValues] at found
    obtain ⟨effect, applied, same⟩ := Option.map_eq_some_iff.1 found
    rw [← same, AppliedEffect.definition_receive]
    exact (plain.catalog _ _ (plain.applied _ _ applied)).1
  -- ids are unique, so at most one reaction concerns the share
  rw [serves.share, Dictionary.filter_values named, plain.share_received, Dictionary.get?_mapValues]
  cases applied : view.effects.get? id with
  | none =>
    have off : view.share id = { view.share id with isOn := false } := by
      rw [← isOn_share_of_missing applied]
    simp only [Option.map_none, Option.toList_none, List.foldl_nil, Option.any_none]
    rw [← off]
    exact .refl _
  | some effect =>
    have wasOn : (view.share id).isOn = effect.isActive := isOn_share_of_applied applied
    have whole : view.bundle id =
        effect.definition.bundleOf effect.definition.modifiers := by
      rw [View.bundle, plain.applied id effect applied]
    simp only [Option.map_some, Option.toList_some, List.foldl_cons, List.foldl_nil,
      Option.any_some]
    rw [EffectReaction.serve, AppliedEffect.isToggled_receive, AppliedEffect.definition_receive,
      ← whole, ← wasOn]
    generalize (effect.receive trigger snapshot).effect.isActive = isOn
    obtain ⟨started, attached, exits⟩ := view.share id
    -- the hook runs just if the effect was suspended or resumed
    cases started with
    | true =>
      cases isOn with
      | true => exact .refl _
      | false => exact .cleared (Nat.lt_succ_self _) rfl
    | false =>
      cases isOn with
      | true => exact .kept rfl (fun on => absurd on (by simp)) rfl
      | false => exact .refl _

end View

namespace Engine

variable {fuel : Nat} {world world' : World}

/-! ## The hooks of a pass -/

theorem toggleEffects_serves {reactions : List EffectReaction}
    (plain : ∀ reaction ∈ reactions, reaction.effect.definition.IsPlain)
    (busy : world.view.isNotifying = true)
    (returned : (toggleEffects (Engine.perform fuel) reactions).run world = some ((), world')) :
    View.ServesAll (fun id share =>
      (reactions.filter fun reaction => reaction.effect.definition.id = id).foldl
        (fun share reaction => reaction.serve share) share) world.view world'.view := by
  induction reactions generalizing world with
  | nil =>
    obtain ⟨_, rfl⟩ := Prod.mk.inj (Option.some.inj returned)
    exact .refl
  | cons reaction rest inductionHypothesis =>
    have headPlain := plain reaction (by simp)
    have tailPlain : ∀ other ∈ rest, other.effect.definition.IsPlain :=
      fun other member => plain other (.tail _ member)
    have served : ∃ between, View.ServesAll (fun id share =>
        if id = reaction.effect.definition.id then reaction.serve share else share)
          world.view between.view ∧
        (toggleEffects (Engine.perform fuel) rest).run between = some ((), world') := by
      simp only [toggleEffects] at returned
      split at returned
      · rename_i toggled
        obtain ⟨_, between, calls, continues⟩ := run_bind_eq_some.1 returned
        refine ⟨between, ?_, continues⟩
        have serves := (callHook_busy headPlain busy calls).all
        refine { serves with share := fun id => ?_ }
        rw [serves.share]
        split
        · rw [EffectReaction.serve, if_pos toggled]
        · rfl
      · rename_i untoggled
        refine ⟨world, { View.ServesAll.refl with share := fun id => ?_ }, returned⟩
        split
        · rw [EffectReaction.serve, if_neg untoggled]
        · rfl
    obtain ⟨between, serves, continues⟩ := served
    have later := inductionHypothesis tailPlain (serves.notifying.trans busy) continues
    refine { serves.trans later with share := fun id => ?_ }
    rw [(serves.trans later).share, List.filter_cons]
    by_cases same : reaction.effect.definition.id = id
    · simp [same]
    · simp [same, Ne.symm same]

theorem callHooks_serves {definition : EffectDefinition} {count : Nat}
    (plain : definition.IsPlain) (busy : world.view.isNotifying = true)
    (returned : (callHooks (Engine.perform fuel) .interval definition count).run world =
      some ((), world')) :
    View.ServesAll (fun _ share => share) world.view world'.view := by
  induction count generalizing world with
  | zero =>
    obtain ⟨_, rfl⟩ := Prod.mk.inj (Option.some.inj returned)
    exact .refl
  | succ count inductionHypothesis =>
    obtain ⟨_, between, calls, continues⟩ := run_bind_eq_some.1 returned
    have serves := (callHook_busy plain busy calls).all
    have later := inductionHypothesis (serves.notifying.trans busy) continues
    refine { serves.trans later with share := fun id => ?_ }
    rw [(serves.trans later).share]
    simp [Share.afterHook]

theorem fireIntervals_serves {reactions : List EffectReaction}
    (plain : ∀ reaction ∈ reactions, reaction.effect.definition.IsPlain)
    (busy : world.view.isNotifying = true)
    (returned : (fireIntervals (Engine.perform fuel) reactions).run world = some ((), world')) :
    View.ServesAll (fun _ share => share) world.view world'.view := by
  induction reactions generalizing world with
  | nil =>
    obtain ⟨_, rfl⟩ := Prod.mk.inj (Option.some.inj returned)
    exact .refl
  | cons reaction rest inductionHypothesis =>
    obtain ⟨_, between, calls, continues⟩ := run_bind_eq_some.1 returned
    have serves := callHooks_serves (plain reaction (by simp)) busy calls
    exact serves.trans (inductionHypothesis (fun other member => plain other (.tail _ member))
      (serves.notifying.trans busy) continues)

/-! ## Ending effects -/

section Ending

/-- What is asked of notifications, within another one or not. -/
def NotifyEvolves (isBusy : Bool) : Prop :=
  ∀ fuel trigger world world', world.view.isNotifying = isBusy → world.view.IsPlain →
    (notify (Engine.perform fuel) trigger).run world = some ((), world') →
    world.view.Evolves world'.view

variable {isBusy : Bool} (notifies : NotifyEvolves isBusy)

include notifies

/-- The exit hook withdraws the bundle, then conditions are notified. -/
theorem callHook_exit {definition : EffectDefinition} (plain : definition.IsPlain)
    (busy : world.view.isNotifying = isBusy) (start : world.view.IsPlain)
    (returned : (callHook (Engine.perform fuel) .exit definition).run world = some ((), world')) :
    ∃ between, View.Serves definition.id
      (fun share => { share with attached := 0, exits := share.exits + 1 }) world.view between ∧
      between.Evolves world'.view := by
  obtain ⟨earlier, recorded, records, runs⟩ := run_bind_eq_some.1 returned
  have notes : View.Serves definition.id (fun share => if HookKind.exit = .exit then
      { share with exits := share.exits + 1 } else share) world.view recorded.view :=
    recordCall_does _ _ _ records ▸ .recorded
  rw [program_exit plain] at runs
  obtain ⟨inner, between, same, finishes⟩ := exit_inversion runs
  have withdraws : View.Serves definition.id ({ · with attached := 0 }) recorded.view
      between.view := same ▸ .withdrawn
  have serves := notes.trans withdraws
  have plainBetween := serves.plain start
  refine ⟨between.view, serves, ?_⟩
  cases finishes with
  | inl same =>
    subst same
    exact .refl plainBetween
  | inr notified =>
    exact notifies _ _ _ _ (serves.notifying.trans busy) plainBetween notified

/-- The exit hook of an effect that has just ceased to be in force. -/
theorem callHook_exit_evolves {definition : EffectDefinition} {before : View}
    (plain : definition.IsPlain)
    (returned : (callHook (Engine.perform fuel) .exit definition).run world = some ((), world'))
    (busy : world.view.isNotifying = isBusy) (start : world.view.IsPlain)
    (catalog : world.view.catalog = before.catalog)
    (notifying : world.view.isNotifying = before.isNotifying)
    (own : world.view.share definition.id = { before.share definition.id with isOn := false })
    (others : ∀ other ≠ definition.id, world.view.share other = before.share other) :
    before.Evolves world'.view := by
  obtain ⟨between, serves, evolves⟩ := callHook_exit notifies plain busy start returned
  refine View.Evolves.trans ⟨serves.catalog.trans catalog, serves.notifying.trans notifying,
    serves.plain start, fun other => ?_⟩ evolves
  by_cases same : other = definition.id
  · subst same
    rw [serves.own, own]
    exact .cleared (Nat.lt_succ_self _) (by simp [Share.IsIntact, Share.due])
  · rw [serves.others other same, others other same]
    exact .refl _

theorem removeEffect_evolves {id : String} {result : Bool}
    (busy : world.view.isNotifying = isBusy) (start : world.view.IsPlain)
    (returned : (removeEffect (Engine.perform fuel) id).run world = some (result, world')) :
    world.view.Evolves world'.view := by
  have rest := run_actor_bind.symm.trans returned
  -- the exit hook of a suspended effect has run before
  split at rest
  · obtain ⟨_, rfl⟩ := Prod.mk.inj (Option.some.inj rest)
    exact .refl start
  · rename_i effect found
    obtain ⟨_, dropped, drops, rest⟩ := run_bind_eq_some.1 rest
    have known : world.view.catalog.get? id = some effect.definition := start.applied id effect found
    obtain ⟨named, plain⟩ := start.catalog id _ known
    have was : dropped.view = { world.view with effects := world.view.effects.erase id } :=
      dropEffect_does _ _ _ drops
    have plainDropped : dropped.view.IsPlain := was ▸ start.eraseEffect
    have shareOther (other : String) (ne : other ≠ id) :
        dropped.view.share other = world.view.share other := by
      rw [was]
      exact View.share_eraseEffect_of_ne (Ne.symm ne)
    have shareOwn : dropped.view.share id = { world.view.share id with isOn := false } := by
      rw [was]
      exact View.share_eraseEffect
    split at rest
    · obtain ⟨_, ended, calls, rest⟩ := run_bind_eq_some.1 rest
      obtain ⟨_, reported, reports, ends⟩ := run_bind_eq_some.1 rest
      obtain ⟨_, rfl⟩ := Prod.mk.inj (Option.some.inj ends)
      have busyDropped : dropped.view.isNotifying = isBusy := was ▸ busy
      subst named
      rw [report_quiet _ _ _ reports]
      exact callHook_exit_evolves notifies plain calls busyDropped plainDropped (was ▸ rfl)
        (was ▸ rfl) shareOwn shareOther
    · rename_i inactive
      obtain ⟨_, reported, reports, ends⟩ := run_bind_eq_some.1 rest
      obtain ⟨_, rfl⟩ := Prod.mk.inj (Option.some.inj ends)
      have applied : world.view.effects.get? id = some effect := found
      have wasOff : (world.view.share id).isOn = false := by
        rw [View.isOn_share_of_applied applied]
        simpa using inactive
      rw [report_quiet _ _ _ reports]
      refine ⟨was ▸ rfl, was ▸ rfl, plainDropped, fun other => ?_⟩
      by_cases own : other = id
      · subst own
        rw [id_eq, shareOwn, ← wasOff]
        exact .refl _
      · rw [id_eq, shareOther other own]
        exact .refl _

theorem removeEffects_evolves {ids : List String}
    (busy : world.view.isNotifying = isBusy) (start : world.view.IsPlain)
    (returned : (removeEffects (Engine.perform fuel) ids).run world = some ((), world')) :
    world.view.Evolves world'.view := by
  induction ids generalizing world with
  | nil =>
    obtain ⟨_, rfl⟩ := Prod.mk.inj (Option.some.inj returned)
    exact .refl start
  | cons id ids inductionHypothesis =>
    obtain ⟨_, between, removes, continues⟩ := run_bind_eq_some.1 returned
    have evolves := removeEffect_evolves notifies busy start removes
    exact evolves.trans (inductionHypothesis (evolves.notifying.trans busy) evolves.plain continues)

end Ending

/-! ## Notifications -/

theorem notifyEvolves_busy : NotifyEvolves true := by
  intro fuel trigger world world' busy plain returned
  rw [notify_busy busy returned]
  exact .of_untouched plain rfl rfl rfl rfl rfl

theorem pass_evolves {trigger : Trigger} (busy : world.view.isNotifying = true)
    (plain : world.view.IsPlain)
    (returned : (pass (Engine.perform fuel) trigger).run world = some ((), world')) :
    world.view.Evolves world'.view := by
  have rest := run_actor_bind.symm.trans returned
  obtain ⟨_, swept, sweeps, rest⟩ := run_bind_eq_some.1 rest
  obtain ⟨reactions, received, receives, rest⟩ := run_bind_eq_some.1 rest
  obtain ⟨_, toggled, toggles, rest⟩ := run_bind_eq_some.1 rest
  obtain ⟨_, fired, fires, removes⟩ := run_bind_eq_some.1 rest
  obtain ⟨rfl, same⟩ := receiveEffects_ensures _ _ _ (sweepModifiers_does _ _ _ sweeps) receives
  have was : received.view = world.view.received trigger world.actor.snapshot := by
    rw [same]
    simp [View.received, Engine.swept, Dictionary.mapValues, Function.comp_def]
  have known : ∀ reaction ∈ (world.view.effects.mapValues fun _ effect =>
      effect.receive trigger world.actor.snapshot).values, reaction.effect.definition.IsPlain := by
    intro reaction member
    obtain ⟨⟨id, _⟩, inEntries, rfl⟩ := List.mem_map.1 member
    have found := Dictionary.get?_eq_some_iff_mem.2 inEntries
    rw [Dictionary.get?_mapValues] at found
    obtain ⟨effect, applied, same⟩ := Option.map_eq_some_iff.1 found
    rw [← same, AppliedEffect.definition_receive]
    exact (plain.catalog _ _ (plain.applied _ _ applied)).2
  have busyReceived : received.view.isNotifying = true := was ▸ busy
  have serves := toggleEffects_serves known busyReceived toggles
  have ticks := fireIntervals_serves known (serves.notifying.trans busyReceived) fires
  -- hooks serve the reactions of the sweep, whatever they do to conditions
  have evolves : world.view.Evolves fired.view :=
    View.evolves_of_received plain (was ▸ serves.trans ticks)
  exact evolves.trans
    (removeEffects_evolves notifyEvolves_busy (evolves.notifying.trans busy) evolves.plain removes)

theorem takeDirty_evolves {dirty : Bool} (plain : world.view.IsPlain)
    (returned : takeDirty.run world = some (dirty, world')) : world.view.Evolves world'.view := by
  obtain ⟨_, rfl⟩ := Prod.mk.inj (Option.some.inj returned)
  exact .of_untouched plain rfl rfl rfl rfl rfl

theorem settle_evolves {passes : Nat} (busy : world.view.isNotifying = true)
    (plain : world.view.IsPlain)
    (returned : (settle (Engine.perform fuel) passes).run world = some ((), world')) :
    world.view.Evolves world'.view := by
  induction passes generalizing world with
  | zero =>
    obtain ⟨dirty, between, takes, rest⟩ := run_bind_eq_some.1 returned
    have clean := takeDirty_evolves plain takes
    refine clean.trans ?_
    split at rest
    · rw [countCutOff_does _ _ _ rest]
      exact .of_untouched clean.plain rfl rfl rfl rfl rfl
    · obtain ⟨_, rfl⟩ := Prod.mk.inj (Option.some.inj rest)
      exact .refl clean.plain
  | succ passes inductionHypothesis =>
    obtain ⟨dirty, between, takes, rest⟩ := run_bind_eq_some.1 returned
    have clean := takeDirty_evolves plain takes
    refine clean.trans ?_
    split at rest
    · obtain ⟨_, passed, passes, settles⟩ := run_bind_eq_some.1 rest
      have evolves := pass_evolves (clean.notifying.trans busy) clean.plain passes
      have stillBusy := evolves.notifying.trans (clean.notifying.trans busy)
      exact evolves.trans (inductionHypothesis stillBusy evolves.plain settles)
    · obtain ⟨_, rfl⟩ := Prod.mk.inj (Option.some.inj rest)
      exact .refl clean.plain

theorem notifyEvolves_idle : NotifyEvolves false := by
  intro fuel trigger world world' idle plain returned
  have rest := run_actor_bind.symm.trans returned
  have notNotifying : world.actor.isNotifying = false := idle
  simp only [notNotifying, Bool.false_eq_true, if_false] at rest
  obtain ⟨_, begun, begins, rest⟩ := run_bind_eq_some.1 rest
  obtain ⟨_, passed, passes, rest⟩ := run_bind_eq_some.1 rest
  obtain ⟨_, settled, settles, ends⟩ := run_bind_eq_some.1 rest
  have was : begun.view = { world.view with isNotifying := true } :=
    setNotifying_does _ _ _ begins
  have busy : begun.view.isNotifying = true := was ▸ rfl
  have plainBegun : begun.view.IsPlain :=
    was ▸ ⟨plain.catalog, plain.applied, plain.unconditional⟩
  have first := pass_evolves busy plainBegun passes
  have evolves := first.trans (settle_evolves (first.notifying.trans busy) first.plain settles)
  rw [was] at evolves
  rw [setNotifying_does _ _ _ ends]
  exact ⟨evolves.catalog, idle.symm,
    ⟨evolves.plain.catalog, evolves.plain.applied, evolves.plain.unconditional⟩, evolves.share⟩

end Engine

end Roleplay
