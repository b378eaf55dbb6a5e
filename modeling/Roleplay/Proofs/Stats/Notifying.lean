import Roleplay.Proofs.Stats.Returning
import Roleplay.Proofs.Stats.Ticks

/-! # Notifications return

Within a notification the hooks of built-in effects ask for further passes only, and the passes are
limited, so that a notification returns, with the same outcome for all fuel.  What it does to the
queue of damage depends on the intervals that it fires.

* `View.Meets` says of a view which effects are applied and what damage is queued, and
  `Engine.Yields` that a computation within a notification returns and what the view meets then;
* `Engine.callHook_yields` is one hook, `Engine.pass_yields` one pass;
* `Engine.notify_returns` is a whole notification.
-/

namespace Roleplay

structure View.Meets (isBusy : Bool) (applied : Dictionary AppliedEffect → Prop)
    (queues : List Damage → Prop) (view : View) : Prop where
  notifying : view.isNotifying = isBusy
  applied : applied view.effects
  queues : queues view.damage

/-- A property of applied effects that notifications keep, by which all of them are built-in. -/
structure IsLasting (applied : Dictionary AppliedEffect → Prop) : Prop where
  builtIn : ∀ effects, applied effects → ∀ id, ∀ effect ∈ effects.get? id,
    effect.definition.behavior.IsBuiltIn
  receives : ∀ effects trigger snapshot, applied effects →
    applied (effects.mapValues fun _ effect => (effect.receive trigger snapshot).effect)
  expires : ∀ effects trigger snapshot, applied effects → ∀ id, ∀ effect ∈ effects.get? id,
    (effect.receive trigger snapshot).isExpired = true →
      ∀ others, applied others → applied (others.erase id)

/-- Damage may be added to the queue. -/
def Grows (queues : List Damage → Prop) : Prop :=
  ∀ queue damage, queues queue → queues (queue ++ [damage])

namespace Engine

variable {α : Type} {applied : Dictionary AppliedEffect → Prop} {queues after : List Damage → Prop}

/-- Within a notification the computation returns; the queue of damage may change. -/
abbrev Yields (applied : Dictionary AppliedEffect → Prop) (queues after : List Damage → Prop)
    (engine : Nat → Engine α) : Prop :=
  Returns (fun world => world.view.Meets true applied queues) engine
    fun _ world => world.view.Meets true applied after

/-- A computation without hooks that changes neither effects nor damage. -/
theorem IsTotal.yields {engine : Engine α} {change : View → View} (total : IsTotal engine)
    (does : Does engine change)
    (notifying : ∀ view, (change view).isNotifying = view.isNotifying)
    (effects : ∀ view, (change view).effects = view.effects)
    (damage : ∀ view, (change view).damage = view.damage) :
    Yields applied queues queues fun _ => engine := by
  apply total.returns
  apply does.ensures
  intro view meets
  exact ⟨(notifying view).trans meets.notifying, effects view ▸ meets.applied,
    damage view ▸ meets.queues⟩

/-- Reading the actor. -/
theorem yields_actor_bind {next : Actor → Nat → Engine α}
    (continues : ∀ world : World, world.view.Meets true applied queues →
      Yields applied queues after (next world.actor)) :
    Yields applied queues after fun fuel => Engine.actor >>= fun actor => next actor fuel :=
  returns_world_bind fun world meets =>
    (continues world meets).strengthen fun _ same => same ▸ meets

/-! ## Hooks -/

/-- Within a notification another one only asks for a further pass. -/
theorem notify_yields {performs : Nat → Performer} {trigger : Trigger} :
    Yields applied queues queues fun fuel => notify (performs fuel) trigger := by
  apply yields_actor_bind
  intro world meets
  have busy : world.actor.isNotifying = true := meets.notifying
  simp only [busy, if_true]
  exact isTotal_modify.yields markDirty_does (fun _ => rfl) (fun _ => rfl) fun _ => rfl

theorem takePooled_yields :
    Yields applied queues queues fun fuel => Engine.perform (fuel + 1) .takePooled :=
  (isTotal_modifyGet.yields takeModifier_quiet (fun _ => rfl) (fun _ => rfl) fun _ => rfl).bind
    fun _ => returns_pure

theorem addModifier_yields {modifier : Modifier} {source : String} :
    Yields applied queues queues
      fun fuel => Engine.perform (fuel + 1) (.addModifier modifier (some source)) := by
  have adds : Yields applied queues queues
      fun fuel => addModifier (Engine.perform fuel) modifier (some source) := by
    refine (isTotal_modify.yields recordOffer_quiet (fun _ => rfl) (fun _ => rfl) fun _ => rfl).bind
      fun _ => yields_actor_bind ?_
    intro world meets
    -- a modifier with a source is not rejected
    simp only [Option.isNone_some, Bool.false_and, Bool.false_eq_true, if_false]
    have registers (registered : Modifier) : Yields applied queues queues
        fun _ => register registered :=
      isTotal_register.yields register_does (fun _ => rfl) (fun _ => rfl) fun _ => rfl
    exact (registers _).bind fun _ => notify_yields.bind fun _ => returns_pure
  exact adds.bind fun _ => returns_pure

theorem removeSource_yields {source : String} :
    Yields applied queues queues
      fun fuel => Engine.perform (fuel + 1) (.removeSource source) := by
  have withdraws : Yields applied queues queues fun _ => withdrawSource source := by
    apply isTotal_withdrawSource.returns
    intro world count world' meets returned
    rw [(withdrawSource_ensures _ _ _ rfl returned).2]
    exact ⟨meets.notifying, meets.applied, meets.queues⟩
  have removes : Yields applied queues queues
      fun fuel => removeSource (Engine.perform fuel) source := by
    apply withdraws.bind
    intro count
    dsimp only
    split
    · exact notify_yields.bind fun _ => returns_pure
    · exact returns_pure
  exact removes.bind fun _ => returns_pure

theorem queueDamage_yields {damage : Damage}
    (queued : ∀ queue, queues queue → after (queue ++ [damage])) :
    Yields applied queues after
      fun fuel => Engine.perform (fuel + 1) (.queueDamage damage) := by
  have appends : Yields applied queues after fun _ =>
      modifyActor fun actor => { actor with damage := actor.damage ++ [damage] } := by
    apply isTotal_modify.returns
    apply ensures_modify
    intro world meets
    exact ⟨meets.notifying, meets.applied, queued _ meets.queues⟩
  exact appends.bind fun _ => returns_pure

theorem standard_yields {kind : HookKind} {spec : EffectSpec} {calls : List HookCall} :
    Yields applied queues queues fun fuel =>
      runProgram (Engine.perform (fuel + 1)) (Behavior.standard.program kind spec calls) := by
  cases kind with
  | enter =>
    apply returns_runProgram
    intro operation member
    obtain ⟨modifier, _, attaches⟩ := List.mem_flatMap.1 member
    simp only [EffectSpec.attachment, List.mem_cons, List.not_mem_nil, or_false] at attaches
    obtain rfl | rfl := attaches
    · exact takePooled_yields
    · exact addModifier_yields
  | exit =>
    apply returns_runProgram
    intro operation member
    obtain rfl := List.mem_singleton.1 member
    exact removeSource_yields
  | interval => exact returns_pure

theorem recordCall_yields {kind : HookKind} {id : String} :
    Yields applied queues queues fun _ => recordCall kind id :=
  isTotal_modifyGet.yields recordCall_does (fun _ => rfl) (fun _ => rfl) fun _ => rfl

/-- Apart from intervals that deal damage, the hooks of built-in effects leave the queue alone. -/
theorem callHook_yields {kind : HookKind} {definition : EffectDefinition}
    (builtIn : definition.behavior.IsBuiltIn)
    (harmless : definition.behavior = .standard ∨ kind ≠ .interval) :
    Yields applied queues queues
      fun fuel => callHook (Engine.perform (fuel + 1)) kind definition := by
  apply recordCall_yields.bind
  intro earlier
  have program : definition.behavior.program kind definition.toEffectSpec earlier =
      Behavior.standard.program kind definition.toEffectSpec earlier := by
    obtain standard | ⟨amount, ticking⟩ := builtIn
    · rw [standard]
    · obtain standard | notInterval := harmless
      · rw [standard]
      · rw [ticking]
        cases kind with
        | enter => rfl
        | exit => rfl
        | interval => exact absurd rfl notInterval
  rw [program]
  exact standard_yields

theorem callHook_interval_yields {definition : EffectDefinition} {amount : Float32}
    (ticking : definition.behavior = .damageOverTime amount)
    (queued : ∀ queue damage, queues queue → after (queue ++ [damage])) :
    Yields applied queues after
      fun fuel => callHook (Engine.perform (fuel + 1)) .interval definition := by
  apply recordCall_yields.bind
  intro earlier
  rw [ticking]
  exact (queueDamage_yields fun queue => queued queue _).bind fun _ => returns_pure

theorem callHooks_interval_yields {definition : EffectDefinition} {count : Nat}
    (builtIn : definition.behavior.IsBuiltIn)
    (sustains : definition.behavior = .standard ∨ count = 0 ∨ Grows queues) :
    Yields applied queues queues
      fun fuel => callHooks (Engine.perform (fuel + 1)) .interval definition count := by
  induction count with
  | zero => exact returns_pure
  | succ count inductionHypothesis =>
    have grows : definition.behavior = .standard ∨ Grows queues :=
      sustains.imp_right fun some => some.resolve_left (Nat.succ_ne_zero count)
    have once : Yields applied queues queues
        fun fuel => callHook (Engine.perform (fuel + 1)) .interval definition := by
      obtain standard | grows := grows
      · exact callHook_yields builtIn (Or.inl standard)
      · obtain standard | ⟨amount, ticking⟩ := builtIn
        · exact callHook_yields (Or.inl standard) (Or.inl standard)
        · exact callHook_interval_yields ticking grows
    exact once.bind fun _ => inductionHypothesis (grows.imp_right Or.inr)

/-! ## Reactions -/

theorem toggleEffects_yields {reactions : List EffectReaction}
    (builtIn : ∀ reaction ∈ reactions, reaction.effect.definition.behavior.IsBuiltIn) :
    Yields applied queues queues
      fun fuel => toggleEffects (Engine.perform (fuel + 1)) reactions := by
  induction reactions with
  | nil => exact returns_pure
  | cons reaction rest inductionHypothesis =>
    have others := inductionHypothesis fun other member => builtIn other (.tail _ member)
    simp only [toggleEffects]
    split
    · have switches : (if reaction.effect.isActive then HookKind.enter else .exit) ≠ .interval := by
        split <;> simp
      exact (callHook_yields (builtIn reaction (.head _)) (Or.inr switches)).bind fun _ => others
    · exact others

theorem fireIntervals_yields {reactions : List EffectReaction}
    (builtIn : ∀ reaction ∈ reactions, reaction.effect.definition.behavior.IsBuiltIn)
    (sustains : ∀ reaction ∈ reactions, reaction.effect.definition.behavior = .standard ∨
      reaction.intervals = 0 ∨ Grows queues) :
    Yields applied queues queues
      fun fuel => fireIntervals (Engine.perform (fuel + 1)) reactions := by
  induction reactions with
  | nil => exact returns_pure
  | cons reaction rest inductionHypothesis =>
    apply (callHooks_interval_yields (builtIn reaction (.head _))
      (sustains reaction (.head _))).bind
    intro _
    exact inductionHypothesis (fun other member => builtIn other (.tail _ member))
      fun other member => sustains other (.tail _ member)

theorem grows_ne_nil : Grows (· ≠ []) := fun _ _ _ => by simp

theorem grows_true : Grows fun _ => True := fun _ _ _ => trivial

/-- Where one interval deals damage, some is queued in the end. -/
theorem fireIntervals_yields_damage {reactions : List EffectReaction} {burning : EffectReaction}
    {amount : Float32} (builtIn : ∀ reaction ∈ reactions,
      reaction.effect.definition.behavior.IsBuiltIn) (member : burning ∈ reactions)
    (damaging : burning.effect.definition.behavior = .damageOverTime amount)
    (fires : burning.intervals = 1) :
    Yields applied (fun _ => True) (· ≠ [])
      fun fuel => fireIntervals (Engine.perform (fuel + 1)) reactions := by
  induction reactions with
  | nil => cases member
  | cons reaction rest inductionHypothesis =>
    have others : ∀ other ∈ rest, other.effect.definition.behavior.IsBuiltIn :=
      fun other later => builtIn other (.tail _ later)
    cases member with
    | head =>
      have burns : Yields applied (fun _ => True) (· ≠ []) fun fuel =>
          callHooks (Engine.perform (fuel + 1)) .interval burning.effect.definition
            burning.intervals := by
        rw [fires]
        exact (callHook_interval_yields damaging fun _ _ _ => by simp).bind fun _ => returns_pure
      exact burns.bind fun _ =>
        fireIntervals_yields others fun _ _ => Or.inr (Or.inr grows_ne_nil)
    | tail _ later =>
      exact (callHooks_interval_yields (builtIn reaction (.head _))
        (Or.inr (Or.inr grows_true))).bind fun _ => inductionHypothesis others later

theorem removeEffect_yields {id : String} (lasting : IsLasting applied)
    (expires : ∀ others, applied others → applied (others.erase id)) :
    Yields applied queues queues fun fuel => removeEffect (Engine.perform (fuel + 1)) id := by
  apply yields_actor_bind
  intro world meets
  cases found : world.actor.effects.get? id with
  | none => exact returns_pure
  | some effect =>
    have drops : Yields applied queues queues fun _ => dropEffect id := by
      apply isTotal_modify.returns
      apply dropEffect_does.ensures
      intro view meets
      exact ⟨meets.notifying, expires _ meets.applied, meets.queues⟩
    have reports : Yields applied queues queues fun _ => report [.effectRemoved id] :=
      isTotal_modify.yields report_quiet (fun _ => rfl) (fun _ => rfl) fun _ => rfl
    apply drops.bind
    intro _
    dsimp only
    split
    · have builtIn := lasting.builtIn _ meets.applied id effect found
      exact (callHook_yields builtIn (Or.inr (by simp))).bind fun _ => reports.bind fun _ =>
        returns_pure
    · exact reports.bind fun _ => returns_pure

theorem removeEffects_yields {ids : List String} (lasting : IsLasting applied)
    (expires : ∀ id ∈ ids, ∀ others, applied others → applied (others.erase id)) :
    Yields applied queues queues fun fuel => removeEffects (Engine.perform (fuel + 1)) ids := by
  induction ids with
  | nil => exact returns_pure
  | cons id ids inductionHypothesis =>
    exact (removeEffect_yields lasting (expires id (.head _))).bind fun _ =>
      inductionHypothesis fun other member => expires other (.tail _ member)

/-! ## Passes -/

theorem builtIn_of_mem_reactionsOf {trigger : Trigger} {snapshot : StatSnapshot}
    {effects : Dictionary AppliedEffect} {reaction : EffectReaction} (lasting : IsLasting applied)
    (known : applied effects) (member : reaction ∈ (reactionsOf trigger snapshot effects).values) :
    reaction.effect.definition.behavior.IsBuiltIn := by
  obtain ⟨entry, inEntries, rfl⟩ := List.mem_map.1 member
  obtain ⟨effect, found, same⟩ := mem_reactionsOf inEntries
  rw [← same, AppliedEffect.definition_receive]
  exact lasting.builtIn effects known _ effect found

/-- A pass, given what the intervals do that it fires. -/
theorem pass_yields {trigger : Trigger} (lasting : IsLasting applied)
    (fires : ∀ effects snapshot, applied effects → Yields applied queues after fun fuel =>
      fireIntervals (Engine.perform (fuel + 1)) (reactionsOf trigger snapshot effects).values) :
    Yields applied queues after fun fuel => pass (Engine.perform (fuel + 1)) trigger := by
  apply yields_actor_bind
  intro world meets
  have sweeps : Yields applied queues queues
      fun _ => sweepModifiers trigger world.actor.snapshot :=
    isTotal_sweepModifiers.yields sweepModifiers_does (fun _ => rfl) (fun _ => rfl) fun _ => rfl
  have receives : Returns (fun world => world.view.Meets true applied queues)
      (fun _ => receiveEffects trigger world.actor.snapshot) fun reactions after =>
        (∃ effects, applied effects ∧
          reactions = reactionsOf trigger world.actor.snapshot effects) ∧
        after.view.Meets true applied queues := by
    apply isTotal_receiveEffects.returns
    intro before reactions received meets returned
    obtain ⟨rfl, same⟩ := receiveEffects_ensures _ _ _ rfl returned
    refine ⟨⟨before.view.effects, meets.applied, rfl⟩, ?_⟩
    have applied := lasting.receives _ trigger world.actor.snapshot meets.applied
    rw [same]
    refine ⟨meets.notifying, ?_, meets.queues⟩
    simpa [Dictionary.mapValues, Function.comp_def] using applied
  apply sweeps.bind
  intro _
  apply receives.bind
  rintro reactions received ⟨⟨effects, known, rfl⟩, meets⟩
  have expires : ∀ id ∈ expired (reactionsOf trigger world.actor.snapshot effects),
      ∀ others, applied others → applied (others.erase id) := by
    intro id member
    obtain ⟨entry, inExpired, rfl⟩ := List.mem_map.1 member
    obtain ⟨inEntries, expired⟩ := List.mem_filter.1 inExpired
    obtain ⟨effect, found, same⟩ := mem_reactionsOf inEntries
    rw [← same] at expired
    exact lasting.expires effects trigger _ known _ effect found expired
  have toggles : Yields applied queues queues fun fuel => toggleEffects (Engine.perform (fuel + 1))
      (reactionsOf trigger world.actor.snapshot effects).values :=
    toggleEffects_yields fun _ => builtIn_of_mem_reactionsOf lasting known
  exact (toggles.bind fun _ => (fires effects _ known).bind fun _ =>
    removeEffects_yields lasting expires) received meets

/-- Intervals that a trigger fires leave the queue of damage as it should be. -/
def Sustains (applied : Dictionary AppliedEffect → Prop) (trigger : Trigger)
    (queues : List Damage → Prop) : Prop :=
  ∀ effects, applied effects → ∀ id, ∀ effect ∈ effects.get? id, ∀ snapshot,
    effect.definition.behavior = .standard ∨ (effect.receive trigger snapshot).intervals = 0 ∨
      Grows queues

theorem pass_yields_of_sustains {trigger : Trigger} (lasting : IsLasting applied)
    (sustains : Sustains applied trigger queues) :
    Yields applied queues queues fun fuel => pass (Engine.perform (fuel + 1)) trigger := by
  apply pass_yields lasting
  intro effects snapshot known
  apply fireIntervals_yields fun _ => builtIn_of_mem_reactionsOf lasting known
  intro reaction member
  obtain ⟨entry, inEntries, rfl⟩ := List.mem_map.1 member
  obtain ⟨effect, found, same⟩ := mem_reactionsOf inEntries
  rw [← same, AppliedEffect.definition_receive]
  exact sustains effects known _ effect found snapshot

theorem settle_yields {passes : Nat} (lasting : IsLasting applied)
    (sustains : Sustains applied .statsChanged queues) :
    Yields applied queues queues fun fuel => settle (Engine.perform (fuel + 1)) passes := by
  have takes : Yields applied queues queues fun _ => takeDirty := by
    apply isTotal_modifyGet.returns
    apply ensures_modifyGet
    intro world meets
    exact ⟨meets.notifying, meets.applied, meets.queues⟩
  induction passes with
  | zero =>
    apply takes.bind
    intro isDirty
    cases isDirty with
    | false => exact returns_pure
    | true =>
      exact isTotal_modify.yields countCutOff_does (fun _ => rfl) (fun _ => rfl) fun _ => rfl
  | succ passes inductionHypothesis =>
    apply takes.bind
    intro isDirty
    cases isDirty with
    | false => exact returns_pure
    | true => exact (pass_yields_of_sustains lasting sustains).bind fun _ => inductionHypothesis

/-- A notification, given what its first pass does to the queue of damage. -/
theorem notify_returns {trigger : Trigger} (lasting : IsLasting applied)
    (passes : Yields applied queues after fun fuel => pass (Engine.perform (fuel + 1)) trigger)
    (sustains : Sustains applied .statsChanged after) :
    Returns (fun world => world.view.Meets false applied queues)
      (fun fuel => notify (Engine.perform (fuel + 1)) trigger)
      fun _ world => world.view.Meets false applied after := by
  have sets {isBusy isNotifying : Bool} {queues : List Damage → Prop} :
      Returns (fun world => world.view.Meets isBusy applied queues)
        (fun _ => setNotifying isNotifying)
        fun _ world => world.view.Meets isNotifying applied queues := by
    apply isTotal_modify.returns
    apply setNotifying_does.ensures
    intro view meets
    exact ⟨rfl, meets.applied, meets.queues⟩
  apply returns_world_bind
  intro world meets
  have idle : world.actor.isNotifying = false := meets.notifying
  simp only [idle, Bool.false_eq_true, if_false]
  exact (sets.bind fun _ => passes.bind fun _ => (settle_yields lasting sustains).bind fun _ =>
    sets).strengthen fun _ same => same ▸ meets

end Engine

end Roleplay
