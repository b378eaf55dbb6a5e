import Roleplay.Proofs.Stats.Termination

/-! # Overdue effects

An applied effect is overdue if its duration calls for its removal.  A notification removes an effect
only when a flag of its duration turns, so an effect whose duration is met when it is applied may
stay.

* `Condition.standing` is what decides whether a chain calls for removal;
* `Lingers` compares the effects before and after: whoever is overdue then was so before, and no
  flag has turned;
* `Engine.pass_tracks` is one pass, `Engine.notify_tracks` a whole notification, and
  `Engine.perform_lingers` an operation, after the effect that it puts into place;
* `World.Reachable.isOverdue_iff` is the statement for a call of `process`.
-/

namespace Roleplay

/-! ## Durations -/

namespace Condition

variable {condition first second : Condition} {trigger : Trigger} {snapshot : StatSnapshot}

/-- All of a chain but what its nodes look at. -/
def standing (condition : Condition) : List (Outcome × Junction × Bool) :=
  condition.nodes.map fun node => (node.outcome, node.junction, node.isMet)

theorem holdsFrom_congr {head other : ConditionNode} {tail others : List ConditionNode}
    (same : (head :: tail).map (fun node => (node.junction, node.isMet)) =
      (other :: others).map fun node => (node.junction, node.isMet)) :
    holdsFrom head tail = holdsFrom other others := by
  induction tail generalizing head other others with
  | nil =>
    cases others with
    | nil =>
      simp only [List.map_cons, List.map_nil, List.cons.injEq, Prod.mk.injEq, and_true] at same
      exact same.2
    | cons next rest => simp at same
  | cons next rest inductionHypothesis =>
    cases others with
    | nil => simp at same
    | cons another remaining =>
      obtain ⟨here, later⟩ := List.cons.inj same
      obtain ⟨junction, isMet⟩ := Prod.mk.inj here
      simp only [holdsFrom, junction, isMet, inductionHypothesis later]

theorem callsForRemoval_congr (same : first.standing = second.standing) :
    first.callsForRemoval = second.callsForRemoval := by
  have outcome : first.head.outcome = second.head.outcome :=
    congrArg Prod.fst (List.cons.inj same).1
  have holds : first.holds = second.holds := by
    have flags := congrArg (List.map Prod.snd) same
    rw [standing, standing, List.map_map, List.map_map] at flags
    exact holdsFrom_congr flags
  rw [callsForRemoval, callsForRemoval, outcome, holds]

theorem standing_notify (unchanged : (condition.notify trigger snapshot).1 = false) :
    (condition.notify trigger snapshot).2.standing = condition.standing := by
  rw [notify, fst_changeAll, List.any_eq_false] at unchanged
  rw [standing, notify, nodes_changeAll, List.map_map, standing]
  apply List.map_congr_left
  intro node member
  have same : (node.notify trigger snapshot).1 = false := by simpa using unchanged node member
  simp only [Function.comp_apply, ConditionNode.outcome_notify, ConditionNode.junction_notify,
    ConditionNode.isMet_notify same]

end Condition

namespace AppliedEffect

variable {effect earlier : AppliedEffect} {trigger : Trigger} {snapshot : StatSnapshot}

def isOverdue (effect : AppliedEffect) : Bool := effect.duration.any Condition.callsForRemoval

def standing (effect : AppliedEffect) : Option (List (Outcome × Junction × Bool)) :=
  effect.duration.map Condition.standing

theorem isOverdue_congr (same : effect.standing = earlier.standing) :
    effect.isOverdue = earlier.isOverdue := by
  rw [isOverdue, isOverdue]
  rw [standing, standing] at same
  cases limited : effect.duration with
  | none =>
    have unlimited : earlier.duration = none := by simpa [limited] using same.symm
    rw [unlimited]
  | some duration =>
    rw [limited, Option.map_some] at same
    obtain ⟨other, limited', standing⟩ := Option.map_eq_some_iff.1 same.symm
    rw [limited']
    exact Condition.callsForRemoval_congr standing.symm

/-- An effect expires only when its duration reports a change. -/
theorem isExpired_receive : (effect.receive trigger snapshot).isExpired =
    effect.duration.any fun duration => (duration.notify trigger snapshot).1 &&
      (duration.notify trigger snapshot).2.callsForRemoval := by
  rw [receive]
  split
  · rename_i unlimited
    rw [receiveInterval_spec.2.2.2.2, unlimited]
    rfl
  · rename_i duration limited
    simp only [limited, Option.any_some]
    split
    · rename_i changed
      split
      · rename_i removal
        rw [changed, removal]
        rfl
      · rename_i staying
        rw [receiveInterval_spec.2.2.2.2, Bool.eq_false_iff.2 staying, Bool.and_false]
    · rename_i unchanged
      rw [receiveInterval_spec.2.2.2.2, Bool.eq_false_iff.2 unchanged, Bool.false_and]

theorem standing_receive (stays : (effect.receive trigger snapshot).isExpired = false)
    (overdue : (effect.receive trigger snapshot).effect.isOverdue = true) :
    (effect.receive trigger snapshot).effect.standing = effect.standing := by
  rw [isExpired_receive] at stays
  rw [isOverdue, duration_receive] at overdue
  rw [standing, duration_receive, standing]
  cases limited : effect.duration with
  | none => rfl
  | some duration =>
    rw [limited, Option.map_some, Option.any_some] at overdue
    rw [limited, Option.any_some, overdue, Bool.and_true] at stays
    rw [Option.map_some, Option.map_some, Option.map_some, Condition.standing_notify stays]

end AppliedEffect

/-! ## Effects before and after -/

/-- Whoever is overdue afterwards was overdue before, and none of its flags has turned. -/
def Lingers (before after : Dictionary AppliedEffect) : Prop :=
  ∀ id, ∀ effect ∈ after.get? id, ∃ earlier ∈ before.get? id,
    effect.isOverdue = true → effect.standing = earlier.standing

namespace Lingers

variable {before between after : Dictionary AppliedEffect}

theorem refl (effects : Dictionary AppliedEffect) : Lingers effects effects :=
  fun _ effect applied => ⟨effect, applied, fun _ => rfl⟩

theorem trans (lingers : Lingers before between) (continues : Lingers between after) :
    Lingers before after := by
  intro id effect applied
  obtain ⟨later, wasApplied, same⟩ := continues id effect applied
  obtain ⟨earlier, first, same'⟩ := lingers id later wasApplied
  refine ⟨earlier, first, fun overdue => ?_⟩
  have wasOverdue := (AppliedEffect.isOverdue_congr (same overdue)).symm.trans overdue
  exact (same overdue).trans (same' wasOverdue)

theorem isOverdue_iff (lingers : Lingers before after) {id : String} {effect : AppliedEffect}
    (applied : effect ∈ after.get? id) :
    effect.isOverdue = true ↔ ∃ earlier ∈ before.get? id,
      earlier.isOverdue = true ∧ effect.standing = earlier.standing := by
  constructor
  · intro overdue
    obtain ⟨earlier, wasApplied, same⟩ := lingers id effect applied
    exact ⟨earlier, wasApplied,
      (AppliedEffect.isOverdue_congr (same overdue)).symm.trans overdue, same overdue⟩
  · rintro ⟨earlier, _, overdue, same⟩
    exact (AppliedEffect.isOverdue_congr same).trans overdue

end Lingers

/-- Some effects, without those of given ids. -/
def Without (effects : Dictionary AppliedEffect) (ids : List String)
    (others : Dictionary AppliedEffect) : Prop :=
  ∀ id, ∀ effect ∈ others.get? id, effects.get? id = some effect ∧ id ∉ ids

/-- Built-in effects, of which only those are overdue that were so at the origin. -/
structure Tracked (origin effects : Dictionary AppliedEffect) : Prop where
  builtIn : AreBuiltIn effects
  lingers : Lingers origin effects

namespace Tracked

variable {origin effects others : Dictionary AppliedEffect}

theorem erase (tracked : Tracked origin effects) {id : String} :
    Tracked origin (effects.erase id) := by
  refine ⟨tracked.builtIn.erase, fun other effect applied => ?_⟩
  rw [Dictionary.get?_erase] at applied
  split at applied
  · cases applied
  · exact tracked.lingers other effect applied

/-- Without the effects that have expired, those that have received a trigger only linger. -/
theorem received {trigger : Trigger} {snapshot : StatSnapshot} (tracked : Tracked origin effects)
    (without : Without
      ((Engine.reactionsOf trigger snapshot effects).mapValues fun _ reaction => reaction.effect)
      (Engine.expired (Engine.reactionsOf trigger snapshot effects)) others) :
    Tracked origin others := by
  have received : ∀ id, ∀ effect ∈ others.get? id, ∃ earlier ∈ effects.get? id,
      (earlier.receive trigger snapshot).isExpired = false ∧
        (earlier.receive trigger snapshot).effect = effect := by
    intro id effect applied
    obtain ⟨received, stays⟩ := without id effect applied
    rw [Dictionary.get?_mapValues] at received
    obtain ⟨reaction, reacted, rfl⟩ := Option.map_eq_some_iff.1 received
    have member := Dictionary.get?_eq_some_iff_mem.1 reacted
    obtain ⟨earlier, wasApplied, rfl⟩ := Engine.mem_reactionsOf member
    refine ⟨earlier, wasApplied, Bool.eq_false_iff.2 fun expired => stays ?_, rfl⟩
    exact List.mem_map.2 ⟨_, List.mem_filter.2 ⟨member, expired⟩, rfl⟩
  constructor
  · intro id effect applied
    obtain ⟨earlier, wasApplied, _, rfl⟩ := received id effect applied
    rw [AppliedEffect.definition_receive]
    exact tracked.builtIn id earlier wasApplied
  · refine tracked.lingers.trans fun id effect applied => ?_
    obtain ⟨earlier, wasApplied, stays, rfl⟩ := received id effect applied
    exact ⟨earlier, wasApplied, AppliedEffect.standing_receive stays⟩

end Tracked

namespace Engine

variable {origin : Dictionary AppliedEffect} {fuel : Nat}

/-! ## Within a notification -/

section Busy

variable {applied : Dictionary AppliedEffect → Prop}

/-- Within a notification the computation keeps a property of the applied effects. -/
abbrev Spares {α : Type} (applied : Dictionary AppliedEffect → Prop) (engine : Engine α) : Prop :=
  Keeps (fun world => world.view.Meets true applied fun _ => True) engine

theorem recordCall_spares {kind : HookKind} {id : String} :
    Spares applied (recordCall kind id) :=
  recordCall_yields.ensures 0

theorem callHook_spares {kind : HookKind} {definition : EffectDefinition}
    (builtIn : definition.behavior.IsBuiltIn) (switches : kind ≠ .interval) :
    Spares applied (callHook (perform fuel) kind definition) := by
  cases fuel with
  | zero => exact keeps_callHook (fun _ _ => recordCall_spares) fun _ => ensures_exhausted
  | succ fuel => exact (callHook_yields builtIn (Or.inr switches)).ensures fuel

theorem toggleEffects_spares {reactions : List EffectReaction}
    (builtIn : ∀ reaction ∈ reactions, reaction.effect.definition.behavior.IsBuiltIn) :
    Spares applied (toggleEffects (perform fuel) reactions) := by
  cases fuel with
  | zero => exact keeps_toggleEffects (fun _ _ => recordCall_spares) fun _ => ensures_exhausted
  | succ fuel => exact (toggleEffects_yields builtIn).ensures fuel

theorem fireIntervals_spares {reactions : List EffectReaction}
    (builtIn : ∀ reaction ∈ reactions, reaction.effect.definition.behavior.IsBuiltIn) :
    Spares applied (fireIntervals (perform fuel) reactions) := by
  cases fuel with
  | zero => exact keeps_fireIntervals (fun _ _ => recordCall_spares) fun _ => ensures_exhausted
  | succ fuel =>
    exact (fireIntervals_yields builtIn fun _ _ => Or.inr (Or.inr grows_true)).ensures fuel

theorem removeEffect_without {effects : Dictionary AppliedEffect} {ids : List String} {id : String}
    (builtIn : AreBuiltIn effects) :
    Ensures (fun world => world.view.Meets true (Without effects ids) fun _ => True)
      (removeEffect (perform fuel) id)
      fun _ world => world.view.Meets true (Without effects (ids ++ [id])) fun _ => True := by
  refine ensures_actor_bind fun actor => ?_
  split
  · rename_i missing
    refine ensures_pure fun world start => ?_
    obtain ⟨meets, rfl⟩ := start
    refine ⟨meets.notifying, fun other effect applied => ?_, trivial⟩
    obtain ⟨same, stays⟩ := meets.applied other effect applied
    have different : other ≠ id := by
      rintro rfl
      exact absurd (missing.symm.trans applied) (by simp)
    exact ⟨same, by simp [stays, different]⟩
  · rename_i effect found
    have drops : Ensures (fun world =>
          world.view.Meets true (Without effects ids) (fun _ => True) ∧ world.actor = actor)
        (dropEffect id) fun _ world =>
          effect.definition.behavior.IsBuiltIn ∧
            world.view.Meets true (Without effects (ids ++ [id])) fun _ => True := by
      rintro world result world' ⟨meets, rfl⟩ returned
      rw [dropEffect_does _ _ _ returned]
      refine ⟨builtIn id effect (meets.applied id effect found).1, meets.notifying, ?_, trivial⟩
      intro other effect applied
      rw [Dictionary.get?_erase] at applied
      split at applied
      · cases applied
      · rename_i different
        obtain ⟨same, stays⟩ := meets.applied other effect applied
        exact ⟨same, by simp [stays, Ne.symm different]⟩
    refine drops.bind fun _ => ensures_of_and fun usual => ?_
    split
    · exact (callHook_spares usual (by simp)).bind fun _ => report_quiet.keeps.bind fun _ =>
        keeps_pure
    · exact report_quiet.keeps.bind fun _ => keeps_pure

theorem removeEffects_without {effects : Dictionary AppliedEffect} {ids others : List String}
    (builtIn : AreBuiltIn effects) :
    Ensures (fun world => world.view.Meets true (Without effects ids) fun _ => True)
      (removeEffects (perform fuel) others)
      fun _ world => world.view.Meets true (Without effects (ids ++ others)) fun _ => True := by
  induction others generalizing ids with
  | nil =>
    rw [List.append_nil]
    exact keeps_pure
  | cons id others inductionHypothesis =>
    rw [List.append_cons]
    exact (removeEffect_without builtIn).bind fun _ => inductionHypothesis

theorem receiveEffects_reacts {trigger : Trigger} {snapshot : StatSnapshot} :
    Ensures (fun world => world.view.Meets true applied fun _ => True)
      (receiveEffects trigger snapshot) fun reactions world =>
        ∃ effects, applied effects ∧ reactions = reactionsOf trigger snapshot effects ∧
          world.view.Meets true
            (· = reactions.mapValues fun _ reaction => reaction.effect) fun _ => True := by
  intro world reactions world' meets returned
  obtain ⟨same, received⟩ := receiveEffects_ensures _ _ _ rfl returned
  rw [received]
  exact ⟨world.view.effects, meets.applied, same, meets.notifying, rfl, trivial⟩

/-- An effect whose flags turn so that it is overdue is removed at the end of the pass. -/
theorem pass_tracks {trigger : Trigger} :
    Spares (Tracked origin) (pass (perform fuel) trigger) := by
  refine ensures_actor_bind fun actor => Ensures.strengthen ?_ fun _ start => start.1
  have sweeps : Spares (Tracked origin) (sweepModifiers trigger actor.snapshot) :=
    sweepModifiers_does.ensures fun _ meets => ⟨meets.notifying, meets.applied, trivial⟩
  refine sweeps.bind fun _ => receiveEffects_reacts.bind fun reactions => ?_
  rintro world result world' ⟨effects, tracked, rfl, meets⟩ returned
  have usual : ∀ reaction ∈ (reactionsOf trigger actor.snapshot effects).values,
      reaction.effect.definition.behavior.IsBuiltIn :=
    fun _ => builtIn_of_mem_reactionsOf isLasting_areBuiltIn tracked.builtIn
  have builtIn : AreBuiltIn
      ((reactionsOf trigger actor.snapshot effects).mapValues fun _ reaction => reaction.effect) := by
    have received := isLasting_areBuiltIn.receives effects trigger actor.snapshot tracked.builtIn
    simpa [reactionsOf, Dictionary.mapValues, Function.comp_def] using received
  have start : world.view.Meets true (Without ((reactionsOf trigger actor.snapshot effects).mapValues
      fun _ reaction => reaction.effect) []) fun _ => True :=
    ⟨meets.notifying, fun id effect applied => ⟨meets.applied ▸ applied, by simp⟩, trivial⟩
  have ended := ((toggleEffects_spares usual).bind fun _ => (fireIntervals_spares usual).bind
    fun _ => removeEffects_without builtIn) world result world' start returned
  exact ⟨ended.notifying, tracked.received ended.applied, trivial⟩

theorem settle_tracks {passes : Nat} : Spares (Tracked origin) (settle (perform fuel) passes) := by
  have takes : Spares (Tracked origin) takeDirty :=
    ensures_modifyGet fun _ meets => ⟨meets.notifying, meets.applied, trivial⟩
  induction passes with
  | zero =>
    refine takes.bind fun isDirty => ?_
    cases isDirty with
    | false => exact keeps_pure
    | true =>
      exact countCutOff_does.ensures fun _ meets => ⟨meets.notifying, meets.applied, trivial⟩
  | succ passes inductionHypothesis =>
    refine takes.bind fun isDirty => ?_
    cases isDirty with
    | false => exact keeps_pure
    | true => exact pass_tracks.bind fun _ => inductionHypothesis

end Busy

/-! ## Operations -/

/-- The computation keeps track of the effects that were overdue at the origin. -/
abbrev Tracks {α : Type} (origin : Dictionary AppliedEffect) (engine : Engine α) : Prop :=
  Keeps (fun world => Tracked origin world.view.effects) engine

theorem Does.tracks {α : Type} {engine : Engine α} {change : View → View}
    (does : Does engine change) (effects : ∀ view, (change view).effects = view.effects) :
    Tracks origin engine := by
  intro world result world' tracked returned
  rw [does _ _ _ returned, effects]
  exact tracked

theorem IsQuiet.tracks {α : Type} {engine : Engine α} (quiet : IsQuiet engine) :
    Tracks origin engine :=
  Does.tracks quiet fun _ => rfl

theorem modifyActor_tracks {change : Actor → Actor}
    (effects : ∀ actor, (change actor).effects = actor.effects) :
    Tracks origin (modifyActor change) :=
  ensures_modifyActor fun world tracked =>
    (congrArg (Tracked origin) (effects world.actor)).mpr tracked

theorem notify_tracks {trigger : Trigger} : Tracks origin (notify (perform fuel) trigger) := by
  refine ensures_actor_bind fun actor => Ensures.strengthen ?_ fun _ start => start.1
  split
  · exact markDirty_does.tracks fun _ => rfl
  · have begins : Ensures (fun world => Tracked origin world.view.effects) (setNotifying true)
        fun _ world => world.view.Meets true (Tracked origin) fun _ => True := by
      intro world result world' tracked returned
      rw [setNotifying_does _ _ _ returned]
      exact ⟨rfl, tracked, trivial⟩
    have ends : Ensures (fun world => world.view.Meets true (Tracked origin) fun _ => True)
        (setNotifying false) fun _ world => Tracked origin world.view.effects := by
      intro world result world' meets returned
      rw [setNotifying_does _ _ _ returned]
      exact meets.applied
    exact begins.bind fun _ => pass_tracks.bind fun _ => settle_tracks.bind fun _ => ends

end Engine

namespace Operation

/-- Whether an operation puts no effect into place. -/
def PlacesNothing : Operation → Prop
  | addEffect _ => False
  | refreshEffect _ => False
  | _ => True

/-- The effect that an operation puts into place, with its conditions evaluated. -/
def placed? (world : World) : Operation → Option (String × AppliedEffect)
  | addEffect id =>
    if world.actor.effects.contains id then none
    else (world.actor.catalog.get? id).map fun definition =>
      (id, .start definition world.actor.snapshot)
  | refreshEffect id =>
    (world.actor.effects.get? id).map fun effect => (id, effect.refresh world.actor.snapshot)
  | _ => none

/-- The applied effects with the one that an operation puts into place. -/
def beginning (world : World) (operation : Operation) : Dictionary AppliedEffect :=
  match operation.placed? world with
  | none => world.actor.effects
  | some (id, effect) => world.actor.effects.insert id effect

def IsPunctual (world : World) (operation : Operation) : Prop :=
  ∀ entry ∈ operation.placed? world, entry.2.isOverdue = false

theorem PlacesNothing.beginning {world : World} {operation : Operation}
    (nothing : operation.PlacesNothing) : operation.beginning world = world.actor.effects := by
  cases operation with
  | addEffect id => exact nothing.elim
  | refreshEffect id => exact nothing.elim
  | _ => rfl

end Operation

theorem Behavior.program_standard (kind : HookKind) (spec : EffectSpec) (calls : List HookCall) :
    ∃ operations, Behavior.standard.program kind spec calls = Program.ofList operations ∧
      ∀ operation ∈ operations, operation.PlacesNothing := by
  cases kind with
  | enter =>
    refine ⟨spec.attachments, rfl, fun operation member => ?_⟩
    obtain ⟨modifier, _, attaches⟩ := List.mem_flatMap.1 member
    simp only [EffectSpec.attachment, List.mem_cons, List.not_mem_nil, or_false] at attaches
    obtain rfl | rfl := attaches
    · trivial
    · trivial
  | exit =>
    refine ⟨spec.detachments, rfl, fun operation member => ?_⟩
    obtain rfl := List.mem_singleton.1 member
    trivial
  | interval => exact ⟨[], rfl, fun operation member => absurd member (by simp)⟩

theorem Behavior.IsBuiltIn.program {behavior : Behavior} (builtIn : behavior.IsBuiltIn)
    (kind : HookKind) (spec : EffectSpec) (calls : List HookCall) :
    ∃ operations, behavior.program kind spec calls = Program.ofList operations ∧
      ∀ operation ∈ operations, operation.PlacesNothing := by
  obtain rfl | ⟨amount, rfl⟩ := builtIn
  · exact program_standard kind spec calls
  · cases kind with
    | enter => exact program_standard .enter spec calls
    | exit => exact program_standard .exit spec calls
    | interval =>
      refine ⟨[.queueDamage ⟨amount, some spec.source⟩], rfl, fun operation member => ?_⟩
      obtain rfl := List.mem_singleton.1 member
      trivial

namespace Engine

variable {origin : Dictionary AppliedEffect} {fuel : Nat}

section Performer

variable (keeps : ∀ operation, operation.PlacesNothing → Tracks origin (perform fuel operation))

include keeps

theorem callHook_tracks {kind : HookKind} {definition : EffectDefinition}
    (builtIn : definition.behavior.IsBuiltIn) :
    Tracks origin (callHook (perform fuel) kind definition) := by
  refine (recordCall_does.tracks fun _ => rfl).bind fun earlier => ?_
  obtain ⟨operations, program, harmless⟩ :=
    builtIn.program kind definition.toEffectSpec earlier
  rw [program]
  exact keeps_ofList fun operation member => keeps operation (harmless operation member)

theorem removeEffect_tracks {id : String} :
    Tracks origin (removeEffect (perform fuel) id) := by
  refine ensures_actor_bind fun actor => ?_
  split
  · exact ensures_pure fun _ start => start.1
  · rename_i effect found
    have drops : Ensures (fun world => Tracked origin world.view.effects ∧ world.actor = actor)
        (dropEffect id) fun _ world =>
          effect.definition.behavior.IsBuiltIn ∧ Tracked origin world.view.effects := by
      rintro world result world' ⟨tracked, rfl⟩ returned
      rw [dropEffect_does _ _ _ returned]
      exact ⟨tracked.builtIn id effect found, tracked.erase⟩
    refine drops.bind fun _ => ensures_of_and fun usual => ?_
    split
    · exact (callHook_tracks keeps usual).bind fun _ => report_quiet.tracks.bind fun _ =>
        keeps_pure
    · exact report_quiet.tracks.bind fun _ => keeps_pure

omit keeps in
theorem addModifier_tracks {modifier : Modifier} {source : Option String} :
    Tracks origin (addModifier (perform fuel) modifier source) := by
  refine recordOffer_quiet.tracks.bind fun _ => ?_
  refine ensures_actor_bind fun actor => Ensures.strengthen ?_ fun _ start => start.1
  dsimp only
  split
  · exact releaseModifiers_quiet.tracks.bind fun _ => keeps_pure
  · exact (register_does.tracks fun _ => rfl).bind fun _ => notify_tracks.bind fun _ => keeps_pure

omit keeps in
theorem removeModifier_tracks {stat : Stat} {op : ModifierOp} {value : Float32}
    {source : Option String} :
    Tracks origin (removeModifier (perform fuel) stat op value source) := by
  refine ensures_actor_bind fun actor => Ensures.strengthen ?_ fun _ start => start.1
  dsimp only
  split
  · exact keeps_pure
  · exact (unregister_does.tracks fun _ => rfl).bind fun _ => notify_tracks.bind fun _ =>
      keeps_pure

omit keeps in
theorem removeSource_tracks {source : String} :
    Tracks origin (removeSource (perform fuel) source) := by
  have withdraws : Tracks origin (withdrawSource source) := by
    intro world count world' tracked returned
    rw [(withdrawSource_ensures _ _ _ rfl returned).2]
    exact tracked
  refine withdraws.bind fun count => ?_
  dsimp only
  split
  · exact notify_tracks.bind fun _ => keeps_pure
  · exact keeps_pure

omit keeps in
theorem drainDamage_tracks {limit : Nat} : Tracks origin (drainDamage (perform fuel) limit) := by
  induction limit with
  | zero =>
    refine ensures_actor_bind fun actor => Ensures.strengthen ?_ fun _ start => start.1
    split
    · exact keeps_pure
    · exact ensures_exhausted
  | succ limit inductionHypothesis =>
    refine ensures_actor_bind fun actor => Ensures.strengthen ?_ fun _ start => start.1
    split
    · exact keeps_pure
    · exact (sufferDamage_does.tracks fun _ => rfl).bind fun _ => notify_tracks.bind fun _ =>
        inductionHypothesis

theorem act_tracks {limit : Nat} {operation : Operation} (nothing : operation.PlacesNothing) :
    Tracks origin (act (perform fuel) limit operation) := by
  cases operation with
  | addBase stat value =>
    exact takeModifier_quiet.tracks.bind fun _ => addModifier_tracks.bind fun _ => keeps_pure
  | addModifier modifier source => exact addModifier_tracks.bind fun _ => keeps_pure
  | removeModifier stat op value source => exact removeModifier_tracks.bind fun _ => keeps_pure
  | removeSource source => exact removeSource_tracks.bind fun _ => keeps_pure
  | setCustomValue id value =>
    have sets : Tracks origin (setCustomValue (perform fuel) id value) := by
      refine ensures_actor_bind fun actor => Ensures.strengthen ?_ fun _ start => start.1
      exact nextOrder_quiet.tracks.bind fun _ => (modifyActor_tracks fun _ => by rfl).bind fun _ =>
        report_quiet.tracks.bind fun _ => notify_tracks
    exact sets.bind fun _ => keeps_pure
  | setHp hp =>
    have sets : Tracks origin (setHp (perform fuel) hp) :=
      (modifyActor_tracks fun _ => by rfl).bind fun _ => notify_tracks
    exact sets.bind fun _ => keeps_pure
  | addEffect id => exact nothing.elim
  | refreshEffect id => exact nothing.elim
  | removeEffect id => exact (removeEffect_tracks keeps).bind fun _ => keeps_pure
  | queueDamage damage => exact (modifyActor_tracks fun _ => by rfl).bind fun _ => keeps_pure
  | process delta =>
    have processes : Tracks origin (process (perform fuel) limit delta) :=
      notify_tracks.bind fun _ => drainDamage_tracks
    exact processes.bind fun _ => keeps_pure
  | notify trigger => exact notify_tracks.bind fun _ => keeps_pure
  | takeEvents =>
    refine ensures_actor_bind fun actor => Ensures.strengthen ?_ fun _ start => start.1
    exact (modifyActor_tracks fun _ => by rfl).bind fun _ => keeps_pure
  | takePooled => exact takeModifier_quiet.tracks.bind fun _ => keeps_pure
  | modifiers | calculate | customValue | hp | isDead | hasEffect | effects | snapshot =>
    exact ensures_actor_bind fun _ => ensures_pure fun _ start => start.1
  | poolSizes => exact ensures_modifyGet fun _ tracked => tracked

end Performer

theorem perform_tracks {operation : Operation} (nothing : operation.PlacesNothing) :
    Tracks origin (perform fuel operation) := by
  induction fuel generalizing operation with
  | zero => exact ensures_exhausted
  | succ fuel inductionHypothesis => exact act_tracks (fun _ => inductionHypothesis) nothing

/-! ## Effects put into place -/

variable {world : World}

theorem placeEffect_tracks {id : String} {effect : AppliedEffect}
    (applied : AreBuiltIn world.actor.effects) (builtIn : effect.definition.behavior.IsBuiltIn) :
    Ensures (fun between => between = world) (placeEffect id effect) fun _ after =>
      Tracked (world.actor.effects.insert id effect) after.view.effects := by
  rintro between result after rfl returned
  rw [placeEffect_does _ _ _ returned]
  exact ⟨applied.insert builtIn, .refl _⟩

theorem addEffect_tracks {id : String} (applied : AreBuiltIn world.actor.effects)
    (builtIn : ∀ id, ∀ definition ∈ world.actor.catalog.get? id, definition.behavior.IsBuiltIn) :
    Ensures (fun between => between = world) (addEffect (perform fuel) id) fun _ after =>
      Tracked ((Operation.addEffect id).beginning world) after.view.effects := by
  refine ensures_world_bind fun between same => ?_
  subst same
  split
  · rename_i contained
    refine ensures_pure fun _ same => ?_
    subst same
    rw [Operation.beginning, Operation.placed?, if_pos contained]
    exact ⟨applied, .refl _⟩
  · rename_i missing
    rw [Operation.beginning, Operation.placed?, if_neg missing]
    split
    · rename_i unknown
      refine ensures_pure fun _ same => ?_
      subst same
      rw [unknown]
      exact ⟨applied, .refl _⟩
    · rename_i definition known
      rw [known]
      refine (placeEffect_tracks applied (builtIn id definition known)).bind fun _ =>
        report_quiet.tracks.bind fun _ => ?_
      split
      · exact (callHook_tracks (fun _ => perform_tracks) (builtIn id definition known)).bind
          fun _ => keeps_pure
      · exact keeps_pure

theorem refreshEffect_tracks {id : String} (applied : AreBuiltIn world.actor.effects) :
    Ensures (fun between => between = world) (refreshEffect (perform fuel) id) fun _ after =>
      Tracked ((Operation.refreshEffect id).beginning world) after.view.effects := by
  refine ensures_world_bind fun between same => ?_
  subst same
  rw [Operation.beginning, Operation.placed?]
  split
  · rename_i missing
    refine ensures_pure fun _ same => ?_
    subst same
    rw [missing]
    exact ⟨applied, .refl _⟩
  · rename_i effect found
    rw [found]
    have builtIn : (effect.refresh between.actor.snapshot).definition.behavior.IsBuiltIn :=
      applied id effect found
    refine (placeEffect_tracks applied builtIn).bind fun _ => ?_
    split
    · exact (callHook_tracks (fun _ => perform_tracks) builtIn).bind fun _ => keeps_pure
    · exact keeps_pure

theorem perform_lingers {operation : Operation} (applied : AreBuiltIn world.actor.effects)
    (builtIn : ∀ id, ∀ definition ∈ world.actor.catalog.get? id, definition.behavior.IsBuiltIn) :
    Ensures (fun between => between = world) (perform fuel operation) fun _ after =>
      Lingers (operation.beginning world) after.actor.effects := by
  have tracks : Ensures (fun between => between = world) (perform fuel operation) fun _ after =>
      Tracked (operation.beginning world) after.view.effects := by
    cases fuel with
    | zero => exact ensures_exhausted
    | succ fuel =>
      have others (nothing : operation.PlacesNothing) :
          Ensures (fun between => between = world) (perform (fuel + 1) operation) fun _ after =>
            Tracked (operation.beginning world) after.view.effects := by
        rw [nothing.beginning]
        exact (perform_tracks nothing).strengthen fun _ same => by
          subst same
          exact ⟨applied, .refl _⟩
      cases operation with
      | addEffect id => exact (addEffect_tracks applied builtIn).bind fun _ => keeps_pure
      | refreshEffect id => exact (refreshEffect_tracks applied).bind fun _ => keeps_pure
      | _ => exact others trivial
  exact fun between result after start returned =>
    (tracks between result after start returned).lingers

end Engine

/-! ## Runs -/

abbrev AreOnTime : Dictionary AppliedEffect → Prop := EachEffect fun effect =>
  effect.isOverdue = false

theorem Lingers.areOnTime {before after : Dictionary AppliedEffect} (lingers : Lingers before after)
    (onTime : AreOnTime before) : AreOnTime after := by
  intro id effect applied
  refine Bool.eq_false_iff.2 fun overdue => ?_
  obtain ⟨earlier, wasApplied, wasOverdue, _⟩ := (lingers.isOverdue_iff applied).1 overdue
  exact absurd wasOverdue (by simp [onTime id earlier wasApplied])

theorem Operation.IsPunctual.areOnTime {world : World} {operation : Operation}
    (punctual : operation.IsPunctual world) (onTime : AreOnTime world.actor.effects) :
    AreOnTime (operation.beginning world) := by
  rw [Operation.beginning]
  split
  · exact onTime
  · rename_i id effect placed
    exact onTime.insert (punctual _ placed)

namespace World.Reachable

variable {catalog : EffectCatalog} {permits : World → Operation → Nat → Prop}
  {world world' : World} {operation : Operation} {fuel : Nat} {response : Response}

theorem lingers (builtIn : ∀ id, ∀ definition ∈ catalog.get? id, definition.behavior.IsBuiltIn)
    (reachable : World.Reachable catalog permits world)
    (returned : (Engine.perform (fuel + 1) operation).run world = some (response, world')) :
    Lingers (operation.beginning world) world'.actor.effects := by
  have known : world.actor.catalog = catalog := reachable.isKnown.catalog
  exact Engine.perform_lingers (reachable.builtIn builtIn) (known ▸ builtIn) _ _ _ rfl returned

/-- If no effect is overdue when it is put into place, none ever is. -/
theorem areOnTime (builtIn : ∀ id, ∀ definition ∈ catalog.get? id, definition.behavior.IsBuiltIn)
    (punctual : ∀ world operation fuel, permits world operation fuel → operation.IsPunctual world)
    (reachable : World.Reachable catalog permits world) : AreOnTime world.actor.effects := by
  induction reachable with
  | new pools orders => exact fun id effect applied => absurd applied (by simp [World.new, Actor.new])
  | perform reached returned permitted inductionHypothesis =>
    exact (reached.lingers builtIn returned).areOnTime
      ((punctual _ _ _ permitted).areOnTime inductionHypothesis)
  | share pools reached inductionHypothesis => exact inductionHypothesis

/-- After a call of `process` just those effects are overdue that were so before it and of whose
flags none has turned.  If no effect was overdue when it was put into place, none is. -/
theorem process_isOverdue_iff {delta : Float32}
    (builtIn : ∀ id, ∀ definition ∈ catalog.get? id, definition.behavior.IsBuiltIn)
    (reachable : World.Reachable catalog permits world)
    (returned : (Engine.perform (fuel + 1) (.process delta)).run world = some (response, world')) :
    (∀ id, ∀ effect ∈ world'.actor.effects.get? id,
      effect.isOverdue = true ↔ ∃ earlier ∈ world.actor.effects.get? id,
        earlier.isOverdue = true ∧ effect.standing = earlier.standing) ∧
    ((∀ world operation fuel, permits world operation fuel → operation.IsPunctual world) →
      ∀ id, ∀ effect ∈ world'.actor.effects.get? id, effect.isOverdue = false) := by
  have lingers : Lingers world.actor.effects world'.actor.effects :=
    reachable.lingers builtIn returned
  exact ⟨fun id effect applied => lingers.isOverdue_iff applied,
    fun punctual => lingers.areOnTime (reachable.areOnTime builtIn punctual)⟩

end World.Reachable

/-- An effect that lasts two seconds. -/
def EffectDefinition.haste : EffectDefinition :=
  ⟨⟨"haste", some (.timed 2), none, [Modifier.new .speed .add 1]⟩, .standard⟩

/-- One second later the effect is still applied, and not overdue. -/
theorem World.Reachable.process_isOverdue_haste : ∃ world world' response,
    World.Reachable (.ofList [.haste]) (fun world operation _ => operation.IsPunctual world) world ∧
      (Engine.perform 4 (.process 1)).run world = some (response, world') ∧
      world'.actor.hasEffect "haste" = true ∧
      ∀ id, ∀ effect ∈ world'.actor.effects.get? id, effect.isOverdue = false := by
  have run : ((Engine.perform 4 (.addEffect "haste")).run
      (World.new (.ofList [.haste]) .initial)).any (fun first =>
        ((Engine.perform 4 (.process 1)).run first.2).any fun second =>
          second.2.actor.hasEffect "haste") = true := by
    decide +kernel
  obtain ⟨⟨response, world⟩, begun, continues⟩ := (Option.any_eq_true _ _).1 run
  obtain ⟨⟨answer, world'⟩, returned, applied⟩ := (Option.any_eq_true _ _).1 continues
  have builtIn : ∀ definition ∈ [EffectDefinition.haste], definition.behavior.IsBuiltIn := by
    intro definition member
    obtain rfl := List.mem_singleton.1 member
    exact Or.inl rfl
  have starts : ((Operation.addEffect "haste").placed? (World.new (.ofList [.haste]) .initial)).all
      (fun entry => !entry.2.isOverdue) = true := by
    decide +kernel
  have punctual : (Operation.addEffect "haste").IsPunctual
      (World.new (.ofList [.haste]) .initial) := by
    intro entry placed
    simpa [Option.mem_def.1 placed] using starts
  have reachable : World.Reachable (.ofList [.haste])
      (fun world operation _ => operation.IsPunctual world) world :=
    World.Reachable.perform (.new .initial fun _ => .declared) begun punctual
  have onTime := (World.Reachable.process_isOverdue_iff (EffectCatalog.isBuiltIn_ofList builtIn)
    reachable returned).2 fun _ _ _ permitted => permitted
  exact ⟨world, world', answer, reachable, returned, applied, onTime⟩

/-- An effect whose time is up when it is applied. -/
def EffectDefinition.blink : EffectDefinition :=
  ⟨⟨"blink", some (.timed 0), none, [Modifier.new .speed .add 1]⟩, .standard⟩

/-- There are runs after which a call of `process` leaves an effect overdue. -/
theorem World.Reachable.not_forall_process_onTime :
    ¬∀ (catalog : EffectCatalog) (world world' : World) (fuel : Nat) (delta : Float32)
      (response : Response),
      (∀ id, ∀ definition ∈ catalog.get? id, definition.behavior.IsBuiltIn) →
      World.Reachable catalog (fun _ _ _ => True) world →
      (Engine.perform (fuel + 1) (.process delta)).run world = some (response, world') →
      world'.cutOffs = 0 →
      ∀ id, ∀ effect ∈ world'.actor.effects.get? id, effect.isOverdue = false := by
  intro all
  have run : ((Engine.perform 4 (.addEffect "blink")).run
      (World.new (.ofList [.blink]) .initial)).any (fun first =>
        ((Engine.perform 4 (.process 1)).run first.2).any fun second =>
          second.2.cutOffs = 0 ∧
            (second.2.actor.effects.get? "blink").any AppliedEffect.isOverdue) = true := by
    decide +kernel
  obtain ⟨⟨response, world⟩, begun, continues⟩ := (Option.any_eq_true _ _).1 run
  obtain ⟨⟨answer, world'⟩, returned, facts⟩ := (Option.any_eq_true _ _).1 continues
  obtain ⟨uncut, stays⟩ := of_decide_eq_true facts
  obtain ⟨effect, applied, overdue⟩ := (Option.any_eq_true _ _).1 stays
  have builtIn : ∀ definition ∈ [EffectDefinition.blink], definition.behavior.IsBuiltIn := by
    intro definition member
    obtain rfl := List.mem_singleton.1 member
    exact Or.inl rfl
  have reachable : World.Reachable (.ofList [.blink]) (fun _ _ _ => True) world :=
    World.Reachable.perform (.new .initial fun _ => .declared) begun trivial
  have onTime := all _ world world' 3 1 answer (EffectCatalog.isBuiltIn_ofList builtIn) reachable
    returned uncut "blink" effect applied
  exact absurd overdue (by simp [onTime])

end Roleplay
