import Roleplay.Proofs.Stats.Share

/-! # What hooks attach and detach

Enter and exit hooks of plain effects are sequences of registrations and withdrawals, each followed
by a notification.  Within a notification these only ask for another pass, so a hook does exactly what
its program says.

* `Engine.attach` is the program of enter hooks;
* `Engine.attach_singleton` and `Engine.exit_inversion` find the notifications in them.
-/

namespace Roleplay

namespace Engine

variable {perform : Performer} {fuel : Nat} {world world' : World}

def attach (perform : Performer) (spec : EffectSpec) (modifiers : List Modifier) : Engine Unit :=
  runProgram perform (Program.ofList (modifiers.flatMap spec.attachment))

theorem runProgram_append {first second : List Operation} :
    runProgram perform (Program.ofList (first ++ second)) =
      runProgram perform (Program.ofList first) >>= fun _ =>
        runProgram perform (Program.ofList second) := by
  induction first with
  | nil => rfl
  | cons operation rest inductionHypothesis =>
    simp only [List.cons_append, Program.ofList, runProgram, inductionHypothesis, bind_assoc]

theorem attach_append {spec : EffectSpec} {first second : List Modifier} :
    attach perform spec (first ++ second) =
      attach perform spec first >>= fun _ => attach perform spec second := by
  rw [attach, List.flatMap_append, runProgram_append]
  rfl

/-! ## Inversions -/

theorem not_perform_zero {operation : Operation} {result : Response × World} :
    ¬(Engine.perform 0 operation).run world = some result := by
  simp [Engine.perform, exhausted, StateT.run]

/-- Unless a modifier without source is rejected, it is registered, which is followed by a
notification. -/
theorem addModifier_inversion {modifier : Modifier} {source : Option String} {result : Bool}
    (returned : (addModifier perform modifier source).run world = some (result, world')) :
    (source = none ∧ world'.view = world.view) ∨
    ∃ between,
      between.view = world.view.withList modifier.stat
        (insertModifier ((modifier.withSource source).refresh world.actor.snapshot).enlist
          (world.view.lists modifier.stat)) ∧
      (notify perform .statsChanged).run between = some ((), world') := by
  obtain ⟨_, _, offers, rest⟩ := run_bind_eq_some.1 returned
  obtain ⟨_, rfl⟩ := Prod.mk.inj (Option.some.inj offers)
  rw [run_actor_bind] at rest
  dsimp only at rest
  split at rest
  · rename_i rejected
    obtain ⟨_, between, releases, ends⟩ := run_bind_eq_some.1 rest
    obtain ⟨_, rfl⟩ := Prod.mk.inj (Option.some.inj ends)
    refine Or.inl ⟨?_, (releaseModifiers_quiet _ _ _ releases).trans rfl⟩
    simpa using (Bool.and_eq_true_iff.1 rejected).1
  · obtain ⟨_, between, registers, rest⟩ := run_bind_eq_some.1 rest
    obtain ⟨_, after, notifies, ends⟩ := run_bind_eq_some.1 rest
    obtain ⟨_, rfl⟩ := Prod.mk.inj (Option.some.inj ends)
    exact Or.inr ⟨between, register_does _ _ _ registers, notifies⟩

theorem removeModifier_inversion {stat : Stat} {op : ModifierOp} {value : Float32}
    {source : Option String} {result : Bool}
    (returned : (removeModifier perform stat op value source).run world = some (result, world')) :
    world' = world ∨ ∃ between,
      between.view = world.view.withList stat
        ((world.view.lists stat).eraseP (Modifier.isNamedBy op value source)) ∧
      (notify perform .statsChanged).run between = some ((), world') := by
  have rest := run_actor_bind.symm.trans returned
  dsimp only at rest
  split at rest
  · obtain ⟨_, rfl⟩ := Prod.mk.inj (Option.some.inj rest)
    exact Or.inl rfl
  · obtain ⟨_, between, unregisters, rest⟩ := run_bind_eq_some.1 rest
    obtain ⟨_, after, notifies, ends⟩ := run_bind_eq_some.1 rest
    obtain ⟨_, rfl⟩ := Prod.mk.inj (Option.some.inj ends)
    exact Or.inr ⟨between, unregister_does _ _ _ unregisters, notifies⟩

theorem removeSource_inversion {source : String} {count : Nat}
    (returned : (removeSource perform source).run world = some (count, world')) :
    ∃ between, between.view = world.view.without source ∧
      (world' = between ∨ (notify perform .statsChanged).run between = some ((), world')) := by
  obtain ⟨removed, between, withdraws, rest⟩ := run_bind_eq_some.1 returned
  obtain ⟨_, same⟩ := withdrawSource_ensures _ _ _ rfl withdraws
  refine ⟨between, same, ?_⟩
  dsimp only at rest
  split at rest
  · obtain ⟨_, after, notifies, ends⟩ := run_bind_eq_some.1 rest
    obtain ⟨_, rfl⟩ := Prod.mk.inj (Option.some.inj ends)
    exact Or.inr notifies
  · obtain ⟨_, rfl⟩ := Prod.mk.inj (Option.some.inj rest)
    exact Or.inl rfl

theorem attach_singleton {spec : EffectSpec} {modifier : Modifier}
    (unconditional : modifier.condition = none)
    (returned : (attach (Engine.perform fuel) spec [modifier]).run world = some ((), world')) :
    ∃ inner between,
      between.view = world.view.withList modifier.stat
        (insertModifier (spec.attached modifier) (world.view.lists modifier.stat)) ∧
      (notify (Engine.perform inner) .statsChanged).run between = some ((), world') := by
  -- one operation takes a modifier out of the pool, the next one registers the copy
  cases fuel with
  | zero =>
    obtain ⟨_, _, performs, _⟩ := run_bind_eq_some.1 returned
    exact absurd performs not_perform_zero
  | succ fuel =>
    obtain ⟨_, taken, takes, rest⟩ := run_bind_eq_some.1 returned
    obtain ⟨_, took, quiet, ends⟩ := run_bind_eq_some.1 takes
    obtain ⟨_, rfl⟩ := Prod.mk.inj (Option.some.inj ends)
    obtain ⟨_, added, adds, finishes⟩ := run_bind_eq_some.1 rest
    obtain ⟨_, rfl⟩ := Prod.mk.inj (Option.some.inj finishes)
    obtain ⟨_, registered, registers, ends⟩ := run_bind_eq_some.1 adds
    obtain ⟨_, rfl⟩ := Prod.mk.inj (Option.some.inj ends)
    cases addModifier_inversion registers with
    | inl rejected =>
      obtain ⟨sourceless, _⟩ := rejected
      exact absurd sourceless (by simp)
    | inr registered =>
      obtain ⟨between, same, notifies⟩ := registered
      refine ⟨fuel, between, ?_, notifies⟩
      have unchanged : (modifier.copy.withSource (some spec.source)).refresh
          took.actor.snapshot = modifier.copy.withSource (some spec.source) :=
        Modifier.refresh_of_unconditional unconditional
      rw [same, takeModifier_quiet _ _ _ quiet, unchanged]
      rfl

/-- The exit program of a plain effect withdraws its modifiers. -/
theorem exit_inversion {spec : EffectSpec}
    (returned : (runProgram (Engine.perform fuel) (Program.ofList spec.detachments)).run world =
      some ((), world')) :
    ∃ inner between, between.view = world.view.without spec.source ∧
      (world' = between ∨
        (notify (Engine.perform inner) .statsChanged).run between = some ((), world')) := by
  obtain ⟨_, removed, performs, ends⟩ := run_bind_eq_some.1 returned
  obtain ⟨_, rfl⟩ := Prod.mk.inj (Option.some.inj ends)
  cases fuel with
  | zero => exact absurd performs not_perform_zero
  | succ fuel =>
    obtain ⟨_, removed, removes, ends⟩ := run_bind_eq_some.1 performs
    obtain ⟨_, rfl⟩ := Prod.mk.inj (Option.some.inj ends)
    obtain ⟨between, same, finishes⟩ := removeSource_inversion removes
    exact ⟨fuel, between, same, finishes⟩

end Engine

/-! ## Serving one effect -/

/-- A change of a view that concerns the share of one effect only. -/
structure View.Serves (id : String) (change : Share → Share) (before after : View) : Prop where
  catalog : after.catalog = before.catalog
  notifying : after.isNotifying = before.isNotifying
  effects : after.effects = before.effects
  plain : before.IsPlain → after.IsPlain
  own : after.share id = change (before.share id)
  others : ∀ other ≠ id, after.share other = before.share other

namespace View.Serves

variable {id : String} {first second : Share → Share} {view between after : View}

theorem refl : Serves id (fun share => share) view view :=
  ⟨rfl, rfl, rfl, fun plain => plain, rfl, fun _ _ => rfl⟩

theorem trans (serves : Serves id first view between) (continues : Serves id second between after) :
    Serves id (fun share => second (first share)) view after :=
  ⟨continues.catalog.trans serves.catalog, continues.notifying.trans serves.notifying,
    continues.effects.trans serves.effects, fun plain => continues.plain (serves.plain plain),
    by rw [continues.own, serves.own],
    fun other ne => (continues.others other ne).trans (serves.others other ne)⟩

theorem dirty : Serves id (fun share => share) view { view with isDirty := true } :=
  ⟨rfl, rfl, rfl, fun plain => ⟨plain.catalog, plain.applied, plain.unconditional⟩, rfl,
    fun _ _ => rfl⟩

theorem queued {damage : List Damage} :
    Serves id (fun share => share) view { view with damage := damage } :=
  ⟨rfl, rfl, rfl, fun plain => ⟨plain.catalog, plain.applied, plain.unconditional⟩, rfl,
    fun _ _ => rfl⟩

theorem registered {spec : EffectSpec} {modifier : Modifier}
    (unconditional : modifier.condition = none) :
    Serves spec.id (·.withMore (spec.bundleOf [modifier])) view
      (view.withList modifier.stat
        (Engine.insertModifier (spec.attached modifier) (view.lists modifier.stat))) := by
  refine ⟨rfl, rfl, rfl, fun plain => plain.withList fun other member => ?_, ?_, ?_⟩
  · cases List.mem_cons.1 (Engine.insertModifier_perm.mem_iff.1 member) with
    | inl same =>
      subst same
      exact Or.inr fun _ _ => unconditional
    | inr earlier =>
      exact Or.inl earlier
  · have own : (spec.attached modifier).isFrom (effectSource spec.id) = true := by
      simp [EffectSpec.attached, EffectSpec.source, Modifier.isFrom, Modifier.withSource,
        Modifier.enlist]
    rw [EffectSpec.bundleOf_singleton]
    exact share_insertModifier own
  · intro other ne
    have foreign : (spec.attached modifier).isFrom (effectSource other) = false := by
      have different : effectSource spec.id ≠ effectSource other := fun same =>
        ne (effectSource_injective same).symm
      simp [EffectSpec.attached, EffectSpec.source, Modifier.isFrom, Modifier.withSource,
        Modifier.enlist, different]
    exact share_insertModifier_of_foreign foreign

theorem withdrawn {spec : EffectSpec} :
    Serves spec.id ({ · with attached := 0 }) view (view.without spec.source) :=
  ⟨rfl, rfl, rfl, fun plain => plain.without, share_without, fun _ ne =>
    share_without_of_ne fun same => ne (effectSource_injective same).symm⟩

end View.Serves

/-- What a hook of a plain effect does to its share. -/
def Share.afterHook (bundle : Stat → Multiset Modifier) (kind : HookKind) (share : Share) : Share :=
  match kind with
  | .enter => share.withMore bundle
  | .exit => { share with attached := 0, exits := share.exits + 1 }
  | .interval => share

namespace View.Serves

variable {id : String} {view : View} {kind : HookKind}

theorem recorded : Serves id
    (fun share => if kind = .exit then { share with exits := share.exits + 1 } else share)
    view { view with calls := view.calls ++ [⟨id, kind⟩] } := by
  refine ⟨rfl, rfl, rfl, fun plain => ⟨plain.catalog, plain.applied, plain.unconditional⟩, ?_, ?_⟩
  · split
    · rename_i exits
      subst exits
      exact share_calls_exit
    · rename_i stays
      exact share_calls (by simp [stays])
  · intro other ne
    exact share_calls (by simp [Ne.symm ne])

end View.Serves

/-! ## Hooks within a notification -/

namespace Engine

variable {perform : Performer} {fuel : Nat} {world world' : World}

theorem notify_busy {trigger : Trigger} (busy : world.view.isNotifying = true)
    (returned : (notify perform trigger).run world = some ((), world')) :
    world'.view = { world.view with isDirty := true } := by
  have rest := run_actor_bind.symm.trans returned
  have notifying : world.actor.isNotifying = true := busy
  simp only [notifying, if_true] at rest
  exact markDirty_does _ _ _ rest

theorem attach_busy {spec : EffectSpec} {modifiers : List Modifier}
    (unconditional : ∀ modifier ∈ modifiers, modifier.condition = none)
    (busy : world.view.isNotifying = true)
    (returned : (attach (Engine.perform fuel) spec modifiers).run world = some ((), world')) :
    View.Serves spec.id (·.withMore (spec.bundleOf modifiers)) world.view world'.view := by
  induction modifiers generalizing world with
  | nil =>
    obtain ⟨_, rfl⟩ := Prod.mk.inj (Option.some.inj returned)
    refine { View.Serves.refl with own := ?_ }
    simp [Share.withMore, EffectSpec.bundleOf_nil]
  | cons modifier rest inductionHypothesis =>
    rw [← List.singleton_append, attach_append] at returned
    obtain ⟨_, middle, first, continues⟩ := run_bind_eq_some.1 returned
    obtain ⟨inner, between, same, notifies⟩ := attach_singleton (unconditional modifier (by simp))
      first
    have registers : View.Serves spec.id (·.withMore (spec.bundleOf [modifier])) world.view
        between.view := same ▸ .registered (unconditional modifier (by simp))
    have stillBusy : between.view.isNotifying = true := registers.notifying.trans busy
    -- the notification under way is asked for another pass
    have marks : View.Serves spec.id (fun share => share) between.view middle.view :=
      notify_busy stillBusy notifies ▸ .dirty
    have later := inductionHypothesis (fun other member => unconditional other (.tail _ member))
      (marks.notifying.trans stillBusy) continues
    have whole : spec.bundleOf (modifier :: rest) =
        spec.bundleOf [modifier] + spec.bundleOf rest := EffectSpec.bundleOf_cons
    refine { (registers.trans marks).trans later with own := ?_ }
    rw [((registers.trans marks).trans later).own, whole]
    simp [Share.withMore, add_assoc]

theorem detach_busy {spec : EffectSpec} (busy : world.view.isNotifying = true)
    (returned : (runProgram (Engine.perform fuel) (Program.ofList spec.detachments)).run world =
      some ((), world')) :
    View.Serves spec.id ({ · with attached := 0 }) world.view world'.view := by
  obtain ⟨inner, between, same, finishes⟩ := exit_inversion returned
  have withdraws : View.Serves spec.id ({ · with attached := 0 }) world.view between.view :=
    same ▸ .withdrawn
  cases finishes with
  | inl same =>
    subst same
    exact withdraws
  | inr notifies =>
    have stillBusy : between.view.isNotifying = true := withdraws.notifying.trans busy
    have marks : View.Serves spec.id (fun share => share) between.view world'.view :=
      notify_busy stillBusy notifies ▸ .dirty
    exact withdraws.trans marks

/-- The interval hook of a plain effect attaches nothing. -/
theorem interval_serves {definition : EffectDefinition} (plain : definition.IsPlain)
    {calls : List HookCall}
    (returned : (runProgram (Engine.perform fuel)
      (definition.behavior.program .interval definition.toEffectSpec calls)).run world =
        some ((), world')) :
    View.Serves definition.id (fun share => share) world.view world'.view := by
  cases plain.2 with
  | inl standard =>
    rw [standard] at returned
    obtain ⟨_, rfl⟩ := Prod.mk.inj (Option.some.inj returned)
    exact .refl
  | inr ticking =>
    obtain ⟨amount, damaging⟩ := ticking
    rw [damaging] at returned
    obtain ⟨_, queued, performs, ends⟩ := run_bind_eq_some.1 returned
    obtain ⟨_, rfl⟩ := Prod.mk.inj (Option.some.inj ends)
    cases fuel with
    | zero => exact absurd performs not_perform_zero
    | succ fuel =>
      obtain ⟨_, rfl⟩ := Prod.mk.inj (Option.some.inj performs)
      exact .queued

theorem program_enter {definition : EffectDefinition} (plain : definition.IsPlain)
    {calls : List HookCall} :
    definition.behavior.program .enter definition.toEffectSpec calls =
      Program.ofList (definition.modifiers.flatMap definition.attachment) := by
  cases plain.2 with
  | inl standard =>
    rw [standard]
    rfl
  | inr ticking =>
    obtain ⟨amount, damaging⟩ := ticking
    rw [damaging]
    rfl

theorem program_exit {definition : EffectDefinition} (plain : definition.IsPlain)
    {calls : List HookCall} :
    definition.behavior.program .exit definition.toEffectSpec calls =
      Program.ofList definition.detachments := by
  cases plain.2 with
  | inl standard =>
    rw [standard]
    rfl
  | inr ticking =>
    obtain ⟨amount, damaging⟩ := ticking
    rw [damaging]
    rfl

/-- Within a notification a hook does what its program says, and nothing else. -/
theorem callHook_busy {kind : HookKind} {definition : EffectDefinition}
    (plain : definition.IsPlain) (busy : world.view.isNotifying = true)
    (returned : (callHook (Engine.perform fuel) kind definition).run world = some ((), world')) :
    View.Serves definition.id
      (Share.afterHook (definition.bundleOf definition.modifiers) kind) world.view
      world'.view := by
  obtain ⟨earlier, recorded, records, runs⟩ := run_bind_eq_some.1 returned
  have notes : View.Serves definition.id (fun share => if kind = .exit then
      { share with exits := share.exits + 1 } else share) world.view recorded.view :=
    recordCall_does _ _ _ records ▸ .recorded
  have stillBusy : recorded.view.isNotifying = true := notes.notifying.trans busy
  cases kind with
  | enter =>
    rw [program_enter plain] at runs
    exact notes.trans (attach_busy plain.1 stillBusy runs)
  | exit =>
    rw [program_exit plain] at runs
    exact notes.trans (detach_busy stillBusy runs)
  | interval => exact notes.trans (interval_serves plain runs)

end Engine

end Roleplay
