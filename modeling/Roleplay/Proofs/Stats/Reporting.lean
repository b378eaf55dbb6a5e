import Roleplay.Proofs.Stats.Currency
import Roleplay.Proofs.Stats.Moves
import Roleplay.Proofs.Stats.Walk

/-! # Changes are reported

No stat changes its value without a report of it, however the change comes about.

* `Engine.Reports` says which events a part of the engine reports;
* `World.Accounts` says of the events that were reported between two worlds that they account for
  every change of what counts for a stat; `Engine.Move.accounts` is one move;
* `World.calculate_reported` says of every operation that a stat whose value differs afterwards is
  among the events that the operation reported.
-/

namespace Roleplay

/-- The events were reported between the worlds, and all of them wait for the owner. -/
structure World.Reported (world world' : World) (events : List Event) : Prop where
  reports : world'.reports = world.reports ++ events
  waiting : world'.actor.events = world.actor.events ++ events

theorem World.Reported.trans {world between world' : World} {first second : List Event}
    (earlier : world.Reported between first) (later : between.Reported world' second) :
    world.Reported world' (first ++ second) := by
  refine ⟨?_, ?_⟩
  · rw [later.reports, earlier.reports, List.append_assoc]
  · rw [later.waiting, earlier.waiting, List.append_assoc]

namespace Engine

variable {α β : Type} {world world' : World}

/-! ## What the parts of the engine report -/

/-- The events that a computation reports, whatever it returns. -/
def Reports (engine : Engine α) (events : List Event) : Prop :=
  ∀ world result world', engine.run world = some (result, world') → world.Reported world' events

abbrev IsSilent (engine : Engine α) : Prop := Reports engine []

theorem reports_pure {result : α} : IsSilent (pure result : Engine α) := by
  intro world value world' returned
  obtain ⟨-, rfl⟩ := Prod.mk.inj (Option.some.inj returned)
  exact ⟨by simp, by simp⟩

theorem Reports.bind {engine : Engine α} {next : α → Engine β} {first second : List Event}
    (reports : Reports engine first) (continues : ∀ value, Reports (next value) second) :
    Reports (engine >>= next) (first ++ second) := by
  intro world result world' returned
  obtain ⟨value, between, ran, rest⟩ := run_bind_eq_some.1 returned
  exact (reports world value between ran).trans (continues value between result world' rest)

theorem reports_actor_bind {next : Actor → Engine β} {events : List Event}
    (continues : ∀ actor, Reports (next actor) events) : Reports (Engine.actor >>= next) events :=
  fun world result world' returned =>
    continues world.actor world result world' (run_actor_bind.symm.trans returned)

theorem modify_silent {change : World → World}
    (reports : ∀ world, (change world).reports = world.reports)
    (events : ∀ world, (change world).actor.events = world.actor.events) :
    IsSilent (modify change : Engine Unit) := by
  intro world result world' returned
  obtain ⟨-, rfl⟩ := Prod.mk.inj (Option.some.inj returned)
  exact ⟨by simp [reports], by simp [events]⟩

theorem modifyGet_silent {change : World → α × World}
    (reports : ∀ world, (change world).2.reports = world.reports)
    (events : ∀ world, (change world).2.actor.events = world.actor.events) :
    IsSilent (modifyGet change : Engine α) := by
  intro world result world' returned
  obtain ⟨-, rfl⟩ := Prod.mk.inj (Option.some.inj returned)
  exact ⟨by simp [reports], by simp [events]⟩

theorem report_reports {events : List Event} : Reports (report events) events := by
  intro world result world' returned
  obtain ⟨-, rfl⟩ := Prod.mk.inj (Option.some.inj returned)
  exact ⟨rfl, rfl⟩

theorem nextOrder_silent : IsSilent nextOrder := modifyGet_silent (fun _ => rfl) fun _ => rfl

theorem takeList_silent : IsSilent takeList := modifyGet_silent (fun _ => rfl) fun _ => rfl

theorem releaseModifiers_silent {modifiers : List Modifier} :
    IsSilent (releaseModifiers modifiers) := modify_silent (fun _ => rfl) fun _ => rfl

theorem releaseList_silent {list : List Modifier} : IsSilent (releaseList list) :=
  modify_silent (fun _ => rfl) fun _ => rfl

theorem recordRegistration_silent {modifier : Modifier} :
    IsSilent (recordRegistration modifier) := modify_silent (fun _ => rfl) fun _ => rfl

theorem modifyActor_silent {change : Actor → Actor}
    (events : ∀ actor, (change actor).events = actor.events) : IsSilent (modifyActor change) :=
  modify_silent (fun _ => rfl) fun world => events world.actor

theorem setModifiers_silent {stat : Stat} {list : List Modifier} :
    IsSilent (setModifiers stat list) := modifyActor_silent fun _ => rfl

theorem prune_silent {stat : Stat} : IsSilent (prune stat) := by
  apply reports_actor_bind
  intro actor
  split
  · have erases : IsSilent (modifyActor fun actor =>
        { actor with modifiers := actor.modifiers.erase stat }) := modifyActor_silent fun _ => rfl
    exact erases.bind fun _ => releaseList_silent
  · exact reports_pure

/-- The events of a stat whose modifiers changed. -/
def changesOf (stat : Stat) : List Event := [.modifiersChanged stat, .statChanged stat]

theorem settleStats_reports {stats : List Stat} :
    Reports (settleStats stats) (stats.flatMap changesOf) := by
  induction stats with
  | nil => exact reports_pure
  | cons stat stats inductionHypothesis =>
    exact prune_silent.bind fun _ => report_reports.bind fun _ => inductionHypothesis

theorem markIfAny_silent {stats : List Stat} : IsSilent (markIfAny stats) := by
  rw [markIfAny]
  split
  · exact reports_pure
  · exact modifyActor_silent fun _ => rfl

theorem register_reports {modifier : Modifier} :
    Reports (register modifier) (changesOf modifier.stat) := by
  have lists : IsSilent (listOf modifier.stat) := by
    apply reports_actor_bind
    intro actor
    split
    · exact reports_pure
    · exact takeList_silent
  exact lists.bind fun _ => setModifiers_silent.bind fun _ =>
    recordRegistration_silent.bind fun _ => report_reports

theorem unregister_reports {stat : Stat} {modifier : Modifier} {others : List Modifier} :
    Reports (unregister stat modifier others) (changesOf stat) :=
  releaseModifiers_silent.bind fun _ => setModifiers_silent.bind fun _ =>
    prune_silent.bind fun _ => report_reports

theorem sweepStats_silent {trigger : Trigger} {snapshot : StatSnapshot} {stats : List Stat} :
    IsSilent (sweepStats trigger snapshot stats) := by
  induction stats with
  | nil => exact reports_pure
  | cons stat stats inductionHypothesis =>
    apply reports_actor_bind
    intro actor
    split
    · exact inductionHypothesis
    · exact setModifiers_silent.bind fun _ => releaseModifiers_silent.bind fun _ =>
        inductionHypothesis.bind fun _ => reports_pure

theorem detachSource_silent {source : String} {stats : List Stat} :
    IsSilent (detachSource source stats) := by
  induction stats with
  | nil => exact reports_pure
  | cons stat stats inductionHypothesis =>
    apply reports_actor_bind
    intro actor
    split
    · exact inductionHypothesis
    · exact takeList_silent.bind fun _ => releaseModifiers_silent.bind fun _ =>
        setModifiers_silent.bind fun _ => releaseList_silent.bind fun _ =>
          inductionHypothesis.bind fun _ => reports_pure

/-- The stats whose modifiers a sweep changed are reported. -/
theorem sweepModifiers_reports {trigger : Trigger} {snapshot : StatSnapshot}
    (returned : (sweepModifiers trigger snapshot).run world = some ((), world')) :
    ∃ changed : List Stat, world.Reported world' (changed.flatMap changesOf) ∧
      ∀ stat, stat ∉ changed →
        (sweep trigger snapshot (world.view.lists stat)).isChanged = false := by
  obtain ⟨stats, ordered, orders, rest⟩ := run_bind_eq_some.1 returned
  obtain ⟨changed, between, sweeps, settles⟩ := run_bind_eq_some.1 rest
  -- drawing the order leaves the view as it is, so that the walk starts with the same lists
  have start := nextOrder_quiet _ _ _ orders
  have reported := ((nextOrder_silent _ _ _ orders).trans (sweepStats_silent _ _ _ sweeps)).trans
    ((markIfAny_silent.bind fun _ => settleStats_reports) _ _ _ settles)
  obtain ⟨rfl, rfl⟩ := Prod.mk.inj (Option.some.inj orders)
  obtain ⟨listed, -⟩ := sweepStats_ensures VisitOrder.nodup _ _ _ start sweeps
  refine ⟨changed, by simpa using reported, fun stat unchanged => ?_⟩
  by_contra isChanged
  exact unchanged (listed ▸ List.mem_filter.2 ⟨VisitOrder.mem, by simpa using isChanged⟩)

/-- The stats that a source had modifiers of are reported when these are withdrawn. -/
theorem withdrawSource_reports {source : String} {count : Nat}
    (returned : (withdrawSource source).run world = some (count, world')) :
    ∃ changed : List Stat, world.Reported world' (changed.flatMap changesOf) ∧
      ∀ stat, stat ∉ changed →
        withoutSource source (world.view.lists stat) = world.view.lists stat := by
  obtain ⟨stats, ordered, orders, rest⟩ := run_bind_eq_some.1 returned
  obtain ⟨⟨removed, changed⟩, detached, detaches, rest⟩ := run_bind_eq_some.1 rest
  have start := nextOrder_quiet _ _ _ orders
  have reported := ((nextOrder_silent _ _ _ orders).trans
    (detachSource_silent _ _ _ detaches)).trans
      ((settleStats_reports.bind fun _ => reports_pure) _ _ _ rest)
  obtain ⟨rfl, rfl⟩ := Prod.mk.inj (Option.some.inj orders)
  obtain ⟨listed, -⟩ := detachSource_ensures VisitOrder.nodup _ _ _ start detaches
  obtain ⟨-, rfl⟩ := Prod.mk.inj listed
  refine ⟨_, by simpa using reported, fun stat unchanged => withoutSource_eq_self ?_⟩
  by_contra own
  exact unchanged (List.mem_filter.2 ⟨VisitOrder.mem, by simpa using own⟩)

end Engine

/-! ## What counts for a stat -/

namespace View

variable {view view' : View} {stat : Stat} {ignoreHidden : Bool}

theorem countedEntries_congr (lists : view'.lists stat = view.lists stat)
    (customValues : view'.customValues = view.customValues) :
    view'.countedEntries stat ignoreHidden = view.countedEntries stat ignoreHidden := by
  rw [countedEntries, countedEntries, lists, customValues]

theorem countedEntries_withList {other : Stat} {list : List Modifier} (different : other ≠ stat) :
    (view.withList other list).countedEntries stat ignoreHidden =
      view.countedEntries stat ignoreHidden := by
  refine countedEntries_congr ?_ rfl
  rw [lists_withList, if_neg (Ne.symm different)]

/-- What a modifier contributes to a stat, if it counts. -/
def contribution? (view : View) (ignoreHidden : Bool) (modifier : Modifier) :
    Option (ModifierOp × Float32) :=
  if modifier.isActive && !(ignoreHidden && modifier.isHidden) then
    some (modifier.op, modifier.currentValue view.customValues)
  else none

theorem countedEntries_eq_filterMap :
    view.countedEntries stat ignoreHidden =
      (view.lists stat).filterMap (view.contribution? ignoreHidden) := by
  rw [countedEntries]
  induction view.lists stat with
  | nil => rfl
  | cons modifier list inductionHypothesis =>
    rw [List.filter_cons]
    by_cases counts : (modifier.isActive && !(ignoreHidden && modifier.isHidden)) = true
    · have entry : view.contribution? ignoreHidden modifier =
          some (modifier.op, modifier.currentValue view.customValues) := if_pos counts
      rw [if_pos counts, List.map_cons, List.filterMap_cons_some entry, inductionHypothesis]
    · have entry : view.contribution? ignoreHidden modifier = none := if_neg counts
      rw [if_neg counts, List.filterMap_cons_none entry, inductionHypothesis]

/-- A sweep that changes no modifier of a stat. -/
theorem countedEntries_swept {trigger : Trigger} {snapshot : StatSnapshot}
    (unchanged : (Engine.sweep trigger snapshot (view.lists stat)).isChanged = false) :
    (Engine.swept trigger snapshot view).countedEntries stat ignoreHidden =
      view.countedEntries stat ignoreHidden := by
  -- it may have refreshed their conditions, but these contribute nothing
  have entries := Engine.map_kept_sweep (f := view.contribution? ignoreHidden) (fun _ _ => rfl)
    unchanged
  have counted := congrArg (List.filterMap id) entries
  rw [List.filterMap_map, List.filterMap_map, Function.id_comp] at counted
  rw [countedEntries_eq_filterMap, countedEntries_eq_filterMap]
  exact counted

/-- A custom value that no modifier of a stat reads. -/
theorem countedEntries_insert {id : String} {value : Float32}
    (unread : ∀ modifier ∈ view.lists stat, modifier.customValueId ≠ some id) :
    { view with customValues := view.customValues.insert id value }.countedEntries stat
        ignoreHidden = view.countedEntries stat ignoreHidden := by
  rw [countedEntries_eq_filterMap, countedEntries_eq_filterMap]
  refine List.filterMap_congr fun modifier member => ?_
  have same : modifier.currentValue (view.customValues.insert id value) =
      modifier.currentValue view.customValues := by
    cases named : modifier.customValueId with
    | none => simp [Modifier.currentValue, named]
    | some other =>
      have different : id ≠ other := fun same => unread modifier member (same ▸ named)
      simp [Modifier.currentValue, named, Dictionary.get?_insert, different]
  rw [contribution?, contribution?, same]

end View

/-! ## Accounting for changes -/

/-- The events were reported between the worlds, where some of those that wait may have been taken,
and what counts for a stat is the same unless they say that the stat changed. -/
structure World.Accounts (world world' : World) (events : List Event) : Prop where
  reports : world'.reports = world.reports ++ events
  waiting : ∃ taken, world.actor.events ++ events = taken ++ world'.actor.events
  entries : ∀ stat, .statChanged stat ∉ events → ∀ ignoreHidden,
    world'.view.countedEntries stat ignoreHidden = world.view.countedEntries stat ignoreHidden

namespace World.Accounts

variable {world between world' : World} {events : List Event}

theorem refl (world : World) : world.Accounts world [] :=
  ⟨by simp, ⟨[], by simp⟩, fun _ _ _ => rfl⟩

theorem trans {first second : List Event} (earlier : world.Accounts between first)
    (later : between.Accounts world' second) : world.Accounts world' (first ++ second) := by
  refine ⟨by rw [later.reports, earlier.reports, List.append_assoc], ?_, ?_⟩
  · obtain ⟨taken, waited⟩ := earlier.waiting
    obtain ⟨more, waits⟩ := later.waiting
    refine ⟨taken ++ more, ?_⟩
    rw [← List.append_assoc, waited, List.append_assoc, waits, List.append_assoc]
  · intro stat unreported ignoreHidden
    rw [List.mem_append, not_or] at unreported
    rw [later.entries stat unreported.2, earlier.entries stat unreported.1]

theorem of_reported (reported : world.Reported world' events)
    (entries : ∀ stat, .statChanged stat ∉ events → ∀ ignoreHidden,
      world'.view.countedEntries stat ignoreHidden =
        world.view.countedEntries stat ignoreHidden) : world.Accounts world' events :=
  ⟨reported.reports, ⟨[], reported.waiting.symm⟩, entries⟩

/-- What concerns neither modifiers nor custom values needs no report. -/
theorem of_same (reported : world.Reported world' events)
    (lists : world'.view.lists = world.view.lists)
    (customValues : world'.view.customValues = world.view.customValues) :
    world.Accounts world' events :=
  of_reported reported fun _ _ _ => View.countedEntries_congr (by rw [lists]) customValues

/-- The only stat whose list changed is reported. -/
theorem of_withList {stat : Stat} {list : List Modifier}
    (reported : world.Reported world' (Engine.changesOf stat))
    (does : world'.view = world.view.withList stat list) :
    world.Accounts world' (Engine.changesOf stat) := by
  refine of_reported reported fun other unreported ignoreHidden => ?_
  rw [does, View.countedEntries_withList]
  rintro rfl
  exact unreported (by simp [Engine.changesOf])

end World.Accounts

theorem Engine.statChanged_mem_changesOf {changed : List Stat} {stat : Stat} :
    .statChanged stat ∈ changed.flatMap changesOf ↔ stat ∈ changed := by
  simp [changesOf]

theorem Engine.replaceCustomValue_accounts {world world' : World} {id : String} {value : Float32}
    (returned : (replaceCustomValue id value).run world = some ((), world')) :
    world.Accounts world' ((((world.orders world.walks).stats.filter
      (world.actor.readsCustomValue id)).map .statChanged)) := by
  obtain ⟨-, rfl⟩ := Prod.mk.inj (Option.some.inj returned)
  refine .of_reported ⟨rfl, rfl⟩ fun stat unreported ignoreHidden => ?_
  -- every stat is visited, so one that is not reported has no modifier that reads the value
  have unread : ∀ modifier ∈ world.view.lists stat, modifier.customValueId ≠ some id := by
    intro modifier member reads
    refine unreported (List.mem_map_of_mem (List.mem_filter.2 ⟨VisitOrder.mem, ?_⟩))
    exact List.any_eq_true.2 ⟨modifier, member, by simpa using reads⟩
  exact View.countedEntries_insert unread

/-- Every move reports what it changes. -/
theorem Engine.Move.accounts {world world' : World} (move : Engine.Move world world') :
    ∃ events, world.Accounts world' events := by
  cases move with
  | aside aside =>
    have lists : world'.actor.modifiersOf = world.actor.modifiersOf := by
      funext stat
      rw [Actor.modifiersOf, Actor.modifiersOf, aside.modifiers]
    exact ⟨[], .of_same ⟨by simp [aside.reports], by simp [aside.events]⟩ lists
      aside.customValues⟩
  | report returned =>
    have quiet := report_quiet _ _ _ returned
    exact ⟨_, .of_same (report_reports _ _ _ returned) (by rw [quiet]; rfl) (by rw [quiet]; rfl)⟩
  | clear returned =>
    obtain ⟨-, rfl⟩ := Prod.mk.inj (Option.some.inj returned)
    have taken : world.actor.events ++ [] = world.actor.events ++ [] := rfl
    exact ⟨[], (List.append_nil _).symm, ⟨_, taken⟩, fun _ _ _ => rfl⟩
  | setValue returned => exact ⟨_, replaceCustomValue_accounts returned⟩
  | register accepted returned =>
    exact ⟨_, .of_withList (register_reports _ _ _ returned) (register_does _ _ _ returned)⟩
  | unregister returned =>
    exact ⟨_, .of_withList (unregister_reports _ _ _ returned) (unregister_does _ _ _ returned)⟩
  | withdraw returned =>
    obtain ⟨changed, reported, untouched⟩ := withdrawSource_reports returned
    refine ⟨_, .of_reported reported fun stat unreported ignoreHidden => ?_⟩
    rw [(withdrawSource_ensures _ _ _ rfl returned).2]
    rw [statChanged_mem_changesOf] at unreported
    exact View.countedEntries_congr (untouched stat unreported) rfl
  | sweep returned =>
    obtain ⟨changed, reported, unchanged⟩ := sweepModifiers_reports returned
    refine ⟨_, .of_reported reported fun stat unreported ignoreHidden => ?_⟩
    rw [sweepModifiers_does _ _ _ returned]
    rw [statChanged_mem_changesOf] at unreported
    exact View.countedEntries_swept (unchanged stat unreported)
  | receive returned | start known returned | refresh applied returned | drop returned =>
    obtain ⟨-, rfl⟩ := Prod.mk.inj (Option.some.inj returned)
    exact ⟨[], .of_same ⟨by simp, by simp⟩ rfl rfl⟩

theorem Engine.Moves.accounts {world world' : World} (moves : Engine.Moves world world') :
    ∃ events, world.Accounts world' events := by
  induction moves with
  | refl => exact ⟨[], .refl world⟩
  | tail _ move inductionHypothesis =>
    obtain ⟨first, earlier⟩ := inductionHypothesis
    obtain ⟨second, later⟩ := move.accounts
    exact ⟨first ++ second, earlier.trans later⟩

/-! ## Operations -/

/-- No stat changes its value in silence.  Of the events that an operation reports, with all the
notifications and hooks that it sets off, none is lost: a hook has taken it, or it waits for the
owner.  And if the value of a stat differs afterwards, they say that the stat changed. -/
theorem World.calculate_reported {fuel : Nat} {operation : Operation} {response : Response}
    {world world' : World}
    (returned : (Engine.perform fuel operation).run world = some (response, world')) :
    ∃ events, world'.reports = world.reports ++ events ∧
      (∃ taken, world.actor.events ++ events = taken ++ world'.actor.events) ∧
      ∀ stat ignoreHidden,
        world'.actor.calculate stat ignoreHidden ≠ world.actor.calculate stat ignoreHidden →
          .statChanged stat ∈ events := by
  obtain ⟨events, accounts⟩ := Engine.Moves.accounts (Engine.moves_perform _ _ _ .refl returned)
  refine ⟨events, accounts.reports, accounts.waiting, fun stat ignoreHidden differs => ?_⟩
  by_contra unreported
  have same := accounts.entries stat unreported ignoreHidden
  rw [World.countedEntries_view, World.countedEntries_view] at same
  exact differs (by rw [Actor.calculate, Actor.calculate, same])

/-- A bonus that grows with rage, and one that is suspended by a large attack. -/
def rageBonuses : List Operation :=
  [.addModifier { Modifier.new .attack .add 0 with customValueId := some "rage" } none,
    .addModifier { Modifier.new .speed .add 1 with
      condition := some ((Condition.statValue .attack .greaterEquals 3).withOutcome .deactivate) }
      none]

/-- Rage changes the attack, and the notification that follows suspends the bonus on speed. -/
theorem World.calculate_reported_rage : ∃ world world' response,
    (Engine.perform 3 (.setCustomValue "rage" 3)).run world = some (response, world') ∧
      world'.actor.get .attack ≠ world.actor.get .attack ∧
      world'.actor.get .speed ≠ world.actor.get .speed ∧
      ∃ events, world'.reports = world.reports ++ events ∧
        .statChanged .attack ∈ events ∧ .statChanged .speed ∈ events := by
  have run : ((Engine.performAll 3 rageBonuses).run (World.new .empty .initial)).any (fun first =>
        ((Engine.perform 3 (.setCustomValue "rage" 3)).run first.2).any fun second =>
          second.2.actor.get .attack ≠ first.2.actor.get .attack ∧
            second.2.actor.get .speed ≠ first.2.actor.get .speed) = true := by
    decide +kernel
  obtain ⟨⟨_, world⟩, -, continues⟩ := (Option.any_eq_true _ _).1 run
  obtain ⟨⟨response, world'⟩, returned, differ⟩ := (Option.any_eq_true _ _).1 continues
  obtain ⟨attack, speed⟩ := of_decide_eq_true differ
  obtain ⟨events, reported, -, changes⟩ := calculate_reported returned
  exact ⟨world, world', response, returned, attack, speed, events, reported,
    changes .attack false attack, changes .speed false speed⟩

end Roleplay
