import Roleplay.Proofs.Session.Lifecycle
import Roleplay.Proofs.Stats.Visits

/-! # Refusals

An operation on an actor that finds nothing to do, and a command that a session does not accept, say
so in what they return.  Some of them have done work by then: a modifier has been evaluated, all
lists of modifiers have been rebuilt.  None of that is left.

* `World.IsAsBefore` says that two worlds differ in the pools and the number of walks at most;
* `Engine.LeavesAsBefore` says that a computation with certain results leaves the world as before,
  and `perform_leavesAsBefore` that the refused operations do;
* `Session.after_of_refuses` says that a session which refuses a command stays the same;
* `refusals_change_nothing` says both.
-/

namespace Roleplay

theorem StatTable.set_of_get? {α : Type} {table : StatTable α} {stat : Stat} {entry : α}
    (found : table.get? stat = some entry) : table.set stat entry = table := by
  have same := StatTable.put_self table stat
  rwa [found] at same

/-! ## Operations on an actor -/

/-- Whether a response of an actor's operation is a refusal: nothing was added, removed or
refreshed.  An effect that is applied already is not added again. -/
def Operation.IsRefused (actor : Actor) : Operation → Response → Prop
  | .addBase _ _, response | .addModifier _ _, response | .removeModifier _ _ _ _, response
  | .refreshEffect _, response | .removeEffect _, response => response = .truth false
  | .removeSource _, response => response = .count 0
  | .addEffect id, response =>
    actor.effects.contains id ∨ ∃ error, response = .outcome (.error error)
  | _, _ => False

/-- The pools may have been used, and walks over the table of modifiers made; all else is the same,
down to the events, the hook calls and the flags of the notification. -/
def World.IsAsBefore (world world' : World) : Prop :=
  world' = { world with pools := world'.pools, walks := world'.walks }

theorem World.IsAsBefore.trans {world between world' : World} (first : world.IsAsBefore between)
    (second : between.IsAsBefore world') : world.IsAsBefore world' := by
  rw [IsAsBefore] at first second ⊢
  rw [second, first]

namespace Engine

variable {α β : Type} {perform : Performer} {world : World}

/-- Whenever the result is a refusal, the world is as before. -/
def LeavesAsBefore (engine : Engine α) (refusal : World → α → Prop) : Prop :=
  ∀ world result world', engine.run world = some (result, world') → refusal world result →
    world.IsAsBefore world'

theorem LeavesAsBefore.map {engine : Engine α} {refusal : World → α → Prop}
    {refused : World → β → Prop} (leaves : LeavesAsBefore engine refusal) {answer : α → β}
    (told : ∀ world result, refused world (answer result) → refusal world result) :
    LeavesAsBefore (do let result ← engine; pure (answer result)) refused := by
  intro world result world' returned isRefused
  obtain ⟨value, between, ran, rest⟩ := run_bind_eq_some.1 returned
  obtain ⟨rfl, rfl⟩ := Prod.mk.inj (Option.some.inj rest)
  exact leaves world value between ran (told world value isRefused)

/-- If the computation returns at all, then with this answer. -/
def Answers (engine : Engine α) (answer : α) : Prop :=
  ∀ world result world', engine.run world = some (result, world') → result = answer

theorem answers_pure {answer : α} : Answers (pure answer) answer :=
  fun _ _ _ returned => (Prod.mk.inj (Option.some.inj returned)).1.symm

theorem answers_bind {engine : Engine β} {next : β → Engine α} {answer : α}
    (last : ∀ value, Answers (next value) answer) : Answers (engine >>= next) answer := by
  intro world result world' returned
  obtain ⟨value, between, -, rest⟩ := run_bind_eq_some.1 returned
  exact last value between result world' rest

/-! ## Modifiers -/

theorem addModifier_leavesAsBefore {modifier : Modifier} {source : Option String} :
    LeavesAsBefore (addModifier perform modifier source) fun _ added => added = false := by
  intro world added world' returned refused
  obtain ⟨_, offered, offers, returned⟩ := run_bind_eq_some.1 returned
  obtain ⟨-, rfl⟩ := Prod.mk.inj (Option.some.inj offers)
  rw [run_actor_bind] at returned
  dsimp only at returned
  split at returned
  · obtain ⟨-, rfl⟩ := Prod.mk.inj (Option.some.inj returned)
    rfl
  · have registered := answers_bind (fun _ => answers_bind fun _ => answers_pure) _ _ _ returned
    exact absurd (refused.symm.trans registered) (by decide)

theorem removeModifier_leavesAsBefore {stat : Stat} {op : ModifierOp} {value : Float32}
    {source : Option String} :
    LeavesAsBefore (removeModifier perform stat op value source) fun _ removed =>
      removed = false := by
  intro world removed world' returned refused
  rw [removeModifier, run_actor_bind] at returned
  dsimp only at returned
  split at returned
  · obtain ⟨-, rfl⟩ := Prod.mk.inj (Option.some.inj returned)
    rfl
  · have unregistered := answers_bind (fun _ => answers_bind fun _ => answers_pure) _ _ _ returned
    exact absurd (refused.symm.trans unregistered) (by decide)

/-- What follows a change of the world begins in the changed world. -/
theorem run_modify_bind {change : World → World} {next : Unit → Engine α} :
    ((modify change : Engine Unit) >>= next).run world = (next ()).run (change world) := rfl

theorem run_modifyGet_bind {change : World → β × World} {next : β → Engine α} :
    ((modifyGet change : Engine β) >>= next).run world =
      (next (change world).1).run (change world).2 := rfl

/-- The lists are taken apart one by one, and every one that holds nothing of the source is put
together as it was. -/
theorem detachSource_nothing {source : String} {stats changed : List Stat} {world' : World}
    (returned : (detachSource source stats).run world = some ((0, changed), world')) :
    changed = [] ∧ world.IsAsBefore world' := by
  induction stats generalizing world changed with
  | nil =>
    obtain ⟨same, rfl⟩ := Prod.mk.inj (Option.some.inj returned)
    exact ⟨(Prod.mk.inj same).2.symm, rfl⟩
  | cons stat stats inductionHypothesis =>
    rw [detachSource, run_actor_bind] at returned
    split at returned
    · exact inductionHypothesis returned
    · rename_i list found
      simp only [takeList, releaseModifiers, setModifiers, modifyActor, releaseList,
        run_modify_bind, run_modifyGet_bind] at returned
      obtain ⟨⟨count, others⟩, between, detaches, rest⟩ := run_bind_eq_some.1 returned
      obtain ⟨total, rfl⟩ := Prod.mk.inj (Option.some.inj rest)
      obtain ⟨counted, rfl⟩ := Prod.mk.inj total
      -- nothing on the whole means nothing from this list and nothing from the others
      obtain ⟨noneHere, rfl⟩ : (list.filter (Modifier.isFrom source)).length = 0 ∧ count = 0 :=
        Nat.add_eq_zero_iff.1 counted
      have nothing : ofSource source list = [] := List.eq_nil_of_length_eq_zero noneHere
      have same : world.actor.modifiers.set stat
          (list.filter fun modifier => !modifier.isFrom source) = world.actor.modifiers := by
        rw [← withoutSource, withoutSource_eq_self nothing]
        exact StatTable.set_of_get? found
      rw [same] at detaches
      obtain ⟨rfl, later⟩ := inductionHypothesis detaches
      have rebuilt : world.IsAsBefore { world with
          pools := { world.pools with
            modifiers := world.pools.modifiers.releaseAll (ofSource source list)
            lists := world.pools.lists.take.2.release [] } } := rfl
      exact ⟨by rw [← ofSource, nothing]; rfl, rebuilt.trans later⟩

theorem removeSource_leavesAsBefore {source : String} :
    LeavesAsBefore (removeSource perform source) fun _ count => count = 0 := by
  intro world count world' returned refused
  obtain ⟨withdrawn, between, withdraws, rest⟩ := run_bind_eq_some.1 returned
  obtain ⟨order, first, walks, detaching⟩ := run_bind_eq_some.1 withdraws
  obtain ⟨⟨detached, changed⟩, second, detaches, settling⟩ := run_bind_eq_some.1 detaching
  obtain ⟨_, third, settles, told⟩ := run_bind_eq_some.1 settling
  obtain ⟨rfl, rfl⟩ := Prod.mk.inj (Option.some.inj walks)
  obtain ⟨rfl, rfl⟩ := Prod.mk.inj (Option.some.inj told)
  dsimp only at rest
  split at rest
  · have counted : count = detached := (answers_bind fun _ => answers_pure) _ _ _ rest
    omega
  · obtain ⟨rfl, rfl⟩ := Prod.mk.inj (Option.some.inj rest)
    subst refused
    obtain ⟨rfl, lists⟩ := detachSource_nothing detaches
    -- no stat has changed, so none is pruned or reported
    obtain ⟨-, rfl⟩ := Prod.mk.inj (Option.some.inj settles)
    have walked : world.IsAsBefore { world with walks := world.walks + 1 } := rfl
    exact walked.trans lists

/-! ## Effects -/

theorem addEffect_leavesAsBefore {id : String} :
    LeavesAsBefore (addEffect perform id) fun world outcome =>
      world.actor.effects.contains id ∨ ∃ error, outcome = .error error := by
  intro world outcome world' returned refused
  rw [addEffect, run_actor_bind] at returned
  split at returned
  · obtain ⟨-, rfl⟩ := Prod.mk.inj (Option.some.inj returned)
    rfl
  · rename_i missing
    split at returned
    · obtain ⟨-, rfl⟩ := Prod.mk.inj (Option.some.inj returned)
      rfl
    · have added : outcome = .ok () := by
        refine (answers_bind fun _ => answers_bind fun _ => ?_) _ _ _ returned
        split
        · exact answers_bind fun _ => answers_pure
        · exact answers_pure
      obtain present | ⟨error, failed⟩ := refused
      · exact absurd present missing
      · exact nomatch added.symm.trans failed

theorem refreshEffect_leavesAsBefore {id : String} :
    LeavesAsBefore (refreshEffect perform id) fun _ refreshed => refreshed = false := by
  intro world refreshed world' returned refused
  rw [refreshEffect, run_actor_bind] at returned
  split at returned
  · obtain ⟨-, rfl⟩ := Prod.mk.inj (Option.some.inj returned)
    rfl
  · have found : refreshed = true := by
      refine (answers_bind fun _ => ?_) _ _ _ returned
      split
      · exact answers_bind fun _ => answers_pure
      · exact answers_pure
    exact nomatch refused.symm.trans found

theorem removeEffect_leavesAsBefore {id : String} :
    LeavesAsBefore (removeEffect perform id) fun _ removed => removed = false := by
  intro world removed world' returned refused
  rw [removeEffect, run_actor_bind] at returned
  split at returned
  · obtain ⟨-, rfl⟩ := Prod.mk.inj (Option.some.inj returned)
    rfl
  · have found : removed = true := by
      refine (answers_bind fun _ => ?_) _ _ _ returned
      split
      · exact answers_bind fun _ => answers_bind fun _ => answers_pure
      · exact answers_bind fun _ => answers_pure
    exact nomatch refused.symm.trans found

/-! ## All operations -/

theorem act_leavesAsBefore (fuel : Nat) (operation : Operation) :
    LeavesAsBefore (act perform fuel operation) fun world response =>
      operation.IsRefused world.actor response := by
  cases operation with
  | addBase stat value =>
    intro world response world' returned refused
    obtain ⟨taken, between, takes, adding⟩ := run_bind_eq_some.1 returned
    obtain ⟨-, rfl⟩ := Prod.mk.inj (Option.some.inj takes)
    have fetched : world.IsAsBefore { world with
        pools := { world.pools with modifiers := world.pools.modifiers.take.2 } } := rfl
    have added : LeavesAsBefore (do
        let added ← addModifier perform (Modifier.new stat .baseAdd value) (some "base")
        pure (Response.truth added)) fun _ response => response = .truth false :=
      addModifier_leavesAsBefore.map fun _ _ => Response.truth.inj
    exact fetched.trans (added _ _ _ adding refused)
  | addModifier modifier source =>
    exact addModifier_leavesAsBefore.map fun _ _ => Response.truth.inj
  | removeModifier stat op value source =>
    exact removeModifier_leavesAsBefore.map fun _ _ => Response.truth.inj
  | removeSource source => exact removeSource_leavesAsBefore.map fun _ _ => Response.count.inj
  | refreshEffect id => exact refreshEffect_leavesAsBefore.map fun _ _ => Response.truth.inj
  | removeEffect id => exact removeEffect_leavesAsBefore.map fun _ _ => Response.truth.inj
  | addEffect id =>
    refine addEffect_leavesAsBefore.map fun _ outcome => Or.imp_right ?_
    exact fun ⟨error, failed⟩ => ⟨error, Response.outcome.inj failed⟩
  | _ => exact fun _ _ _ _ refused => refused.elim

theorem perform_leavesAsBefore (fuel : Nat) (operation : Operation) :
    LeavesAsBefore (Engine.perform fuel operation) fun world response =>
      operation.IsRefused world.actor response := by
  cases fuel with
  | zero => exact fun _ _ _ returned => nomatch returned
  | succ fuel => exact act_leavesAsBefore fuel operation

end Engine

/-! ## Commands of a session -/

namespace Session

variable {Host : Type} {production : Production Host} {session : Session Host}

/-- Whether a session does not accept a command: a start or a restore that fails, or a step of a
session that is not running. -/
def Refuses (production : Production Host) (session : Session Host) : Command → Prop
  | .start => ∃ error, ((start production).run.run session).1 = .error error
  | .startSection name => ∃ error, ((startSection production name).run.run session).1 = .error error
  | .restore snapshot => ∃ error, ((restore production snapshot).run.run session).1 = .error error
  | .step => session.phase ≠ .running
  | _ => False

theorem startFrom_refused {jump : Jump} {error : DialogError}
    (fails : ((startFrom production jump).run.run session).1 = .error error) :
    ((startFrom production jump).run.run session).2 = session := by
  obtain ⟨_, ran⟩ | ⟨-, ran⟩ := startFrom_cases production session jump
  · rw [ran]
  · rw [ran] at fails
    nomatch fails

theorem after_of_refuses {command : Command} (refuses : session.Refuses production command) :
    session.after production command = session := by
  cases command with
  | start =>
    obtain ⟨error, fails⟩ := refuses
    exact startFrom_refused fails
  | startSection name =>
    obtain ⟨error, fails⟩ := refuses
    rw [startSection] at fails
    rw [after, startSection]
    split at fails
    · exact startFrom_refused fails
    · rfl
  | restore snapshot =>
    obtain ⟨error, fails⟩ := refuses
    rw [after]
    obtain ⟨_, ran⟩ | ⟨restored, ran, -⟩ := restore_cases production session snapshot
    · rw [ran]
    · rw [ran] at fails
      cases fails
  | step =>
    rw [after, run_step]
    cases phase : session.phase with
    | idle | closed => rfl
    | running => exact absurd phase refuses
  | proceed | play | close => exact refuses.elim

end Session

/-! ## Both -/

/-- An operation on an actor that is refused leaves the world as it was, but for the pools, in
whatever world it is performed and also within a hook.  A session that refuses a command stays
exactly the same, its history included, so that the presenter was not called. -/
theorem refusals_change_nothing {Host : Type} :
    (∀ (fuel : Nat) (operation : Operation) (world world' : World) (response : Response),
      (Engine.perform fuel operation).run world = some (response, world') →
      operation.IsRefused world.actor response → world.IsAsBefore world') ∧
    ∀ (production : Production Host) (session : Session Host) (command : Session.Command),
      session.Refuses production command → session.after production command = session :=
  ⟨fun fuel operation world world' response returned =>
    Engine.perform_leavesAsBefore fuel operation world response world' returned,
    fun _ _ _ => Session.after_of_refuses⟩

/-- The boots stay on when the gloves are to be taken off, although the lists have been walked; and
there is no encore. -/
theorem refusals_change_nothing_gloves :
    (∃ world world' : World,
      (Engine.perform 2 (.removeSource "gloves")).run world = some (.count 0, world') ∧
      (world.actor.modifiersOf .speed).length = 1 ∧ world'.walks = world.walks + 1 ∧
      world.IsAsBefore world') ∧
    ∃ session : Session Unit, session.Refuses Session.stagefright (.startSection "encore") ∧
      session.after Session.stagefright (.startSection "encore") = session := by
  constructor
  · have run : ((Engine.perform 2 (.addModifier (.new .speed .add 5) (some "boots"))).run
        (World.new (.ofList []) .initial)).any (fun added =>
          ((Engine.perform 2 (.removeSource "gloves")).run added.2).any fun removed =>
            (match removed.1 with | .count count => count = 0 | _ => false) &&
              (added.2.actor.modifiersOf .speed).length = 1 &&
                removed.2.walks = added.2.walks + 1) = true := by
      decide +kernel
    obtain ⟨added, -, removal⟩ := (Option.any_eq_true _ _).1 run
    obtain ⟨⟨response, world'⟩, removed, facts⟩ := (Option.any_eq_true _ _).1 removal
    obtain ⟨⟨refused, listed⟩, walked⟩ := by simpa only [Bool.and_eq_true] using facts
    obtain ⟨count, rfl⟩ : ∃ count, response = .count count := by
      cases response <;> first | exact ⟨_, rfl⟩ | exact nomatch refused
    obtain rfl : count = 0 := of_decide_eq_true refused
    refine ⟨added.2, world', removed, of_decide_eq_true listed, of_decide_eq_true walked, ?_⟩
    exact (@refusals_change_nothing Unit).1 _ _ _ _ _ removed rfl
  · have refuses : (Session.new ⟨⟨.empty, [], ()⟩, ⟨.empty, .empty⟩⟩ : Session Unit).Refuses
        Session.stagefright (.startSection "encore") := ⟨_, rfl⟩
    exact ⟨_, refuses, refusals_change_nothing.2 _ _ _ refuses⟩

end Roleplay
