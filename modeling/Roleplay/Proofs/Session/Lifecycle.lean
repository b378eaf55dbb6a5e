import Roleplay.Proofs.Session.History
import Roleplay.Proofs.Session.Step

/-! # The life of a session

Whatever commands a session is given, and whatever the presenter answers, its phase, its current
statement and its calls of the presenter agree.

* `Session.IsLawful.step` and its kin: every command keeps a session lawful;
* `Session.Reachable` are the sessions that a new one becomes by commands;
* `Session.Reachable.lifecycle` is the statement for all sequences of commands.
-/

namespace Roleplay

variable {Host : Type}

namespace Session

variable {production : Production Host} {session : Session Host}

/-! ## Lawful sessions -/

namespace IsLawful

theorem of_shows {session' : Session Host} (lawful : session.IsLawful)
    (running : session.phase = .running) (shows : session.Shows session') :
    session'.IsLawful := by
  obtain ⟨calls, noClose, history⟩ := shows.history
  have phase : session'.phase = .running := shows.phase.trans running
  have current : session'.current.isSome = true := by
    rw [shows.current]
    exact lawful.running_iff.1 running
  rw [running] at history
  exact lawful.shown running noClose phase current history

theorem of_closes {session' : Session Host} (lawful : session.IsLawful)
    (unclosed : session.phase ≠ .closed) (closes : session.Closes session') :
    session'.IsLawful :=
  lawful.closed unclosed closes.phase closes.current closes.history

theorem goes_on (lawful : session.IsLawful) (running : session.phase = .running) {next : Jump} :
    IsLawful { session with current := some next } :=
  ⟨lawful.phase, by simp [running], lawful.fits⟩

theorem startFrom (lawful : session.IsLawful) {jump : Jump} :
    IsLawful ((Session.startFrom production jump).run.run session).2 := by
  cases startFrom_cases production session jump with
  | inl failed =>
    obtain ⟨error, ran⟩ := failed
    rw [ran]
    exact lawful
  | inr begun =>
    obtain ⟨stopped, ran⟩ := begun
    have fits : SessionEvent.Fits session.history [] .started :=
      fun running => stopped (lawful.phase.trans running)
    rw [ran]
    exact lawful.opened fits rfl (by simp) rfl

theorem startSection (lawful : session.IsLawful) {name : String} :
    IsLawful ((Session.startSection production name).run.run session).2 := by
  rw [Session.startSection]
  split
  · exact lawful.startFrom
  · exact lawful

theorem restore (lawful : session.IsLawful) {snapshot : SessionSnapshot} :
    IsLawful ((Session.restore production snapshot).run.run session).2 := by
  rcases restore_cases production session snapshot with
    ⟨error, ran⟩ | ⟨restored, ran, phase, history⟩
  · rw [ran]
    exact lawful
  · have fits : SessionEvent.Fits session.history [] (.restored restored.phase) := by
      rw [SessionEvent.Fits, phase]
      split <;> simp
    have current : restored.phase = .running ↔ restored.current.isSome = true := by
      rw [phase]
      split <;> simp_all
    rw [ran]
    exact lawful.opened fits rfl current history

theorem close (lawful : session.IsLawful) :
    IsLawful ((Session.close production).run.run session).2 := by
  by_cases closed : session.phase = .closed
  · rw [close_closed closed]
    exact lawful
  · exact lawful.of_closes closed (close_closes closed)

theorem step (lawful : session.IsLawful) :
    IsLawful ((Session.step production).run.run session).2 := by
  by_cases running : session.phase = .running
  · cases step_steps production running with
    | goesOn next between shows ran =>
      rw [ran]
      exact (lawful.of_shows running shows).goes_on (shows.phase.trans running)
    | closes outcome closed closes ended ran =>
      rw [ran]
      exact lawful.of_closes (by simp [running]) closes
    | fails error between shows ran =>
      rw [ran]
      exact lawful.of_shows running shows
  · obtain ⟨error, stopped⟩ := step_stopped production running
    rw [stopped]
    exact lawful

theorem proceed (lawful : session.IsLawful) :
    IsLawful ((Session.proceed production).run.run session).2 := by
  by_cases running : session.phase = .running
  · cases proceed_proceeds production running with
    | goesOn next between shows ran =>
      rw [ran]
      exact (lawful.of_shows running shows).goes_on (shows.phase.trans running)
    | closes between closed shows closes ended ran =>
      have unclosed : between.phase ≠ .closed := by simp [shows.phase, running]
      rw [ran]
      exact (lawful.of_shows running shows).of_closes unclosed closes
  · rw [proceed_stopped running]
    exact lawful.step

end IsLawful

/-! ## Commands -/

/-- The session after so many rounds of `play`, or earlier if the dialog ends before. -/
def playedOn (production : Production Host) : Nat → Session Host → Session Host
  | 0, session => session
  | rounds + 1, session =>
    match (proceed production).run.run session with
    | (.ok true, session) => playedOn production rounds session
    | (_, session) => session

/-- One round, read off the loop. -/
theorem run_playOn_succ {fuel : Nat} : (playOn production (fuel + 1)).run session =
    match (proceed production).run.run session with
    | (.ok true, session) => (playOn production fuel).run session
    | (.ok false, session) => some (.ok (), session)
    | (.error error, session) => some (.error error, session) :=
  rfl

theorem playedOn_of_playOn {fuel : Nat} {session' : Session Host}
    {outcome : Except DialogError Unit}
    (played : (playOn production fuel).run session = some (outcome, session')) :
    playedOn production fuel session = session' := by
  induction fuel generalizing session with
  | zero => exact absurd played (by simp [playOn, StateT.run])
  | succ fuel inductionHypothesis =>
    rw [run_playOn_succ] at played
    rw [playedOn]
    split at played
    · rename_i after ran
      rw [ran]
      exact inductionHypothesis played
    · rename_i after ran
      rw [ran]
      exact congrArg Prod.snd (Option.some.inj played)
    · rename_i error after ran
      rw [ran]
      exact congrArg Prod.snd (Option.some.inj played)

inductive Command where
  | start
  | startSection (name : String)
  | step
  | proceed
  /-- Playing to the end, or for so many rounds if that is not the end. -/
  | play (rounds : Nat)
  | close
  | restore (snapshot : SessionSnapshot)

def after (production : Production Host) (session : Session Host) : Command → Session Host
  | .start => ((start production).run.run session).2
  | .startSection name => ((startSection production name).run.run session).2
  | .step => ((step production).run.run session).2
  | .proceed => ((proceed production).run.run session).2
  | .play rounds =>
    if session.phase = .idle then
      match (start production).run.run session with
      | (.ok _, session) => playedOn production rounds session
      | (.error _, session) => session
    else playedOn production rounds session
  | .close => ((close production).run.run session).2
  | .restore snapshot => ((restore production snapshot).run.run session).2

theorem after_play {rounds : Nat} {session' : Session Host} {outcome : Except DialogError Unit}
    (played : (play production rounds).run session = some (outcome, session')) :
    session.after production (.play rounds) = session' := by
  change (if session.phase = .idle then
      match (start production).run.run session with
      | (.ok _, session) => (playOn production rounds).run session
      | (.error error, session) => some (.error error, session)
    else (playOn production rounds).run session) = _ at played
  rw [after]
  split at played
  · rename_i idle
    rw [if_pos idle]
    split at played
    · exact playedOn_of_playOn played
    · exact congrArg Prod.snd (Option.some.inj played)
  · rename_i begun
    rw [if_neg begun]
    exact playedOn_of_playOn played

inductive Reachable (production : Production Host) (stage : Stage Host) : Session Host → Prop where
  | new : Reachable production stage (.new stage)
  | command {session : Session Host} (reached : Reachable production stage session)
      (command : Command) : Reachable production stage (session.after production command)

theorem IsLawful.playedOn (lawful : session.IsLawful) {rounds : Nat} :
    IsLawful (Session.playedOn production rounds session) := by
  induction rounds generalizing session with
  | zero => exact lawful
  | succ rounds inductionHypothesis =>
    have proceeds : IsLawful ((Session.proceed production).run.run session).2 := lawful.proceed
    rw [Session.playedOn]
    split
    · rename_i after ran
      rw [ran] at proceeds
      exact inductionHypothesis proceeds
    · rename_i outcome after _ ran
      rw [ran] at proceeds
      exact proceeds

theorem IsLawful.after (lawful : session.IsLawful) {command : Command} :
    IsLawful (session.after production command) := by
  cases command with
  | start => exact lawful.startFrom
  | startSection name => exact lawful.startSection
  | step => exact lawful.step
  | proceed => exact lawful.proceed
  | play rounds =>
    rw [Session.after]
    split
    · have starts : IsLawful ((Session.start production).run.run session).2 := lawful.startFrom
      split
      · rename_i started ran
        rw [ran] at starts
        exact starts.playedOn
      · rename_i error refused ran
        rw [ran] at starts
        exact starts
    · exact lawful.playedOn
  | close => exact lawful.close
  | restore snapshot => exact lawful.restore

theorem Reachable.isLawful {stage : Stage Host} (reachable : Reachable production stage session) :
    session.IsLawful := by
  induction reachable with
  | new => exact .new
  | command reached command inductionHypothesis => exact inductionHypothesis.after

/-- After any commands the session is lawful, and between two closings it was opened again.  A
running session whose `proceed` fails is closed, the presenter is told so once, and the error is
that of the step. -/
theorem Reachable.lifecycle {stage : Stage Host}
    (reachable : Reachable production stage session) :
    session.IsLawful ∧
    (∀ first phase between phase' last,
      session.history =
        first ++ .called phase .close :: (between ++ .called phase' .close :: last) →
      ∃ event ∈ between, event.IsOpening) ∧
    ∀ error failed, session.phase = .running →
      (proceed production).run.run session = (.error error, failed) →
      failed.phase = .closed ∧ failed.current = none ∧
      (∃ stepped, (step production).run.run session = (.error error, stepped)) ∧
      ∃ calls : List PresenterCall, .close ∉ calls ∧
        failed.history =
          session.history ++ calls.map (.called .running) ++ [.closed, .called .closed .close] := by
  refine ⟨reachable.isLawful, fun _ _ _ _ _ history => reachable.isLawful.reopened history,
    fun error failed running fails => ?_⟩
  -- a failure is no going on, so the session was closed
  cases proceed_proceeds production running with
  | goesOn next between shows ran =>
    exact absurd (Prod.mk.inj (ran.symm.trans fails)).1 (by simp)
  | closes between closed shows closes ended ran =>
    obtain ⟨same, rfl⟩ := Prod.mk.inj (ran.symm.trans fails)
    obtain ⟨calls, noClose, history⟩ := shows.history
    have steps : (step production).run.run session =
        (.error error, ((step production).run.run session).2) := Prod.ext same rfl
    refine ⟨closes.phase, closes.current, ⟨_, steps⟩, calls, noClose, ?_⟩
    rw [closes.history, history, running]

/-- A presenter that fails to show a line and to close. -/
def stagefright : Production Unit where
  script := { Script.empty with
    sections := [⟨none, ⟨.line, 0⟩⟩], lines := [⟨[], .finish, [], ""⟩] }
  config := .default
  presenter :=
    { shownText := fun text _ => text
      showLine := fun _ => pure (.error (.presenter "no light"))
      offerChoices := fun _ => pure (.ok 0)
      close := pure (.error (.presenter "no curtain")) }

/-- The curtain falls once although it fails to. -/
theorem Reachable.lifecycle_stagefright :
    ∃ session failed : Session Unit,
      Reachable stagefright (.new .empty ⟨.empty, .empty⟩ .empty ()) session ∧
      session.phase = .running ∧
      (proceed stagefright).run.run session = (.error (.presenter "no light"), failed) ∧
      failed.phase = .closed ∧
      ∃ calls : List PresenterCall, .close ∉ calls ∧
        failed.history =
          session.history ++ calls.map (.called .running) ++ [.closed, .called .closed .close] := by
  obtain ⟨session, reachable, running, outcome⟩ : ∃ session : Session Unit,
      Reachable stagefright (.new .empty ⟨.empty, .empty⟩ .empty ()) session ∧
      session.phase = .running ∧
      ((proceed stagefright).run.run session).1 = .error (.presenter "no light") :=
    ⟨_, .command (.command .new .start) .proceed, rfl, rfl⟩
  have fails : (proceed stagefright).run.run session =
      (.error (.presenter "no light"), ((proceed stagefright).run.run session).2) :=
    Prod.ext outcome rfl
  obtain ⟨closed, _, _, shown⟩ := reachable.lifecycle.2.2 _ _ running fails
  exact ⟨session, _, reachable, running, fails, closed, shown⟩

end Session

end Roleplay
