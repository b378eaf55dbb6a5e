import Roleplay.Session.Basic

/-! # Steps of a session

What steps, starts and restores do to the phase and the history of a session, whatever the presenter
answers.

* `Session.Shows` and `Session.Closes` are the two ways in which a step changes them;
* `Playing.OnlyShows` holds of all that a step does before the session goes on or is closed;
* `Session.Steps` says what a step comes to, `Session.Proceeds` what becomes of its failures;
* `Session.startFrom_cases` and `Session.restore_cases` say the same of starts and restores.
-/

namespace Roleplay

variable {Host α β : Type}

namespace Session

/-- Lines and choices may be shown; nothing else happens. -/
structure Shows (session session' : Session Host) : Prop where
  phase : session'.phase = session.phase
  current : session'.current = session.current
  history : ∃ calls : List PresenterCall, .close ∉ calls ∧
    session'.history = session.history ++ calls.map (.called session.phase)

/-- The session is closed and the presenter is told so, once. -/
structure Closes (session session' : Session Host) : Prop where
  phase : session'.phase = .closed
  current : session'.current = none
  history : session'.history = session.history ++ [.closed, .called .closed .close]

theorem Shows.refl (session : Session Host) : session.Shows session :=
  ⟨rfl, rfl, [], by simp, by simp⟩

theorem Shows.trans {first second third : Session Host} (shows : first.Shows second)
    (continues : second.Shows third) : first.Shows third := by
  obtain ⟨calls, noClose, history⟩ := shows.history
  obtain ⟨later, noCloseLater, historyLater⟩ := continues.history
  refine ⟨continues.phase.trans shows.phase, continues.current.trans shows.current,
    calls ++ later, by simp [noClose, noCloseLater], ?_⟩
  rw [historyLater, history, shows.phase]
  simp

end Session

/-! ## Computations that only show -/

namespace Playing

theorem run_bind {run : Playing Host α} {next : α → Playing Host β} {session : Session Host} :
    (run >>= next).run.run session =
      match run.run.run session with
      | (.ok value, session) => (next value).run.run session
      | (.error error, session) => (.error error, session) := by
  simp only [ExceptT.run_bind, StateT.run_bind]
  rcases run.run.run session with ⟨outcome, after⟩
  cases outcome <;> rfl

@[simp] theorem run_get {session : Session Host} :
    (get : Playing Host (Session Host)).run.run session = (.ok session, session) := rfl

def OnlyShows (run : Playing Host α) : Prop :=
  ∀ session : Session Host, session.Shows (run.run.run session).2

theorem onlyShows_pure {value : α} : OnlyShows (pure value : Playing Host α) :=
  fun session => .refl session

theorem onlyShows_throw {error : DialogError} : OnlyShows (throw error : Playing Host α) :=
  fun session => .refl session

theorem onlyShows_get : OnlyShows (get : Playing Host (Session Host)) := fun session => .refl session

theorem OnlyShows.bind {run : Playing Host α} {next : α → Playing Host β} (first : OnlyShows run)
    (continues : ∀ value, OnlyShows (next value)) : OnlyShows (run >>= next) := by
  intro session
  have shows := first session
  rw [run_bind]
  -- a failure keeps what was shown before it
  generalize run.run.run session = ran at shows
  obtain ⟨outcome, between⟩ := ran
  cases outcome with
  | ok value => exact shows.trans (continues value between)
  | error error => exact shows

theorem onlyShows_directing {run : Directing Host α} : OnlyShows (Session.directing run) :=
  fun session => ⟨rfl, rfl, [], by simp, (List.append_nil session.history).symm⟩

end Playing

namespace Session

open Playing

variable {production : Production Host} {session : Session Host}

/-- What a call to the presenter comes to is passed on. -/
theorem run_outcome {outcome : Except DialogError α} :
    ((match outcome with
      | .ok result => pure result
      | .error error => throw error : Playing Host α).run.run session) = (outcome, session) := by
  cases outcome <;> rfl

theorem run_presenting {call : PresenterCall} {run : Directing Host (Except DialogError α)} :
    (presenting call run).run.run session =
      ((run.run session.stage).1,
        { session with
          stage := (run.run session.stage).2
          history := session.history ++ [.called session.phase call] }) :=
  run_outcome

theorem onlyShows_presenting {call : PresenterCall} (shown : call ≠ .close)
    {run : Directing Host (Except DialogError α)} : OnlyShows (presenting call run) := by
  intro session
  rw [run_presenting]
  exact ⟨rfl, rfl, [call], by simpa using shown.symm, rfl⟩

theorem onlyShows_countQuietStep {config : SessionConfig} :
    OnlyShows (countQuietStep config : Playing Host Unit) := by
  have counts : OnlyShows (modify fun session : Session Host =>
      { session with quietSteps := session.quietSteps + 1 }) :=
    fun session => ⟨rfl, rfl, [], by simp, (List.append_nil session.history).symm⟩
  refine counts.bind fun _ => onlyShows_get.bind fun session => ?_
  split
  · exact onlyShows_throw
  · exact onlyShows_pure

theorem onlyShows_resetQuietSteps : OnlyShows (resetQuietSteps : Playing Host Unit) :=
  fun session => ⟨rfl, rfl, [], by simp, (List.append_nil session.history).symm⟩

/-! ## Statements -/

theorem onlyShows_stepLine {jump : Jump} {statement : LineStatement} :
    OnlyShows (stepLine production jump statement) := by
  refine onlyShows_get.bind fun session => onlyShows_directing.bind fun prepared => ?_
  cases prepared with
  | none => exact onlyShows_throw
  | some line =>
    exact (onlyShows_presenting (by simp)).bind fun _ => onlyShows_resetQuietSteps.bind fun _ =>
      onlyShows_pure

theorem onlyShows_stepChoice {index : Nat} : OnlyShows (stepChoice production index) := by
  refine onlyShows_directing.bind fun choices => ?_
  split
  · exact onlyShows_throw
  -- the presenter may select what was not offered
  · refine (onlyShows_presenting (by simp)).bind fun selected =>
      onlyShows_resetQuietSteps.bind fun _ => ?_
    split
    · split
      · exact onlyShows_throw
      · exact onlyShows_pure
    · exact onlyShows_throw

theorem onlyShows_stepInstruction {statement : InstructionStatement} :
    OnlyShows (stepInstruction production statement) := by
  refine onlyShows_countQuietStep.bind fun _ => ?_
  split
  · exact onlyShows_pure
  · exact onlyShows_directing.bind fun _ => onlyShows_pure

theorem onlyShows_follow {jump : Jump} : OnlyShows (follow production jump) := by
  rw [follow]
  split
  · exact onlyShows_pure
  · exact onlyShows_pure
  · exact onlyShows_countQuietStep.bind fun _ => onlyShows_pure
  · split
    · exact onlyShows_stepLine
    · exact onlyShows_throw
  · split
    · exact onlyShows_stepInstruction
    · exact onlyShows_throw
  · exact onlyShows_countQuietStep.bind fun _ => onlyShows_directing
  · exact onlyShows_stepChoice

/-! ## Closing -/

theorem close_closed (closed : session.phase = .closed) :
    (close production).run.run session = (.ok (), session) := by
  change ((if session.phase = .closed then pure () else _ : Playing Host Unit).run.run session) = _
  rw [if_pos closed]
  rfl

/-- The phase changes before the presenter is asked. -/
theorem run_close (unclosed : session.phase ≠ .closed) :
    (close production).run.run session =
      (presenting .close production.presenter.close).run.run
        { session with
          phase := .closed, current := none, history := session.history ++ [.closed] } := by
  change ((if session.phase = .closed then pure () else _ : Playing Host Unit).run.run session) = _
  rw [if_neg unclosed]
  rfl

theorem close_closes (unclosed : session.phase ≠ .closed) :
    session.Closes ((close production).run.run session).2 := by
  -- it does not matter what the presenter answers
  rw [run_close unclosed, run_presenting]
  exact ⟨rfl, rfl, by simp⟩

/-! ## Steps -/

/-- What a step of a running session may come to. -/
inductive Steps (session : Session Host) (ran : Except DialogError Bool × Session Host) : Prop where
  | goesOn (next : Jump) (between : Session Host) (shows : session.Shows between)
      (same : ran = (.ok true, { between with current := some next }))
  | closes (outcome : Except DialogError Bool) (closed : Session Host)
      (closes : session.Closes closed) (ended : outcome ≠ .ok true) (same : ran = (outcome, closed))
  | fails (error : DialogError) (between : Session Host) (shows : session.Shows between)
      (same : ran = (.error error, between))

theorem execute_steps (unclosed : session.phase ≠ .closed) {jump : Jump} :
    session.Steps ((execute production jump).run.run session) := by
  rw [execute]
  split
  · exact .fails _ session (.refl session) rfl
  · split
    · have closes : session.Closes ((close production).run.run session).2 :=
        close_closes unclosed
      rw [run_bind]
      generalize (close production).run.run session = ran at closes
      obtain ⟨outcome, closed⟩ := ran
      -- the session is closed before the presenter is asked, so a failure comes too late
      cases outcome with
      | ok _ => exact .closes (.ok false) closed closes (by simp) rfl
      | error error => exact .closes (.error error) closed closes (by simp) rfl
    · have shows : session.Shows ((follow production jump).run.run session).2 :=
        onlyShows_follow session
      rw [run_bind]
      generalize (follow production jump).run.run session = ran at shows
      obtain ⟨outcome, between⟩ := ran
      cases outcome with
      | ok next => exact .goesOn next between shows rfl
      | error error => exact .fails error between shows rfl

theorem run_step : (step production).run.run session =
    match session.phase with
    | .idle => (.error .notStarted, session)
    | .closed => (.error .closed, session)
    | .running => (execute production (session.current.getD Jump.finish)).run.run session := by
  obtain ⟨stage, current, phase, quietSteps, history⟩ := session
  cases phase <;> rfl

theorem step_idle (idle : session.phase = .idle) :
    (step production).run.run session = (.error .notStarted, session) := by
  rw [run_step, idle]

theorem step_closed (closed : session.phase = .closed) :
    (step production).run.run session = (.error .closed, session) := by
  rw [run_step, closed]

/-- A session that is not running takes no step. -/
theorem step_stopped (production : Production Host) (stopped : session.phase ≠ .running) :
    ∃ error, (step production).run.run session = (.error error, session) := by
  cases phase : session.phase with
  | idle => exact ⟨_, step_idle phase⟩
  | closed => exact ⟨_, step_closed phase⟩
  | running => exact absurd phase stopped

theorem step_running (running : session.phase = .running) :
    (step production).run.run session =
      (execute production (session.current.getD Jump.finish)).run.run session := by
  rw [run_step, running]

theorem step_steps (production : Production Host) (running : session.phase = .running) :
    session.Steps ((step production).run.run session) := by
  rw [step_running running]
  exact execute_steps (by simp [running])

theorem run_tryCatch {run : Playing Host α} {handle : DialogError → Playing Host α} :
    (tryCatch run handle).run.run session =
      match run.run.run session with
      | (.ok value, after) => (.ok value, after)
      | (.error error, after) => (handle error).run.run after := by
  simp only [ExceptT.run_tryCatch, StateT.run_bind]
  generalize run.run.run session = ran
  obtain ⟨outcome, after⟩ := ran
  cases outcome <;> rfl

theorem run_proceed (running : session.phase = .running) :
    (proceed production).run.run session =
      match (step production).run.run session with
      | (.ok goesOn, after) => (.ok goesOn, after)
      | (.error error, after) => (.error error, ((close production).run.run after).2) := by
  change ((if session.phase = .running then _ else _ : Playing Host Bool).run.run session) = _
  rw [if_pos running, run_tryCatch]
  generalize (step production).run.run session = ran
  obtain ⟨outcome, after⟩ := ran
  -- the failure of closing after a failed step is dropped
  cases outcome with
  | ok goesOn => rfl
  | error error =>
    dsimp only
    rw [run_bind, run_tryCatch]
    generalize (close production).run.run after = ran
    obtain ⟨outcome, closed⟩ := ran
    cases outcome <;> rfl

theorem proceed_stopped (stopped : session.phase ≠ .running) :
    (proceed production).run.run session = (step production).run.run session := by
  change ((if session.phase = .running then _ else step production : Playing Host Bool).run.run
    session) = _
  rw [if_neg stopped]

/-- What `proceed` may make of a running session whose step gives an outcome: it goes on, or it is
closed and the outcome is the step's own. -/
inductive Proceeds (session : Session Host) (stepped : Except DialogError Bool)
    (ran : Except DialogError Bool × Session Host) : Prop where
  | goesOn (next : Jump) (between : Session Host) (shows : session.Shows between)
      (same : ran = (.ok true, { between with current := some next }))
  | closes (between closed : Session Host) (shows : session.Shows between)
      (closes : between.Closes closed) (ended : stepped ≠ .ok true) (same : ran = (stepped, closed))

theorem proceed_proceeds (production : Production Host) (running : session.phase = .running) :
    session.Proceeds ((step production).run.run session).1
      ((proceed production).run.run session) := by
  rw [run_proceed running]
  cases step_steps production running with
  | goesOn next between shows ran =>
    rw [ran]
    exact .goesOn next between shows rfl
  | closes outcome closed closes ended ran =>
    rw [ran]
    refine .closes session closed (.refl session) closes ended ?_
    cases outcome with
    | ok goesOn => rfl
    | error error =>
      -- the step closed the session before the presenter failed, so closing again does nothing
      simp only [close_closed closes.phase]
  | fails error between shows ran =>
    rw [ran]
    -- the step failed in a session that was still open, so closing it tells the presenter
    have unclosed : between.phase ≠ .closed := by simp [shows.phase, running]
    exact .closes between _ shows (close_closes unclosed) (by simp) rfl

/-! ## Starting and restoring -/

theorem startFrom_cases (production : Production Host) (session : Session Host) (jump : Jump) :
    (∃ error, (startFrom production jump).run.run session = (.error error, session)) ∨
    session.phase ≠ .running ∧ (startFrom production jump).run.run session =
      (.ok (), { session with
        current := some jump, phase := .running, quietSteps := 0
        history := session.history ++ [.started] }) := by
  rw [startFrom, run_bind, run_get]
  dsimp only
  split
  · exact Or.inl ⟨_, rfl⟩
  · rename_i stopped
    split
    · exact Or.inl ⟨_, rfl⟩
    · split
      · exact Or.inl ⟨_, rfl⟩
      · exact Or.inr ⟨stopped, rfl⟩

theorem restore_cases (production : Production Host) (session : Session Host)
    (snapshot : SessionSnapshot) :
    (∃ error, (restore production snapshot).run.run session = (.error error, session)) ∨
    ∃ restored : Session Host, (restore production snapshot).run.run session = (.ok (), restored) ∧
      restored.phase = (if restored.current.isSome then .running else .idle) ∧
      restored.history = session.history ++ [.restored restored.phase] := by
  rw [restore]
  split
  · exact Or.inr ⟨_, rfl, rfl, rfl⟩
  · exact Or.inl ⟨_, rfl⟩

end Session

end Roleplay
