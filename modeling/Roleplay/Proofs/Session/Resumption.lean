import Roleplay.Proofs.Session.Lifecycle

/-! # Going on from a snapshot

What a running session saves is all that its further steps depend on, but for the quiet steps it has
counted, and those decide only whether the limit is reached.

* `Session.Agrees` relates a session and one that goes on from its snapshot;
* `Playing.Mirrors` holds of what both do alike, `Playing.Repeats` of what the second one does alike
  as long as the first one does not reach the limit;
* `Session.advances` takes any number of steps, of either kind;
* `Session.Reachable.resumed` is the statement for a session that is saved and goes on elsewhere.
-/

namespace Roleplay

variable {Host α β : Type}

namespace Session

/-- The sessions differ in what happened before a snapshot was taken, and in that the second one may
have counted fewer quiet steps. -/
structure Agrees (past past' : List SessionEvent) (session session' : Session Host) : Prop where
  stage : session'.stage = session.stage
  current : session'.current = session.current
  phase : session'.phase = session.phase
  quietSteps : session'.quietSteps ≤ session.quietSteps
  history : ∃ events, session.history = past ++ events ∧ session'.history = past' ++ events

/-- The outcomes are the same, and the sessions still agree. -/
structure Match (past past' : List SessionEvent)
    (ran ran' : Except DialogError α × Session Host) : Prop where
  outcome : ran'.1 = ran.1
  agrees : Agrees past past' ran.2 ran'.2

/-- Whether an outcome is anything but that too many quiet steps were taken. -/
def InTime (outcome : Except DialogError α) : Prop := ∀ limit, outcome ≠ .error (.stepLimit limit)

variable {past past' : List SessionEvent} {session session' : Session Host}

theorem Agrees.recorded (agrees : Agrees past past' session session') (event : SessionEvent) :
    ∃ events, session.history ++ [event] = past ++ events ∧
      session'.history ++ [event] = past' ++ events := by
  obtain ⟨events, history, history'⟩ := agrees.history
  exact ⟨events ++ [event], by rw [history, List.append_assoc], by rw [history', List.append_assoc]⟩

end Session

/-! ## Computations that both sessions do alike -/

namespace Playing

open Session

def Mirrors (run : Playing Host α) : Prop :=
  ∀ past past' session session', Agrees past past' session session' →
    Match past past' (run.run.run session) (run.run.run session')

def Repeats (run : Playing Host α) : Prop :=
  ∀ past past' session session', Agrees past past' session session' →
    InTime (run.run.run session).1 → Match past past' (run.run.run session) (run.run.run session')

theorem Mirrors.repeats {run : Playing Host α} (mirrors : Mirrors run) : Repeats run :=
  fun _ _ _ _ agrees _ => mirrors _ _ _ _ agrees

theorem mirrors_pure {value : α} : Mirrors (pure value : Playing Host α) :=
  fun _ _ _ _ agrees => ⟨rfl, agrees⟩

theorem mirrors_throw {error : DialogError} : Mirrors (throw error : Playing Host α) :=
  fun _ _ _ _ agrees => ⟨rfl, agrees⟩

theorem Mirrors.bind {run : Playing Host α} {next : α → Playing Host β} (first : Mirrors run)
    (continues : ∀ value, Mirrors (next value)) : Mirrors (run >>= next) := by
  intro past past' session session' agrees
  have matched := first _ _ _ _ agrees
  rw [run_bind, run_bind]
  generalize run.run.run session = ran at matched
  generalize run.run.run session' = ran' at matched
  obtain ⟨result, after⟩ := ran
  obtain ⟨result', after'⟩ := ran'
  obtain ⟨rfl, between⟩ := matched
  cases result' with
  | ok value => exact continues value _ _ _ _ between
  | error error => exact ⟨rfl, between⟩

theorem Repeats.bind {run : Playing Host α} {next : α → Playing Host β} (first : Repeats run)
    (continues : ∀ value, Repeats (next value)) : Repeats (run >>= next) := by
  intro past past' session session' agrees
  have matched := first _ _ _ _ agrees
  rw [run_bind, run_bind]
  generalize run.run.run session = ran at matched
  generalize run.run.run session' = ran' at matched
  obtain ⟨result, after⟩ := ran
  obtain ⟨result', after'⟩ := ran'
  cases result with
  | ok value =>
    obtain ⟨rfl, between⟩ := matched (by simp [InTime])
    exact continues value _ _ _ _ between
  | error error =>
    -- the failure of the first part is that of the whole
    intro inTime
    obtain ⟨rfl, between⟩ := matched fun limit same => inTime limit (by simpa using same)
    exact ⟨rfl, between⟩

/-- What looks at a session may look at its stage only. -/
theorem Repeats.get_bind {next : Session Host → Playing Host β}
    (repeats : ∀ session, Repeats (next session))
    (looks : ∀ session session', session'.stage = session.stage → next session' = next session) :
    Repeats (get >>= next) := by
  intro past past' session session' agrees
  rw [run_bind, run_bind, run_get, run_get]
  dsimp only
  rw [looks session session' agrees.stage]
  exact repeats session _ _ _ _ agrees

theorem mirrors_directing {run : Directing Host α} : Mirrors (Session.directing run) := by
  intro past past' session session' agrees
  change Match past past'
    (.ok (run.run session.stage).1, { session with stage := (run.run session.stage).2 })
    (.ok (run.run session'.stage).1, { session' with stage := (run.run session'.stage).2 })
  rw [agrees.stage]
  exact ⟨rfl, rfl, agrees.current, agrees.phase, agrees.quietSteps, agrees.history⟩

end Playing

namespace Session

open Playing

variable {past past' : List SessionEvent} {production : Production Host}
  {session session' : Session Host}

theorem mirrors_presenting {call : PresenterCall} {run : Directing Host (Except DialogError α)} :
    Mirrors (presenting call run) := by
  intro past past' session session' agrees
  rw [run_presenting, run_presenting, agrees.stage, agrees.phase]
  exact ⟨rfl, rfl, agrees.current, rfl, agrees.quietSteps, agrees.recorded _⟩

theorem mirrors_resetQuietSteps : Mirrors (resetQuietSteps : Playing Host Unit) :=
  fun _ _ _ _ agrees => ⟨rfl, agrees.stage, agrees.current, agrees.phase, Nat.le_refl 0, agrees.history⟩

theorem run_countQuietStep {config : SessionConfig} :
    (countQuietStep config : Playing Host Unit).run.run session =
      (if session.quietSteps + 1 > config.maxQuietSteps then
          .error (.stepLimit config.maxQuietSteps)
        else .ok (),
        { session with quietSteps := session.quietSteps + 1 }) := by
  change ((if session.quietSteps + 1 > config.maxQuietSteps then throw _ else pure () :
    Playing Host Unit).run.run { session with quietSteps := session.quietSteps + 1 }) = _
  split <;> rfl

/-- Who has counted fewer steps does not reach the limit first. -/
theorem repeats_countQuietStep {config : SessionConfig} :
    Repeats (countQuietStep config : Playing Host Unit) := by
  intro past past' session session' agrees inTime
  have fewer := agrees.quietSteps
  rw [run_countQuietStep] at inTime ⊢
  rw [run_countQuietStep]
  by_cases reached : session.quietSteps + 1 > config.maxQuietSteps
  · exact absurd (if_pos reached) (inTime _)
  · have unreached : ¬session'.quietSteps + 1 > config.maxQuietSteps := by omega
    rw [if_neg reached, if_neg unreached]
    exact ⟨rfl, agrees.stage, agrees.current, agrees.phase, Nat.succ_le_succ fewer, agrees.history⟩

/-! ## Statements -/

theorem repeats_stepLine {jump : Jump} {statement : LineStatement} :
    Repeats (stepLine production jump statement) := by
  refine .get_bind (fun session => mirrors_directing.repeats.bind fun prepared => ?_)
    fun session session' same => by simp only [same]
  cases prepared with
  | none => exact mirrors_throw.repeats
  | some line =>
    exact (mirrors_presenting.bind fun _ => mirrors_resetQuietSteps.bind fun _ =>
      mirrors_pure).repeats

theorem mirrors_stepChoice {index : Nat} : Mirrors (stepChoice production index) := by
  refine mirrors_directing.bind fun choices => ?_
  split
  · exact mirrors_throw
  · refine mirrors_presenting.bind fun selected => mirrors_resetQuietSteps.bind fun _ => ?_
    split
    · split
      · exact mirrors_throw
      · exact mirrors_pure
    · exact mirrors_throw

theorem repeats_stepInstruction {statement : InstructionStatement} :
    Repeats (stepInstruction production statement) := by
  refine repeats_countQuietStep.bind fun _ => ?_
  split
  · exact mirrors_pure.repeats
  · exact (mirrors_directing.bind fun _ => mirrors_pure).repeats

theorem repeats_follow {jump : Jump} : Repeats (follow production jump) := by
  rw [follow]
  split
  · exact mirrors_pure.repeats
  · exact mirrors_pure.repeats
  · exact repeats_countQuietStep.bind fun _ => mirrors_pure.repeats
  · split
    · exact repeats_stepLine
    · exact mirrors_throw.repeats
  · split
    · exact repeats_stepInstruction
    · exact mirrors_throw.repeats
  · exact repeats_countQuietStep.bind fun _ => mirrors_directing.repeats
  · exact mirrors_stepChoice.repeats

/-! ## Steps -/

theorem mirrors_close : Mirrors (close production) := by
  intro past past' session session' agrees
  by_cases closed : session.phase = .closed
  · rw [close_closed closed, close_closed (agrees.phase.trans closed)]
    exact ⟨rfl, agrees⟩
  · rw [run_close closed, run_close (agrees.phase ▸ closed)]
    exact mirrors_presenting _ _ _ _
      ⟨agrees.stage, rfl, rfl, agrees.quietSteps, agrees.recorded .closed⟩

theorem repeats_execute {jump : Jump} : Repeats (execute production jump) := by
  have goesOn (next : Jump) : Mirrors (do
      modify fun session : Session Host => { session with current := some next }
      pure true : Playing Host Bool) :=
    fun _ _ _ _ agrees =>
      ⟨rfl, agrees.stage, rfl, agrees.phase, agrees.quietSteps, agrees.history⟩
  rw [execute]
  split
  · exact mirrors_throw.repeats
  · split
    · exact (mirrors_close.bind fun _ => mirrors_pure).repeats
    · exact repeats_follow.bind fun next => (goesOn next).repeats

theorem repeats_step : Repeats (step production) := by
  intro past past' session session' agrees inTime
  cases phase : session.phase with
  | idle =>
    rw [step_idle phase, step_idle (agrees.phase.trans phase)]
    exact ⟨rfl, agrees⟩
  | closed =>
    rw [step_closed phase, step_closed (agrees.phase.trans phase)]
    exact ⟨rfl, agrees⟩
  | running =>
    rw [step_running phase] at inTime ⊢
    rw [step_running (agrees.phase.trans phase), agrees.current]
    exact repeats_execute _ _ _ _ agrees inTime

theorem repeats_proceed : Repeats (proceed production) := by
  intro past past' session session' agrees
  by_cases running : session.phase = .running
  · have steps : Repeats (step production) := repeats_step
    have stepped := steps _ _ _ _ agrees
    rw [run_proceed running, run_proceed (agrees.phase.trans running)]
    generalize (step production).run.run session = ran at stepped
    generalize (step production).run.run session' = ran' at stepped
    obtain ⟨result, after⟩ := ran
    obtain ⟨result', after'⟩ := ran'
    cases result with
    | ok goesOn =>
      obtain ⟨rfl, between⟩ := stepped (by simp [InTime])
      exact fun _ => ⟨rfl, between⟩
    | error error =>
      -- what the presenter answers to the closing is dropped, so it may be anything
      intro inTime
      obtain ⟨rfl, between⟩ := stepped inTime
      exact ⟨rfl, (mirrors_close _ _ _ _ between).agrees⟩
  · rw [proceed_stopped running, proceed_stopped (agrees.phase ▸ running)]
    exact repeats_step _ _ _ _ agrees

/-! ## Runs -/

/-- The two ways of taking a step. -/
inductive Advance where
  | step
  | proceed

def advance (production : Production Host) : Advance → Playing Host Bool
  | .step => step production
  | .proceed => proceed production

theorem repeats_advance {choice : Advance} : Repeats (advance production choice) := by
  cases choice with
  | step => exact repeats_step
  | proceed => exact repeats_proceed

/-- The outcomes of steps taken one after the other, whatever their outcomes are, and the session
after them. -/
def advances (production : Production Host) (session : Session Host) :
    List Advance → List (Except DialogError Bool) × Session Host
  | [] => ([], session)
  | choice :: choices =>
    let (outcome, session) := (advance production choice).run.run session
    let (outcomes, session) := advances production session choices
    (outcome :: outcomes, session)

theorem Agrees.advances (agrees : Agrees past past' session session') {choices : List Advance}
    (inTime : ∀ outcome ∈ (session.advances production choices).1, InTime outcome) :
    (session'.advances production choices).1 = (session.advances production choices).1 ∧
      Agrees past past' (session.advances production choices).2
        (session'.advances production choices).2 := by
  induction choices generalizing session session' with
  | nil => exact ⟨rfl, agrees⟩
  | cons choice choices inductionHypothesis =>
    obtain ⟨outcome, between⟩ :=
      repeats_advance _ _ _ _ agrees (inTime _ (List.mem_cons_self ..))
    obtain ⟨outcomes, later⟩ :=
      inductionHypothesis between fun outcome member => inTime outcome (.tail _ member)
    exact ⟨List.cons_eq_cons.2 ⟨outcome, outcomes⟩, later⟩

/-- A running session whose statement exists can be saved, and a new session on a stage with the
same bridge and host goes on from the snapshot.  Whatever steps follow, it does and comes to the
same as the session that was saved, unless that one reaches the limit of quiet steps. -/
theorem Reachable.resumed {stage : Stage Host} (reachable : Reachable production stage session)
    (running : session.phase = .running)
    (permitted : ∀ jump ∈ session.current, production.script.permits jump = true)
    (fresh : Stage Host) (sameBridge : fresh.bridge = session.stage.bridge)
    (sameHost : fresh.host = session.stage.host) :
    ∃ resumed : Session Host,
      (restore production session.save).run.run (.new fresh) = (.ok (), resumed) ∧
      ∀ choices,
        (∀ outcome ∈ (session.advances production choices).1, InTime outcome) →
        (resumed.advances production choices).1 = (session.advances production choices).1 ∧
        (resumed.advances production choices).2.phase =
          (session.advances production choices).2.phase ∧
        (resumed.advances production choices).2.current =
          (session.advances production choices).2.current ∧
        (resumed.advances production choices).2.stage =
          (session.advances production choices).2.stage ∧
        ∃ events : List SessionEvent,
          (session.advances production choices).2.history = session.history ++ events ∧
          (resumed.advances production choices).2.history = resumed.history ++ events := by
  obtain ⟨jump, current⟩ := Option.isSome_iff_exists.1 (reachable.isLawful.running_iff.1 running)
  have allowed : session.save.current.all production.script.permits = true := by
    simpa [save, current] using permitted jump current
  let resumed : Session Host :=
    ⟨{ fresh with storage := session.stage.storage, speakers := session.stage.speakers },
      session.current, .running, 0, [.restored .running]⟩
  have restored :
      (restore production session.save).run.run (.new fresh) = (.ok (), resumed) := by
    rw [restore, if_pos allowed]
    simp only [save, current, Option.isSome_some, if_true, resumed]
    rfl
  have sameStage : resumed.stage = session.stage := by
    simp only [resumed, sameBridge, sameHost]
  have agrees : Agrees session.history resumed.history session resumed :=
    ⟨sameStage, rfl, running.symm, Nat.zero_le _, [], by simp, by simp⟩
  refine ⟨resumed, restored, fun choices inTime => ?_⟩
  obtain ⟨outcomes, after⟩ := agrees.advances inTime
  exact ⟨outcomes, after.phase, after.current, after.stage, after.history⟩

/-- Two lines behind a section, and a presenter that counts them. -/
def readAloud : Production Nat where
  script := { Script.empty with
    sections := [⟨none, ⟨.line, 0⟩⟩], lines := [⟨[], ⟨.line, 1⟩, [], "a"⟩, ⟨[], .finish, [], "b"⟩] }
  config := ⟨1⟩
  presenter :=
    { shownText := fun text _ => text
      showLine := fun _ => do
        modify fun stage => { stage with host := stage.host + 1 }
        pure (.ok ())
      offerChoices := fun _ => pure (.ok 0)
      close := pure (.ok ()) }

/-- The session has counted as many quiet steps as it may when it is saved. -/
theorem Reachable.resumed_readAloud :
    ∃ session resumed : Session Nat,
      Reachable readAloud (.new .empty ⟨.empty, .empty⟩ .empty 0) session ∧
      session.quietSteps = 1 ∧
      (restore readAloud session.save).run.run
        (.new { session.stage with storage := .empty, speakers := [.ofId "a"] }) =
          (.ok (), resumed) ∧
      (resumed.advances readAloud [.step, .proceed, .step, .proceed]).1 =
        [.ok true, .ok true, .ok false, .error .closed] ∧
      (resumed.advances readAloud [.step, .proceed, .step, .proceed]).2.stage.host = 2 := by
  obtain ⟨session, reachable, running, quietSteps, permitted, outcomes, lines⟩ :
      ∃ session : Session Nat,
        Reachable readAloud (.new .empty ⟨.empty, .empty⟩ .empty 0) session ∧
        session.phase = .running ∧ session.quietSteps = 1 ∧
        (∀ jump ∈ session.current, readAloud.script.permits jump = true) ∧
        (session.advances readAloud [.step, .proceed, .step, .proceed]).1 =
          [.ok true, .ok true, .ok false, .error .closed] ∧
        (session.advances readAloud [.step, .proceed, .step, .proceed]).2.stage.host = 2 :=
    ⟨_, .command (.command .new .start) .step, rfl, rfl, by decide, rfl, by decide +kernel⟩
  obtain ⟨resumed, restored, later⟩ := reachable.resumed running permitted
    { session.stage with storage := .empty, speakers := [.ofId "a"] } rfl rfl
  obtain ⟨same, _, _, stage, _⟩ :=
    later [.step, .proceed, .step, .proceed] (by simp [outcomes, InTime])
  exact ⟨session, resumed, reachable, quietSteps, restored, same.trans outcomes, stage ▸ lines⟩

end Session

end Roleplay
