import Roleplay.Proofs.Session.Resumption

/-! # Quiet steps

Sections, instructions and conditionals are executed without the presenter, and no more of them in a
row than the limit allows, whatever commands a session is given.

* `Deed` is what starts a row, ends it or makes it longer, `Session.deeds` are those of commands;
* `Session.Paced` is what one step does to the count of quiet steps;
* `Deed.InARow` follows the count along deeds, and `Session.inARow_deeds` is the invariant;
* `Session.quiet_steps_bounded` is the statement for all commands and for steps one after the other.
-/

namespace Roleplay

variable {Host α β : Type}

/-- Whether statements of a kind are executed without the presenter. -/
def JumpKind.isQuiet : JumpKind → Bool
  | .section | .instruction | .conditional => true
  | .undefined | .line | .choice | .finish => false

/-! ## Deeds -/

inductive Deed where
  /-- The session was started or restored. -/
  | opened
  /-- A statement was executed without the presenter. -/
  | executed (jump : Jump)
  /-- The presenter completed a call. -/
  | answered (call : PresenterCall)
deriving DecidableEq

namespace Deed

def IsExecuted : Deed → Prop
  | .executed _ => True
  | .opened | .answered _ => False

/-- At most `limit` statements are executed in a row where as many as a count were executed before,
and the row that is left at the end is no longer than another count. -/
inductive InARow (limit : Nat) : Nat → List Deed → Nat → Prop where
  | nothing {count last : Nat} (fewer : count ≤ last) : InARow limit count [] last
  | executed {count last : Nat} {deeds : List Deed} (jump : Jump) (room : count < limit)
      (later : InARow limit (count + 1) deeds last) :
      InARow limit count (.executed jump :: deeds) last
  | interrupted {count last : Nat} {deeds : List Deed} (deed : Deed) (other : ¬deed.IsExecuted)
      (later : InARow limit 0 deeds last) : InARow limit count (deed :: deeds) last

namespace InARow

variable {limit count last : Nat} {deeds : List Deed}

theorem of_fewer {fewer : Nat} (row : InARow limit count deeds last) (lessened : fewer ≤ count) :
    InARow limit fewer deeds last := by
  induction row generalizing fewer with
  | nothing most => exact .nothing (Nat.le_trans lessened most)
  | executed jump room later inductionHypothesis =>
    exact .executed jump (Nat.lt_of_le_of_lt lessened room)
      (inductionHypothesis (Nat.succ_le_succ lessened))
  | interrupted deed other later => exact .interrupted deed other later

theorem append {between : Nat} {later : List Deed} (row : InARow limit count deeds between)
    (continues : InARow limit between later last) : InARow limit count (deeds ++ later) last := by
  induction row with
  | nothing fewer => exact continues.of_fewer fewer
  | executed jump room row inductionHypothesis =>
    exact .executed jump room (inductionHypothesis continues)
  | interrupted deed other row inductionHypothesis =>
    exact .interrupted deed other (inductionHypothesis continues)

theorem drop {before : List Deed} (row : InARow limit count (before ++ deeds) last) :
    ∃ between, InARow limit between deeds last := by
  induction before generalizing count with
  | nil => exact ⟨count, row⟩
  | cons deed before inductionHypothesis =>
    cases row with
    | executed jump room later => exact inductionHypothesis later
    | interrupted deed other later => exact inductionHypothesis later

theorem length_le {between : List Deed} (row : InARow limit count (between ++ deeds) last)
    (executed : ∀ deed ∈ between, deed.IsExecuted) (room : count ≤ limit) :
    count + between.length ≤ limit := by
  induction between generalizing count with
  | nil => exact room
  | cons deed between inductionHypothesis =>
    have laterExecuted : ∀ deed ∈ between, deed.IsExecuted :=
      fun deed member => executed deed (.tail _ member)
    cases row with
    | executed jump room later =>
      have shorter := inductionHypothesis later laterExecuted room
      rw [List.length_cons]
      omega
    | interrupted deed other later => exact absurd (executed deed (.head _)) other

/-- Wherever a row of executed statements begins, it is not longer than the limit. -/
theorem bounded {before between later : List Deed}
    (row : InARow limit count (before ++ between ++ later) last)
    (executed : ∀ deed ∈ between, deed.IsExecuted) : between.length ≤ limit := by
  rw [List.append_assoc] at row
  obtain ⟨counted, row⟩ := row.drop
  have shorter := (row.of_fewer (Nat.zero_le counted)).length_le executed (Nat.zero_le limit)
  omega

end InARow

end Deed

namespace Session

variable {production : Production Host} {session : Session Host}

/-- A step at a line: the presenter completes a call if there is a line and showing it succeeds. -/
def lineDeeds (production : Production Host) (session : Session Host) (index : Nat) : List Deed :=
  match production.script.lines[index]? with
  | none => []
  | some statement =>
    let shown := production.presenter.shownText statement.text session.stage.host
    match (Directing.prepareLine production.script index shown).run session.stage with
    | (none, _) => []
    | (some line, stage) =>
      match ((production.presenter.showLine line).run stage).1 with
      | .ok _ => [.answered (.line line)]
      | .error _ => []

/-- A step at a choice set: whatever index the presenter gives, the call is complete then. -/
def choiceDeeds (production : Production Host) (session : Session Host) (index : Nat) : List Deed :=
  let (choices, stage) := (Directing.choices production.script index).run session.stage
  if choices.isEmpty then []
  else
    match ((production.presenter.offerChoices choices).run stage).1 with
    | .ok _ => [.answered (.choices choices)]
    | .error _ => []

/-- A step at a quiet statement: it is executed if the step succeeds. -/
def quietDeeds (production : Production Host) (session : Session Host) (jump : Jump) : List Deed :=
  match ((step production).run.run session).1 with
  | .ok _ => [.executed jump]
  | .error _ => []

/-- What a step at an existing statement does. -/
def jumpDeeds (production : Production Host) (session : Session Host) (jump : Jump) : List Deed :=
  match jump.kind with
  | .undefined | .finish => []
  | .section | .instruction | .conditional => quietDeeds production session jump
  | .line => lineDeeds production session jump.index
  | .choice => choiceDeeds production session jump.index

def stepDeeds (production : Production Host) (session : Session Host) : List Deed :=
  let jump := session.current.getD Jump.finish
  if session.phase = .running ∧ production.script.permits jump then
    jumpDeeds production session jump
  else []

def playedDeeds (production : Production Host) : Nat → Session Host → List Deed
  | 0, _ => []
  | rounds + 1, session =>
    stepDeeds production session ++
      match (proceed production).run.run session with
      | (.ok true, session) => playedDeeds production rounds session
      | _ => []

/-- A start or a restore opens the session unless it fails. -/
def openingDeeds (outcome : Except DialogError Unit) : List Deed :=
  match outcome with
  | .ok _ => [.opened]
  | .error _ => []

def commandDeeds (production : Production Host) (session : Session Host) : Command → List Deed
  | .start => openingDeeds ((start production).run.run session).1
  | .startSection name => openingDeeds ((startSection production name).run.run session).1
  | .step | .proceed => stepDeeds production session
  | .play rounds =>
    if session.phase = .idle then
      match (start production).run.run session with
      | (.ok _, session) => .opened :: playedDeeds production rounds session
      | (.error _, _) => []
    else playedDeeds production rounds session
  | .close => []
  | .restore snapshot => openingDeeds ((restore production snapshot).run.run session).1

/-- What a session does when it is given commands one after the other. -/
def deeds (production : Production Host) : Session Host → List Command → List Deed
  | _, [] => []
  | session, command :: commands =>
    commandDeeds production session command ++
      deeds production (session.after production command) commands

/-- The session after so many steps, whatever their outcomes are. -/
def stepped (production : Production Host) : Nat → Session Host → Session Host
  | 0, session => session
  | count + 1, session => stepped production count ((step production).run.run session).2

end Session

/-! ## Quiet statements -/

namespace Playing

/-- The computation never fails, and changes nothing but the stage. -/
def OnlyDirects (run : Playing Host α) : Prop :=
  ∀ session : Session Host, ∃ value stage,
    run.run.run session = (.ok value, { session with stage := stage })

theorem onlyDirects_pure {value : α} : OnlyDirects (pure value : Playing Host α) :=
  fun session => ⟨value, session.stage, rfl⟩

theorem onlyDirects_directing {run : Directing Host α} : OnlyDirects (Session.directing run) :=
  fun session => ⟨(run.run session.stage).1, (run.run session.stage).2, rfl⟩

theorem OnlyDirects.bind {run : Playing Host α} {next : α → Playing Host β}
    (first : OnlyDirects run) (continues : ∀ value, OnlyDirects (next value)) :
    OnlyDirects (run >>= next) := by
  intro session
  obtain ⟨value, stage, ran⟩ := first session
  obtain ⟨result, final, ranOn⟩ := continues value { session with stage := stage }
  exact ⟨result, final, by rw [run_bind, ran]; exact ranOn⟩

end Playing

namespace Session

open Playing

variable {production : Production Host} {session : Session Host} {jump : Jump}

/-- A quiet statement is counted before anything else happens, and then it cannot fail. -/
theorem follow_quiet (quiet : jump.kind.isQuiet = true)
    (permitted : production.script.permits jump = true) :
    ∃ rest : Playing Host Jump, OnlyDirects rest ∧
      follow production jump = (do countQuietStep production.config; rest) := by
  rw [follow]
  cases kind : jump.kind with
  | undefined | line | choice | finish => simp [kind, JumpKind.isQuiet] at quiet
  | «section» => exact ⟨_, onlyDirects_pure, rfl⟩
  | conditional => exact ⟨_, onlyDirects_directing, rfl⟩
  | instruction =>
    simp only [Script.permits, Script.tableSize?, kind, decide_eq_true_eq] at permitted
    simp only [List.getElem?_eq_getElem permitted]
    refine ⟨_, ?_, rfl⟩
    split
    · exact onlyDirects_pure
    · exact onlyDirects_directing.bind fun _ => onlyDirects_pure

/-- What the count of quiet steps becomes in a step with certain deeds. -/
inductive Paced (limit : Nat) (session : Session Host) :
    List Deed → Except DialogError Bool × Session Host → Prop where
  | executed (jump next : Jump) (stage : Stage Host) (room : session.quietSteps < limit) :
      Paced limit session [.executed jump] (.ok true, { session with
        stage := stage, current := some next, quietSteps := session.quietSteps + 1 })
  | answered (call : PresenterCall) (ran : Except DialogError Bool × Session Host)
      (reset : ran.2.quietSteps = 0)
      (called : ran.2.history = session.history ++ [.called session.phase call]) :
      Paced limit session [.answered call] ran
  | failed (error : DialogError) (after : Session Host)
      (counted : session.quietSteps ≤ after.quietSteps) :
      Paced limit session [] (.error error, after)
  | closed (outcome : Except DialogError Bool) (after : Session Host)
      (same : after.quietSteps = session.quietSteps) (closes : session.Closes after) :
      Paced limit session [] (outcome, after)

theorem run_execute (goesOn : jump.isFinal = false)
    (permitted : production.script.permits jump = true) :
    (execute production jump).run.run session =
      match (follow production jump).run.run session with
      | (.ok next, after) => (.ok true, { after with current := some next })
      | (.error error, after) => (.error error, after) := by
  rw [execute, permitted, goesOn]
  simp only [Bool.not_true, Bool.false_eq_true, if_false, run_bind]
  generalize (follow production jump).run.run session = ran
  obtain ⟨outcome, after⟩ := ran
  cases outcome <;> rfl

theorem execute_quiet (session : Session Host) (quiet : jump.kind.isQuiet = true)
    (permitted : production.script.permits jump = true) :
    (∃ error, (execute production jump).run.run session =
      (.error error, { session with quietSteps := session.quietSteps + 1 })) ∨
    session.quietSteps < production.config.maxQuietSteps ∧ ∃ next stage,
      (execute production jump).run.run session = (.ok true, { session with
        stage := stage, current := some next, quietSteps := session.quietSteps + 1 }) := by
  obtain ⟨rest, directs, follows⟩ := follow_quiet quiet permitted
  have goesOn : jump.isFinal = false := by
    cases kind : jump.kind <;> simp_all [JumpKind.isQuiet, Jump.isFinal]
  rw [run_execute goesOn permitted, follows, run_bind, run_countQuietStep]
  -- the step is counted first, and stays counted when it is refused
  by_cases reached : session.quietSteps + 1 > production.config.maxQuietSteps
  · rw [if_pos reached]
    exact .inl ⟨_, rfl⟩
  · obtain ⟨next, stage, ran⟩ := directs { session with quietSteps := session.quietSteps + 1 }
    rw [if_neg reached]
    simp only [ran]
    exact .inr ⟨by omega, next, stage, rfl⟩

/-! ## Statements that reach the presenter -/

theorem run_directing {run : Directing Host α} : (directing run).run.run session =
    (.ok (run.run session.stage).1, { session with stage := (run.run session.stage).2 }) :=
  rfl

theorem run_resetQuietSteps : (resetQuietSteps : Playing Host Unit).run.run session =
    (.ok (), { session with quietSteps := 0 }) :=
  rfl

/-- Following a line or a choice set completes a call, or fails without having completed one. -/
inductive Reaches (session : Session Host) :
    List Deed → Except DialogError Jump × Session Host → Prop where
  | answered (call : PresenterCall) (ran : Except DialogError Jump × Session Host)
      (reset : ran.2.quietSteps = 0)
      (called : ran.2.history = session.history ++ [.called session.phase call]) :
      Reaches session [.answered call] ran
  | failed (error : DialogError) (after : Session Host)
      (same : after.quietSteps = session.quietSteps) : Reaches session [] (.error error, after)

theorem stepLine_reaches {statement : LineStatement}
    (found : production.script.lines[jump.index]? = some statement) :
    session.Reaches (lineDeeds production session jump.index)
      ((stepLine production jump statement).run.run session) := by
  rw [stepLine, lineDeeds, run_bind, run_get]
  simp only [found, run_bind, run_directing]
  generalize (Directing.prepareLine production.script jump.index
    (production.presenter.shownText statement.text session.stage.host)).run session.stage = prepared
  obtain ⟨line, stage⟩ := prepared
  cases line with
  | none => exact .failed _ _ rfl
  | some line =>
    simp only [run_bind, run_presenting]
    generalize (production.presenter.showLine line).run stage = shown
    obtain ⟨answer, stage⟩ := shown
    cases answer with
    | ok _ => exact .answered _ _ rfl rfl
    | error error => exact .failed _ _ rfl

theorem stepChoice_reaches {index : Nat} :
    session.Reaches (choiceDeeds production session index)
      ((stepChoice production index).run.run session) := by
  rw [stepChoice, choiceDeeds, run_bind, run_directing]
  generalize (Directing.choices production.script index).run session.stage = offered
  obtain ⟨choices, stage⟩ := offered
  dsimp only
  split
  · exact .failed _ _ rfl
  · simp only [run_bind, run_presenting]
    generalize (production.presenter.offerChoices choices).run stage = selection
    obtain ⟨answer, stage⟩ := selection
    -- once there is an answer the call is complete, whether or not the answer can be selected
    cases answer with
    | error error => exact .failed _ _ rfl
    | ok selected =>
      simp only [run_resetQuietSteps]
      split
      · split <;> exact .answered _ _ rfl rfl
      · exact .answered _ _ rfl rfl

/-- Steps with the deeds of a statement that reaches the presenter are paced like it. -/
theorem Reaches.paced {limit : Nat} {deeds : List Deed}
    (reaches : session.Reaches deeds ((follow production jump).run.run session))
    (goesOn : jump.isFinal = false) (permitted : production.script.permits jump = true) :
    Paced limit session deeds ((execute production jump).run.run session) := by
  rw [run_execute goesOn permitted]
  generalize (follow production jump).run.run session = ran at reaches
  cases reaches with
  | answered call ran reset called =>
    obtain ⟨outcome, after⟩ := ran
    cases outcome <;> exact .answered call _ reset called
  | failed error after same => exact .failed _ _ (Nat.le_of_eq same.symm)

/-! ## Steps -/

/-- Closing counts nothing. -/
theorem quietSteps_close :
    ((close production).run.run session).2.quietSteps = session.quietSteps := by
  by_cases closed : session.phase = .closed
  · rw [close_closed closed]
  · rw [run_close closed, run_presenting]

theorem execute_final_paced {limit : Nat} (unclosed : session.phase ≠ .closed)
    (final : jump.isFinal = true) (permitted : production.script.permits jump = true) :
    Paced limit session [] ((execute production jump).run.run session) := by
  have same : ((close production).run.run session).2.quietSteps = session.quietSteps :=
    quietSteps_close
  have closes : session.Closes ((close production).run.run session).2 := close_closes unclosed
  rw [execute, permitted, final]
  simp only [Bool.not_true, Bool.false_eq_true, if_false, if_true, run_bind]
  generalize (close production).run.run session = ran at same closes
  obtain ⟨outcome, after⟩ := ran
  cases outcome <;> exact .closed _ _ same closes

theorem quietDeeds_paced (running : session.phase = .running)
    (current : session.current.getD Jump.finish = jump) (quiet : jump.kind.isQuiet = true)
    (permitted : production.script.permits jump = true) :
    Paced production.config.maxQuietSteps session (quietDeeds production session jump)
      ((execute production jump).run.run session) := by
  rw [quietDeeds, step_running running, current]
  rcases execute_quiet session quiet permitted with
    ⟨error, ran⟩ | ⟨room, next, stage, ran⟩
  · rw [ran]
    exact .failed _ _ (Nat.le_succ _)
  · rw [ran]
    exact .executed _ _ _ room

theorem jumpDeeds_paced (running : session.phase = .running)
    (current : session.current.getD Jump.finish = jump)
    (permitted : production.script.permits jump = true) :
    Paced production.config.maxQuietSteps session (jumpDeeds production session jump)
      ((execute production jump).run.run session) := by
  rw [jumpDeeds]
  cases kind : jump.kind with
  | undefined | finish =>
    exact execute_final_paced (by simp [running]) (by simp [Jump.isFinal, kind]) permitted
  | «section» | instruction | conditional =>
    exact quietDeeds_paced running current (by rw [kind]; rfl) permitted
  | line =>
    have goesOn : jump.isFinal = false := by simp [Jump.isFinal, kind]
    have inside := permitted
    simp only [Script.permits, Script.tableSize?, kind, decide_eq_true_eq] at inside
    have found := List.getElem?_eq_getElem inside
    have follows : follow production jump =
        stepLine production jump production.script.lines[jump.index] := by
      rw [follow, kind]
      simp only [found]
    exact Reaches.paced (follows ▸ stepLine_reaches found) goesOn permitted
  | choice =>
    have goesOn : jump.isFinal = false := by simp [Jump.isFinal, kind]
    have follows : follow production jump = stepChoice production jump.index := by
      rw [follow, kind]
    exact Reaches.paced (follows ▸ stepChoice_reaches) goesOn permitted

theorem step_paced (production : Production Host) (session : Session Host) :
    Paced production.config.maxQuietSteps session (stepDeeds production session)
      ((step production).run.run session) := by
  rw [stepDeeds]
  by_cases running : session.phase = .running
  · rw [step_running running]
    cases permitted : production.script.permits (session.current.getD Jump.finish) with
    | false =>
      rw [if_neg (by simp), execute, permitted]
      exact .failed _ _ (Nat.le_refl _)
    | true =>
      rw [if_pos ⟨running, rfl⟩]
      exact jumpDeeds_paced running rfl permitted
  · obtain ⟨error, stopped⟩ := step_stopped production running
    rw [if_neg fun both => running both.1, stopped]
    exact .failed _ _ (Nat.le_refl _)

/-! ## Commands -/

theorem Paced.inARow {limit : Nat} {deeds : List Deed}
    {ran : Except DialogError Bool × Session Host} (paced : Paced limit session deeds ran) :
    Deed.InARow limit session.quietSteps deeds ran.2.quietSteps := by
  cases paced with
  | executed jump next stage room => exact .executed jump room (.nothing (Nat.le_refl _))
  | answered call ran reset called =>
    exact .interrupted _ (by simp [Deed.IsExecuted]) (.nothing (Nat.zero_le _))
  | failed error after counted => exact .nothing counted
  | closed outcome after same closes => exact .nothing (Nat.le_of_eq same.symm)

theorem inARow_step : Deed.InARow production.config.maxQuietSteps session.quietSteps
    (stepDeeds production session) ((step production).run.run session).2.quietSteps :=
  (step_paced production session).inARow

/-- The closing after a step that fails counts nothing. -/
theorem quietSteps_proceed : ((proceed production).run.run session).2.quietSteps =
    ((step production).run.run session).2.quietSteps := by
  by_cases running : session.phase = .running
  · rw [run_proceed running]
    split
    · rename_i ran
      rw [ran]
    · rename_i ran
      rw [ran]
      exact quietSteps_close
  · rw [proceed_stopped running]

theorem inARow_playedOn {rounds : Nat} :
    Deed.InARow production.config.maxQuietSteps session.quietSteps
      (playedDeeds production rounds session) (playedOn production rounds session).quietSteps := by
  induction rounds generalizing session with
  | zero => exact .nothing (Nat.le_refl _)
  | succ rounds inductionHypothesis =>
    have row : Deed.InARow production.config.maxQuietSteps session.quietSteps
        (stepDeeds production session) ((proceed production).run.run session).2.quietSteps := by
      rw [quietSteps_proceed]
      exact inARow_step
    rw [playedDeeds, playedOn]
    refine row.append ?_
    generalize (proceed production).run.run session = ran
    obtain ⟨outcome, after⟩ := ran
    cases outcome with
    | error error => exact .nothing (Nat.le_refl _)
    | ok goesOn =>
      cases goesOn with
      | false => exact .nothing (Nat.le_refl _)
      | true => exact inductionHypothesis

/-- What opens a session begins to count anew, unless it fails and changes nothing. -/
inductive Opens (session : Session Host) : Except DialogError Unit × Session Host → Prop where
  | opened (opened : Session Host) (reset : opened.quietSteps = 0) : Opens session (.ok (), opened)
  | refused (error : DialogError) : Opens session (.error error, session)

theorem startFrom_opens : session.Opens ((startFrom production jump).run.run session) := by
  rcases startFrom_cases production session jump with ⟨error, ran⟩ | ⟨stopped, ran⟩
  · rw [ran]
    exact .refused error
  · rw [ran]
    exact .opened _ rfl

theorem startSection_opens {name : String} :
    session.Opens ((startSection production name).run.run session) := by
  rw [startSection]
  split
  · exact startFrom_opens
  · exact .refused _

theorem restore_opens {snapshot : SessionSnapshot} :
    session.Opens ((restore production snapshot).run.run session) := by
  rw [restore]
  split
  · exact .opened _ rfl
  · exact .refused _

theorem Opens.inARow {limit : Nat} {ran : Except DialogError Unit × Session Host}
    (opens : session.Opens ran) :
    Deed.InARow limit session.quietSteps (openingDeeds ran.1) ran.2.quietSteps := by
  cases opens with
  | opened opened reset => exact .interrupted .opened id (.nothing (Nat.zero_le _))
  | refused error => exact .nothing (Nat.le_refl _)

theorem inARow_command {command : Command} :
    Deed.InARow production.config.maxQuietSteps session.quietSteps
      (commandDeeds production session command) (session.after production command).quietSteps := by
  cases command with
  | start => exact startFrom_opens.inARow
  | startSection name => exact startSection_opens.inARow
  | restore snapshot => exact restore_opens.inARow
  | step => exact inARow_step
  | proceed =>
    rw [after, quietSteps_proceed]
    exact inARow_step
  | close =>
    rw [after, quietSteps_close]
    exact .nothing (Nat.le_refl _)
  | play rounds =>
    rw [commandDeeds, after]
    split
    · have opens : session.Opens ((start production).run.run session) := startFrom_opens
      generalize (start production).run.run session = ran at opens
      cases opens with
      | opened opened reset => exact .interrupted .opened id (reset ▸ inARow_playedOn)
      | refused error => exact .nothing (Nat.le_refl _)
    · exact inARow_playedOn

theorem inARow_deeds (production : Production Host) (session : Session Host)
    (commands : List Command) : ∃ last, Deed.InARow production.config.maxQuietSteps
      session.quietSteps (deeds production session commands) last := by
  induction commands generalizing session with
  | nil => exact ⟨_, .nothing (Nat.le_refl _)⟩
  | cons command commands inductionHypothesis =>
    obtain ⟨last, row⟩ := inductionHypothesis (session.after production command)
    exact ⟨last, inARow_command.append row⟩

/-! ## Steps of a running session -/

/-- A step fails, or it calls the presenter. -/
def Breaks (production : Production Host) (session : Session Host) : Prop :=
  (∃ error, ((step production).run.run session).1 = .error error) ∨
  ∃ events phase call, ((step production).run.run session).2.history = session.history ++ events ∧
    .called phase call ∈ events

theorem Paced.unbroken {limit : Nat} {deeds : List Deed}
    (paced : Paced limit session deeds ((step production).run.run session))
    (unbroken : ¬session.Breaks production) :
    session.quietSteps < limit ∧
      ((step production).run.run session).2.quietSteps = session.quietSteps + 1 := by
  rw [Breaks] at unbroken
  generalize (step production).run.run session = ran at paced unbroken
  cases paced with
  | executed jump next stage room => exact ⟨room, rfl⟩
  | answered call ran reset called =>
    exact absurd (.inr ⟨_, _, call, called, List.mem_singleton_self _⟩) unbroken
  | failed error after counted => exact absurd (.inl ⟨error, rfl⟩) unbroken
  | closed outcome after same closes =>
    exact absurd (.inr ⟨_, .closed, .close, closes.history, by simp⟩) unbroken

/-- Steps that do neither are counted, so the limit leaves room for so many of them only. -/
theorem exists_breaks {steps : Nat}
    (most : production.config.maxQuietSteps ≤ session.quietSteps + steps) :
    ∃ count, count ≤ steps ∧ (stepped production count session).Breaks production := by
  -- induction on the room that the count leaves below the limit
  induction steps generalizing session with
  | zero =>
    refine ⟨0, Nat.le_refl 0, Classical.byContradiction fun unbroken => ?_⟩
    have counted := (step_paced production session).unbroken unbroken
    omega
  | succ steps inductionHypothesis =>
    by_cases breaks : session.Breaks production
    · exact ⟨0, Nat.zero_le _, breaks⟩
    · obtain ⟨room, counted⟩ := (step_paced production session).unbroken breaks
      have most : production.config.maxQuietSteps ≤
          ((step production).run.run session).2.quietSteps + steps := by omega
      obtain ⟨count, within, later⟩ := inductionHypothesis most
      exact ⟨count + 1, Nat.succ_le_succ within, later⟩

/-- A step at a quiet statement takes effect only if the count leaves room for it, and is counted
then.  Otherwise it fails and leaves everything but the count as it was. -/
theorem step_quiet {outcome : Except DialogError Bool} {after : Session Host}
    (current : session.current = some jump) (quiet : jump.kind.isQuiet = true)
    (ran : (step production).run.run session = (outcome, after)) :
    (∃ error, outcome = .error error ∧ after = { session with quietSteps := after.quietSteps }) ∨
    outcome = .ok true ∧ session.quietSteps < production.config.maxQuietSteps ∧
      after.quietSteps = session.quietSteps + 1 ∧ after.history = session.history := by
  by_cases running : session.phase = .running
  · rw [step_running running, current, Option.getD_some] at ran
    cases permitted : production.script.permits jump with
    | false =>
      rw [execute, permitted] at ran
      obtain ⟨rfl, rfl⟩ := Prod.mk.inj ran
      exact .inl ⟨_, rfl, rfl⟩
    | true =>
      rcases execute_quiet session quiet permitted with
        ⟨error, refused⟩ | ⟨room, next, stage, executed⟩
      · obtain ⟨rfl, rfl⟩ := Prod.mk.inj (refused.symm.trans ran)
        exact .inl ⟨error, rfl, rfl⟩
      · obtain ⟨rfl, rfl⟩ := Prod.mk.inj (executed.symm.trans ran)
        exact .inr ⟨rfl, room, rfl, rfl⟩
  · obtain ⟨error, stopped⟩ := step_stopped production running
    obtain ⟨rfl, rfl⟩ := Prod.mk.inj (stopped.symm.trans ran)
    exact .inl ⟨error, rfl, rfl⟩

/-- Whatever commands a session is given, no more statements than the limit allows are executed
without the presenter in a row, that is, between two openings or completed calls that follow each
other.  A statement that is not counted among them has no effect: a quiet step that fails leaves the
stage, the host, the current statement and the history as they were, however often it is tried again.
Of as many steps of a session as the limit and one more, one fails or calls the presenter. -/
theorem quiet_steps_bounded (production : Production Host) (session : Session Host) :
    (∀ commands before between later,
      session.deeds production commands = before ++ between ++ later →
      (∀ deed ∈ between, deed.IsExecuted) →
      between.length ≤ production.config.maxQuietSteps) ∧
    (∀ jump ∈ session.current, jump.kind.isQuiet = true → ∀ outcome after,
      (step production).run.run session = (outcome, after) →
      (∃ error, outcome = .error error ∧
        after = { session with quietSteps := after.quietSteps }) ∨
      outcome = .ok true ∧ session.quietSteps < production.config.maxQuietSteps ∧
        after.quietSteps = session.quietSteps + 1 ∧ after.history = session.history) ∧
    ∃ count ≤ production.config.maxQuietSteps,
      (stepped production count session).Breaks production := by
  refine ⟨fun commands before between later same executed => ?_,
    fun jump current quiet outcome after ran => step_quiet current quiet ran,
    exists_breaks (Nat.le_add_left _ _)⟩
  obtain ⟨last, row⟩ := inARow_deeds production session commands
  rw [same] at row
  exact row.bounded executed

/-- A line between two sections, the second of which leads to itself. -/
def merryGoRound : Production Unit where
  script := { Script.empty with
    sections := [⟨none, ⟨.line, 0⟩⟩, ⟨none, ⟨.section, 1⟩⟩]
    lines := [⟨[], ⟨.section, 1⟩, [], "a"⟩] }
  config := ⟨2⟩
  presenter :=
    { shownText := fun text _ => text
      showLine := fun _ => pure (.ok ())
      offerChoices := fun _ => pure (.ok 0)
      close := pure (.ok ()) }

/-- The line begins a new row, and the limit ends it: the third section in a row is refused and only
counted. -/
theorem quiet_steps_bounded_merryGoRound :
    ∃ (session full : Session Unit) (line : Line),
      session.phase = .running ∧
      session.deeds merryGoRound [.play 9] =
        [.executed ⟨.section, 0⟩, .answered (.line line)] ++
          [.executed ⟨.section, 1⟩, .executed ⟨.section, 1⟩] ++ [] ∧
      [Deed.executed ⟨.section, 1⟩, .executed ⟨.section, 1⟩].length ≤ 2 ∧
      full = stepped merryGoRound 4 session ∧ full.current = some ⟨.section, 1⟩ ∧
      (step merryGoRound).run.run full =
        (.error (.stepLimit 2), { full with quietSteps := full.quietSteps + 1 }) ∧
      ∃ count ≤ 2, (stepped merryGoRound count session).Breaks merryGoRound := by
  obtain ⟨session, line, running, did, current, refused, counted⟩ :
      ∃ (session : Session Unit) (line : Line),
        session.phase = .running ∧
        session.deeds merryGoRound [.play 9] =
          [.executed ⟨.section, 0⟩, .answered (.line line)] ++
            [.executed ⟨.section, 1⟩, .executed ⟨.section, 1⟩] ++ [] ∧
        (stepped merryGoRound 4 session).current = some ⟨.section, 1⟩ ∧
        ((step merryGoRound).run.run (stepped merryGoRound 4 session)).1 =
          .error (.stepLimit 2) ∧
        ((step merryGoRound).run.run (stepped merryGoRound 4 session)).2.quietSteps =
          (stepped merryGoRound 4 session).quietSteps + 1 :=
    ⟨((start merryGoRound).run.run (.new (.new .empty ⟨.empty, .empty⟩ .empty ()))).2, _, rfl, rfl,
      rfl, rfl, rfl⟩
  obtain ⟨rows, -, breaks⟩ := quiet_steps_bounded merryGoRound session
  obtain ⟨-, quiet, -⟩ := quiet_steps_bounded merryGoRound (stepped merryGoRound 4 session)
  refine ⟨session, _, line, running, did, rows _ _ _ _ did (by simp [Deed.IsExecuted]), rfl,
    current, ?_, breaks⟩
  rcases quiet _ current rfl (.error (.stepLimit 2)) _ (Prod.ext refused rfl) with
    ⟨error, -, unchanged⟩ | ⟨executed, -⟩
  · rw [counted] at unchanged
    exact Prod.ext refused unchanged
  · cases executed

end Session

end Roleplay
