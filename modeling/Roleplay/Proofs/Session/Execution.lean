import Roleplay.Proofs.Evaluation.Menu
import Roleplay.Proofs.Script.Linkage
import Roleplay.Proofs.Session.Resumption

/-! # Executing the statements of a linked script

What a step of a session looks up exists, and where it leads is known.

* `Statement.run` executes a statement that has been looked up; `Script.isServed` says that the stage
  does for its index what it does for the statement, and `Session.follow_eq` that following a jump is
  looking its statement up and executing it;
* `Playing.Meets` says what a computation returns, and that it reports a dangling jump only because
  the presenter does;
* `Session.execute_leads` and `Session.execute_dangles` say where a step leads, and which dangling
  jumps it reports.
-/

namespace Roleplay

open Roleplay.Markup

variable {Host α β : Type}

/-! ## Executing statements -/

namespace Directing

/-- Prepares the line of a statement that is known. -/
def prepare (script : Script) (index : Nat) (statement : LineStatement) (shown : String) :
    Directing Host Line := do
  modify fun stage => { stage with speakers := stage.speakers.map Speaker.resetMood }
  let display ← Display.ofText statement.text.toList shown.toList (resolveTag script statement)
  let stage ← get
  let speakers := statement.speakers.filterMap fun place => stage.speakers[place]?
  pure (Line.new index speakers display statement.next)

/-- The jump of the first statement that holds. -/
def firstHolding (script : Script) (otherwise : Jump) :
    List InstructionStatement → Directing Host Jump
  | [] => pure otherwise
  | statement :: statements =>
    match statement.instruction? with
    | none => pure statement.next
    | some index => do
      let value ← evaluate script index
      if value.toBool then pure statement.next else firstHolding script otherwise statements

end Directing

namespace Session

def showLine (production : Production Host) (index : Nat) (statement : LineStatement) :
    Playing Host Jump := do
  let session ← get
  let shown := production.presenter.shownText statement.text session.stage.host
  let line ← directing (Directing.prepare production.script index statement shown)
  presenting (.line line) (production.presenter.showLine line)
  resetQuietSteps
  pure line.next

/-- Has one of some choices selected. -/
def select (production : Production Host) (choices : List Choice) : Playing Host Jump := do
  let selected ← presenting (.choices choices) (production.presenter.offerChoices choices)
  resetQuietSteps
  match choices[selected]? with
  | some choice =>
    if choice.disabled then throw (.notSelectable selected choices.length)
    else pure choice.next
  | none => throw (.notSelectable selected choices.length)

end Session

open Session in
/-- Executes a statement.  The tables of statements are not looked at any more. -/
def Statement.run (production : Production Host) : Statement → Playing Host Jump
  | .section part => do
    countQuietStep production.config
    pure part.next
  | .line index statement => showLine production index statement
  | .instruction statement => stepInstruction production statement
  | .conditional branches otherwise => do
    countQuietStep production.config
    directing (Directing.firstHolding production.script otherwise branches)
  | .choice index choiceSet => do
    let choices ← directing (Directing.staging production.script fun surroundings =>
      Staging.offerChoices surroundings choiceSet)
    if choices.isEmpty then throw (.emptyChoiceSet index)
    else select production choices

theorem Directing.firstBranch_eq {script : Script} {otherwise : Jump} {branches : List Nat}
    {statements : List InstructionStatement}
    (found : branches.mapM (script.statements[·]?) = some statements) :
    (firstBranch script otherwise branches : Directing Host Jump) =
      firstHolding script otherwise statements := by
  induction branches generalizing statements with
  | nil =>
    cases found
    rfl
  | cons branch branches inductionHypothesis =>
    simp only [List.mapM_cons, Option.bind_eq_bind, Option.bind_eq_some_iff, Option.pure_def,
      Option.some.injEq] at found
    obtain ⟨statement, here, others, foundOthers, rfl⟩ := found
    cases read : statement.instruction? with
    | none => simp only [firstBranch, firstHolding, here, read]
    | some index =>
      simp only [firstBranch, firstHolding, here, read, inductionHypothesis foundOthers]

/-- Whether what the stage does for the statement at an index comes down to the statement: the tables
of statements are not looked at any more. -/
def Statement.IsServed (Host : Type) (script : Script) (index : Nat) : Statement → Prop
  | .section _ | .instruction _ => True
  | .line _ statement => ∀ shown,
    (Directing.prepareLine script index shown : Directing Host (Option Line)) =
      some <$> Directing.prepare script index statement shown
  | .conditional branches otherwise =>
    (Directing.takeBranch script index : Directing Host Jump) =
      Directing.firstHolding script otherwise branches
  | .choice _ choiceSet =>
    (Directing.choices script index : Directing Host (List Choice)) =
      Directing.staging script fun surroundings => Staging.offerChoices surroundings choiceSet

section

variable {jump : Jump} {statement : Statement}

theorem Script.isServed {script : Script} (found : script.statement? jump = some statement) :
    statement.IsServed Host script jump.index := by
  rw [statement?] at found
  cases kind : jump.kind with
  | undefined | finish => simp [kind] at found
  | «section» | instruction =>
    simp only [kind, Option.map_eq_some_iff] at found
    obtain ⟨_, -, rfl⟩ := found
    trivial
  | line =>
    simp only [kind, Option.map_eq_some_iff] at found
    obtain ⟨line, here, rfl⟩ := found
    intro shown
    simp only [Directing.prepareLine, here]
    rfl
  | conditional =>
    simp only [kind, Option.bind_eq_bind, Option.bind_eq_some_iff, Option.some.injEq] at found
    obtain ⟨conditional, here, statements, foundBranches, rfl⟩ := found
    simp only [Statement.IsServed, Directing.takeBranch, here]
    exact Directing.firstBranch_eq foundBranches
  | choice =>
    simp only [kind, Option.map_eq_some_iff] at found
    obtain ⟨choiceSet, here, rfl⟩ := found
    simp only [Statement.IsServed, Directing.choices, here]

namespace Session

variable {production : Production Host}

/-- Following a jump whose statement can be looked up is executing the statement. -/
theorem follow_eq (found : production.script.statement? jump = some statement) :
    follow production jump = statement.run production := by
  have served : statement.IsServed Host production.script jump.index := Script.isServed found
  rw [follow]
  rw [Script.statement?] at found
  cases kind : jump.kind with
  | undefined | finish => simp [kind] at found
  | «section» =>
    simp only [kind, Option.map_eq_some_iff] at found
    obtain ⟨part, here, rfl⟩ := found
    simp only [here]
    rfl
  | line =>
    simp only [kind, Option.map_eq_some_iff] at found
    obtain ⟨line, here, rfl⟩ := found
    rw [Statement.IsServed] at served
    simp only [here, stepLine, served]
    rfl
  | instruction =>
    simp only [kind, Option.map_eq_some_iff] at found
    obtain ⟨instruction, here, rfl⟩ := found
    simp only [here]
    rfl
  | conditional =>
    simp only [kind, Option.bind_eq_bind, Option.bind_eq_some_iff, Option.some.injEq] at found
    obtain ⟨conditional, -, statements, -, rfl⟩ := found
    rw [Statement.IsServed] at served
    simp only [served]
    rfl
  | choice =>
    simp only [kind, Option.map_eq_some_iff] at found
    obtain ⟨choiceSet, -, rfl⟩ := found
    rw [Statement.IsServed] at served
    simp only [stepChoice, served]
    rfl

end Session

end

/-! ## What computations on the stage give -/

namespace Directing

/-- What holds of the result, on whatever stage. -/
def Gives (run : Directing Host α) (holds : α → Prop) : Prop :=
  ∀ stage : Stage Host, holds (run.run stage).1

theorem gives_pure {value : α} {holds : α → Prop} (here : holds value) :
    Gives (pure value : Directing Host α) holds :=
  fun _ => here

theorem gives_bind {run : Directing Host α} {next : α → Directing Host β} {holds : β → Prop}
    (continues : ∀ value, Gives (next value) holds) : Gives (run >>= next) holds :=
  fun stage => continues (run.run stage).1 (run.run stage).2

variable {script : Script}

theorem firstHolding_gives {otherwise : Jump} {branches : List InstructionStatement} :
    Gives (firstHolding script otherwise branches : Directing Host Jump)
      (· ∈ otherwise :: branches.map (·.next)) := by
  induction branches with
  | nil => exact gives_pure (.head _)
  | cons statement statements inductionHypothesis =>
    have later : Gives (firstHolding script otherwise statements : Directing Host Jump)
        (· ∈ otherwise :: (statement :: statements).map (·.next)) := by
      intro stage
      cases List.mem_cons.1 (inductionHypothesis stage) with
      | inl same => exact List.mem_cons.2 (.inl same)
      | inr among => exact .tail _ (.tail _ among)
    rw [firstHolding]
    split
    · exact gives_pure (by simp)
    · refine gives_bind fun value => ?_
      split
      · exact gives_pure (by simp)
      · exact later

theorem prepare_gives {index : Nat} {statement : LineStatement} {shown : String} :
    Gives (prepare script index statement shown : Directing Host Line)
      (·.next = statement.next) :=
  fun _ => rfl

/-- A jump that is computed is written in an instruction. -/
theorem flow_gives {index : Nat} :
    Gives (flow script index : Directing Host (Option Jump)) fun computed =>
      ∀ target ∈ computed, ∃ instruction, script.instructions[index]? = some instruction ∧
        (Cursor.start instruction).peekOperation = some .goto ∧
        Staging.writtenJump? instruction = some target := by
  intro stage target member
  rw [flow] at member
  split at member
  next instruction found =>
    refine ⟨instruction, found, ?_⟩
    rw [Option.mem_def] at member
    change ((Staging.runFlow ⟨script, stage.bridge⟩ instruction).run stage.toScene).1 =
      some target at member
    rw [Staging.runFlow] at member
    split at member
    next isJump => exact ⟨isJump, member⟩
    next => cases member
  next => cases member

end Directing

/-! ## What computations on the session give -/

/-- Whether the presenter answers a call with an error, and leaves another stage behind. -/
def Presenter.Refuses (presenter : Presenter Host) (stage : Stage Host) (error : DialogError)
    (after : Stage Host) : PresenterCall → Prop
  | .line line => (presenter.showLine line).run stage = (.error error, after)
  | .choices choices => (presenter.offerChoices choices).run stage = (.error error, after)
  | .close => presenter.close.run stage = (.error error, after)

/-- Whether an error after which the session is the second one comes from the presenter: the last
call since the session was the first one was answered with it, and nothing has happened since. -/
def Presenter.Raised (presenter : Presenter Host) (error : DialogError)
    (session session' : Session Host) : Prop :=
  ∃ earlier phase call stage, session.history <+: earlier ∧
    session'.history = earlier ++ [.called phase call] ∧
    presenter.Refuses stage error session'.stage call

namespace Playing

variable {presenter : Presenter Host}

/-- Whatever the session, what the computation returns meets a condition, and the computation fails
with a dangling jump only if the presenter does. -/
def Meets (presenter : Presenter Host) (run : Playing Host α) (returns : α → Prop) : Prop :=
  ∀ session, match run.run.run session with
    | (.ok value, after) => session.history <+: after.history ∧ returns value
    | (.error error, after) =>
      ∀ jump, error = .danglingJump jump → presenter.Raised error session after

theorem meets_pure {value : α} {returns : α → Prop} (holds : returns value) :
    Meets presenter (pure value : Playing Host α) returns :=
  fun _ => ⟨List.prefix_rfl, holds⟩

theorem meets_throw {error : DialogError} {returns : α → Prop}
    (own : ∀ jump, error ≠ .danglingJump jump) :
    Meets presenter (throw error : Playing Host α) returns :=
  fun _ jump same => absurd same (own jump)

theorem meets_get : Meets presenter (get : Playing Host (Session Host)) fun _ => True :=
  fun _ => ⟨List.prefix_rfl, trivial⟩

theorem Meets.bind {run : Playing Host α} {next : α → Playing Host β} {between : α → Prop}
    {returns : β → Prop} (first : Meets presenter run between)
    (continues : ∀ value, between value → Meets presenter (next value) returns) :
    Meets presenter (run >>= next) returns := by
  intro session
  have began := first session
  rw [run_bind]
  generalize run.run.run session = ran at began
  obtain ⟨outcome, middle⟩ := ran
  cases outcome with
  | error error => exact began
  | ok value =>
    obtain ⟨grown, holds⟩ := began
    have ended := continues value holds middle
    dsimp only
    generalize (next value).run.run middle = ran at ended
    obtain ⟨outcome, after⟩ := ran
    cases outcome with
    | ok result => exact ⟨grown.trans ended.1, ended.2⟩
    | error error =>
      -- the call came after the second part began, and so after the first one did
      intro jump same
      obtain ⟨earlier, phase, call, stage, begun, history, refuses⟩ := ended jump same
      exact ⟨earlier, phase, call, stage, grown.trans begun, history, refuses⟩

theorem meets_directing {run : Directing Host α} {returns : α → Prop}
    (gives : Directing.Gives run returns) : Meets presenter (Session.directing run) returns :=
  fun session => ⟨List.prefix_rfl, gives session.stage⟩

theorem meets_presenting {call : PresenterCall} {run : Directing Host (Except DialogError α)}
    (asks : ∀ stage error after, run.run stage = (.error error, after) →
      presenter.Refuses stage error after call) :
    Meets presenter (Session.presenting call run) fun _ => True := by
  intro session
  rw [Session.run_presenting]
  cases answered : (run.run session.stage).1 with
  | ok value => exact ⟨List.prefix_append _ _, trivial⟩
  | error error =>
    exact fun _ _ => ⟨session.history, session.phase, call, session.stage, List.prefix_rfl, rfl,
      asks _ _ _ (Prod.ext answered rfl)⟩

theorem meets_countQuietStep {config : SessionConfig} :
    Meets presenter (Session.countQuietStep config : Playing Host Unit) fun _ => True := by
  intro session
  rw [Session.run_countQuietStep]
  by_cases reached : session.quietSteps + 1 > config.maxQuietSteps
  · rw [if_pos reached]
    exact fun _ dangles => absurd dangles (by simp)
  · rw [if_neg reached]
    exact ⟨List.prefix_rfl, trivial⟩

theorem meets_resetQuietSteps :
    Meets presenter (Session.resetQuietSteps : Playing Host Unit) fun _ => True :=
  fun _ => ⟨List.prefix_rfl, trivial⟩

end Playing

/-! ## Statements -/

namespace Session

open Playing

variable {production : Production Host}

theorem showLine_meets {index : Nat} {line : LineStatement} :
    Meets production.presenter (showLine production index line)
      ((Statement.line index line).LeadsTo production.script ·) := by
  refine meets_get.bind fun session _ => ?_
  refine (meets_directing Directing.prepare_gives).bind fun prepared next => ?_
  have shows : Meets production.presenter
      (presenting (.line prepared) (production.presenter.showLine prepared)) fun _ => True :=
    meets_presenting fun _ _ _ answered => answered
  refine shows.bind fun _ _ => ?_
  refine meets_resetQuietSteps.bind fun _ _ => meets_pure (.inl ?_)
  exact List.mem_singleton.2 next

theorem select_meets {choices : List Choice} {returns : Jump → Prop}
    (each : ∀ choice ∈ choices, returns choice.next) :
    Meets production.presenter (select production choices) returns := by
  have asks : Meets production.presenter
      (presenting (.choices choices) (production.presenter.offerChoices choices)) fun _ => True :=
    meets_presenting fun _ _ _ answered => answered
  refine asks.bind fun selected _ => ?_
  refine meets_resetQuietSteps.bind fun _ _ => ?_
  split
  next choice found =>
    split
    · exact meets_throw (by simp)
    · exact meets_pure (each choice (List.mem_of_getElem? found))
  next => exact meets_throw (by simp)

theorem stepInstruction_meets {statement : InstructionStatement} :
    Meets production.presenter (stepInstruction production statement)
      ((Statement.instruction statement).LeadsTo production.script ·) := by
  refine meets_countQuietStep.bind fun _ _ => ?_
  split
  next => exact meets_pure (.inl (.head _))
  next index runs =>
    refine (meets_directing Directing.flow_gives).bind fun computed written => meets_pure ?_
    cases computed with
    | none => exact .inl (.head _)
    | some target =>
      obtain ⟨instruction, found, isJump, goes⟩ := written target rfl
      exact .inr ⟨index, instruction, runs, found, isJump, goes⟩

theorem run_meets (statement : Statement) :
    Meets production.presenter (statement.run production)
      (statement.LeadsTo production.script ·) := by
  cases statement with
  | «section» part => exact meets_countQuietStep.bind fun _ _ => meets_pure (.inl (.head _))
  | line index line => exact showLine_meets
  | instruction statement => exact stepInstruction_meets
  | conditional branches otherwise =>
    refine meets_countQuietStep.bind fun _ _ => meets_directing fun stage => .inl ?_
    exact Directing.firstHolding_gives stage
  | choice index choiceSet =>
    have offered : Directing.Gives
        (Directing.staging production.script fun surroundings =>
          (Staging.offerChoices surroundings choiceSet : Staging Host (List Choice)))
        fun choices => ∀ choice ∈ choices,
          (Statement.choice index choiceSet).LeadsTo production.script choice.next :=
      fun stage choice member => .inl (Staging.next_mem_of_mem_offerFrom choice member)
    refine (meets_directing offered).bind fun choices each => ?_
    split
    · exact meets_throw (by simp)
    · exact select_meets each

theorem close_meets : Meets production.presenter (close production) fun _ => True := by
  intro session
  by_cases closed : session.phase = .closed
  · rw [close_closed closed]
    exact ⟨List.prefix_rfl, trivial⟩
  · rw [run_close closed]
    have asks : Meets production.presenter (presenting .close production.presenter.close)
        fun _ => True := meets_presenting fun _ _ _ answered => answered
    -- the presenter is called once the session is closed
    have called := asks { session with
      phase := .closed, current := none, history := session.history ++ [.closed] }
    generalize (presenting .close production.presenter.close).run.run _ = ran at called
    obtain ⟨outcome, after⟩ := ran
    cases outcome with
    | ok _ => exact ⟨(List.prefix_append _ _).trans called.1, trivial⟩
    | error error =>
      intro jump same
      obtain ⟨earlier, phase, call, stage, begun, history, refuses⟩ := called jump same
      exact ⟨earlier, phase, call, stage, (List.prefix_append _ _).trans begun, history, refuses⟩

/-! ## Steps -/

variable {session after : Session Host} {jump target : Jump}

/-- A step that goes on executes the current statement. -/
theorem execute_of_statement (permitted : production.script.permits jump = true)
    (leads : jump.isFinal = false) {statement : Statement}
    (found : production.script.statement? jump = some statement) :
    execute production jump = (do
      let next ← statement.run production
      modify fun session => { session with current := some next }
      pure true) := by
  rw [execute, permitted, leads, follow_eq found]
  rfl

theorem execute_final (leads : jump.isFinal = true)
    (ran : (execute production jump).run.run session = (.ok true, after)) : False := by
  rw [execute, leads] at ran
  split at ran
  · cases ran
  · -- closing either fails or answers that the dialog is over
    rw [if_pos rfl, run_bind] at ran
    generalize (close production).run.run session = closed at ran
    obtain ⟨outcome, between⟩ := closed
    cases outcome <;> cases ran

/-- A step that goes on leads to where its statement leads. -/
theorem execute_leads (linked : production.script.IsLinked)
    (ran : (execute production jump).run.run session = (.ok true, after)) :
    ∃ next, after.current = some next ∧
      (production.script.permits next = true ∨ production.script.Leaps jump next) := by
  cases permitted : production.script.permits jump with
  | false =>
    rw [execute, permitted] at ran
    cases ran
  | true =>
    cases leads : jump.isFinal with
    | true => exact absurd ran fun ran => execute_final leads ran
    | false =>
      obtain ⟨statement, found⟩ := linked.exists_statement permitted leads
      have runs : Meets production.presenter (statement.run production)
          (statement.LeadsTo production.script ·) := run_meets statement
      have meets := runs session
      rw [execute_of_statement permitted leads found, run_bind] at ran
      generalize (statement.run production).run.run session = executed at ran meets
      obtain ⟨outcome, between⟩ := executed
      cases outcome with
      | ok next =>
        cases ran
        exact ⟨next, rfl, linked.permits_or_leaps found meets.2⟩
      | error error => cases ran

/-- A step that fails with a dangling jump was to execute it, unless the presenter failed so. -/
theorem execute_dangles (linked : production.script.IsLinked)
    (ran : (execute production jump).run.run session = (.error (.danglingJump target), after)) :
    (jump = target ∧ production.script.permits jump = false) ∨
      production.presenter.Raised (.danglingJump target) session after := by
  cases permitted : production.script.permits jump with
  | false =>
    rw [execute, permitted] at ran
    cases ran
    exact .inl ⟨rfl, rfl⟩
  | true =>
    suffices meets : Meets production.presenter (execute production jump) fun _ => True by
      have failed := meets session
      rw [ran] at failed
      exact .inr (failed target rfl)
    cases leads : jump.isFinal with
    | true =>
      rw [execute, permitted, leads]
      exact close_meets.bind fun _ _ => meets_pure trivial
    | false =>
      obtain ⟨statement, found⟩ := linked.exists_statement permitted leads
      rw [execute_of_statement permitted leads found]
      refine (run_meets statement).bind fun next _ => ?_
      exact fun session => ⟨List.prefix_rfl, trivial⟩

end Session

end Roleplay
