import Mathlib.Data.List.Induction
import Roleplay.Proofs.Session.Execution

/-! # Journeys

A session that plays a linked script stays on statements that exist, unless an instruction computes
a jump.

* `Journey` is a session with the statement that its last successful step executed;
* `Journey.IsGrounded` says that the current statement exists, or that this step computed it, and
  `Journey.IsGrounded.after` that every command keeps it so;
* `Journey.grounded` is the statement for all sequences of commands;
* `Journey.not_forall_inRange` says what the check of a script leaves open.
-/

namespace Roleplay

variable {Host : Type}

structure Journey (Host : Type) where
  session : Session Host
  /-- The statement that the last successful step executed, if there was one since the session was
  opened. -/
  last : Option Jump

namespace Journey

open Session

def new (stage : Stage Host) : Journey Host := ⟨.new stage, none⟩

/-- After a command that opens the session unless it fails. -/
def opened (journey : Journey Host) : Except DialogError Unit × Session Host → Journey Host
  | (.ok _, session) => ⟨session, none⟩
  | (.error _, session) => ⟨session, journey.last⟩

/-- After a command that takes a step; a step that ends the dialog or fails leads nowhere. -/
def advanced (journey : Journey Host) : Except DialogError Bool × Session Host → Journey Host
  | (.ok true, session) => ⟨session, journey.session.current⟩
  | (_, session) => ⟨session, journey.last⟩

/-- After so many rounds of `play`, or earlier if the dialog ends before. -/
def playedOn (production : Production Host) : Nat → Journey Host → Journey Host
  | 0, journey => journey
  | rounds + 1, journey =>
    let ran := (proceed production).run.run journey.session
    match ran.1 with
    | .ok true => playedOn production rounds (journey.advanced ran)
    | _ => journey.advanced ran

def after (production : Production Host) (journey : Journey Host) : Command → Journey Host
  | .start => journey.opened ((start production).run.run journey.session)
  | .startSection name => journey.opened ((startSection production name).run.run journey.session)
  | .step => journey.advanced ((step production).run.run journey.session)
  | .proceed => journey.advanced ((proceed production).run.run journey.session)
  | .play rounds =>
    if journey.session.phase = .idle then
      let ran := (start production).run.run journey.session
      match ran.1 with
      | .ok _ => playedOn production rounds (journey.opened ran)
      | .error _ => journey.opened ran
    else playedOn production rounds journey
  | .close => { journey with session := ((close production).run.run journey.session).2 }
  | .restore snapshot => journey.opened ((restore production snapshot).run.run journey.session)

/-- A new session on a stage after some commands. -/
def run (production : Production Host) (stage : Stage Host) (commands : List Command) :
    Journey Host :=
  commands.foldl (after production) (new stage)

variable {production : Production Host} {journey : Journey Host}

/-! ## The session of a journey -/

@[simp] theorem session_opened {ran : Except DialogError Unit × Session Host} :
    (journey.opened ran).session = ran.2 := by
  obtain ⟨outcome, session⟩ := ran
  cases outcome <;> rfl

@[simp] theorem session_advanced {ran : Except DialogError Bool × Session Host} :
    (journey.advanced ran).session = ran.2 := by
  obtain ⟨outcome, session⟩ := ran
  cases outcome with
  | ok goesOn => cases goesOn <;> rfl
  | error error => rfl

theorem session_playedOn {rounds : Nat} :
    (playedOn production rounds journey).session =
      Session.playedOn production rounds journey.session := by
  induction rounds generalizing journey with
  | zero => rfl
  | succ rounds inductionHypothesis =>
    rw [playedOn, Session.playedOn]
    generalize (proceed production).run.run journey.session = ran
    obtain ⟨outcome, session⟩ := ran
    cases outcome with
    | ok goesOn =>
      cases goesOn with
      | true => exact inductionHypothesis
      | false => rfl
    | error error => rfl

/-- A journey follows the session through all commands. -/
theorem session_after {command : Command} :
    (journey.after production command).session = journey.session.after production command := by
  cases command with
  | start | startSection | restore => exact session_opened
  | step | proceed => exact session_advanced
  | close => rfl
  | play rounds =>
    rw [after, Session.after]
    split
    · generalize (start production).run.run journey.session = ran
      obtain ⟨outcome, session⟩ := ran
      cases outcome with
      | ok _ => exact session_playedOn
      | error error => rfl
    · exact session_playedOn

theorem run_append {stage : Stage Host} {commands : List Command} {command : Command} :
    run production stage (commands ++ [command]) =
      (run production stage commands).after production command := by
  simp [run]

/-- The sessions that a new one becomes are those of its journeys. -/
theorem reachable_iff {stage : Stage Host} {session : Session Host} :
    Reachable production stage session ↔
      ∃ commands, (run production stage commands).session = session := by
  constructor
  · intro reachable
    induction reachable with
    | new => exact ⟨[], rfl⟩
    | command reached command inductionHypothesis =>
      obtain ⟨commands, rfl⟩ := inductionHypothesis
      exact ⟨commands ++ [command], by rw [run_append, session_after]⟩
  · rintro ⟨commands, rfl⟩
    induction commands using List.reverseRecOn with
    | nil => exact .new
    | append_singleton commands command inductionHypothesis =>
      rw [run_append, session_after]
      exact inductionHypothesis.command command

/-! ## Grounded journeys -/

/-- While the session runs, its current statement exists, or the last step computed it. -/
def IsGrounded (script : Script) (journey : Journey Host) : Prop :=
  journey.session.phase = .running → ∃ jump ∈ journey.session.current,
    script.permits jump = true ∨ ∃ earlier ∈ journey.last, script.Leaps earlier jump

namespace IsGrounded

variable {script : Script}

theorem of_permitted {session : Session Host} {last : Option Jump} {jump : Jump}
    (current : session.current = some jump) (permitted : script.permits jump = true) :
    IsGrounded script ⟨session, last⟩ :=
  fun _ => ⟨jump, current, .inl permitted⟩

theorem of_stopped {journey : Journey Host} (stopped : journey.session.phase ≠ .running) :
    IsGrounded script journey :=
  fun running => absurd running stopped

/-- What leaves the session where it is keeps it grounded. -/
theorem of_shows {session : Session Host} (grounded : journey.IsGrounded script)
    (shows : journey.session.Shows session) : IsGrounded script ⟨session, journey.last⟩ := by
  intro running
  obtain ⟨jump, current, known⟩ := grounded (shows.phase.symm.trans running)
  exact ⟨jump, shows.current.trans current, known⟩

theorem opened_startFrom (grounded : journey.IsGrounded production.script) {jump : Jump}
    (permitted : production.script.permits jump = true) :
    (journey.opened ((startFrom production jump).run.run journey.session)).IsGrounded
      production.script := by
  rcases startFrom_cases production journey.session jump with ⟨error, ran⟩ | ⟨-, ran⟩
  · rw [ran]
    exact grounded
  · rw [ran]
    exact of_permitted rfl permitted

theorem opened_startSection (grounded : journey.IsGrounded production.script) {name : String} :
    (journey.opened ((startSection production name).run.run journey.session)).IsGrounded
      production.script := by
  rw [startSection]
  split
  next index found => exact grounded.opened_startFrom (Script.permits_sectionNamed found)
  next => exact grounded

theorem opened_restore (grounded : journey.IsGrounded production.script)
    {snapshot : SessionSnapshot} :
    (journey.opened ((restore production snapshot).run.run journey.session)).IsGrounded
      production.script := by
  rw [restore]
  split
  next permitted =>
    change IsGrounded production.script ⟨{ journey.session with
      stage := { journey.session.stage with
        storage := snapshot.storage, speakers := snapshot.speakers }
      current := snapshot.current
      phase := if snapshot.current.isSome then .running else .idle
      quietSteps := 0
      history := _ }, none⟩
    -- without a statement the session is idle, and any other one has been checked
    cases current : snapshot.current with
    | none => exact of_stopped (by simp)
    | some jump => exact of_permitted rfl (by simpa [current] using permitted)
  next => exact grounded

/-! ## Steps -/

variable (linked : production.script.IsLinked)

include linked

theorem advanced_step (grounded : journey.IsGrounded production.script)
    (lawful : journey.session.IsLawful) :
    (journey.advanced ((step production).run.run journey.session)).IsGrounded
      production.script := by
  by_cases running : journey.session.phase = .running
  · obtain ⟨jump, current⟩ := Option.isSome_iff_exists.1 (lawful.running_iff.1 running)
    cases step_steps production running with
    | goesOn next between shows ran =>
      rw [ran]
      rw [step_running running, current] at ran
      obtain ⟨next, leads, known⟩ := execute_leads linked ran
      exact fun _ => ⟨next, leads, known.imp_right fun leaps => ⟨jump, current, leaps⟩⟩
    | closes outcome closed closes ended ran =>
      rw [ran]
      exact of_stopped (by simp [closes.phase])
    | fails error between shows ran =>
      rw [ran]
      exact grounded.of_shows shows
  · obtain ⟨error, stopped⟩ := step_stopped production running
    rw [stopped]
    exact grounded

theorem advanced_proceed (grounded : journey.IsGrounded production.script)
    (lawful : journey.session.IsLawful) :
    (journey.advanced ((proceed production).run.run journey.session)).IsGrounded
      production.script := by
  by_cases running : journey.session.phase = .running
  · have stepped := grounded.advanced_step linked lawful
    cases proceed_proceeds production running with
    | goesOn next between shows ran =>
      -- only a step that goes on is not followed by closing
      rw [run_proceed running] at ran ⊢
      generalize (step production).run.run journey.session = stepping at ran stepped ⊢
      obtain ⟨outcome, session⟩ := stepping
      cases outcome with
      | ok goesOn => exact stepped
      | error error => cases ran
    | closes between closed shows closes ended ran =>
      rw [ran]
      exact of_stopped (by simp [closes.phase])
  · rw [proceed_stopped running]
    exact grounded.advanced_step linked lawful

theorem playedOn {rounds : Nat} (grounded : journey.IsGrounded production.script)
    (lawful : journey.session.IsLawful) :
    (Journey.playedOn production rounds journey).IsGrounded production.script := by
  induction rounds generalizing journey with
  | zero => exact grounded
  | succ rounds inductionHypothesis =>
    have proceeds := grounded.advanced_proceed linked lawful
    rw [Journey.playedOn]
    split
    · exact inductionHypothesis proceeds (session_advanced ▸ lawful.proceed)
    · exact proceeds

/-- Every command keeps a journey grounded. -/
theorem after (grounded : journey.IsGrounded production.script)
    (lawful : journey.session.IsLawful) (command : Command) :
    (journey.after production command).IsGrounded production.script := by
  have started := grounded.opened_startFrom linked.permits_entry
  cases command with
  | start => exact started
  | startSection name => exact grounded.opened_startSection
  | step => exact grounded.advanced_step linked lawful
  | proceed => exact grounded.advanced_proceed linked lawful
  | play rounds =>
    rw [Journey.after]
    split
    · dsimp only
      split
      · exact started.playedOn linked (session_opened ▸ lawful.startFrom)
      · exact started
    · exact grounded.playedOn linked lawful
  | close =>
    refine of_stopped fun running => ?_
    by_cases closed : journey.session.phase = .closed
    · rw [session_after, Session.after, close_closed closed, closed] at running
      cases running
    · rw [session_after, Session.after, (close_closes closed).phase] at running
      cases running
  | restore snapshot => exact grounded.opened_restore

end IsGrounded

theorem isGrounded_run (linked : production.script.IsLinked) (stage : Stage Host)
    (commands : List Command) : (run production stage commands).IsGrounded production.script := by
  induction commands using List.reverseRecOn with
  | nil => exact .of_stopped (by simp [run, new, Session.new])
  | append_singleton commands command inductionHypothesis =>
    have reachable : Reachable production stage (run production stage commands).session :=
      reachable_iff.2 ⟨commands, rfl⟩
    rw [run_append]
    exact inductionHypothesis.after linked reachable.isLawful command

/-! ## Dangling jumps -/

/-- What fails with a dangling jump is a step, whether or not the session is closed after it. -/
theorem step_of_advance {choice : Advance} {session failed : Session Host} {error : DialogError}
    (ran : (advance production choice).run.run session = (.error error, failed)) :
    ∃ stepped, (step production).run.run session = (.error error, stepped) := by
  cases choice with
  | step => exact ⟨failed, ran⟩
  | proceed =>
    change (proceed production).run.run session = _ at ran
    by_cases running : session.phase = .running
    · rw [run_proceed running] at ran
      generalize (step production).run.run session = stepping at ran ⊢
      obtain ⟨outcome, stepped⟩ := stepping
      cases outcome with
      | ok goesOn => cases ran
      | error own =>
        cases ran
        exact ⟨stepped, rfl⟩
    · rw [proceed_stopped running] at ran
      exact ⟨failed, ran⟩

/-- In a grounded journey, a step that fails with a dangling jump was to execute a computed one,
unless the presenter failed so. -/
theorem IsGrounded.step_dangles (grounded : journey.IsGrounded production.script)
    (linked : production.script.IsLinked) {target : Jump} {stepped : Session Host}
    (ran : (step production).run.run journey.session = (.error (.danglingJump target), stepped)) :
    (journey.session.current = some target ∧ production.script.permits target = false ∧
        ∃ earlier ∈ journey.last, production.script.Leaps earlier target) ∨
      production.presenter.Raised (.danglingJump target) journey.session stepped := by
  cases phase : journey.session.phase with
  | idle =>
    rw [step_idle phase] at ran
    cases ran
  | closed =>
    rw [step_closed phase] at ran
    cases ran
  | running =>
    obtain ⟨jump, current, known⟩ := grounded phase
    rw [step_running phase, current, Option.getD_some] at ran
    refine (execute_dangles linked ran).imp_left fun refused => ?_
    obtain ⟨rfl, missing⟩ := refused
    exact ⟨current, missing, known.resolve_left (by simp [missing])⟩

/-- On a script that the check accepts, whatever commands a session is given and whatever the bridge
and the presenter do: while it runs, its current statement exists or was computed by an instruction
in the last successful step; and a step fails with a dangling jump only if it was to execute such a
jump, or if the presenter itself failed so.  All that a permitted jump makes the session look up in
the tables of statements is there, be it for a step, for preparing a line, taking a branch or
offering choices: the section, the line, the instruction statement, the conditional with the
statements of its branches, the choice set.  What these refer to in the tables of instructions,
choices and speakers need not be there, see `not_forall_inRange`. -/
theorem grounded (valid : production.script.validate = .ok ()) (stage : Stage Host) :
    (∀ session, Reachable production stage session ↔
      ∃ commands, (run production stage commands).session = session) ∧
    (∀ commands, ∀ journey, run production stage commands = journey →
      (journey.session.phase = .running → ∃ jump ∈ journey.session.current,
        production.script.permits jump = true ∨
          ∃ earlier ∈ journey.last, production.script.Leaps earlier jump) ∧
      ∀ choice target failed,
        (advance production choice).run.run journey.session =
          (.error (.danglingJump target), failed) →
        ∃ stepped,
          (step production).run.run journey.session = (.error (.danglingJump target), stepped) ∧
          ((journey.session.current = some target ∧ production.script.permits target = false ∧
              ∃ earlier ∈ journey.last, production.script.Leaps earlier target) ∨
            production.presenter.Raised (.danglingJump target) journey.session stepped)) ∧
    ∀ jump, production.script.permits jump = true → jump.isFinal = false →
      ∃ statement, production.script.statement? jump = some statement ∧
        follow production jump = statement.run production ∧
        statement.IsServed Host production.script jump.index := by
  have linked := Script.isLinked_of_validate valid
  refine ⟨fun session => reachable_iff, ?_, fun jump permitted leads => ?_⟩
  · rintro commands journey rfl
    have known := isGrounded_run linked stage commands
    refine ⟨known, fun choice target failed ran => ?_⟩
    obtain ⟨stepped, ran⟩ := step_of_advance ran
    exact ⟨stepped, ran, known.step_dangles linked ran⟩
  · obtain ⟨statement, found⟩ := linked.exists_statement permitted leads
    exact ⟨statement, found, follow_eq found, Script.isServed found⟩

/-- A section that leads to an instruction, which is written to go to a line that does not exist. -/
def blindLeap : Production Unit where
  script := { Script.empty with
    sections := [⟨none, ⟨.instruction, 0⟩⟩], statements := [⟨0, .finish⟩]
    instructions := [#[OpCode.goto.code, 1, 7]] }
  config := .default
  presenter :=
    { shownText := fun text _ => text
      showLine := fun _ => pure (.ok ())
      offerChoices := fun _ => pure (.ok 0)
      close := pure (.ok ()) }

/-- The jump dangles although the script is valid, and the step before computed it. -/
theorem grounded_blindLeap :
    blindLeap.script.validate = .ok () ∧
    ∃ journey : Journey Unit,
      run blindLeap (.new .empty ⟨.empty, .empty⟩ .empty ()) [.start, .step, .step] = journey ∧
      journey.session.current = some ⟨.line, 7⟩ ∧
      (∃ failed, (step blindLeap).run.run journey.session =
        (.error (.danglingJump ⟨.line, 7⟩), failed)) ∧
      ∃ earlier ∈ journey.last, blindLeap.script.Leaps earlier ⟨.line, 7⟩ := by
  have valid : blindLeap.script.validate = .ok () := rfl
  refine ⟨valid, _, rfl, rfl, ⟨_, rfl⟩, ?_⟩
  obtain ⟨jump, current, known⟩ := ((grounded valid (.new .empty ⟨.empty, .empty⟩ .empty ())).2.1
    [.start, .step, .step] _ rfl).1 rfl
  obtain rfl : ⟨.line, 7⟩ = jump := Option.some.inj current
  exact known.resolve_left (by decide)

/-- A line and a choice set of a script that is valid although one names an instruction and a speaker
that do not exist, and the other a choice that does not.  The presenter fails with a dangling jump of
its own. -/
def looseEnds : Production Unit where
  script := { Script.empty with
    choices := [⟨.finish, "Leave", false⟩]
    choiceSets := [#[OpCode.choice.code, 0, OpCode.choice.code, 5]]
    sections := [⟨none, ⟨.line, 0⟩⟩]
    lines := [⟨[7], ⟨.choice, 0⟩, [3], "[0]"⟩] }
  config := .default
  presenter :=
    { shownText := fun text _ => text
      showLine := fun _ => pure (.ok ())
      offerChoices := fun _ => pure (.error (.danglingJump ⟨.section, 9⟩))
      close := pure (.ok ()) }

/-- The check does not make sure that references are in range, to whichever table, nor does it keep
the presenter from reporting a dangling jump that no instruction has computed. -/
theorem not_forall_inRange :
    (∀ table : ReferenceTable, ¬∀ (production : Production Unit) (stage : Stage Unit)
      (commands : List Command), production.script.validate = .ok () →
      ∀ journey, run production stage commands = journey → journey.session.phase = .running →
      ∀ jump ∈ journey.session.current, ∀ statement,
        production.script.statement? jump = some statement →
        ∀ reference ∈ statement.references, reference.table = table →
          reference.IsInRange production.script journey.session.stage.speakers) ∧
    ¬∀ (production : Production Unit) (stage : Stage Unit) (commands : List Command),
      production.script.validate = .ok () →
      ∀ journey, run production stage commands = journey → ∀ choice target failed,
        (advance production choice).run.run journey.session =
          (.error (.danglingJump target), failed) →
        ∃ earlier ∈ journey.last, production.script.Leaps earlier target := by
  have valid : looseEnds.script.validate = .ok () := rfl
  let stage : Stage Unit := .new looseEnds.script ⟨.empty, .empty⟩ .empty ()
  refine ⟨fun table inRange => ?_, fun computed => ?_⟩
  · cases table with
    | instructions =>
      have missing : 7 < 0 := inRange looseEnds stage [.start, .step] valid _ rfl rfl ⟨.line, 0⟩ rfl
        _ rfl ⟨.instructions, 7⟩ (.head _) rfl
      exact Nat.not_lt_zero 7 missing
    | speakers =>
      have missing : 3 < 0 := inRange looseEnds stage [.start, .step] valid _ rfl rfl ⟨.line, 0⟩ rfl
        _ rfl ⟨.speakers, 3⟩ (.tail _ (.head _)) rfl
      exact Nat.not_lt_zero 3 missing
    | choices =>
      have missing : 5 < 1 := inRange looseEnds stage [.start, .step, .step] valid _ rfl rfl
        ⟨.choice, 0⟩ rfl _ rfl ⟨.choices, 5⟩ (.tail _ (.head _)) rfl
      exact absurd missing (by decide)
  · obtain ⟨earlier, last, statement, found, computes⟩ :=
      computed looseEnds stage [.start, .step, .step] valid _ rfl .step ⟨.section, 9⟩ _ rfl
    obtain rfl : ⟨.line, 0⟩ = earlier := Option.some.inj last
    obtain rfl := Option.some.inj found
    exact computes

end Journey

end Roleplay
