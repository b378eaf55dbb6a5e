import Roleplay.Session.Stage

/-! # Dialog sessions

A session drives a script through a presenter, one statement at a time.

* `Presenter` is what shows lines and asks for choices;
* `Session.step` executes the current statement, `Session.proceed` also closes the session when a
  step fails, `Session.play` goes on to the end;
* `Session.save` and `Session.restore` keep what is needed to go on later.
-/

namespace Roleplay

/-- What shows a dialog to the player.  It may change the stage in every call but the first one. -/
structure Presenter (Host : Type) where
  /-- What the renderer shows of a text. -/
  shownText : String → Host → String
  showLine : Line → Directing Host (Except DialogError Unit)
  /-- Offers choices and asks for the index of one. -/
  offerChoices : List Choice → Directing Host (Except DialogError Nat)
  close : Directing Host (Except DialogError Unit)

structure SessionConfig where
  /-- The statements that may be executed without reaching the presenter. -/
  maxQuietSteps : Nat
deriving Repr, DecidableEq

def SessionConfig.default : SessionConfig := ⟨10000⟩

structure Production (Host : Type) where
  script : Script
  config : SessionConfig
  presenter : Presenter Host

inductive Phase where
  | idle
  | running
  | closed
deriving Repr, DecidableEq

def Phase.name : Phase → String
  | idle => "Idle"
  | running => "Running"
  | closed => "Closed"

inductive PresenterCall where
  | line (line : Line)
  | choices (choices : List Choice)
  | close
deriving DecidableEq

/-- What the record of a session tells. -/
inductive SessionEvent where
  | started
  /-- A restore that succeeded, into a phase. -/
  | restored (phase : Phase)
  | closed
  /-- A call of the presenter, made in a phase. -/
  | called (phase : Phase) (call : PresenterCall)
deriving DecidableEq

structure Session (Host : Type) where
  stage : Stage Host
  /-- The statement that the next step executes. -/
  current : Option Jump
  phase : Phase
  /-- The statements executed since the presenter was last reached. -/
  quietSteps : Nat
  history : List SessionEvent

structure SessionSnapshot where
  current : Option Jump
  storage : Storage
  speakers : List Speaker

/-- A computation on a session that may fail; a failure keeps what was changed before it. -/
abbrev Playing (Host : Type) := ExceptT DialogError (StateM (Session Host))

variable {Host : Type}

namespace Session

def new (stage : Stage Host) : Session Host := ⟨stage, none, .idle, 0, []⟩

/-! ## Parts of a step -/

def directing {α : Type} (run : Directing Host α) : Playing Host α :=
  modifyGet fun session =>
    let (result, stage) := run.run session.stage
    (result, { session with stage := stage })

def record (event : SessionEvent) : Playing Host Unit :=
  modify fun session => { session with history := session.history ++ [event] }

/-- Calls the presenter, which may fail. -/
def presenting {α : Type} (call : PresenterCall) (run : Directing Host (Except DialogError α)) :
    Playing Host α := do
  let session ← get
  record (.called session.phase call)
  match ← directing run with
  | .ok result => pure result
  | .error error => throw error

/-- Counts a statement that does not reach the presenter. -/
def countQuietStep (config : SessionConfig) : Playing Host Unit := do
  modify fun session => { session with quietSteps := session.quietSteps + 1 }
  let session ← get
  if session.quietSteps > config.maxQuietSteps then
    throw (.stepLimit config.maxQuietSteps)

def resetQuietSteps : Playing Host Unit :=
  modify fun session => { session with quietSteps := 0 }

/-! ## Starting and closing -/

/-- Starts at a statement unless the session is running. -/
def startFrom (production : Production Host) (jump : Jump) : Playing Host Unit := do
  let session ← get
  if session.phase = .running then throw .alreadyStarted
  else if production.script.sections.isEmpty then throw .noSections
  else if !production.script.permits jump then throw (.danglingJump jump)
  else
    set { session with current := some jump, phase := .running, quietSteps := 0 }
    record .started

def start (production : Production Host) : Playing Host Unit := startFrom production Script.entry

def startSection (production : Production Host) (name : String) : Playing Host Unit :=
  match production.script.sectionNamed? name with
  | some index => startFrom production ⟨.section, index⟩
  | none => throw (.sectionNotFound name)

/-- Closes the session and tells the presenter, unless it is closed already. -/
def close (production : Production Host) : Playing Host Unit := do
  let session ← get
  if session.phase = .closed then pure ()
  else
    set { session with phase := .closed, current := none }
    record .closed
    presenting .close production.presenter.close

/-! ## Steps -/

def stepLine (production : Production Host) (jump : Jump) (statement : LineStatement) :
    Playing Host Jump := do
  let session ← get
  let shown := production.presenter.shownText statement.text session.stage.host
  match ← directing (Directing.prepareLine production.script jump.index shown) with
  | none => throw (.danglingJump jump)
  | some line =>
    presenting (.line line) (production.presenter.showLine line)
    resetQuietSteps
    pure line.next

def stepChoice (production : Production Host) (index : Nat) : Playing Host Jump := do
  let choices ← directing (Directing.choices production.script index)
  if choices.isEmpty then throw (.emptyChoiceSet index)
  else
    let selected ← presenting (.choices choices) (production.presenter.offerChoices choices)
    resetQuietSteps
    match choices[selected]? with
    | some choice =>
      if choice.disabled then throw (.notSelectable selected choices.length)
      else pure choice.next
    | none => throw (.notSelectable selected choices.length)

def stepInstruction (production : Production Host) (statement : InstructionStatement) :
    Playing Host Jump := do
  countQuietStep production.config
  match statement.instruction? with
  | none => pure statement.next
  | some index =>
    let computed ← directing (Directing.flow production.script index)
    pure (computed.getD statement.next)

/-- Executes the statement of a jump that does not end the dialog, and gives the next jump. -/
def follow (production : Production Host) (jump : Jump) : Playing Host Jump :=
  let script := production.script
  match jump.kind with
  | .undefined | .finish => pure jump
  | .section => do
    countQuietStep production.config
    pure ((script.sections[jump.index]?.map (·.next)).getD jump)
  | .line =>
    match script.lines[jump.index]? with
    | some statement => stepLine production jump statement
    | none => throw (.danglingJump jump)
  | .instruction =>
    match script.statements[jump.index]? with
    | some statement => stepInstruction production statement
    | none => throw (.danglingJump jump)
  | .conditional => do
    countQuietStep production.config
    directing (Directing.takeBranch script jump.index)
  | .choice => stepChoice production jump.index

/-- Executes the statement of a jump.  Tells whether the dialog goes on. -/
def execute (production : Production Host) (jump : Jump) : Playing Host Bool :=
  if !production.script.permits jump then throw (.danglingJump jump)
  else if jump.isFinal then do
    close production
    pure false
  else do
    let next ← follow production jump
    modify fun session => { session with current := some next }
    pure true

def step (production : Production Host) : Playing Host Bool := do
  let session ← get
  match session.phase with
  | .idle => throw .notStarted
  | .closed => throw .closed
  | .running => execute production (session.current.getD Jump.finish)

/-- Like `step`, but closes a running session whose step fails; the step's error stands. -/
def proceed (production : Production Host) : Playing Host Bool := do
  let session ← get
  if session.phase = .running then
    tryCatch (step production) fun error => do
      tryCatch (close production) fun _ => pure ()
      throw error
  else step production

/-- Goes on until the dialog ends, for at most so many steps. -/
def playOn (production : Production Host) :
    Nat → StateT (Session Host) Option (Except DialogError Unit)
  | 0 => fun _ => none
  | fuel + 1 => fun session =>
    match (proceed production).run.run session with
    | (.ok true, session) => playOn production fuel session
    | (.ok false, session) => some (.ok (), session)
    | (.error error, session) => some (.error error, session)

/-- Plays the dialog to its end, starting it first if needed; absent if so many steps do not reach
the end. -/
def play (production : Production Host) (fuel : Nat) :
    StateT (Session Host) Option (Except DialogError Unit) := fun session =>
  if session.phase = .idle then
    match (start production).run.run session with
    | (.ok _, session) => playOn production fuel session
    | (.error error, session) => some (.error error, session)
  else playOn production fuel session

/-! ## Saving -/

def save (session : Session Host) : SessionSnapshot :=
  ⟨session.current, session.stage.storage, session.stage.speakers⟩

/-- Goes on from a snapshot, unless its statement does not exist. -/
def restore (production : Production Host) (snapshot : SessionSnapshot) : Playing Host Unit := do
  if snapshot.current.all production.script.permits then
    let phase : Phase := if snapshot.current.isSome then .running else .idle
    modify fun session =>
      { session with
        stage := { session.stage with storage := snapshot.storage, speakers := snapshot.speakers },
        current := snapshot.current,
        phase := phase,
        quietSteps := 0 }
    record (.restored phase)
  else throw (.danglingJump (snapshot.current.getD Jump.finish))

end Session

end Roleplay
