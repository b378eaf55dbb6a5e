import Roleplay.Evaluation.Instruction
import Roleplay.Session.Line

/-! # The stage of a session

What a dialog session evaluates against: a scene and the current table of the bridge.  The script
itself never changes.

* `Directing` is a computation on a stage;
* `evaluate`, `flow`, `takeBranch` and `choices` look statements up and run them;
* `prepareLine` prepares a line, `runEvent` runs one of its events.
-/

namespace Roleplay

open Roleplay.Markup

structure Stage (Host : Type) extends Scene Host where
  /-- The current table; every evaluation uses the table that is current when it begins. -/
  bridge : Bridge Host

abbrev Directing (Host : Type) := StateM (Stage Host)

variable {Host : Type}

/-- A stage for a script, with speakers called by their ids. -/
def Stage.new (script : Script) (bridge : Bridge Host) (storage : Storage) (host : Host) :
    Stage Host :=
  ⟨⟨storage, script.speakerIds.map Speaker.ofId, host⟩, bridge⟩

def Stage.speaker? (stage : Stage Host) (id : String) : Option Speaker :=
  stage.speakers.find? fun speaker => speaker.speakerId = id

namespace Directing

/-- Runs a computation on the scene with the current table. -/
def staging {α : Type} (script : Script) (run : Surroundings Host → Staging Host α) :
    Directing Host α :=
  modifyGet fun stage =>
    let (result, scene) := (run ⟨script, stage.bridge⟩).run stage.toScene
    (result, { stage with toScene := scene })

/-! ## Statements -/

/-- The value of an instruction of the script, void if there is none. -/
def evaluate (script : Script) (index : Nat) : Directing Host Value :=
  match script.instructions[index]? with
  | some instruction =>
    staging script fun surroundings => Staging.evaluateInstruction surroundings instruction
  | none => pure .void

/-- Runs an instruction as a step of the flow. -/
def flow (script : Script) (index : Nat) : Directing Host (Option Jump) :=
  match script.instructions[index]? with
  | some instruction =>
    staging script fun surroundings => Staging.runFlow surroundings instruction
  | none => pure none

/-- The jump of the first branch that holds.  A branch without instruction always holds, and a
branch that is missing never does. -/
def firstBranch (script : Script) (otherwise : Jump) : List Nat → Directing Host Jump
  | [] => pure otherwise
  | branch :: branches =>
    match script.statements[branch]? with
    | none => firstBranch script otherwise branches
    | some statement =>
      match statement.instruction? with
      | none => pure statement.next
      | some index => do
        let value ← evaluate script index
        if value.toBool then pure statement.next else firstBranch script otherwise branches

/-- Where a conditional statement leads; a missing one ends the dialog. -/
def takeBranch (script : Script) (index : Nat) : Directing Host Jump :=
  match script.conditionals[index]? with
  | some conditional => firstBranch script conditional.next conditional.branches
  | none => pure Jump.finish

/-- The choices of a choice set, none if it is missing. -/
def choices (script : Script) (index : Nat) : Directing Host (List Choice) :=
  match script.choiceSets[index]? with
  | some choiceSet =>
    staging script fun surroundings => Staging.offerChoices surroundings choiceSet
  | none => pure []

/-! ## Lines -/

def runEvent (script : Script) (event : TextEvent) : Directing Host (Option Directive) :=
  match event.kind with
  | .speed factor => pure (some (.speed factor))
  | .pause seconds => pure (some (.pause seconds))
  | .auto on => pure (some (.auto on))
  | .newLine => pure (some .newLine)
  | .instruction index =>
    match script.instructions[index]? with
    | some instruction =>
      staging script fun surroundings => Staging.runDirective surroundings instruction
    | none => pure none

def runEvents (script : Script) : List TextEvent → Directing Host (List (Option Directive))
  | [] => pure []
  | event :: events => do
    let directive ← runEvent script event
    let directives ← runEvents script events
    pure (directive :: directives)

/-- Whether an instruction runs when the text reaches it. -/
def runsInText (instruction : Instruction) : Bool :=
  (Cursor.start instruction).peekOperation.any OpCode.runsInText

/-- What a numbered tag of a line stands for: an event if its instruction is deferred, otherwise
the text of the instruction's value. -/
def resolveTag (script : Script) (statement : LineStatement) (place : Nat) :
    Directing Host Resolution :=
  match statement.instructions[place]? with
  | none => pure .unresolved
  | some index =>
    match script.instructions[index]? with
    | none => pure .unresolved
    | some instruction =>
      if runsInText instruction then pure (.event index)
      else do
        let value ← evaluate script index
        pure (.splice value.toText)

/-- Prepares a line for display, given what the renderer shows of its text.  Every speaker's mood
is reset first. -/
def prepareLine (script : Script) (index : Nat) (shown : String) :
    Directing Host (Option Line) :=
  match script.lines[index]? with
  | none => pure none
  | some statement => do
    modify fun stage => { stage with speakers := stage.speakers.map Speaker.resetMood }
    let display ← Display.ofText statement.text.toList shown.toList (resolveTag script statement)
    let stage ← get
    let speakers := statement.speakers.filterMap fun place => stage.speakers[place]?
    pure (some (Line.new index speakers display statement.next))

end Directing

end Roleplay
