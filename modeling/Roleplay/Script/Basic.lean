import Roleplay.Instruction.Cursor

/-! # Scripts

A script is a graph of statements, kept in one table for each kind of statement, with the tables of
literals that its instructions refer to.

* `Jump` is an edge of the graph; `Script.permits` says whether a table holds its target;
* `Script.validate` checks that a script can be started and that no edge dangles.
-/

namespace Roleplay

inductive JumpKind where
  | undefined
  | line
  | section
  | instruction
  | conditional
  | choice
  | finish
deriving Repr, DecidableEq, Inhabited

namespace JumpKind

def all : List JumpKind :=
  [.undefined, .line, .section, .instruction, .conditional, .choice, .finish]

def ofCode? (code : Nat) : Option JumpKind := all[code]?

def code (kind : JumpKind) : Nat := all.idxOf kind

/-- The name in saved files. -/
def fileName : JumpKind → String
  | .undefined => "undefined"
  | .line => "line"
  | .section => "section"
  | .instruction => "instruction"
  | .conditional => "conditional"
  | .choice => "choice"
  | .finish => "end"

def name : JumpKind → String
  | .undefined => "Undefined"
  | .line => "Line"
  | .section => "Section"
  | .instruction => "Instruction"
  | .conditional => "Conditional"
  | .choice => "Choice"
  | .finish => "End"

end JumpKind

/-- An edge of the statement graph. -/
structure Jump where
  kind : JumpKind
  index : Nat
deriving Repr, DecidableEq, Inhabited

namespace Jump

def finish : Jump := ⟨.finish, 0⟩

/-- Undefined jumps end the dialog like final ones. -/
def isFinal (jump : Jump) : Bool := jump.kind = .undefined || jump.kind = .finish

def description (jump : Jump) : String :=
  "GoTo \x7b kind: " ++ jump.kind.name ++ ", index: " ++ toString jump.index ++ " \x7d"

end Jump

/-! ## Statements -/

structure Section where
  name : Option String
  next : Jump
deriving Repr, DecidableEq, Inhabited

/-- A line of text with the instructions and speakers that it refers to. -/
structure LineStatement where
  instructions : List Nat
  next : Jump
  speakers : List Nat
  text : String
deriving Repr, DecidableEq, Inhabited

/-- Runs an instruction; a negative index stands for none. -/
structure InstructionStatement where
  index : Int
  next : Jump
deriving Repr, DecidableEq, Inhabited

namespace InstructionStatement

def instruction? (statement : InstructionStatement) : Option Nat :=
  if statement.index < 0 then none else some statement.index.toNat

end InstructionStatement

/-- Takes the first branch whose instruction statement holds. -/
structure ConditionalStatement where
  branches : List Nat
  next : Jump
deriving Repr, DecidableEq, Inhabited

structure Choice where
  next : Jump
  text : String
  disabled : Bool
deriving Repr, DecidableEq, Inhabited

structure Script where
  speakerIds : List String
  floats : List Float32
  strings : List String
  choices : List Choice
  choiceSets : List Instruction
  sections : List Section
  lines : List LineStatement
  statements : List InstructionStatement
  conditionals : List ConditionalStatement
  instructions : List Instruction
deriving DecidableEq, Inhabited

/-- Why a script or a session refuses to go on. -/
inductive DialogError where
  | noSections
  | sectionNotFound (name : String)
  | danglingJump (jump : Jump)
  | notStarted
  | alreadyStarted
  | closed
  /-- The selected choice is disabled or not among those offered. -/
  | notSelectable (index offered : Nat)
  | emptyChoiceSet (index : Nat)
  | stepLimit (limit : Nat)
  | presenter (message : String)
deriving Repr, DecidableEq

namespace DialogError

def message : DialogError → String
  | noSections => "Script has no sections"
  | sectionNotFound name => "Section " ++ name ++ " not found"
  | danglingJump jump => "Dangling goto " ++ jump.description
  | notStarted => "Dialog session not started"
  | alreadyStarted => "Dialog session has started"
  | closed => "Dialog session closed"
  | notSelectable index offered =>
    "Choice " ++ toString index ++ " is not selectable (offered " ++ toString offered ++ ")"
  | emptyChoiceSet index => "Choice set " ++ toString index ++ " has no choices"
  | stepLimit limit => "Exceeded " ++ toString limit ++ " steps without presenting anything"
  | presenter message => message

end DialogError

namespace Script

def empty : Script := ⟨[], [], [], [], [], [], [], [], [], []⟩

/-- Every script is entered at its first section. -/
def entry : Jump := ⟨.section, 0⟩

/-- The number of statements of a kind; jumps that end the dialog lead to none. -/
def tableSize? (script : Script) : JumpKind → Option Nat
  | .undefined | .finish => none
  | .line => some script.lines.length
  | .section => some script.sections.length
  | .instruction => some script.statements.length
  | .conditional => some script.conditionals.length
  | .choice => some script.choiceSets.length

/-- Whether a jump ends the dialog or leads to an existing statement. -/
def permits (script : Script) (jump : Jump) : Bool :=
  match script.tableSize? jump.kind with
  | none => true
  | some size => jump.index < size

def sectionNamed? (script : Script) (name : String) : Option Nat :=
  script.sections.findIdx? fun part => part.name = some name

def edges (script : Script) : List Jump :=
  script.sections.map (·.next) ++ script.lines.map (·.next) ++ script.statements.map (·.next) ++
    script.conditionals.map (·.next) ++ script.choices.map (·.next)

/-- All branches of conditionals, as jumps to instruction statements. -/
def branches (script : Script) : List Jump :=
  script.conditionals.flatMap fun conditional => conditional.branches.map (⟨.instruction, ·⟩)

/-- The first reason why the script is not valid, if there is one. -/
def fault? (script : Script) : Option DialogError :=
  if script.sections.isEmpty then some .noSections
  else
    ((script.edges ++ script.branches).find? fun jump => !script.permits jump).map
      .danglingJump

/-- Checks that there is a section to start at and that every edge leads somewhere. -/
def validate (script : Script) : Except DialogError Unit :=
  match script.fault? with
  | some error => .error error
  | none => .ok ()

end Script

end Roleplay
