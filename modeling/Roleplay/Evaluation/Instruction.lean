import Roleplay.Evaluation.Expression

/-! # Running instructions

Whole instructions are run on a scene, in one of four ways: for their value, as a directive of a
line's text, as a step of the dialog's flow, or as a choice set.

* `evaluateInstruction`, `evaluateAt` give the value of an expression, `evaluateRow` of several;
* `runDirective` gives the directive of a text event;
* `runFlow` gives the jump that an instruction computes;
* `offerChoices` gives the choices of a choice set.
-/

namespace Roleplay

/-- What the presentation of a line does at an event. -/
inductive Directive where
  | auto (on : Bool)
  | newLine
  | speed (factor : Float32)
  | pause (seconds : Float32)
deriving DecidableEq

/-- A computation that may change the scene. -/
abbrev Staging (Host : Type) := StateM (Scene Host)

variable {Host : Type}

namespace Staging

/-- Runs an evaluation from a cursor, and returns where it left the cursor. -/
def withCursor {α : Type} (cursor : Cursor) (evaluation : Evaluation Host α) :
    Staging Host (α × Cursor) :=
  modifyGet fun scene =>
    let (result, machine) := evaluation.run ⟨scene, cursor⟩
    ((result, machine.cursor), machine.toScene)

/-! ## Values -/

/-- The value of the expression at a position, and the position behind it. -/
def evaluateAt (surroundings : Surroundings Host) (instruction : Instruction) (position : Nat) :
    Staging Host (Value × Nat) := do
  let (value, cursor) ←
    withCursor ⟨instruction, position⟩ (Evaluation.expression surroundings)
  pure (value, cursor.position)

/-- The values of so many expressions in a row, each with the position behind it. -/
def evaluateRow (surroundings : Surroundings Host) (instruction : Instruction) :
    Nat → Nat → Staging Host (List (Value × Nat))
  | 0, _ => pure []
  | count + 1, position => do
    let (value, position) ← evaluateAt surroundings instruction position
    let others ← evaluateRow surroundings instruction count position
    pure ((value, position) :: others)

def evaluateInstruction (surroundings : Surroundings Host) (instruction : Instruction) :
    Staging Host Value := do
  let (value, _) ← withCursor (Cursor.start instruction) (Evaluation.expression surroundings)
  pure value

/-! ## Directives and flow -/

/-- Runs the operand of a directive as a number. -/
def directiveNumber (surroundings : Surroundings Host) (instruction : Instruction) :
    Staging Host Float32 := do
  let (number, _) ← withCursor (Cursor.start instruction).advance
    (Evaluation.operandFloat (Evaluation.expression surroundings))
  pure number

/-- Runs an instruction at a text event.  Instructions that are no directives are run for what they
change. -/
def runDirective (surroundings : Surroundings Host) (instruction : Instruction) :
    Staging Host (Option Directive) :=
  match (Cursor.start instruction).peekOperation with
  | some .auto => pure (some (.auto ((Cursor.start instruction).advance.read.1.getD 1 != 0)))
  | some .newLine => pure (some .newLine)
  | some .speed => do
    let factor ← directiveNumber surroundings instruction
    pure (some (.speed factor))
  | some .pause => do
    let seconds ← directiveNumber surroundings instruction
    pure (some (.pause seconds))
  | _ => do
    let _ ← evaluateInstruction surroundings instruction
    pure none

/-- The jump written by an instruction: the code of a kind and an index. -/
def writtenJump? (instruction : Instruction) : Option Jump := do
  let code ← instruction[1]?
  let kind ← JumpKind.ofCode? code.toNat
  let index ← instruction[2]?
  some ⟨kind, index.toNat⟩

/-- Runs an instruction statement.  A jump is returned; anything else is run for what it changes. -/
def runFlow (surroundings : Surroundings Host) (instruction : Instruction) :
    Staging Host (Option Jump) :=
  match (Cursor.start instruction).peekOperation with
  | some .goto => pure (writtenJump? instruction)
  | _ => do
    let _ ← evaluateInstruction surroundings instruction
    pure none

/-! ## Choice sets -/

/-- Whether an instruction of the script holds; a missing one does not. -/
def conditionHolds (surroundings : Surroundings Host) (index : Nat) : Staging Host Bool :=
  match surroundings.script.instructions[index]? with
  | some instruction => do
    let value ← evaluateInstruction surroundings instruction
    pure value.toBool
  | none => pure false

/-- Walks the rest of a choice set from `slot` on.  Choices before slot `openFrom` are disabled;
`passed` tells whether the condition right before held.

A choice entry names a choice, a jump entry closes the slots before its target unless the condition
before it held, and any other slot is a condition, which is not evaluated among closed slots. -/
def offerFrom (surroundings : Surroundings Host) (slot openFrom : Nat) (passed : Bool) :
    List UInt16 → Staging Host (List Choice)
  | [] => pure []
  | entry :: slots =>
    match OpCode.ofCode? entry with
    | some .choice =>
      match slots with
      | [] => pure []
      | index :: slots => do
        let others ← offerFrom surroundings (slot + 2) openFrom passed slots
        match surroundings.script.choices[index.toNat]? with
        | some choice => pure ({ choice with disabled := slot < openFrom } :: others)
        | none => pure others
    | some .goto =>
      match slots with
      | [] => pure []
      | target :: slots =>
        offerFrom surroundings (slot + 2) (if passed then openFrom else max openFrom target.toNat)
          false slots
    | _ => do
      let holds ←
        if openFrom ≤ slot then conditionHolds surroundings entry.toNat else pure false
      offerFrom surroundings (slot + 1) openFrom holds slots

def offerChoices (surroundings : Surroundings Host) (choiceSet : Instruction) :
    Staging Host (List Choice) :=
  offerFrom surroundings 0 0 false choiceSet.toList

end Staging

end Roleplay
