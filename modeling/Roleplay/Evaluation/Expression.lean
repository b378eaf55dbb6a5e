import Roleplay.Evaluation.Machine

/-! # Evaluating expressions

`evaluate levels` evaluates the expression at the cursor and leaves the cursor behind it, following
at most so many levels of nested expressions.  Operands are evaluated from left to right.  An
expression that is nested too deep, or whose code is unknown, sends the cursor to the end of the
stream and is void.

`perform` gives the meaning of each operation in terms of the evaluation of one operand, so that
nothing but `evaluate` recurs.
-/

namespace Roleplay

variable {Host : Type}

namespace Evaluation

/-! ## Operands -/

def operandFloat (operand : Evaluation Host Value) : Evaluation Host Float32 := do
  let value ← operand
  pure value.toFloat

def operandBool (operand : Evaluation Host Value) : Evaluation Host Bool := do
  let value ← operand
  pure value.toBool

def operandText (operand : Evaluation Host Value) : Evaluation Host String := do
  let value ← operand
  pure value.toText

def operandTyped (operand : Evaluation Host Value) (type : VarType) : Evaluation Host Value := do
  let value ← operand
  pure (value.coerce type)

/-- Evaluates one operand for each type and converts it. -/
def operandsTyped (operand : Evaluation Host Value) : List VarType → Evaluation Host (List Value)
  | [] => pure []
  | type :: types => do
    let value ← operandTyped operand type
    let values ← operandsTyped operand types
    pure (value :: values)

/-! ## Operations -/

/-- Calls a method.  Its parameters take the arguments in order; surplus arguments are skipped and
missing ones have default values.  All arguments of an unknown method are skipped. -/
def performCall (surroundings : Surroundings Host) (operand : Evaluation Host Value) :
    Evaluation Host Value := do
  let name ← textLiteral surroundings.script
  let slot ← move Cursor.readTableIndex
  let count := slot.getD 0
  match surroundings.bridge.method? name with
  | none =>
    skipSeveral count
    pure .void
  | some method =>
    let given ← operandsTyped operand (method.parameters.take count)
    skipSeveral (count - method.parameters.length)
    callMethod method (given ++ (method.parameters.drop count).map Value.default)

/-- Compares two operands in the type of the first one, which is known before it is evaluated. -/
def performEquality (surroundings : Surroundings Host) (operand : Evaluation Host Value) :
    Evaluation Host Bool := do
  let machine ← get
  match resultType surroundings machine with
  | .void =>
    let left ← operand
    let right ← operand
    pure (left.same right)
  | .float =>
    let left ← operandFloat operand
    let right ← operandFloat operand
    pure (left == right)
  | .bool =>
    let left ← operandBool operand
    let right ← operandBool operand
    pure (left == right)
  | .string =>
    let left ← operandText operand
    let right ← operandText operand
    pure (left == right)

/-- Conjunction; the right operand is skipped if the left one decides. -/
def performAnd (operand : Evaluation Host Value) : Evaluation Host Bool := do
  if ← operandBool operand then operandBool operand
  else
    let _ ← skip
    pure false

/-- Disjunction; the right operand is skipped if the left one decides. -/
def performOr (operand : Evaluation Host Value) : Evaluation Host Bool := do
  if ← operandBool operand then
    let _ ← skip
    pure true
  else operandBool operand

def performAssign (surroundings : Surroundings Host) (operand : Evaluation Host Value) :
    Evaluation Host Unit := do
  let name ← textLiteral surroundings.script
  let value ← operand
  setVariable surroundings.bridge name value

/-- Combines a variable with an operand; the variable is read first. -/
def performUpdate (surroundings : Surroundings Host) (operator : Arithmetic)
    (operand : Evaluation Host Value) : Evaluation Host Unit := do
  let name ← textLiteral surroundings.script
  let current ← getVariable surroundings.bridge name
  let right ← operandFloat operand
  setVariable surroundings.bridge name (.float (operator.apply current.toFloat right))

def performSetSpeaker (field : SpeakerField) (operand : Evaluation Host Value) :
    Evaluation Host Unit := do
  let index ← move Cursor.readTableIndex
  let text ← operandText operand
  setSpeaker field index text

/-- The meaning of an operation whose code has just been read. -/
def perform (surroundings : Surroundings Host) (operand : Evaluation Host Value) :
    OpCode → Evaluation Host Value
  | .undefined | .newLine => pure .void
  | .float => do
    let number ← numberLiteral surroundings.script
    pure (.float number)
  | .string => do
    let text ← textLiteral surroundings.script
    pure (.string text)
  | .bool => do
    let slot ← move Cursor.read
    pure (.bool (slot.getD 0 != 0))
  | .var => do
    let name ← textLiteral surroundings.script
    getVariable surroundings.bridge name
  | .func => performCall surroundings operand
  | .arithmetic operator => do
    let left ← operandFloat operand
    let right ← operandFloat operand
    pure (.float (operator.apply left right))
  | .order test => do
    let left ← operandFloat operand
    let right ← operandFloat operand
    pure (.bool (test.holds left right))
  | .equals => do
    let equal ← performEquality surroundings operand
    pure (.bool equal)
  | .notEquals => do
    let equal ← performEquality surroundings operand
    pure (.bool !equal)
  | .and => do
    let truth ← performAnd operand
    pure (.bool truth)
  | .or => do
    let truth ← performOr operand
    pure (.bool truth)
  | .not => do
    let truth ← operandBool operand
    pure (.bool !truth)
  | .assign => do
    performAssign surroundings operand
    pure .void
  | .update operator => do
    performUpdate surroundings operator operand
    pure .void
  | .goto => do
    let _ ← move Cursor.read
    let _ ← move Cursor.read
    pure .void
  | .choice | .auto => do
    let _ ← move Cursor.read
    pure .void
  | .setSpeaker field => do
    performSetSpeaker field operand
    pure .void
  | .speed | .pause => do
    let _ ← operand
    pure .void

def evaluate (surroundings : Surroundings Host) : Nat → Evaluation Host Value
  | 0 => do
    toEnd
    pure .void
  | levels + 1 => do
    match ← move Cursor.readOperation with
    | some op => perform surroundings (evaluate surroundings levels) op
    | none =>
      toEnd
      pure .void

/-- Evaluates the expression at the cursor with the usual limit on nesting. -/
def expression (surroundings : Surroundings Host) : Evaluation Host Value :=
  evaluate surroundings maxExpressionLevels

end Evaluation

end Roleplay
