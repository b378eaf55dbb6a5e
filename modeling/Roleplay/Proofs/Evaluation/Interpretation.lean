import Roleplay.Evaluation.Instruction
import Roleplay.Proofs.Instruction.Expression

/-! # Interpreting expression trees

The meaning of an expression tree, by recursion on the tree: there is no cursor, and an operand
that does not count is not looked at.

* `Expression.resultType` is the type of a tree that is known before it is evaluated;
* `Expression.interpret` evaluates a tree on a scene, its operands from left to right.
-/

namespace Roleplay

variable {Host : Type}

/-- Equality in a type: both values are converted first, unless the type is void. -/
def Value.sameAs (type : VarType) (left right : Value) : Bool :=
  match type with
  | .void => left.same right
  | type => (left.coerce type).same (right.coerce type)

/-! ## What a tree may do to a scene -/

namespace Surroundings

def text (surroundings : Surroundings Host) (index : UInt16) : String :=
  Evaluation.stringAt surroundings.script (some index.toNat)

def number (surroundings : Surroundings Host) (index : UInt16) : Float32 :=
  Evaluation.floatAt surroundings.script (some index.toNat)

end Surroundings

namespace Staging

/-- Reads a property of the host, or else a stored variable. -/
def readVariable (bridge : Bridge Host) (name : String) : Staging Host Value :=
  modifyGet fun scene =>
    match bridge.property? name with
    | some property =>
      let (value, host) := property.get scene.host
      (value, { scene with host := host })
    | none => ((scene.storage.get? name).getD .void, scene)

/-- Writes a property of the host, or else a stored variable. -/
def writeVariable (bridge : Bridge Host) (name : String) (value : Value) : Staging Host Unit :=
  modify fun scene =>
    match bridge.property? name with
    | some property => { scene with host := (property.set value scene.host).2 }
    | none => { scene with storage := Storage.store scene.storage name value }

def invoke (method : Method Host) (arguments : List Value) : Staging Host Value :=
  modifyGet fun scene =>
    let (value, host) := method.call arguments scene.host
    (value, { scene with host := host })

def changeSpeaker (field : SpeakerField) (place : Nat) (text : String) : Staging Host Unit :=
  modify fun scene =>
    { scene with speakers := scene.speakers.modify place (Evaluation.setField field text) }

end Staging

namespace Expression

/-- The type of a tree's value, as far as it is known beforehand: a variable has the type of what
it holds now, a call has the declared type of its method. -/
def resultType (surroundings : Surroundings Host) (scene : Scene Host) (tree : Expression) :
    VarType :=
  match tree with
  | var name =>
    Evaluation.variableType surroundings.bridge scene.storage (surroundings.text name)
  | func name _ =>
    ((surroundings.bridge.method? (surroundings.text name)).map Method.result).getD .void
  | tree => tree.operation.resultType?.getD .void

mutual

def interpret (surroundings : Surroundings Host) : Expression → Staging Host Value
  | undefined | newLine | goto _ _ | choice _ | auto _ => pure .void
  | float index => pure (.float (surroundings.number index))
  | string index => pure (.string (surroundings.text index))
  | bool slot => pure (.bool (slot != 0))
  | var name => Staging.readVariable surroundings.bridge (surroundings.text name)
  | func name arguments =>
    match surroundings.bridge.method? (surroundings.text name) with
    | none => pure .void
    | some method => do
      let values ← interpretArguments surroundings method.parameters arguments
      Staging.invoke method values
  | arithmetic operator left right => do
    let left ← left.interpret surroundings
    let right ← right.interpret surroundings
    pure (.float (operator.apply left.toFloat right.toFloat))
  | order test left right => do
    let left ← left.interpret surroundings
    let right ← right.interpret surroundings
    pure (.bool (test.holds left.toFloat right.toFloat))
  | equals left right => do
    let scene ← get
    let type := left.resultType surroundings scene
    let left ← left.interpret surroundings
    let right ← right.interpret surroundings
    pure (.bool (left.sameAs type right))
  | notEquals left right => do
    let scene ← get
    let type := left.resultType surroundings scene
    let left ← left.interpret surroundings
    let right ← right.interpret surroundings
    pure (.bool !(left.sameAs type right))
  | and left right => do
    let left ← left.interpret surroundings
    if left.toBool then
      let right ← right.interpret surroundings
      pure (.bool right.toBool)
    else pure (.bool false)
  | or left right => do
    let left ← left.interpret surroundings
    if left.toBool then pure (.bool true)
    else
      let right ← right.interpret surroundings
      pure (.bool right.toBool)
  | not operand => do
    let value ← operand.interpret surroundings
    pure (.bool !value.toBool)
  | assign name operand => do
    let value ← operand.interpret surroundings
    Staging.writeVariable surroundings.bridge (surroundings.text name) value
    pure .void
  | update operator name operand => do
    let current ← Staging.readVariable surroundings.bridge (surroundings.text name)
    let value ← operand.interpret surroundings
    Staging.writeVariable surroundings.bridge (surroundings.text name)
      (.float (operator.apply current.toFloat value.toFloat))
    pure .void
  | setSpeaker field speaker operand => do
    let value ← operand.interpret surroundings
    Staging.changeSpeaker field speaker.toNat value.toText
    pure .void
  | speed operand | pause operand => do
    let _ ← operand.interpret surroundings
    pure .void

/-- The arguments for some parameters: each in the type of its parameter, a missing one by default,
a surplus one not at all. -/
def interpretArguments (surroundings : Surroundings Host) :
    List VarType → List Expression → Staging Host (List Value)
  | [], _ => pure []
  | type :: types, [] => pure ((type :: types).map Value.default)
  | type :: types, argument :: arguments => do
    let value ← argument.interpret surroundings
    let values ← interpretArguments surroundings types arguments
    pure (value.coerce type :: values)

end

end Expression

end Roleplay
