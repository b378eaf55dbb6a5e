import Roleplay.Bridge.Basic
import Roleplay.Script.Basic
import Roleplay.Speaker
import Roleplay.Storage

/-! # The machine that evaluates instructions

What evaluation reads and what it may change, with the single moves it is made of.

* `Scene` is what outlives an evaluation: variables, speakers and the host;
* `Machine` adds the cursor; `Evaluation` is a computation on it;
* `textLiteral`, `getVariable`, `setVariable` and their kin are the moves.

Scripts are authored data: a look-up that fails gives a default value and nothing is aborted.
-/

namespace Roleplay

/-- What evaluation may change. -/
structure Scene (Host : Type) where
  storage : Storage
  speakers : List Speaker
  host : Host

/-- What evaluation only reads. -/
structure Surroundings (Host : Type) where
  script : Script
  bridge : Bridge Host

structure Machine (Host : Type) extends Scene Host where
  cursor : Cursor

abbrev Evaluation (Host : Type) := StateM (Machine Host)

variable {Host : Type}

namespace Evaluation

/-! ## Moving the cursor -/

def move {α : Type} (step : Cursor → α × Cursor) : Evaluation Host α :=
  modifyGet fun machine =>
    let (result, cursor) := step machine.cursor
    (result, { machine with cursor := cursor })

def toEnd : Evaluation Host Unit := move fun cursor => ((), cursor.toEnd)

def skip : Evaluation Host Bool := move Cursor.skip

/-- Skips so many expressions, whether or not the stream holds them. -/
def skipSeveral : Nat → Evaluation Host Unit
  | 0 => pure ()
  | count + 1 => do
    let _ ← skip
    skipSeveral count

/-! ## Literals -/

/-- The string of an index, empty if there is none. -/
def stringAt (script : Script) (index : Option Nat) : String :=
  (index.bind fun place => script.strings[place]?).getD ""

/-- The number of an index, zero if there is none. -/
def floatAt (script : Script) (index : Option Nat) : Float32 :=
  (index.bind fun place => script.floats[place]?).getD 0

def textLiteral (script : Script) : Evaluation Host String := do
  let index ← move Cursor.readTableIndex
  pure (stringAt script index)

def numberLiteral (script : Script) : Evaluation Host Float32 := do
  let index ← move Cursor.readTableIndex
  pure (floatAt script index)

/-! ## Variables -/

/-- The value of a variable: of the host's property if there is one, of storage otherwise. -/
def getVariable (bridge : Bridge Host) (name : String) : Evaluation Host Value :=
  modifyGet fun machine =>
    match bridge.property? name with
    | some property =>
      let (value, host) := property.get machine.host
      (value, { machine with host := host })
    | none => ((machine.storage.get? name).getD .void, machine)

/-- Sets a variable; a read-only property keeps its value. -/
def setVariable (bridge : Bridge Host) (name : String) (value : Value) : Evaluation Host Unit :=
  modify fun machine =>
    match bridge.property? name with
    | some property => { machine with host := (property.set value machine.host).2 }
    | none => { machine with storage := Storage.store machine.storage name value }

def variableType (bridge : Bridge Host) (storage : Storage) (name : String) : VarType :=
  match bridge.property? name with
  | some property => property.type
  | none => ((storage.get? name).map Value.type).getD .void

/-- The type of the expression at the cursor, found without evaluating it. -/
def resultType (surroundings : Surroundings Host) (machine : Machine Host) : VarType :=
  match machine.cursor.peekOperation with
  | none => .void
  | some op =>
    match op.resultType? with
    | some type => type
    | none =>
      let name := stringAt surroundings.script machine.cursor.advance.readTableIndex.1
      if op = .var then variableType surroundings.bridge machine.storage name
      else ((surroundings.bridge.method? name).map Method.result).getD .void

/-! ## Methods and speakers -/

def callMethod (method : Method Host) (arguments : List Value) : Evaluation Host Value :=
  modifyGet fun machine =>
    let (value, host) := method.call arguments machine.host
    (value, { machine with host := host })

/-- Changes one field of a speaker; the global mood changes the current one as well. -/
def setField (field : SpeakerField) (text : String) (speaker : Speaker) : Speaker :=
  match field with
  | .name => { speaker with displayName := text }
  | .portrait => { speaker with portrait := text }
  | .mood => { speaker with mood := text }
  | .globalMood => { speaker with mood := text, globalMood := text }

/-- Changes a speaker if there is one at the index. -/
def setSpeaker (field : SpeakerField) (index : Option Nat) (text : String) :
    Evaluation Host Unit :=
  modify fun machine =>
    match index with
    | some place => { machine with speakers := machine.speakers.modify place (setField field text) }
    | none => machine

end Evaluation

end Roleplay
