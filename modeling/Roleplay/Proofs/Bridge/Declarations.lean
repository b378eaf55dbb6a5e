import Roleplay.Proofs.Bridge.Recording
import Roleplay.Proofs.Evaluation.Agreement

/-! # What crosses the bridge is as declared

Whatever instruction is run, well formed or not, the host is called with values of the types that it
has declared: a method with one value for each of its parameters, a setter with a value of its
property's type.

* `Bridge.Declares` says so of a call;
* `Scene.IsRecordOf` relates a run on the recorded bridge with the run itself, and
  `likeness_isRecordOf` says that the moves keep it;
* `Purpose.calls_declared` is the statement for instructions.
-/

namespace Roleplay

open Evaluation

variable {Host : Type} {bridge : Bridge Host} {name : String}

/-! ## The recorded bridge -/

theorem Bridge.property?_recorded : bridge.recorded.property? name =
    (bridge.property? name).map (Property.recorded name) :=
  Dictionary.get?_mapValues

theorem Bridge.method?_recorded : bridge.recorded.method? name =
    (bridge.method? name).map (Method.recorded name) :=
  Dictionary.get?_mapValues

/-- Whether a call names what the bridge has, with values of the declared types. -/
def Bridge.Declares (bridge : Bridge Host) : HostCall → Prop
  | .get name => ∃ property, bridge.property? name = some property
  | .set name value => ∃ property, bridge.property? name = some property ∧
      property.isReadOnly = false ∧ value.type = property.type
  | .call name arguments => ∃ method, bridge.method? name = some method ∧
      arguments.map Value.type = method.parameters

namespace Scene

/-- The scene without the record. -/
def unrecorded (scene : Scene (Recorded Host)) : Scene Host :=
  ⟨scene.storage, scene.speakers, scene.host.host⟩

/-- Recording has changed nothing but the record, which holds declared calls only. -/
structure IsRecordOf (bridge : Bridge Host) (scene : Scene (Recorded Host)) (plain : Scene Host) :
    Prop where
  same : plain = scene.unrecorded
  declared : ∀ call ∈ scene.host.calls, bridge.Declares call

variable {scene : Scene (Recorded Host)} {plain : Scene Host}

theorem isRecordOf_recorded (scene : Scene Host) : scene.recorded.IsRecordOf bridge scene :=
  ⟨rfl, fun _ member => (nomatch member)⟩

/-- One more declared call on the record. -/
theorem IsRecordOf.snoc (record : scene.IsRecordOf bridge plain) {call : HostCall}
    (declared : bridge.Declares call) (host : Host) :
    IsRecordOf bridge { scene with host := ⟨host, scene.host.calls ++ [call]⟩ }
      { plain with host := host } := by
  obtain ⟨rfl, all⟩ := record
  refine ⟨rfl, fun other member => ?_⟩
  rcases List.mem_append.1 member with old | new
  · exact all other old
  · exact List.mem_singleton.1 new ▸ declared

end Scene

open Scene

/-! ## The moves -/

theorem alike_getVariable : Alike (IsRecordOf bridge) (getVariable bridge.recorded name)
    (getVariable bridge name) := by
  rintro cursor scene _ ⟨rfl, declared⟩
  have record : scene.IsRecordOf bridge scene.unrecorded := ⟨rfl, declared⟩
  cases found : bridge.property? name <;>
    simp only [getVariable, StateT.run_modifyGet, Bridge.property?_recorded, found]
  case none => exact ⟨rfl, rfl, record⟩
  case some property =>
    have known : bridge.Declares (.get name) := ⟨property, found⟩
    exact ⟨rfl, rfl, record.snoc known _⟩

theorem alike_setVariable {value : Value} : Alike (IsRecordOf bridge)
    (setVariable bridge.recorded name value) (setVariable bridge name value) := by
  rintro cursor scene _ ⟨rfl, declared⟩
  have record : scene.IsRecordOf bridge scene.unrecorded := ⟨rfl, declared⟩
  cases found : bridge.property? name <;>
    simp only [setVariable, StateT.run_modify, Bridge.property?_recorded, found]
  case none => exact ⟨rfl, rfl, rfl, declared⟩
  case some property =>
    obtain ⟨type, getter, setter⟩ := property
    cases setter with
    | none => exact ⟨rfl, rfl, record⟩
    | some set =>
      -- the value is converted before it crosses the bridge
      have typed : bridge.Declares (.set name (value.coerce type)) :=
        ⟨_, found, rfl, Value.type_coerce⟩
      exact ⟨rfl, rfl, record.snoc typed _⟩

theorem callsAlike_recorded {method : Method Host} (found : bridge.method? name = some method) :
    CallsAlike (IsRecordOf bridge) (method.recorded name) method := by
  refine ⟨rfl, rfl, fun arguments types => ?_⟩
  rintro cursor scene _ ⟨rfl, declared⟩
  have record : scene.IsRecordOf bridge scene.unrecorded := ⟨rfl, declared⟩
  have typed : bridge.Declares (.call name arguments) := ⟨method, found, types⟩
  exact ⟨rfl, rfl, record.snoc typed _⟩

theorem alike_setSpeaker {field : SpeakerField} {index : Option Nat} {text : String} :
    Alike (IsRecordOf bridge) (setSpeaker field index text) (setSpeaker field index text) := by
  rintro cursor scene _ ⟨rfl, declared⟩
  cases index <;> exact ⟨rfl, rfl, rfl, declared⟩

theorem likeness_isRecordOf {script : Script} :
    Likeness script bridge.recorded bridge (IsRecordOf bridge) where
  variableType name scene plain := by
    rintro ⟨rfl, -⟩
    rw [variableType, variableType, Bridge.property?_recorded]
    cases bridge.property? name <;> rfl
  method name := by
    rw [Bridge.method?_recorded]
    cases found : bridge.method? name with
    | none => exact .none
    | some method => exact .some (callsAlike_recorded found)
  get _ := alike_getVariable
  set _ _ := alike_setVariable
  speaker _ _ _ := alike_setSpeaker

/-! ## Instructions -/

/-- On any stream, whatever it is run for, recording changes neither the result nor the scene, and
every call on the record is as the bridge declares it: what is read is a property, what is set is a
property that is not read-only, to a value of its type, and a method receives one argument for each
of its parameters, each of the parameter's type. -/
theorem Purpose.calls_declared (purpose : Purpose) (surroundings : Surroundings Host)
    (instruction : Instruction) (scene : Scene Host) :
    let ran := (purpose.run surroundings instruction).run scene
    let recorded := (purpose.run surroundings.recorded instruction).run scene.recorded
    recorded.1 = ran.1 ∧ recorded.2.unrecorded = ran.2 ∧
      ∀ call ∈ recorded.2.host.calls, surroundings.bridge.Declares call := by
  have start : scene.recorded.IsRecordOf surroundings.bridge scene := isRecordOf_recorded scene
  obtain ⟨same, record⟩ := likeness_isRecordOf.run instruction purpose _ _ start
  exact ⟨same.symm, record.same.symm, record.declared⟩

/-- A host that greets somebody so many times. -/
def greeter : Bridge Unit :=
  Bridge.empty.insertMethod "greet" ⟨[.string, .float], .void, fun _ host => (.void, host)⟩

/-- The stream promises three arguments and breaks off behind the first. -/
example :
    let script : Script := { Script.empty with strings := ["greet", "Ayla"] }
    let instruction : Instruction := #[OpCode.func.code, 0, 3, OpCode.string.code, 1]
    let run := (Purpose.value.run (Surroundings.recorded ⟨script, greeter⟩) instruction).run
    (run (Scene.recorded ⟨.empty, [], ()⟩)).2.host.calls =
      [.call "greet" [.string "Ayla", .float 0]] := by
  decide +kernel

end Roleplay
