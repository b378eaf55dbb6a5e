import Roleplay.Evaluation.Machine

/-! # Recording the calls of the host

A bridge can keep a record of the calls that cross it: the recorded bridge works on the host's state
together with the calls so far, in their order.
-/

namespace Roleplay

/-- A call of the host, with the values that it receives. -/
inductive HostCall where
  | get (name : String)
  | set (name : String) (value : Value)
  | call (name : String) (arguments : List Value)
deriving DecidableEq

/-- A host with the calls that it has received. -/
structure Recorded (Host : Type) where
  host : Host
  calls : List HostCall

variable {Host : Type}

def Property.recorded (name : String) (property : Property Host) : Property (Recorded Host) where
  type := property.type
  getter state :=
    let (value, host) := property.getter state.host
    (value, ⟨host, state.calls ++ [.get name]⟩)
  setter := property.setter.map fun set value state =>
    ⟨set value state.host, state.calls ++ [.set name value]⟩

def Method.recorded (name : String) (method : Method Host) : Method (Recorded Host) where
  parameters := method.parameters
  result := method.result
  body arguments state :=
    let (value, host) := method.body arguments state.host
    (value, ⟨host, state.calls ++ [.call name arguments]⟩)

def Bridge.recorded (bridge : Bridge Host) : Bridge (Recorded Host) :=
  ⟨bridge.properties.mapValues Property.recorded, bridge.methods.mapValues Method.recorded⟩

def Surroundings.recorded (surroundings : Surroundings Host) : Surroundings (Recorded Host) :=
  ⟨surroundings.script, surroundings.bridge.recorded⟩

def Scene.recorded (scene : Scene Host) : Scene (Recorded Host) :=
  ⟨scene.storage, scene.speakers, ⟨scene.host, []⟩⟩

end Roleplay
