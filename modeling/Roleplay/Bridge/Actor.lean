import Roleplay.Bridge.Basic
import Roleplay.Stats.Operation

/-! # Actors on the bridge

What a script sees of an actor: its health as a property, and methods for its stats and effects.

* `Bridge.insertActor` registers, for a name such as `player`, the property `player_hp` and the
  methods `player_stat`, `player_has_effect` and `player_add_effect`.

The bridge reaches the actor through the operations that its host performs.
-/

namespace Roleplay

variable {Host : Type}

/-- How a host performs an operation on one of its actors. -/
abbrev ActorAccess (Host : Type) := Operation → Host → Response × Host

namespace Response

/-- The number of a response, zero if it holds none. -/
def toNumber : Response → Float32
  | .number n => n
  | _ => 0

/-- The truth of a response: an outcome is true unless it is an error. -/
def toTruth : Response → Bool
  | .truth holds => holds
  | .outcome (.ok _) => true
  | _ => false

end Response

namespace Bridge

/-- The text of the first argument, empty if there is none. -/
def firstText (arguments : List Value) : String := (arguments.head?.map Value.toText).getD ""

/-- A method of one text whose result is a truth value. -/
def effectMethod (access : ActorAccess Host) (operation : String → Operation) : Method Host :=
  ⟨[.string], .bool, fun arguments host =>
    let (response, host) := access (operation (firstText arguments)) host
    (.bool response.toTruth, host)⟩

/-- The value of a stat by name; an unknown name has the value zero. -/
def statMethod (access : ActorAccess Host) : Method Host :=
  ⟨[.string], .float, fun arguments host =>
    match Stat.ofName? (firstText arguments) with
    | some stat =>
      let (response, host) := access (.calculate stat false) host
      (.float response.toNumber, host)
    | none => (.float 0, host)⟩

def insertActor (bridge : Bridge Host) (name : String) (access : ActorAccess Host) :
    Bridge Host :=
  (((bridge.insertFloat (name ++ "_hp")
      (fun host => let (response, host) := access .hp host; (response.toNumber, host))
      (fun hp host => (access (.setHp hp) host).2)).insertMethod
    (name ++ "_stat") (statMethod access)).insertMethod
    (name ++ "_has_effect") (effectMethod access .hasEffect)).insertMethod
    (name ++ "_add_effect") (effectMethod access .addEffect)

end Bridge

end Roleplay
