import Roleplay.Proofs.Bridge.Declarations

/-! # Properties shadow variables

A name that stands for a property of the bridge never reaches storage, neither to be read nor to be
written, nor to find out the type of an expression.

* `Bridge.Shadows` says which names these are;
* `Scene.Beside` relates two runs whose storages may differ under such names, and `likeness_beside`
  says that the moves keep it;
* `Purpose.properties_shadow_storage` is the statement for instructions.
-/

namespace Roleplay

open Evaluation

variable {Host : Type} {bridge : Bridge Host} {name : String}

/-! ## Shadowed names -/

/-- Whether the name stands for a property, so that a variable of this name cannot be seen. -/
def Bridge.Shadows (bridge : Bridge Host) (name : String) : Prop :=
  (bridge.property? name).isSome = true

instance : Decidable (bridge.Shadows name) := inferInstanceAs (Decidable (_ = true))

theorem Bridge.not_shadows : ¬bridge.Shadows name ↔ bridge.property? name = none := by
  rw [Bridge.Shadows, Bool.not_eq_true, Option.isSome_eq_false_iff, Option.isNone_iff_eq_none]

theorem Bridge.shadows_recorded : bridge.recorded.Shadows name ↔ bridge.Shadows name := by
  rw [Bridge.Shadows, Bridge.Shadows, Bridge.property?_recorded, Option.isSome_map]

namespace Storage

variable {storage storage' : Storage} {value : Value}

/-- The storages agree on every name that is not shadowed. -/
def AgreeBeside (bridge : Bridge Host) (storage storage' : Storage) : Prop :=
  ∀ name, ¬bridge.Shadows name → storage'.get? name = storage.get? name

/-- The second storage has the entries of the first one under every name that is shadowed. -/
def KeepsShadowed (bridge : Bridge Host) (start storage : Storage) : Prop :=
  ∀ name, bridge.Shadows name → storage.get? name = start.get? name

theorem AgreeBeside.store (agree : AgreeBeside bridge storage storage') (name : String)
    (value : Value) :
    AgreeBeside bridge (storage.store name value) (storage'.store name value) := by
  intro other visible
  rw [get?_store, get?_store, agree other visible]

theorem KeepsShadowed.store {start : Storage} (keeps : KeepsShadowed bridge start storage)
    (visible : ¬bridge.Shadows name) : KeepsShadowed bridge start (storage.store name value) := by
  intro other shadowed
  have different : name ≠ other := fun same => visible (same ▸ shadowed)
  rw [get?_store, if_neg fun stored => different stored.1]
  exact keeps other shadowed

end Storage

/-! ## Two runs -/

open Storage

namespace Scene

/-- The scenes differ at most in what their storages hold under shadowed names, and there each
storage holds what it held at the start. -/
structure Beside (bridge : Bridge Host) (start start' : Storage) (scene scene' : Scene Host) :
    Prop where
  speakers : scene'.speakers = scene.speakers
  host : scene'.host = scene.host
  agree : AgreeBeside bridge scene.storage scene'.storage
  keeps : KeepsShadowed bridge start scene.storage
  keeps' : KeepsShadowed bridge start' scene'.storage

variable {start start' storage storage' : Storage} {speakers : List Speaker} {host : Host}

/-- Neither the host nor the speakers matter for how the storages are related. -/
theorem Beside.change
    (beside : Beside bridge start start' ⟨storage, speakers, host⟩ ⟨storage', speakers, host⟩)
    (speakers : List Speaker) (host : Host) :
    Beside bridge start start' ⟨storage, speakers, host⟩ ⟨storage', speakers, host⟩ :=
  ⟨rfl, rfl, beside.agree, beside.keeps, beside.keeps'⟩

theorem Beside.store
    (beside : Beside bridge start start' ⟨storage, speakers, host⟩ ⟨storage', speakers, host⟩)
    (visible : ¬bridge.Shadows name) (value : Value) :
    Beside bridge start start' ⟨storage.store name value, speakers, host⟩
      ⟨storage'.store name value, speakers, host⟩ :=
  ⟨rfl, rfl, beside.agree.store name value, beside.keeps.store visible,
    beside.keeps'.store visible⟩

end Scene

/-! ## The moves -/

namespace Scene

variable {start start' : Storage}

theorem Beside.variableType {scene scene' : Scene Host}
    (beside : scene.Beside bridge start start' scene') (name : String) :
    variableType bridge scene'.storage name = variableType bridge scene.storage name := by
  cases found : bridge.property? name with
  | none =>
    simp only [Evaluation.variableType, found, beside.agree name (Bridge.not_shadows.2 found)]
  | some property => simp only [Evaluation.variableType, found]

theorem alike_getVariable_beside :
    Alike (Beside bridge start start') (getVariable bridge name) (getVariable bridge name) := by
  rintro cursor ⟨storage, speakers, host⟩ ⟨storage', _, _⟩ beside
  obtain ⟨rfl, rfl, agree, -, -⟩ := id beside
  cases found : bridge.property? name <;>
    simp only [getVariable, StateT.run_modifyGet, found]
  case none =>
    exact ⟨congrArg (Option.getD · .void) (agree name (Bridge.not_shadows.2 found)), rfl, beside⟩
  case some property => exact ⟨rfl, rfl, beside.change _ _⟩

theorem alike_setVariable_beside {value : Value} :
    Alike (Beside bridge start start') (setVariable bridge name value)
      (setVariable bridge name value) := by
  rintro cursor ⟨storage, speakers, host⟩ ⟨storage', _, _⟩ beside
  obtain ⟨rfl, rfl, -, -, -⟩ := id beside
  cases found : bridge.property? name <;>
    simp only [setVariable, StateT.run_modify, found]
  case none => exact ⟨rfl, rfl, beside.store (Bridge.not_shadows.2 found) value⟩
  case some property => exact ⟨rfl, rfl, beside.change _ _⟩

theorem callsAlike_beside {method : Method Host} :
    CallsAlike (Beside bridge start start') method method := by
  refine ⟨rfl, rfl, fun arguments types => ?_⟩
  rintro cursor ⟨storage, speakers, host⟩ ⟨storage', _, _⟩ beside
  obtain ⟨rfl, rfl, -, -, -⟩ := id beside
  exact ⟨rfl, rfl, beside.change _ _⟩

theorem alike_setSpeaker_beside {field : SpeakerField} {index : Option Nat} {text : String} :
    Alike (Beside bridge start start') (setSpeaker field index text)
      (setSpeaker field index text) := by
  rintro cursor ⟨storage, speakers, host⟩ ⟨storage', _, _⟩ beside
  obtain ⟨rfl, rfl, -, -, -⟩ := id beside
  cases index <;> exact ⟨rfl, rfl, beside.change _ _⟩

theorem likeness_beside {script : Script} :
    Likeness script bridge bridge (Beside bridge start start') where
  variableType name _ _ beside := beside.variableType name
  method name := by
    cases bridge.method? name with
    | none => exact .none
    | some method => exact .some callsAlike_beside
  get _ := alike_getVariable_beside
  set _ _ := alike_setVariable_beside
  speaker _ _ _ := alike_setSpeaker_beside

end Scene

/-! ## Instructions -/

open Scene

/-- Whatever an instruction is run for, two storages that agree on every name but those of
properties give the same result, the same speakers, the same host and the same record of its calls.
The storages agree on the other names again, and under the names of properties each holds what it
held before. -/
theorem Purpose.properties_shadow_storage (purpose : Purpose) (surroundings : Surroundings Host)
    (instruction : Instruction) (scene : Scene Host) (storage : Storage)
    (agree : AgreeBeside surroundings.bridge scene.storage storage) :
    let run := (purpose.run surroundings.recorded instruction).run
    let ran := run scene.recorded
    let ran' := run { scene with storage := storage }.recorded
    ran'.1 = ran.1 ∧ ran'.2.speakers = ran.2.speakers ∧ ran'.2.host = ran.2.host ∧
      AgreeBeside surroundings.bridge ran.2.storage ran'.2.storage ∧
      KeepsShadowed surroundings.bridge scene.storage ran.2.storage ∧
      KeepsShadowed surroundings.bridge storage ran'.2.storage := by
  have start : Beside surroundings.bridge.recorded scene.storage storage scene.recorded
      { scene with storage := storage }.recorded :=
    ⟨rfl, rfl, fun name visible => agree name (visible ∘ Bridge.shadows_recorded.2),
      fun _ _ => rfl, fun _ _ => rfl⟩
  obtain ⟨same, finish⟩ := likeness_beside.run instruction purpose _ _ start
  exact ⟨same, finish.speakers, finish.host,
    fun name visible => finish.agree name (visible ∘ Bridge.shadows_recorded.1),
    fun name shadowed => finish.keeps name (Bridge.shadows_recorded.2 shadowed),
    fun name shadowed => finish.keeps' name (Bridge.shadows_recorded.2 shadowed)⟩

/-- A host with a title. -/
def titled : Bridge String :=
  Bridge.empty.insertText "title" (fun title => (title, title)) fun title _ => title

def titles : Script := { Script.empty with strings := ["title", "king", "rank"] }

/-- Unless the title is king, the rank becomes what the title is, and the title becomes king. -/
def coronation : Instruction :=
  #[OpCode.or.code, OpCode.equals.code, OpCode.var.code, 0, OpCode.string.code, 1,
    OpCode.or.code, OpCode.assign.code, 2, OpCode.var.code, 0,
    OpCode.assign.code, 0, OpCode.string.code, 1]

/-- The storages disagree on the title, which the instruction compares, reads and writes. -/
theorem Purpose.properties_shadow_storage_coronation :
    let crowned : Storage := Storage.store .empty "title" (.string "king")
    let plain : Storage := Storage.store .empty "title" (.bool true)
    let run := (Purpose.value.run (Surroundings.recorded ⟨titles, titled⟩) coronation).run
    let ran := run (Scene.recorded ⟨plain, [], "beggar"⟩)
    let ran' := run (Scene.recorded ⟨crowned, [], "beggar"⟩)
    AgreeBeside titled plain crowned ∧ ran'.1 = ran.1 ∧
      ran'.2.host.calls = [.get "title", .get "title", .set "title" (.string "king")] ∧
      ran.2.storage.entries = [("rank", .string "beggar"), ("title", .bool true)] ∧
      ran'.2.storage.entries = [("rank", .string "beggar"), ("title", .string "king")] := by
  intro crowned plain run ran ran'
  have agree : AgreeBeside titled plain crowned := by
    intro name visible
    have different : "title" ≠ name := fun same => visible (same ▸ by decide)
    rw [get?_store, get?_store, if_neg fun stored => different stored.1,
      if_neg fun stored => different stored.1]
  have same := (Purpose.properties_shadow_storage .value ⟨titles, titled⟩ coronation
    ⟨plain, [], "beggar"⟩ crowned agree).1
  exact ⟨agree, same, by decide +kernel, by decide +kernel, by decide +kernel⟩

end Roleplay
