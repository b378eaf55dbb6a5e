import Roleplay.Proofs.Evaluation.Frame

/-! # What instructions write

An instruction may be run for its value, as a directive, as a step of the flow or as a choice set.
Each of these evaluates some expressions, perhaps none, from the scene that the ones before it have
left; in between nothing happens to the scene.

* `Purpose.beginnings` lists the machines at which these expressions are evaluated, and
  `Purpose.visits` the cursors that the evaluations visit;
* `Purpose.framed_run` says that nothing else changes but what the expressions change;
* `Purpose.writes_assigned` says which stored values may differ afterwards, and that no more does.
-/

namespace Roleplay

variable {Host α β : Type}

/-! ## Instructions -/

namespace Staging

open Evaluation Scene

variable (surroundings : Surroundings Host)

/-- The machines at which conditions are evaluated while the rest of a choice set is walked, each on
the scene that the conditions before it have left.  The arguments are those of the walk. -/
def conditionsFrom (slot openFrom : Nat) (passed : Bool) :
    List UInt16 → Scene Host → List (Machine Host)
  | [], _ => []
  | entry :: slots, scene =>
    match OpCode.ofCode? entry with
    | some .choice =>
      match slots with
      | [] => []
      | _ :: slots => conditionsFrom (slot + 2) openFrom passed slots scene
    | some .goto =>
      match slots with
      | [] => []
      | target :: slots =>
        let next := if passed then openFrom else max openFrom target.toNat
        conditionsFrom (slot + 2) next false slots scene
    | _ =>
      let condition :=
        if openFrom ≤ slot then surroundings.script.instructions[entry.toNat]? else none
      let (holds, behind) := (Menu.opens surroundings (openFrom ≤ slot) entry).run scene
      (condition.map fun instruction => ⟨scene, Cursor.start instruction⟩).toList ++
        conditionsFrom (slot + 1) openFrom holds slots behind

/-- From the scene, the run leaves everything as it is but the values of the names. -/
def Framed (bridge : Bridge Host) (names : List String) (scene : Scene Host)
    (staging : Staging Host α) : Prop :=
  Frame bridge names scene (staging.run scene).2

variable {surroundings} {bridge : Bridge Host} {names : List String} {scene : Scene Host}

theorem framed_pure {result : α} : Framed bridge names scene (pure result) := .refl

theorem Framed.bind {first : Staging Host α} {next : α → Staging Host β}
    (before : Framed bridge names scene first)
    (after : Framed bridge names (first.run scene).2 (next (first.run scene).1)) :
    Framed bridge names scene (first >>= next) := by
  rw [Framed, StateT.run_bind]
  exact before.trans after

theorem framed_withCursor {cursor : Cursor} {evaluation : Evaluation Host α}
    (framed : Evaluation.Framed bridge names ⟨scene, cursor⟩ evaluation) :
    Framed bridge names scene (withCursor cursor evaluation) := framed.scene

theorem framed_evaluateInstruction {instruction : Instruction}
    (evaluated : Evaluation.Framed bridge names ⟨scene, Cursor.start instruction⟩
      (expression surroundings)) :
    Framed bridge names scene (evaluateInstruction surroundings instruction) :=
  (framed_withCursor evaluated).bind framed_pure

theorem framed_directiveNumber {instruction : Instruction}
    (evaluated : Evaluation.Framed bridge names ⟨scene, (Cursor.start instruction).advance⟩
      (expression surroundings)) :
    Framed bridge names scene (directiveNumber surroundings instruction) :=
  (framed_withCursor (framed_map evaluated Value.toFloat)).bind framed_pure

/-- A condition is evaluated if its slot is open and the script has it. -/
theorem framed_opens {isOpen : Bool} {entry : UInt16}
    (condition : ∀ instruction, isOpen →
      surroundings.script.instructions[entry.toNat]? = some instruction →
      Evaluation.Framed bridge names ⟨scene, Cursor.start instruction⟩ (expression surroundings)) :
    Framed bridge names scene (Menu.opens surroundings isOpen entry) := by
  unfold Menu.opens
  split
  · rename_i isOpen
    unfold conditionHolds
    cases found : surroundings.script.instructions[entry.toNat]? with
    | none => exact framed_pure
    | some instruction =>
      exact (framed_evaluateInstruction (condition instruction isOpen found)).bind framed_pure
  · exact framed_pure

theorem framed_offerFrom {slot openFrom : Nat} {passed : Bool} {slots : List UInt16}
    (conditions : ∀ begun ∈ conditionsFrom surroundings slot openFrom passed slots scene,
      Evaluation.Framed bridge names begun (expression surroundings)) :
    Framed bridge names scene (offerFrom surroundings slot openFrom passed slots) := by
  fun_induction conditionsFrom surroundings slot openFrom passed slots scene with
  | case1 => exact framed_pure
  | case2 slot openFrom passed entry scene found | case4 slot openFrom passed entry scene found =>
    rw [offerFrom, found]
    exact framed_pure
  | case3 slot openFrom passed entry scene found index slots others =>
    rw [offerFrom, found]
    refine (others conditions).bind ?_
    split <;> exact framed_pure
  | case5 slot openFrom passed entry scene found target slots next others =>
    rw [offerFrom, found]
    exact others conditions
  | case6 slot openFrom passed entry slots scene condition holds behind decided noChoice noJump
      others =>
    obtain ⟨own, later⟩ := List.forall_mem_append.1 conditions
    rw [offerFrom_condition noChoice noJump]
    refine Framed.bind (framed_opens fun instruction isOpen found => own _ ?_) ?_
    · simp [condition, of_decide_eq_true isOpen, found]
    · rw [decided]
      exact others later

/-- The conditions of a choice set are instructions of the script. -/
theorem stream_of_mem_conditionsFrom {slot openFrom : Nat} {passed : Bool} {slots : List UInt16}
    {begun : Machine Host}
    (member : begun ∈ conditionsFrom surroundings slot openFrom passed slots scene) :
    begun.cursor.stream ∈ surroundings.script.instructions := by
  fun_induction conditionsFrom surroundings slot openFrom passed slots scene with
  | case1 | case2 | case4 => nomatch member
  | case3 _ _ _ _ _ _ _ _ others | case5 _ _ _ _ _ _ _ _ _ others => exact others member
  | case6 slot openFrom passed entry slots scene condition holds behind decided noChoice noJump
      others =>
    obtain own | later := List.mem_append.1 member
    · obtain ⟨instruction, found, rfl⟩ := Option.map_eq_some_iff.1 (Option.mem_toList.1 own)
      obtain ⟨-, listed⟩ := Option.ite_none_right_eq_some.1 found
      exact List.mem_of_getElem? listed
    · exact others later

end Staging

namespace Purpose

open Evaluation Scene

variable {surroundings : Surroundings Host} {instruction : Instruction} {scene : Scene Host}

/-- The machines at which a run evaluates expressions.  Two kinds of directives and the jumps are
read off their slots, so that nothing is evaluated for them. -/
def beginnings (surroundings : Surroundings Host) (instruction : Instruction) (scene : Scene Host) :
    Purpose → List (Machine Host)
  | value => [⟨scene, Cursor.start instruction⟩]
  | valueAt position => [⟨scene, ⟨instruction, position⟩⟩]
  | directive =>
    match (Cursor.start instruction).peekOperation with
    | some .auto | some .newLine => []
    | some .speed | some .pause => [⟨scene, (Cursor.start instruction).advance⟩]
    | _ => [⟨scene, Cursor.start instruction⟩]
  | flow =>
    match (Cursor.start instruction).peekOperation with
    | some .goto => []
    | _ => [⟨scene, Cursor.start instruction⟩]
  | choices => Staging.conditionsFrom surroundings 0 0 false instruction.toList scene

/-- The streams that a run evaluates: the instruction itself, or the conditions of a choice set. -/
def streams (script : Script) (instruction : Instruction) : Purpose → List Instruction
  | choices => script.instructions
  | _ => [instruction]

/-- The cursors at which a run reads the code of an operation to evaluate it. -/
def visits (surroundings : Surroundings Host) (instruction : Instruction) (scene : Scene Host)
    (purpose : Purpose) : List Cursor :=
  (purpose.beginnings surroundings instruction scene).flatMap
    (Evaluation.visits surroundings maxExpressionLevels)

variable {bridge : Bridge Host} {names : List String}

theorem framed_runDirective
    (begun : ∀ machine ∈ directive.beginnings surroundings instruction scene,
      Framed bridge names machine (expression surroundings)) :
    Staging.Framed bridge names scene (Staging.runDirective surroundings instruction) := by
  unfold beginnings at begun
  unfold Staging.runDirective
  generalize (Cursor.start instruction).peekOperation = peeked at begun ⊢
  cases peeked with
  | none => exact (Staging.framed_evaluateInstruction (begun _ (.head _))).bind Staging.framed_pure
  | some op =>
    cases op
    case auto | newLine => exact Staging.framed_pure
    case speed | pause =>
      exact (Staging.framed_directiveNumber (begun _ (.head _))).bind Staging.framed_pure
    all_goals
      exact (Staging.framed_evaluateInstruction (begun _ (.head _))).bind Staging.framed_pure

theorem framed_runFlow
    (begun : ∀ machine ∈ flow.beginnings surroundings instruction scene,
      Framed bridge names machine (expression surroundings)) :
    Staging.Framed bridge names scene (Staging.runFlow surroundings instruction) := by
  unfold beginnings at begun
  unfold Staging.runFlow
  generalize (Cursor.start instruction).peekOperation = peeked at begun ⊢
  cases peeked with
  | none => exact (Staging.framed_evaluateInstruction (begun _ (.head _))).bind Staging.framed_pure
  | some op =>
    cases op
    case goto => exact Staging.framed_pure
    all_goals
      exact (Staging.framed_evaluateInstruction (begun _ (.head _))).bind Staging.framed_pure

/-- Between the expressions that a run evaluates nothing happens to the scene. -/
theorem framed_run {purpose : Purpose}
    (begun : ∀ machine ∈ purpose.beginnings surroundings instruction scene,
      Framed bridge names machine (expression surroundings)) :
    Staging.Framed bridge names scene (purpose.run surroundings instruction) := by
  cases purpose with
  | value => exact Staging.framed_evaluateInstruction (begun _ (.head _))
  | valueAt position =>
    exact (Staging.framed_withCursor (begun _ (.head _))).bind Staging.framed_pure
  | directive => exact framed_runDirective begun
  | flow => exact framed_runFlow begun
  | choices => exact Staging.framed_offerFrom begun

theorem stream_of_mem_beginnings {purpose : Purpose} {machine : Machine Host}
    (member : machine ∈ purpose.beginnings surroundings instruction scene) :
    machine.cursor.stream ∈ purpose.streams surroundings.script instruction := by
  cases purpose with
  | value | valueAt =>
    obtain rfl := List.mem_singleton.1 member
    exact .head _
  | choices => exact Staging.stream_of_mem_conditionsFrom member
  | directive | flow =>
    rw [beginnings] at member
    split at member
    all_goals first
      | exact absurd member List.not_mem_nil
      | obtain rfl := List.mem_singleton.1 member; exact .head _

/-- Whatever an instruction is run for, on a storage without void values: no variable is removed,
none becomes void, and the speakers are the same ones in the same order.  A variable whose value
differs afterwards is no property of the host, and the name of an assignment that the run came by in
one of its streams. -/
theorem writes_assigned (purpose : Purpose) (surroundings : Surroundings Host)
    (instruction : Instruction) (scene : Scene Host)
    (full : ∀ name, scene.storage.get? name ≠ some .void) :
    let after := ((purpose.run surroundings instruction).run scene).2
    (∀ name, scene.storage.contains name → after.storage.contains name) ∧
      (∀ name, after.storage.get? name ≠ some .void) ∧
      (∀ name, after.storage.get? name ≠ scene.storage.get? name →
        surroundings.bridge.property? name = none ∧
          ∃ cursor ∈ purpose.visits surroundings instruction scene,
            cursor.stream ∈ purpose.streams surroundings.script instruction ∧
              assignedAt surroundings.script cursor = some name) ∧
      after.speakers.map Speaker.speakerId = scene.speakers.map Speaker.speakerId := by
  intro after
  have frame : Frame surroundings.bridge
      ((purpose.visits surroundings instruction scene).filterMap (assignedAt surroundings.script))
      scene after := by
    refine framed_run fun machine member => (framed_evaluate _ machine).mono ?_
    refine List.filterMap_subset _ fun cursor visited => ?_
    exact List.mem_flatMap.2 ⟨machine, member, visited⟩
  refine ⟨frame.keeps, frame.isFull full, fun name changed => ?_, frame.speakers⟩
  obtain ⟨free, named⟩ := frame.changes name changed
  obtain ⟨cursor, visited, assigned⟩ := List.mem_filterMap.1 named
  obtain ⟨machine, member, inside⟩ := List.mem_flatMap.1 visited
  refine ⟨free, cursor, visited, ?_, assigned⟩
  rw [stream_of_mem_visits inside]
  exact stream_of_mem_beginnings member

def greetings : Script := { Script.empty with strings := ["gold", "Ann"], floats := [5] }

/-- Names a speaker, then assigns to a variable whose name the script lacks.  The negation of that
holds, so the assignment to the gold is skipped. -/
def introduction : Instruction :=
  #[OpCode.and.code, OpCode.not.code, (OpCode.setSpeaker .name).code, 0, OpCode.string.code, 1,
    OpCode.or.code, OpCode.not.code, OpCode.assign.code, 7, OpCode.string.code, 1,
    OpCode.assign.code, 0, OpCode.float.code, 0]

theorem writes_assigned_introduction :
    let surroundings : Surroundings Unit := ⟨greetings, .empty⟩
    let scene : Scene Unit := ⟨Storage.store .empty "gold" (.float 1), [Speaker.ofId "ann"], ()⟩
    let after := ((Purpose.value.run surroundings introduction).run scene).2
    (Purpose.value.visits surroundings introduction scene).map Cursor.position =
        [0, 1, 2, 4, 6, 7, 8, 10] ∧
      (∀ name, after.storage.get? name ≠ scene.storage.get? name → name = "") ∧
      after.storage.entries = [("", .string "Ann"), ("gold", .float 1)] ∧
      after.speakers = [⟨"ann", "Ann", "", "", ""⟩] := by
  intro surroundings scene after
  have full : ∀ name, scene.storage.get? name ≠ some .void := by
    intro name
    rw [Storage.get?_store]
    split <;> rintro ⟨⟩
  have assigned : (Purpose.value.visits surroundings introduction scene).filterMap
      (assignedAt greetings) = [""] := by decide +kernel
  obtain ⟨-, -, changes, -⟩ := writes_assigned .value surroundings introduction scene full
  refine ⟨by decide +kernel, fun name changed => ?_, by decide +kernel, by decide +kernel⟩
  obtain ⟨-, cursor, visited, -, named⟩ := changes name changed
  have member := List.mem_filterMap.2 ⟨cursor, visited, named⟩
  exact List.mem_singleton.1 (assigned ▸ member)

end Purpose

end Roleplay
