import Roleplay.Proofs.Bridge.Recording
import Roleplay.Proofs.Evaluation.Interpretation

/-! # Evaluation follows the trees

Evaluating the slots of a tree gives what interpreting the tree gives, and leaves the cursor right
behind the slots.

* `Consumes` relates an evaluation to the slots that it reads and to what it does to the scene;
  `Consumes.bind` joins two such facts;
* `consumes_evaluate` says that evaluating the slots of a tree is interpreting the tree;
* `evaluateAt_encode` says it of a tree inside a stream, with the calls of the host.
-/

namespace Roleplay

variable {Host : Type}

namespace Evaluation

/-- On a stream that continues with the slots, the evaluation does to the scene what the action
does, gives the same result and moves the cursor past the slots. -/
def Consumes {α : Type} (slots : List UInt16) (evaluation : Evaluation Host α)
    (action : Staging Host α) : Prop :=
  ∀ (scene : Scene Host) (cursor : Cursor), cursor.Reads slots →
    evaluation.run ⟨scene, cursor⟩ =
      ((action.run scene).1, ⟨(action.run scene).2, cursor.advanceBy slots.length⟩)

variable {α β : Type} {first second : List UInt16} {surroundings : Surroundings Host}
  {operand : Evaluation Host Value}

/-! ## Joining -/

theorem consumes_pure {result : α} :
    Consumes [] (pure result : Evaluation Host α) (pure result) :=
  fun _ _ _ => rfl

theorem Consumes.bind {evaluation : Evaluation Host α} {action : Staging Host α}
    {next : α → Evaluation Host β} {following : α → Staging Host β}
    (consumes : Consumes first evaluation action)
    (continues : ∀ result, Consumes second (next result) (following result)) :
    Consumes (first ++ second) (evaluation >>= next) (action >>= following) := by
  intro scene cursor reads
  -- what the first one reads lies before what the second one reads
  have start := consumes scene cursor reads.left
  have rest := continues (action.run scene).1 (action.run scene).2 _ reads.right
  rw [StateT.run_bind, start]
  refine rest.trans ?_
  rw [Cursor.advanceBy_advanceBy, ← List.length_append]
  rfl

/-- Joining when the first result is known. -/
theorem Consumes.bind_known {evaluation : Evaluation Host α} {result : α}
    {next : α → Evaluation Host β} {following : Staging Host β}
    (consumes : Consumes first evaluation (pure result))
    (continues : Consumes second (next result) following) :
    Consumes (first ++ second) (evaluation >>= next) following := by
  intro scene cursor reads
  rw [StateT.run_bind, consumes scene cursor reads.left]
  refine (continues scene _ reads.right).trans ?_
  rw [Cursor.advanceBy_advanceBy, ← List.length_append]

/-- Joining with what reads no slots. -/
theorem Consumes.bind_nil {evaluation : Evaluation Host α} {action : Staging Host α}
    {next : α → Evaluation Host β} {following : α → Staging Host β}
    (consumes : Consumes first evaluation action)
    (continues : ∀ result, Consumes [] (next result) (following result)) :
    Consumes first (evaluation >>= next) (action >>= following) := by
  have joined := consumes.bind continues
  rwa [List.append_nil] at joined

theorem Consumes.then_pure {evaluation : Evaluation Host α} {action : Staging Host α}
    (consumes : Consumes first evaluation action) (result : α → β) :
    Consumes first (do let value ← evaluation; pure (result value))
      (do let value ← action; pure (result value)) :=
  consumes.bind_nil fun _ => consumes_pure

/-! ## Literals and moves -/

theorem consumes_read {slot : UInt16} :
    Consumes [slot] (move Cursor.read : Evaluation Host _) (pure (some slot)) := by
  intro scene cursor reads
  simp only [move, StateT.run_modifyGet, Cursor.read_of_reads reads]
  rfl

theorem consumes_readTableIndex {slot : UInt16} :
    Consumes [slot] (move Cursor.readTableIndex : Evaluation Host _) (pure (some slot.toNat)) := by
  intro scene cursor reads
  simp only [move, StateT.run_modifyGet, Cursor.readTableIndex_of_reads reads]
  rfl

theorem consumes_textLiteral {slot : UInt16} :
    Consumes [slot] (textLiteral surroundings.script : Evaluation Host String)
      (pure (surroundings.text slot)) :=
  consumes_readTableIndex.bind_known consumes_pure

theorem consumes_numberLiteral {slot : UInt16} :
    Consumes [slot] (numberLiteral surroundings.script : Evaluation Host Float32)
      (pure (surroundings.number slot)) :=
  consumes_readTableIndex.bind_known consumes_pure

theorem consumes_getVariable {name : String} :
    Consumes [] (getVariable surroundings.bridge name)
      (Staging.readVariable surroundings.bridge name) := by
  intro scene cursor _
  cases found : surroundings.bridge.property? name <;>
    simp only [getVariable, Staging.readVariable, StateT.run_modifyGet, found] <;> rfl

theorem consumes_setVariable {name : String} {value : Value} :
    Consumes [] (setVariable surroundings.bridge name value)
      (Staging.writeVariable surroundings.bridge name value) := by
  intro scene cursor _
  cases found : surroundings.bridge.property? name <;>
    simp only [setVariable, Staging.writeVariable, StateT.run_modify, found] <;> rfl

theorem consumes_callMethod (method : Method Host) (arguments : List Value) :
    Consumes [] (callMethod method arguments) (Staging.invoke method arguments) :=
  fun _ _ _ => rfl

theorem consumes_setSpeaker {field : SpeakerField} {place : Nat} {text : String} :
    Consumes [] (setSpeaker field (some place) text : Evaluation Host Unit)
      (Staging.changeSpeaker field place text) :=
  fun _ _ _ => rfl

theorem consumes_skip {tree : Expression} (encodable : tree.IsEncodable)
    (within : tree.levels ≤ maxExpressionLevels) :
    Consumes tree.encode (skip : Evaluation Host Bool) (pure true) := by
  intro scene cursor reads
  simp only [skip, move, StateT.run_modifyGet, Cursor.skip_of_reads encodable within reads]
  rfl

theorem consumes_skipSeveral {trees : List Expression}
    (skippable : ∀ tree ∈ trees, tree.IsEncodable ∧ tree.levels ≤ maxExpressionLevels) :
    Consumes (Expression.encodeAll trees) (skipSeveral trees.length : Evaluation Host Unit)
      (pure ()) := by
  induction trees with
  | nil => exact consumes_pure
  | cons tree trees inductionHypothesis =>
    have head := skippable tree (by simp)
    have others := inductionHypothesis fun other member =>
      skippable other (List.mem_cons_of_mem _ member)
    exact (consumes_skip head.1 head.2).bind_known others

/-! ## Operations -/

theorem resultType_of_reads {tree : Expression} {scene : Scene Host} {cursor : Cursor}
    (reads : cursor.Reads tree.encode) :
    resultType surroundings ⟨scene, cursor⟩ = tree.resultType surroundings scene := by
  rw [tree.encode_eq] at reads
  have operation := Cursor.peekOperation_of_reads reads
  simp only [resultType, operation]
  cases tree with
  | var name =>
    have nameRead := Cursor.readTableIndex_of_reads reads.tail
    exact congrArg (fun read => variableType surroundings.bridge scene.storage
      (stringAt surroundings.script read.1)) nameRead
  | func name arguments =>
    have nameRead := Cursor.readTableIndex_of_reads reads.tail
    exact congrArg (fun read => ((surroundings.bridge.method?
      (stringAt surroundings.script read.1)).map Method.result).getD .void) nameRead
  | _ => rfl

/-- The type of the left operand is found before it is evaluated, so the scene is read first. -/
theorem consumes_performEquality {left right : Expression}
    (leftConsumes : Consumes left.encode operand (left.interpret surroundings))
    (rightConsumes : Consumes right.encode operand (right.interpret surroundings)) :
    Consumes (left.encode ++ right.encode) (performEquality surroundings operand) (do
      let scene ← get
      let type := left.resultType surroundings scene
      let left ← left.interpret surroundings
      let right ← right.interpret surroundings
      pure (left.sameAs type right)) := by
  intro scene cursor reads
  -- the comparison is joined for any type, the type itself depends on the scene at the start
  have joined (type : VarType) := (leftConsumes.bind fun left =>
    rightConsumes.then_pure fun right => left.sameAs type right) scene cursor reads
  have type : resultType surroundings ⟨scene, cursor⟩ = left.resultType surroundings scene :=
    resultType_of_reads reads.left
  simp only [performEquality, StateT.run_bind, StateT.run_get, pure_bind, type]
  have outcome := joined (left.resultType surroundings scene)
  -- all types read both operands in the same order, and differ in the coercion only
  cases known : left.resultType surroundings scene <;> rw [known] at outcome <;>
    simp only [operandFloat, operandBool, operandText, bind_assoc, pure_bind] <;>
    exact outcome

theorem consumes_operands {parameters : List VarType} {arguments : List Expression}
    (skippable : ∀ tree ∈ arguments, tree.IsEncodable ∧ tree.levels ≤ maxExpressionLevels)
    (operands : ∀ tree ∈ arguments,
      Consumes tree.encode operand (tree.interpret surroundings)) :
    Consumes (Expression.encodeAll arguments) (do
      let given ← operandsTyped operand (parameters.take arguments.length)
      skipSeveral (arguments.length - parameters.length)
      pure (given ++ (parameters.drop arguments.length).map Value.default))
      (Expression.interpretArguments surroundings parameters arguments) := by
  induction arguments generalizing parameters with
  | nil =>
    -- parameters may be left, and defaults stand in for their arguments
    cases parameters <;>
      simpa [operandsTyped, skipSeveral, Expression.interpretArguments]
        using consumes_pure
  | cons argument arguments inductionHypothesis =>
    cases parameters with
    | nil =>
      -- surplus arguments are not evaluated, so their trees are skipped
      have skipped : Consumes (Expression.encodeAll (argument :: arguments))
          (do skipSeveral (argument :: arguments).length; pure [] : Evaluation Host (List Value))
          (pure []) := (consumes_skipSeveral skippable).bind_nil fun _ => consumes_pure
      simpa [operandsTyped, Expression.interpretArguments] using skipped
    | cons type types =>
      have others (types : List VarType) := @inductionHypothesis types
        (fun tree member => skippable tree (List.mem_cons_of_mem _ member))
        (fun tree member => operands tree (List.mem_cons_of_mem _ member))
      have joined := (operands argument (by simp)).bind fun value =>
        (others types).then_pure fun values => value.coerce type :: values
      simpa [operandsTyped, operandTyped, Expression.interpretArguments]
        using joined

theorem consumes_performCall {name : UInt16} {arguments : List Expression}
    (few : arguments.length ≤ 65535)
    (skippable : ∀ tree ∈ arguments, tree.IsEncodable ∧ tree.levels ≤ maxExpressionLevels)
    (operands : ∀ tree ∈ arguments,
      Consumes tree.encode operand (tree.interpret surroundings)) :
    Consumes ([name] ++ ([UInt16.ofNat arguments.length] ++ Expression.encodeAll arguments))
      (performCall surroundings operand)
      ((Expression.func name arguments).interpret surroundings) := by
  -- the number of arguments comes back from its slot
  have count : (UInt16.ofNat arguments.length).toNat = arguments.length :=
    UInt16.toNat_ofNat_of_lt' (Nat.lt_succ_of_le few)
  refine consumes_textLiteral.bind_known (consumes_readTableIndex.bind_known ?_)
  simp only [Option.getD_some, count]
  cases found : surroundings.bridge.method? (surroundings.text name) with
  | none =>
    -- a method that is not registered skips all arguments
    have skipped : Consumes (Expression.encodeAll arguments)
        (do skipSeveral arguments.length; pure .void : Evaluation Host Value) (pure .void) :=
      (consumes_skipSeveral skippable).bind_nil fun _ => consumes_pure
    simpa [Expression.interpret, found] using skipped
  | some method =>
    have given := @consumes_operands _ _ _ method.parameters _ skippable operands
    have joined := given.bind_nil fun values => consumes_callMethod method values
    simpa [Expression.interpret, found] using joined

theorem consumes_performAnd {left right : Expression}
    (skippable : right.IsEncodable ∧ right.levels ≤ maxExpressionLevels)
    (leftConsumes : Consumes left.encode operand (left.interpret surroundings))
    (rightConsumes : Consumes right.encode operand (right.interpret surroundings)) :
    Consumes (left.encode ++ right.encode) (performAnd operand) (do
      let left ← left.interpret surroundings
      if left.toBool then do
        let right ← right.interpret surroundings
        pure right.toBool
      else pure false) := by
  simp only [performAnd, operandBool, bind_assoc, pure_bind]
  -- the right operand is either evaluated or skipped; both move past the same slots
  refine leftConsumes.bind fun left => ?_
  split
  · exact rightConsumes.then_pure Value.toBool
  · exact (consumes_skip skippable.1 skippable.2).then_pure fun _ => false

theorem consumes_performOr {left right : Expression}
    (skippable : right.IsEncodable ∧ right.levels ≤ maxExpressionLevels)
    (leftConsumes : Consumes left.encode operand (left.interpret surroundings))
    (rightConsumes : Consumes right.encode operand (right.interpret surroundings)) :
    Consumes (left.encode ++ right.encode) (performOr operand) (do
      let left ← left.interpret surroundings
      if left.toBool then pure true
      else do
        let right ← right.interpret surroundings
        pure right.toBool) := by
  simp only [performOr, operandBool, bind_assoc, pure_bind]
  refine leftConsumes.bind fun left => ?_
  split
  · exact (consumes_skip skippable.1 skippable.2).then_pure fun _ => true
  · exact rightConsumes.then_pure Value.toBool

theorem consumes_performAssign (name : UInt16) {part : Expression}
    (consumes : Consumes part.encode operand (part.interpret surroundings)) :
    Consumes ([name] ++ part.encode) (performAssign surroundings operand) (do
      let value ← part.interpret surroundings
      Staging.writeVariable surroundings.bridge (surroundings.text name) value) :=
  consumes_textLiteral.bind_known (consumes.bind_nil fun _ => consumes_setVariable)

theorem consumes_performUpdate (operator : Arithmetic) (name : UInt16) {part : Expression}
    (consumes : Consumes part.encode operand (part.interpret surroundings)) :
    Consumes ([name] ++ part.encode) (performUpdate surroundings operator operand) (do
      let current ← Staging.readVariable surroundings.bridge (surroundings.text name)
      let value ← part.interpret surroundings
      Staging.writeVariable surroundings.bridge (surroundings.text name)
        (.float (operator.apply current.toFloat value.toFloat))) := by
  simp only [performUpdate, operandFloat, bind_assoc, pure_bind]
  -- the variable is read before the operand is evaluated
  refine consumes_textLiteral.bind_known (consumes_getVariable.bind fun _ => ?_)
  exact consumes.bind_nil fun _ => consumes_setVariable

theorem consumes_performSetSpeaker (field : SpeakerField) (speaker : UInt16) {part : Expression}
    (consumes : Consumes part.encode operand (part.interpret surroundings)) :
    Consumes ([speaker] ++ part.encode) (performSetSpeaker field operand) (do
      let value ← part.interpret surroundings
      Staging.changeSpeaker field speaker.toNat value.toText) := by
  simp only [performSetSpeaker, operandText, bind_assoc, pure_bind]
  refine consumes_readTableIndex.bind_known ?_
  exact consumes.bind_nil fun _ => consumes_setSpeaker

/-! ## Trees -/

/-- An operation does with its operands what its tree does. -/
theorem consumes_perform {tree : Expression} (encodable : tree.IsEncodable)
    (within : tree.levels ≤ maxExpressionLevels)
    (operands : ∀ part ∈ tree.operands, Consumes part.encode operand (part.interpret surroundings)) :
    Consumes (tree.slots ++ Expression.encodeAll tree.operands)
      (perform surroundings operand tree.operation) (tree.interpret surroundings) := by
  -- an operand that is skipped has to be within the same limits as the tree
  have skippable : ∀ part ∈ tree.operands,
      part.IsEncodable ∧ part.levels ≤ maxExpressionLevels := fun part member =>
    ⟨encodable.of_mem_operands member,
      Nat.le_trans (Nat.le_of_lt (Expression.levels_lt_of_mem_operands member)) within⟩
  cases tree with
  | undefined | newLine => exact consumes_pure
  | float index => exact consumes_numberLiteral.then_pure Value.float
  | string index => exact consumes_textLiteral.then_pure Value.string
  | bool slot => exact consumes_read.then_pure fun slot => Value.bool (slot.getD 0 != 0)
  | var name => exact consumes_textLiteral.bind_known consumes_getVariable
  | func name arguments => exact consumes_performCall encodable.1 skippable operands
  | arithmetic operator left right =>
    have joined := (operands left (by simp)).bind fun left =>
      (operands right (by simp)).then_pure fun right =>
        Value.float (operator.apply left.toFloat right.toFloat)
    simpa [perform, operandFloat, Expression.interpret] using joined
  | order test left right =>
    have joined := (operands left (by simp)).bind fun left =>
      (operands right (by simp)).then_pure fun right =>
        Value.bool (test.holds left.toFloat right.toFloat)
    simpa [perform, operandFloat, Expression.interpret] using joined
  | equals left right =>
    have joined := (consumes_performEquality (operands left (by simp))
      (operands right (by simp))).then_pure fun equal => Value.bool equal
    simpa [perform, Expression.interpret] using joined
  | notEquals left right =>
    have joined := (consumes_performEquality (operands left (by simp))
      (operands right (by simp))).then_pure fun equal => Value.bool !equal
    simpa [perform, Expression.interpret] using joined
  | and left right =>
    have joined := (consumes_performAnd (skippable right (by simp))
      (operands left (by simp))
      (operands right (by simp))).then_pure Value.bool
    simpa [perform, Expression.interpret, apply_ite] using joined
  | or left right =>
    have joined := (consumes_performOr (skippable right (by simp))
      (operands left (by simp))
      (operands right (by simp))).then_pure Value.bool
    simpa [perform, Expression.interpret, apply_ite] using joined
  | not part =>
    have joined := (operands part (by simp)).then_pure fun value =>
      Value.bool !value.toBool
    simpa [perform, operandBool, Expression.interpret] using joined
  | assign name part =>
    have joined := (consumes_performAssign name (operands part (by simp))).then_pure
      fun _ => Value.void
    simpa [perform, Expression.interpret] using joined
  | update operator name part =>
    have joined := (consumes_performUpdate operator name (operands part (by simp))).then_pure
      fun _ => Value.void
    simpa [perform, Expression.interpret] using joined
  | setSpeaker field speaker part =>
    have joined := (consumes_performSetSpeaker field speaker (operands part (by simp))).then_pure
      fun _ => Value.void
    simpa [perform, Expression.interpret] using joined
  | speed part | pause part =>
    have joined := (operands part (by simp)).then_pure fun _ => Value.void
    simpa [perform, Expression.interpret] using joined
  | goto kind index =>
    exact consumes_read.bind_known (consumes_read.bind_known consumes_pure)
  | choice index | auto index => exact consumes_read.bind_known consumes_pure

/-- Evaluating the slots of a tree is interpreting the tree. -/
theorem consumes_evaluate {levels : Nat} (enough : levels ≤ maxExpressionLevels)
    {tree : Expression} (encodable : tree.IsEncodable) (within : tree.levels ≤ levels) :
    Consumes tree.encode (evaluate surroundings levels) (tree.interpret surroundings) := by
  -- on the levels that are left, since the evaluator does not recurse on trees
  induction levels generalizing tree with
  | zero => exact absurd within (by rw [tree.levels_eq]; omega)
  | succ levels inductionHypothesis =>
    have operands : ∀ part ∈ tree.operands,
        Consumes part.encode (evaluate surroundings levels) (part.interpret surroundings) := by
      intro part member
      have shallower := Expression.levels_lt_of_mem_operands member
      exact inductionHypothesis (by omega) (encodable.of_mem_operands member) (by omega)
    have performed := consumes_perform encodable (by omega) operands
    intro scene cursor reads
    rw [tree.encode_eq] at reads ⊢
    have operation := Cursor.readOperation_of_reads reads
    have rest := performed scene _ reads.tail
    simp only [evaluate, move, StateT.run_bind, StateT.run_modifyGet, operation]
    refine rest.trans ?_
    rw [Cursor.advanceBy_advanceBy, List.length_cons, Nat.add_comm 1]

end Evaluation

namespace Staging

variable {surroundings : Surroundings Host}

theorem evaluateAt_of_encodable {tree : Expression} (encodable : tree.IsEncodable)
    (within : tree.levels ≤ maxExpressionLevels) {before after : List UInt16} {scene : Scene Host} :
    (evaluateAt surroundings (before ++ tree.encode ++ after).toArray before.length).run scene =
      let outcome := (tree.interpret surroundings).run scene
      ((outcome.1, before.length + tree.encode.length), outcome.2) := by
  have reads : Cursor.Reads ⟨(before ++ tree.encode ++ after).toArray, before.length⟩ tree.encode :=
    Cursor.reads_of_append
  have evaluated := @Evaluation.consumes_evaluate Host surroundings maxExpressionLevels
    (Nat.le_refl _) tree encodable within scene _ reads
  simp only [evaluateAt, withCursor, StateT.run_bind, StateT.run_modifyGet,
    Evaluation.expression, evaluated]
  rfl

/-- Evaluating a tree inside a stream, from its first slot on, gives the value and the scene that
interpreting the tree gives, after the same calls of the host, and ends right behind the tree. -/
theorem evaluateAt_encode {tree : Expression} (encodable : tree.IsEncodable)
    (within : tree.levels ≤ maxExpressionLevels) (surroundings : Surroundings Host)
    (before after : List UInt16) (scene : Scene Host) :
    let stream := (before ++ tree.encode ++ after).toArray
    let outcome := (tree.interpret surroundings).run scene
    (evaluateAt surroundings stream before.length).run scene =
        ((outcome.1, before.length + tree.encode.length), outcome.2) ∧
      ((evaluateAt surroundings.recorded stream before.length).run scene.recorded).2.host.calls =
        ((tree.interpret surroundings.recorded).run scene.recorded).2.host.calls := by
  refine ⟨evaluateAt_of_encodable encodable within, ?_⟩
  -- the recorded host is a host like any other, so the statement for it is the same one
  rw [evaluateAt_of_encodable encodable within]

/-! ### An offer in a shop -/

def shopScript : Script :=
  { Script.empty with floats := [3.5], strings := ["mood", "calm", "trade"] }

/-- A host that counts how often it was asked to trade. -/
def shopBridge : Bridge Nat :=
  Bridge.empty.insertMethod "trade" ⟨[.float], .bool, fun _ count => (.bool true, count + 1)⟩

/-- Is the mood calm, or else, is a trade agreed on?  The call has a surplus argument, which is an
assignment. -/
def shopTree : Expression :=
  .or (.equals (.var 0) (.string 1)) (.func 2 [.float 0, .assign 0 (.string 1)])

theorem evaluateAt_shopTree :
    (shopTree.IsEncodable ∧ shopTree.levels ≤ maxExpressionLevels) ∧
      (evaluateAt ⟨shopScript, shopBridge⟩ ([7] ++ shopTree.encode ++ [9]).toArray 1).run
          ⟨Dictionary.empty, [], 0⟩ = ((.bool true, 16), ⟨Dictionary.empty, [], 1⟩) ∧
      ((evaluateAt (Surroundings.recorded ⟨shopScript, shopBridge⟩)
        ([7] ++ shopTree.encode ++ [9]).toArray 1).run
          (Scene.recorded ⟨Dictionary.empty, [], 0⟩)).2.host.calls =
        [.call "trade" [.float 3.5]] := by
  have encodable : shopTree.IsEncodable := by
    simp [shopTree, Expression.IsEncodable, Expression.AreEncodable]
  have within : shopTree.levels ≤ maxExpressionLevels := by decide
  have evaluated := evaluateAt_encode encodable within ⟨shopScript, shopBridge⟩ [7] [9]
    ⟨Dictionary.empty, [], 0⟩
  exact ⟨⟨encodable, within⟩, evaluated.1, evaluated.2⟩

end Staging

end Roleplay
