import Roleplay.Evaluation.Expression

/-! # The type of an expression before it is evaluated

A comparison converts its operands into the type of the first one.  That type has to be known before
the operand is evaluated, so it is taken from the code under the cursor, or from what the name that
follows stands for; the operands are not looked at.  Evaluation then keeps to it.

* `HasType` says that all results of an evaluation are of one type;
* `hasType_perform` covers the operations whose code decides, `type_getVariable` and
  `type_performCall` the ones whose name does;
* `type_evaluate` puts them together for every stream, whether or not it holds an expression;
* `resultType_sound` adds that a comparison leaves its first operand as it is.
-/

namespace Roleplay

namespace Evaluation

variable {Host α : Type} {surroundings : Surroundings Host} {operand : Evaluation Host Value}

/-! ## Operations whose code decides -/

/-- The result is of the type, whatever the evaluation starts from. -/
def HasType (evaluation : Evaluation Host Value) (type : VarType) : Prop :=
  ∀ machine, (evaluation.run machine).1.type = type

theorem hasType_pure {value : Value} : HasType (pure value : Evaluation Host Value) value.type :=
  fun _ => rfl

/-- Only what comes last decides the type. -/
theorem hasType_bind {first : Evaluation Host α} {next : α → Evaluation Host Value} {type : VarType}
    (last : ∀ result, HasType (next result) type) : HasType (first >>= next) type := by
  intro machine
  rw [StateT.run_bind]
  exact last _ _

theorem hasType_perform {op : OpCode} {type : VarType} (decided : op.resultType? = some type) :
    HasType (perform surroundings operand op) type := by
  cases op
  case var | func => nomatch decided
  -- every operation that does not refer to a name ends in a value that it builds itself
  all_goals cases decided
  case undefined | newLine => exact hasType_pure
  case arithmetic | order | goto =>
    exact hasType_bind fun _ => hasType_bind fun _ => hasType_pure
  all_goals exact hasType_bind fun _ => hasType_pure

/-! ## Operations whose name decides -/

theorem type_getVariable {bridge : Bridge Host} {name : String} {machine : Machine Host} :
    ((getVariable bridge name).run machine).1.type = variableType bridge machine.storage name := by
  unfold getVariable variableType
  cases bridge.property? name with
  | some property => exact Property.type_get
  | none =>
    change ((machine.storage.get? name).getD .void).type = _
    cases machine.storage.get? name <;> rfl

theorem fst_run_textLiteral {script : Script} {machine : Machine Host} :
    ((textLiteral script).run machine).1 = stringAt script machine.cursor.readTableIndex.1 := rfl

/-- A call has the method's declared result type, however many arguments the stream holds; the call
of an unknown method is void. -/
theorem type_performCall {machine : Machine Host} :
    ((performCall surroundings operand).run machine).1.type =
      ((surroundings.bridge.method?
        (stringAt surroundings.script machine.cursor.readTableIndex.1)).map Method.result).getD
          .void := by
  unfold performCall
  rw [StateT.run_bind]
  refine hasType_bind (fun slot => ?_) _
  rw [fst_run_textLiteral]
  cases surroundings.bridge.method?
      (stringAt surroundings.script machine.cursor.readTableIndex.1) with
  | none => exact hasType_bind fun _ => hasType_pure
  | some method =>
    exact hasType_bind fun _ => hasType_bind fun _ => fun _ => Method.type_call

/-! ## Every expression -/

/-- An operation that has just been read gives a value of the type that was reported before it was
read. -/
theorem type_perform {op : OpCode} {machine : Machine Host}
    (peeked : machine.cursor.peekOperation = some op) :
    ((perform surroundings operand op).run { machine with cursor := machine.cursor.advance }).1.type
      = resultType surroundings machine := by
  unfold resultType
  rw [peeked]
  dsimp only
  cases decided : op.resultType? with
  | some type => exact hasType_perform decided _
  | none =>
    cases op with
    | var => exact type_getVariable
    | func => exact type_performCall
    | _ => nomatch decided

theorem run_evaluate_of_peek {levels : Nat} {op : OpCode} {machine : Machine Host}
    (peeked : machine.cursor.peekOperation = some op) :
    (evaluate surroundings (levels + 1)).run machine =
      (perform surroundings (evaluate surroundings levels) op).run
        { machine with cursor := machine.cursor.advance } := by
  simp only [evaluate, move, StateT.run_bind, StateT.run_modifyGet, Cursor.readOperation, peeked]
  rfl

theorem run_evaluate_of_unknown {levels : Nat} {machine : Machine Host}
    (unknown : machine.cursor.peekOperation = none) :
    (evaluate surroundings (levels + 1)).run machine =
      (.void, { machine with cursor := machine.cursor.toEnd }) := by
  simp only [evaluate, move, StateT.run_bind, StateT.run_modifyGet, Cursor.readOperation, unknown]
  rfl

/-- While levels are left, every expression evaluates to a value of the type that is reported for it
in advance.  A slot that holds no operation's code is reported as void, and evaluates to void. -/
theorem type_evaluate (levels : Nat) (machine : Machine Host) :
    ((evaluate surroundings (levels + 1)).run machine).1.type =
      resultType surroundings machine := by
  cases peeked : machine.cursor.peekOperation with
  | none => rw [run_evaluate_of_unknown peeked, resultType, peeked, Value.type]
  | some op => rw [run_evaluate_of_peek peeked, type_perform peeked]

/-! ## Comparisons -/

/-- Compares two operands without converting the first one: the second is converted into the type
that the first one turns out to have, unless it has none. -/
def compareAsFirst (operand : Evaluation Host Value) : Evaluation Host Bool := do
  let left ← operand
  let right ← operand
  pure (left.same (if left.isVoid then right else right.coerce left.type))

/-- If the reported types are right, each of the four ways to compare is this one. -/
theorem performEquality_eq
    (sound : ∀ machine, (operand.run machine).1.type = resultType surroundings machine) :
    performEquality surroundings operand = compareAsFirst operand := by
  funext machine
  have reported := sound machine
  -- the first operand is evaluated once, so that both sides can be compared for its value
  obtain ⟨⟨left, next⟩, ran⟩ : ∃ ran, operand.run machine = ran := ⟨_, rfl⟩
  rw [ran] at reported
  change (performEquality surroundings operand).run machine = (compareAsFirst operand).run machine
  simp only [performEquality, compareAsFirst, operandFloat, operandBool, operandText,
    StateT.run_bind, StateT.run_get, pure_bind, ← reported]
  cases left <;> simp only [Value.type, StateT.run_bind, ran] <;> rfl

/-- The type that is reported for an expression, before anything of it is evaluated, is the type of
the value that it then has.  So a comparison of two operands never converts the first one. -/
theorem resultType_sound (surroundings : Surroundings Host) (levels : Nat) :
    (∀ machine, ((evaluate surroundings (levels + 1)).run machine).1.type =
      resultType surroundings machine) ∧
    performEquality surroundings (evaluate surroundings (levels + 1)) =
      compareAsFirst (evaluate surroundings (levels + 1)) :=
  ⟨type_evaluate levels, performEquality_eq (type_evaluate levels)⟩

end Evaluation

end Roleplay
