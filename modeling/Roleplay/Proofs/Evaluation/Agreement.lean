import Roleplay.Proofs.Evaluation.Menu

/-! # Evaluating alike

The same instruction, evaluated on two scenes that need not be equal, nor have the same host.  All
that evaluation does to a scene it does by a handful of moves: it reads and writes variables, calls
methods and changes speakers.  If these moves keep some relation between the scenes, and give the
same results on related scenes, so does every evaluation.

* `Evaluation.Alike` says so of two evaluations from the same cursor, `Staging.Alike` of two
  computations on scenes;
* `Likeness` lists what a relation has to offer;
* `Likeness.perform` and `Likeness.evaluate`: what the moves keep, operations and expressions keep;
* `Purpose` lists what an instruction may be run for, and `Likeness.run` is the statement for all of
  them.
-/

namespace Roleplay

variable {First Second α β : Type} {relation : Scene First → Scene Second → Prop}

/-! ## Computations that run alike -/

namespace Evaluation

/-- Both runs have the same result and the same cursor, and the scenes behind them are related. -/
structure Match (relation : Scene First → Scene Second → Prop) (ran : α × Machine First)
    (ran' : α × Machine Second) : Prop where
  result : ran'.1 = ran.1
  cursor : ran'.2.cursor = ran.2.cursor
  scenes : relation ran.2.toScene ran'.2.toScene

theorem Match.eq {ran : α × Machine First} {ran' : α × Machine Second}
    (matched : Match relation ran ran') : ran' = (ran.1, ⟨ran'.2.toScene, ran.2.cursor⟩) :=
  Prod.ext matched.result (congrArg (Machine.mk ran'.2.toScene) matched.cursor)

/-- From one cursor and from related scenes, both run in the same way. -/
def Alike (relation : Scene First → Scene Second → Prop) (first : Evaluation First α)
    (second : Evaluation Second α) : Prop :=
  ∀ cursor scene scene', relation scene scene' →
    Match relation (first.run ⟨scene, cursor⟩) (second.run ⟨scene', cursor⟩)

theorem alike_pure {result : α} : Alike relation (pure result) (pure result) :=
  fun _ _ _ related => ⟨rfl, rfl, related⟩

/-- What follows has to run alike only for the results that the first part can have. -/
theorem Alike.bind {first : Evaluation First α} {second : Evaluation Second α}
    {next : α → Evaluation First β} {next' : α → Evaluation Second β}
    (alike : Alike relation first second)
    (continues : ∀ machine, Alike relation (next (first.run machine).1)
      (next' (first.run machine).1)) :
    Alike relation (first >>= next) (second >>= next') := by
  intro cursor scene scene' related
  have matched := alike cursor scene scene' related
  rw [StateT.run_bind, StateT.run_bind, matched.eq]
  exact continues ⟨scene, cursor⟩ _ _ _ matched.scenes

theorem alike_move {step : Cursor → α × Cursor} : Alike relation (move step) (move step) :=
  fun _ _ _ related => ⟨rfl, rfl, related⟩

theorem alike_skipSeveral (count : Nat) :
    Alike relation (skipSeveral count) (skipSeveral count) := by
  induction count with
  | zero => exact alike_pure
  | succ count inductionHypothesis => exact alike_move.bind fun _ => inductionHypothesis

theorem alike_textLiteral {script : Script} :
    Alike relation (textLiteral script) (textLiteral script) :=
  alike_move.bind fun _ => alike_pure

theorem alike_numberLiteral {script : Script} :
    Alike relation (numberLiteral script) (numberLiteral script) :=
  alike_move.bind fun _ => alike_pure

/-! ## Operands -/

section Operands

variable {operand : Evaluation First Value} {operand' : Evaluation Second Value}
  (operands : Alike relation operand operand')

include operands

theorem Alike.map (result : Value → α) :
    Alike relation (do let value ← operand; pure (result value))
      (do let value ← operand'; pure (result value)) :=
  operands.bind fun _ => alike_pure

theorem alike_operandsTyped (types : List VarType) :
    Alike relation (operandsTyped operand types) (operandsTyped operand' types) := by
  induction types with
  | nil => exact alike_pure
  | cons type types inductionHypothesis =>
    exact (operands.map fun value => value.coerce type).bind fun _ =>
      inductionHypothesis.bind fun _ => alike_pure

theorem alike_pair (left right : Value → α) (result : α → α → β) :
    Alike relation
      (do let leftValue ← operand; let rightValue ← operand
          pure (result (left leftValue) (right rightValue)))
      (do let leftValue ← operand'; let rightValue ← operand'
          pure (result (left leftValue) (right rightValue))) :=
  operands.bind fun _ => operands.bind fun _ => alike_pure

theorem alike_performAnd : Alike relation (performAnd operand) (performAnd operand') := by
  refine (operands.map Value.toBool).bind fun machine => ?_
  split
  · exact operands.map Value.toBool
  · exact alike_move.bind fun _ => alike_pure

theorem alike_performOr : Alike relation (performOr operand) (performOr operand') := by
  refine (operands.map Value.toBool).bind fun machine => ?_
  split
  · exact alike_move.bind fun _ => alike_pure
  · exact operands.map Value.toBool

end Operands

/-- Operands that are converted have the types that they are converted into. -/
theorem type_operandsTyped {Host : Type} {operand : Evaluation Host Value} (types : List VarType)
    (machine : Machine Host) :
    ((operandsTyped operand types).run machine).1.map Value.type = types := by
  induction types generalizing machine with
  | nil => rfl
  | cons type types inductionHypothesis =>
    exact List.cons_eq_cons.2 ⟨Value.type_coerce, inductionHypothesis _⟩

/-- The arguments of a call, evaluated as far as they are given and by default otherwise, have the
types of the parameters. -/
theorem type_arguments {Host : Type} {operand : Evaluation Host Value}
    (parameters : List VarType) (count : Nat) (machine : Machine Host) :
    (((operandsTyped operand (parameters.take count)).run machine).1 ++
      (parameters.drop count).map Value.default).map Value.type = parameters := by
  have defaults : Value.type ∘ Value.default = id := funext fun _ => Value.type_default
  rw [List.map_append, type_operandsTyped, List.map_map, defaults, List.map_id,
    List.take_append_drop]

end Evaluation

/-! ## What a relation has to offer -/

open Evaluation

/-- Two methods with the same declaration, which run alike on arguments of the declared types. -/
structure CallsAlike (relation : Scene First → Scene Second → Prop) (method : Method First)
    (method' : Method Second) : Prop where
  parameters : method'.parameters = method.parameters
  result : method'.result = method.result
  call : ∀ arguments : List Value, arguments.map Value.type = method.parameters →
    Alike relation (callMethod method arguments) (callMethod method' arguments)

/-- Whatever a single move reads on related scenes is the same, and the scenes that it leaves are
related again. -/
structure Likeness (script : Script) (bridge : Bridge First) (bridge' : Bridge Second)
    (relation : Scene First → Scene Second → Prop) : Prop where
  variableType : ∀ name scene scene', relation scene scene' →
    variableType bridge' scene'.storage name = variableType bridge scene.storage name
  method : ∀ name,
    Option.Rel (CallsAlike relation) (bridge.method? name) (bridge'.method? name)
  get : ∀ name, Alike relation (getVariable bridge name) (getVariable bridge' name)
  set : ∀ name value,
    Alike relation (setVariable bridge name value) (setVariable bridge' name value)
  speaker : ∀ field index text, Alike relation (setSpeaker field index text)
    (setSpeaker field index text)

namespace Likeness

variable {script : Script} {bridge : Bridge First} {bridge' : Bridge Second}
  (likeness : Likeness script bridge bridge' relation)

include likeness

theorem methodResult (name : String) :
    (bridge'.method? name).map Method.result = (bridge.method? name).map Method.result := by
  have paired := likeness.method name
  generalize bridge.method? name = method at paired ⊢
  generalize bridge'.method? name = method' at paired ⊢
  cases paired with
  | none => rfl
  | some calls => exact congrArg some calls.result

/-- The type of the expression at the cursor is the same on both scenes. -/
theorem resultType {cursor : Cursor} {scene : Scene First} {scene' : Scene Second}
    (related : relation scene scene') :
    Evaluation.resultType ⟨script, bridge'⟩ ⟨scene', cursor⟩ =
      Evaluation.resultType ⟨script, bridge⟩ ⟨scene, cursor⟩ := by
  simp only [Evaluation.resultType, likeness.methodResult, likeness.variableType _ _ _ related]

/-! ## Operations -/

section Operations

variable {operand : Evaluation First Value} {operand' : Evaluation Second Value}
  (operands : Alike relation operand operand')

include operands

/-- A method receives arguments of the declared types, however many the stream holds. -/
theorem performCall :
    Alike relation (Evaluation.performCall ⟨script, bridge⟩ operand)
      (Evaluation.performCall ⟨script, bridge'⟩ operand') := by
  refine alike_textLiteral.bind fun named => alike_move.bind fun counted => ?_
  generalize ((textLiteral script).run named).1 = name
  generalize ((move Cursor.readTableIndex).run counted).1.getD 0 = count
  have paired := likeness.method name
  dsimp only
  generalize bridge.method? name = method at paired ⊢
  generalize bridge'.method? name = method' at paired ⊢
  cases paired with
  | none => exact (alike_skipSeveral count).bind fun _ => alike_pure
  | @some method method' calls =>
    simp only [calls.parameters]
    refine (alike_operandsTyped operands _).bind fun machine => ?_
    exact (alike_skipSeveral _).bind fun _ => calls.call _ (type_arguments _ _ _)

theorem performEquality :
    Alike relation (Evaluation.performEquality ⟨script, bridge⟩ operand)
      (Evaluation.performEquality ⟨script, bridge'⟩ operand') := by
  intro cursor scene scene' related
  simp only [Evaluation.performEquality, StateT.run_bind, StateT.run_get, pure_bind,
    likeness.resultType related]
  cases Evaluation.resultType ⟨script, bridge⟩ ⟨scene, cursor⟩ with
  | void => exact alike_pair operands id id Value.same _ _ _ related
  | float => exact alike_pair operands Value.toFloat Value.toFloat (· == ·) _ _ _ related
  | bool => exact alike_pair operands Value.toBool Value.toBool (· == ·) _ _ _ related
  | string => exact alike_pair operands Value.toText Value.toText (· == ·) _ _ _ related

theorem perform (op : OpCode) :
    Alike relation (Evaluation.perform ⟨script, bridge⟩ operand op)
      (Evaluation.perform ⟨script, bridge'⟩ operand' op) := by
  cases op
  case undefined | newLine => exact alike_pure
  case float => exact alike_numberLiteral.bind fun _ => alike_pure
  case string => exact alike_textLiteral.bind fun _ => alike_pure
  case bool | choice | auto => exact alike_move.bind fun _ => alike_pure
  case goto => exact alike_move.bind fun _ => alike_move.bind fun _ => alike_pure
  case var => exact alike_textLiteral.bind fun _ => likeness.get _
  case func => exact likeness.performCall operands
  case arithmetic operator =>
    exact alike_pair operands Value.toFloat Value.toFloat fun left right =>
      Value.float (operator.apply left right)
  case order test =>
    exact alike_pair operands Value.toFloat Value.toFloat fun left right =>
      Value.bool (test.holds left right)
  case equals | notEquals => exact (likeness.performEquality operands).bind fun _ => alike_pure
  case and => exact (alike_performAnd operands).bind fun _ => alike_pure
  case or => exact (alike_performOr operands).bind fun _ => alike_pure
  case not => exact operands.map fun value => Value.bool !value.toBool
  case assign =>
    refine Alike.bind ?_ fun _ => alike_pure
    exact alike_textLiteral.bind fun _ => operands.bind fun _ => likeness.set _ _
  case update operator =>
    refine Alike.bind ?_ fun _ => alike_pure
    exact alike_textLiteral.bind fun _ => (likeness.get _).bind fun _ =>
      (operands.map Value.toFloat).bind fun _ => likeness.set _ _
  case setSpeaker field =>
    refine Alike.bind ?_ fun _ => alike_pure
    exact alike_move.bind fun _ => (operands.map Value.toText).bind fun _ => likeness.speaker _ _ _
  case speed | pause => exact operands.bind fun _ => alike_pure

end Operations

theorem evaluate (levels : Nat) :
    Alike relation (Evaluation.evaluate ⟨script, bridge⟩ levels)
      (Evaluation.evaluate ⟨script, bridge'⟩ levels) := by
  induction levels with
  | zero => exact alike_move.bind fun _ => alike_pure
  | succ levels inductionHypothesis =>
    refine alike_move.bind fun machine => ?_
    split
    · exact likeness.perform inductionHypothesis _
    · exact alike_move.bind fun _ => alike_pure

end Likeness

/-! ## Instructions -/

namespace Staging

/-- From related scenes, both runs have the same result, and the scenes behind them are related. -/
def Alike (relation : Scene First → Scene Second → Prop) (first : Staging First α)
    (second : Staging Second α) : Prop :=
  ∀ scene scene', relation scene scene' →
    (second.run scene').1 = (first.run scene).1 ∧
      relation (first.run scene).2 (second.run scene').2

theorem alike_pure {result : α} : Alike relation (pure result) (pure result) :=
  fun _ _ related => ⟨rfl, related⟩

theorem Alike.bind {first : Staging First α} {second : Staging Second α}
    {next : α → Staging First β} {next' : α → Staging Second β}
    (alike : Alike relation first second)
    (continues : ∀ result, Alike relation (next result) (next' result)) :
    Alike relation (first >>= next) (second >>= next') := by
  intro scene scene' related
  obtain ⟨same, between⟩ := alike scene scene' related
  have start : second.run scene' = ((first.run scene).1, (second.run scene').2) := Prod.ext same rfl
  rw [StateT.run_bind, StateT.run_bind, start]
  exact continues _ _ _ between

theorem alike_withCursor {first : Evaluation First α} {second : Evaluation Second α}
    (alike : Evaluation.Alike relation first second) (cursor : Cursor) :
    Alike relation (withCursor cursor first) (withCursor cursor second) := by
  intro scene scene' related
  have matched := alike cursor scene scene' related
  exact ⟨Prod.ext matched.result matched.cursor, matched.scenes⟩

end Staging

/-- What an instruction is run for. -/
inductive Purpose where
  | value
  /-- The value of the expression at a position, and the position behind it. -/
  | valueAt (position : Nat)
  | directive
  | flow
  | choices

/-- What an instruction gives. -/
def Purpose.Result : Purpose → Type
  | value => Value
  | valueAt _ => Value × Nat
  | directive => Option Directive
  | flow => Option Jump
  | choices => List Choice

def Purpose.run {Host : Type} (surroundings : Surroundings Host) (instruction : Instruction) :
    (purpose : Purpose) → Staging Host purpose.Result
  | value => Staging.evaluateInstruction surroundings instruction
  | valueAt position => Staging.evaluateAt surroundings instruction position
  | directive => Staging.runDirective surroundings instruction
  | flow => Staging.runFlow surroundings instruction
  | choices => Staging.offerChoices surroundings instruction

namespace Likeness

open Staging

variable {script : Script} {bridge : Bridge First} {bridge' : Bridge Second}
  (likeness : Likeness script bridge bridge' relation)

include likeness

theorem evaluateAt (instruction : Instruction) (position : Nat) :
    Staging.Alike relation (Staging.evaluateAt ⟨script, bridge⟩ instruction position)
      (Staging.evaluateAt ⟨script, bridge'⟩ instruction position) :=
  (alike_withCursor (likeness.evaluate _) _).bind fun _ => Staging.alike_pure

theorem evaluateInstruction (instruction : Instruction) :
    Staging.Alike relation (Staging.evaluateInstruction ⟨script, bridge⟩ instruction)
      (Staging.evaluateInstruction ⟨script, bridge'⟩ instruction) :=
  (alike_withCursor (likeness.evaluate _) _).bind fun _ => Staging.alike_pure

theorem directiveNumber (instruction : Instruction) :
    Staging.Alike relation (Staging.directiveNumber ⟨script, bridge⟩ instruction)
      (Staging.directiveNumber ⟨script, bridge'⟩ instruction) :=
  (alike_withCursor ((likeness.evaluate _).map Value.toFloat) _).bind fun _ => Staging.alike_pure

theorem runDirective (instruction : Instruction) :
    Staging.Alike relation (Staging.runDirective ⟨script, bridge⟩ instruction)
      (Staging.runDirective ⟨script, bridge'⟩ instruction) := by
  unfold Staging.runDirective
  split
  · exact Staging.alike_pure
  · exact Staging.alike_pure
  · exact (likeness.directiveNumber instruction).bind fun _ => Staging.alike_pure
  · exact (likeness.directiveNumber instruction).bind fun _ => Staging.alike_pure
  · exact (likeness.evaluateInstruction instruction).bind fun _ => Staging.alike_pure

theorem runFlow (instruction : Instruction) :
    Staging.Alike relation (Staging.runFlow ⟨script, bridge⟩ instruction)
      (Staging.runFlow ⟨script, bridge'⟩ instruction) := by
  unfold Staging.runFlow
  split
  · exact Staging.alike_pure
  · exact (likeness.evaluateInstruction instruction).bind fun _ => Staging.alike_pure

theorem conditionHolds (index : Nat) :
    Staging.Alike relation (Staging.conditionHolds ⟨script, bridge⟩ index)
      (Staging.conditionHolds ⟨script, bridge'⟩ index) := by
  unfold Staging.conditionHolds
  dsimp only
  split
  · exact (likeness.evaluateInstruction _).bind fun _ => Staging.alike_pure
  · exact Staging.alike_pure

theorem offerFrom (slot openFrom : Nat) (passed : Bool) (slots : List UInt16) :
    Staging.Alike relation (Staging.offerFrom ⟨script, bridge⟩ slot openFrom passed slots)
      (Staging.offerFrom ⟨script, bridge'⟩ slot openFrom passed slots) := by
  fun_induction Staging.offerFrom ⟨script, bridge⟩ slot openFrom passed slots with
  | case1 => exact Staging.alike_pure
  | case2 slot openFrom passed entry found =>
    rw [Staging.offerFrom, found]
    exact Staging.alike_pure
  | case3 slot openFrom passed entry found index slots others =>
    rw [Staging.offerFrom, found]
    refine others.bind fun _ => ?_
    dsimp only
    split <;> exact Staging.alike_pure
  | case4 slot openFrom passed entry found =>
    rw [Staging.offerFrom, found]
    exact Staging.alike_pure
  | case5 slot openFrom passed entry found target slots others =>
    rw [Staging.offerFrom, found]
    exact others
  | case6 slot openFrom passed entry slots walk isOpen noChoice noJump others =>
    rw [offerFrom_condition noChoice noJump, Menu.opens, if_pos (decide_eq_true isOpen)]
    exact (likeness.conditionHolds _).bind others
  | case7 slot openFrom passed entry slots walk isClosed noChoice noJump others =>
    rw [offerFrom_condition noChoice noJump, Menu.opens, if_neg (by simpa using isClosed)]
    exact Staging.alike_pure.bind others

theorem run (instruction : Instruction) (purpose : Purpose) :
    Staging.Alike relation (purpose.run ⟨script, bridge⟩ instruction)
      (purpose.run ⟨script, bridge'⟩ instruction) := by
  cases purpose with
  | value => exact likeness.evaluateInstruction instruction
  | valueAt position => exact likeness.evaluateAt instruction position
  | directive => exact likeness.runDirective instruction
  | flow => exact likeness.runFlow instruction
  | choices => exact likeness.offerFrom 0 0 false instruction.toList

end Likeness

end Roleplay
