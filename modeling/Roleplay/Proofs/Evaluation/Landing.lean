import Roleplay.Evaluation.Instruction
import Roleplay.Proofs.Instruction.Skipping

/-! # Where evaluation leaves the cursor

Evaluating on a stream that need not be well formed, from any position inside it.

* `Ends` is a triple for evaluations: what holds of the result and of the cursor afterwards;
* `ends_perform` says that an operation reads the literal slots of its layout and then moves past
  its operands one by one, evaluating or skipping each;
* `evaluate_leads` says that evaluation moves on inside the stream, and `evaluate_cursor` that it
  stops where skipping stops unless that runs into the limit on nesting;
* `evaluateAt_position` says both of the position that evaluation returns.
-/

namespace Roleplay

variable {Host : Type}

/-! ## Several steps of a cursor -/

namespace Cursor

/-- So many steps, one after the other. -/
inductive Steps (step : Cursor → Cursor → Prop) : Nat → Cursor → Cursor → Prop
  | stay {cursor : Cursor} : Steps step 0 cursor cursor
  | next {count : Nat} {cursor middle last : Cursor} :
      step cursor middle → Steps step count middle last → Steps step (count + 1) cursor last

variable {step : Cursor → Cursor → Prop} {cursor middle last : Cursor} {first second : Nat}

theorem Steps.one (taken : step cursor last) : Steps step 1 cursor last := .next taken .stay

theorem Steps.append (before : Steps step first cursor middle)
    (after : Steps step second middle last) : Steps step (first + second) cursor last := by
  induction before with
  | stay => rwa [Nat.zero_add]
  | next taken _ inductionHypothesis =>
    rw [Nat.add_right_comm]
    exact .next taken (inductionHypothesis after)

theorem Steps.leads {count : Nat} (steps : Steps (fun cursor next =>
      cursor.IsWithin → cursor.Leads next) count cursor last)
    (within : cursor.IsWithin) : cursor.Leads last := by
  induction steps with
  | stay => exact leads_refl within
  | next taken _ inductionHypothesis =>
    exact (taken within).trans (inductionHypothesis (taken within).isWithin)

/-- Steps that skip one expression each, where none of these runs into the limit. -/
theorem Steps.skips {levels count : Nat} (steps : Steps (fun cursor next =>
      cursor.IsWithin → IsClear levels cursor → next = (skipWithin levels cursor).2)
        count cursor last)
    (within : cursor.IsWithin) (clear : AreClear levels count cursor) :
    last = (fun cursor => (skipWithin levels cursor).2)^[count] cursor := by
  induction steps with
  | stay => rfl
  | next taken _ inductionHypothesis =>
    have landed := taken within clear.head
    subst landed
    exact inductionHypothesis (leads_skipWithin within levels).isWithin clear.tail

end Cursor

namespace Evaluation

open Cursor (Steps)

variable {α β : Type} {surroundings : Surroundings Host} {cursor : Cursor}

/-! ## Triples -/

/-- Whatever the scene is, the statement holds of the result and of the cursor behind it. -/
def Ends (cursor : Cursor) (evaluation : Evaluation Host α) (holds : α → Cursor → Prop) : Prop :=
  ∀ scene : Scene Host,
    holds (evaluation.run ⟨scene, cursor⟩).1 (evaluation.run ⟨scene, cursor⟩).2.cursor

variable {evaluation : Evaluation Host α} {next : α → Evaluation Host β}
  {middle : α → Cursor → Prop} {holds : β → Cursor → Prop}

theorem ends_pure {result : β} (holdsNow : holds result cursor) :
    Ends cursor (pure result : Evaluation Host β) holds :=
  fun _ => holdsNow

theorem Ends.bind (first : Ends cursor evaluation middle)
    (second : ∀ result behind, middle result behind → Ends behind (next result) holds) :
    Ends cursor (evaluation >>= next) holds :=
  fun scene => second _ _ (first scene) _

theorem ends_move_bind {step : Cursor → α × Cursor}
    (continues : Ends (step cursor).2 (next (step cursor).1) holds) :
    Ends cursor (move step >>= next) holds :=
  fun _ => continues _

theorem ends_textLiteral_bind {script : Script} {next : String → Evaluation Host β}
    (continues : ∀ text, Ends cursor.read.2 (next text) holds) :
    Ends cursor (textLiteral script >>= next) holds :=
  fun _ => continues _ _

theorem ends_numberLiteral_bind {script : Script} {next : Float32 → Evaluation Host β}
    (continues : ∀ number, Ends cursor.read.2 (next number) holds) :
    Ends cursor (numberLiteral script >>= next) holds :=
  fun _ => continues _ _

theorem ends_get_bind {next : Machine Host → Evaluation Host β}
    (continues : ∀ scene, Ends cursor (next ⟨scene, cursor⟩) holds) :
    Ends cursor (get >>= next) holds :=
  fun scene => continues scene scene

/-! ## Moves that leave the cursor where it is -/

theorem ends_getVariable {bridge : Bridge Host} {name : String} {holds : Value → Cursor → Prop}
    (holdsNow : ∀ value, holds value cursor) : Ends cursor (getVariable bridge name) holds := by
  intro scene
  simp only [getVariable, StateT.run_modifyGet]
  split <;> exact holdsNow _

theorem ends_setVariable {bridge : Bridge Host} {name : String} {value : Value}
    {holds : Unit → Cursor → Prop} (holdsNow : holds () cursor) :
    Ends cursor (setVariable bridge name value) holds := by
  intro scene
  simp only [setVariable, StateT.run_modify]
  split <;> exact holdsNow

theorem ends_callMethod {method : Method Host} {arguments : List Value}
    {holds : Value → Cursor → Prop} (holdsNow : ∀ value, holds value cursor) :
    Ends cursor (callMethod method arguments) holds :=
  fun _ => holdsNow _

theorem ends_setSpeaker {field : SpeakerField} {index : Option Nat} {text : String}
    {holds : Unit → Cursor → Prop} (holdsNow : holds () cursor) :
    Ends cursor (setSpeaker field index text : Evaluation Host Unit) holds := by
  intro scene
  simp only [setSpeaker, StateT.run_modify]
  split <;> exact holdsNow

/-! ## Operands -/

section Operands

variable {step : Cursor → Cursor → Prop} {operand : Evaluation Host Value}
  (evaluates : ∀ cursor, Ends cursor operand fun _ => step cursor)
  (skips : ∀ cursor : Cursor, step cursor cursor.skip.2)

include evaluates in
theorem ends_operandFloat : Ends cursor (operandFloat operand) fun _ => step cursor :=
  (evaluates cursor).bind fun _ _ taken => ends_pure taken

include evaluates in
theorem ends_operandBool : Ends cursor (operandBool operand) fun _ => step cursor :=
  (evaluates cursor).bind fun _ _ taken => ends_pure taken

include evaluates in
theorem ends_operandText : Ends cursor (operandText operand) fun _ => step cursor :=
  (evaluates cursor).bind fun _ _ taken => ends_pure taken

include evaluates in
theorem ends_operandsTyped (types : List VarType) :
    Ends cursor (operandsTyped operand types) fun _ => Steps step types.length cursor := by
  induction types generalizing cursor with
  | nil => exact ends_pure .stay
  | cons type types inductionHypothesis =>
    have first : Ends cursor (operandTyped operand type) fun _ => step cursor :=
      (evaluates cursor).bind fun _ _ taken => ends_pure taken
    exact first.bind fun _ _ taken => inductionHypothesis.bind fun _ _ steps =>
      ends_pure (.next taken steps)

include skips in
theorem ends_skipSeveral (count : Nat) :
    Ends cursor (skipSeveral count : Evaluation Host Unit) fun _ => Steps step count cursor := by
  induction count generalizing cursor with
  | zero => exact ends_pure .stay
  | succ count inductionHypothesis =>
    refine ends_move_bind fun scene => ?_
    exact .next (skips cursor) (inductionHypothesis scene)

/-- Two operands, each evaluated in some way. -/
theorem ends_pair {first second : Evaluation Host α} {result : α → α → β}
    (left : ∀ cursor, Ends cursor first fun _ => step cursor)
    (right : ∀ cursor, Ends cursor second fun _ => step cursor) :
    Ends cursor (do let leftValue ← first; let rightValue ← second
                    pure (result leftValue rightValue))
      fun _ => Steps step 2 cursor :=
  (left cursor).bind fun _ middle taken => (right middle).bind fun _ _ takenNext =>
    ends_pure (.next taken (.one takenNext))

include evaluates in
theorem ends_performEquality :
    Ends cursor (performEquality surroundings operand) fun _ => Steps step 2 cursor := by
  refine ends_get_bind fun scene => ?_
  cases resultType surroundings ⟨scene, cursor⟩ with
  | void => exact ends_pair evaluates evaluates
  | float =>
    exact ends_pair (fun _ => ends_operandFloat evaluates) fun _ => ends_operandFloat evaluates
  | bool =>
    exact ends_pair (fun _ => ends_operandBool evaluates) fun _ => ends_operandBool evaluates
  | string =>
    exact ends_pair (fun _ => ends_operandText evaluates) fun _ => ends_operandText evaluates

include evaluates skips in
theorem ends_performAnd : Ends cursor (performAnd operand) fun _ => Steps step 2 cursor := by
  refine (ends_operandBool evaluates).bind fun left middle taken => ?_
  cases left with
  | true => exact fun scene => .next taken (.one (ends_operandBool evaluates scene))
  | false => exact ends_move_bind (ends_pure (.next taken (.one (skips middle))))

include evaluates skips in
theorem ends_performOr : Ends cursor (performOr operand) fun _ => Steps step 2 cursor := by
  refine (ends_operandBool evaluates).bind fun left middle taken => ?_
  cases left with
  | true => exact ends_move_bind (ends_pure (.next taken (.one (skips middle))))
  | false => exact fun scene => .next taken (.one (ends_operandBool evaluates scene))


include evaluates skips in
/-- A call evaluates as many arguments as the method takes and skips the others. -/
theorem ends_performCall :
    Ends cursor (performCall surroundings operand) fun _ =>
      Steps step (cursor.operands .call).count (cursor.operands .call).cursor := by
  refine ends_textLiteral_bind fun name => ends_move_bind ?_
  simp only [Cursor.operands]
  generalize cursor.read.2.readTableIndex = slot
  obtain ⟨slot, start⟩ := slot
  cases surroundings.bridge.method? name with
  | none =>
    exact (ends_skipSeveral skips _).bind fun _ _ steps => ends_pure steps
  | some method =>
    refine (ends_operandsTyped evaluates _).bind fun given middle evaluated => ?_
    refine (ends_skipSeveral skips _).bind fun _ last skipped => ?_
    have all : (method.parameters.take (slot.getD 0)).length +
        (slot.getD 0 - method.parameters.length) = slot.getD 0 := by
      rw [List.length_take]
      omega
    have steps := evaluated.append skipped
    rw [all] at steps
    exact ends_callMethod fun _ => steps

include evaluates in
theorem ends_performUpdate {operator : Arithmetic} :
    Ends cursor (performUpdate surroundings operator operand) fun _ => step cursor.read.2 := by
  refine ends_textLiteral_bind fun name => ?_
  have current : Ends cursor.read.2 (getVariable surroundings.bridge name)
      fun _ behind => behind = cursor.read.2 := ends_getVariable fun _ => rfl
  refine current.bind fun value behind same => ?_
  subst same
  exact (ends_operandFloat evaluates).bind fun _ _ taken => ends_setVariable taken

include evaluates skips in
/-- An operation reads the literal slots of its layout and then moves past its operands one by one,
evaluating or skipping each. -/
theorem ends_perform (op : OpCode) :
    Ends cursor (perform surroundings operand op) fun _ =>
      Steps step (cursor.operands op.layout).count (cursor.operands op.layout).cursor := by
  cases op <;> simp only [OpCode.layout]
  case func => exact ends_performCall evaluates skips
  all_goals simp only [Cursor.operands, Cursor.skipSlots_snd]
  case undefined | newLine => exact ends_pure .stay
  case float => exact ends_numberLiteral_bind fun number => ends_pure .stay
  case string => exact ends_textLiteral_bind fun text => ends_pure .stay
  case bool | choice | auto => exact ends_move_bind (ends_pure .stay)
  case goto => exact ends_move_bind (ends_move_bind (ends_pure .stay))
  case var => exact ends_textLiteral_bind fun name => ends_getVariable fun _ => .stay
  case arithmetic operator =>
    exact ends_pair (fun _ => ends_operandFloat evaluates) fun _ => ends_operandFloat evaluates
  case order test =>
    exact ends_pair (fun _ => ends_operandFloat evaluates) fun _ => ends_operandFloat evaluates
  case equals | notEquals =>
    exact (ends_performEquality evaluates).bind fun _ _ steps => ends_pure steps
  case and => exact (ends_performAnd evaluates skips).bind fun _ _ steps => ends_pure steps
  case or => exact (ends_performOr evaluates skips).bind fun _ _ steps => ends_pure steps
  case not =>
    exact (ends_operandBool evaluates).bind fun _ _ taken => ends_pure (.one taken)
  case assign =>
    refine Ends.bind ?_ fun _ _ taken => ends_pure (Steps.one taken)
    exact ends_textLiteral_bind fun name =>
      (evaluates _).bind fun _ _ taken => ends_setVariable taken
  case update operator =>
    exact (ends_performUpdate evaluates).bind fun _ _ taken => ends_pure (.one taken)
  case setSpeaker field =>
    refine Ends.bind ?_ fun _ _ taken => ends_pure (Steps.one taken)
    exact ends_move_bind
      ((ends_operandText evaluates).bind fun _ _ taken => ends_setSpeaker taken)
  case speed | pause => exact (evaluates _).bind fun _ _ taken => ends_pure (.one taken)

end Operands

/-! ## Evaluation -/

theorem ends_evaluate_succ {levels : Nat} {holds : Value → Cursor → Prop}
    (unknown : cursor.peekOperation = none → ∀ value, holds value cursor.toEnd)
    (known : ∀ op, cursor.peekOperation = some op →
      Ends cursor.advance (perform surroundings (evaluate surroundings levels) op) holds) :
    Ends cursor (evaluate surroundings (levels + 1)) holds := by
  intro scene
  cases found : cursor.peekOperation with
  | none =>
    simp only [evaluate, move, StateT.run_bind, StateT.run_modifyGet, Cursor.readOperation, found]
    exact unknown found _
  | some op =>
    simp only [evaluate, move, StateT.run_bind, StateT.run_modifyGet, Cursor.readOperation, found]
    exact known op found scene

/-- Evaluation moves on inside the stream, whatever the stream holds. -/
theorem evaluate_leads (surroundings : Surroundings Host) (levels : Nat) (cursor : Cursor) :
    Ends cursor (evaluate surroundings levels) fun _ behind =>
      cursor.IsWithin → cursor.Leads behind := by
  induction levels generalizing cursor with
  | zero => exact ends_move_bind (ends_pure Cursor.leads_toEnd)
  | succ levels inductionHypothesis =>
    refine ends_evaluate_succ (fun _ _ => Cursor.leads_toEnd) fun op found => ?_
    have skips : ∀ cursor : Cursor, cursor.IsWithin → cursor.Leads cursor.skip.2 :=
      fun _ within => Cursor.leads_skipWithin within maxExpressionLevels
    have performed := @ends_perform Host surroundings cursor.advance _ _ inductionHypothesis skips op
    intro scene within
    have advanced := Cursor.leads_advance (Cursor.peek_of_peekOperation found)
    have slots := Cursor.leads_operands advanced.isWithin op.layout
    exact (advanced.trans slots).trans ((performed scene).leads slots.isWithin)

/-- Evaluation stops where skipping with the same number of levels stops, unless the skipping runs
into the limit. -/
theorem evaluate_cursor (surroundings : Surroundings Host) {levels : Nat}
    (enough : levels ≤ maxExpressionLevels) (cursor : Cursor) :
    Ends cursor (evaluate surroundings levels) fun _ behind =>
      cursor.IsWithin → Cursor.IsClear levels cursor →
        behind = (Cursor.skipWithin levels cursor).2 := by
  induction levels generalizing cursor with
  | zero => exact ends_move_bind (ends_pure fun _ _ => rfl)
  | succ levels inductionHypothesis =>
    refine ends_evaluate_succ ?_ fun op found => ?_
    · intro unknown _ _ _
      rw [Cursor.skipWithin_of_peekOperation_eq_none unknown]
    · -- an operand that is skipped is skipped with all levels, which makes no difference here
      have skips : ∀ cursor : Cursor, cursor.IsWithin → Cursor.IsClear levels cursor →
          cursor.skip.2 = (Cursor.skipWithin levels cursor).2 := by
        intro cursor _ clear
        rw [Cursor.skip, clear.skipWithin_of_le (by omega)]
      have performed := @ends_perform Host surroundings cursor.advance _ _
        (inductionHypothesis (by omega)) skips op
      intro scene within clear
      have advanced := Cursor.leads_advance (Cursor.peek_of_peekOperation found)
      have slots := Cursor.leads_operands advanced.isWithin op.layout
      rw [Cursor.skipWithin_succ found, Cursor.skipOperands_snd advanced.isWithin]
      exact (performed scene).skips slots.isWithin (Cursor.IsClear.operands found clear)

end Evaluation

namespace Staging

/-- From any position inside any stream, evaluation stops inside the stream and not before where it
began.  If skipping does not run into the limit on nesting, both stop at the same position: behind
the slots of a tree if the skipping succeeds, at the end of the stream if it fails. -/
theorem evaluateAt_position (surroundings : Surroundings Host) (scene : Scene Host)
    {instruction : Instruction} {position : Nat} (inside : position ≤ instruction.size) :
    let cursor : Cursor := ⟨instruction, position⟩
    let stop := ((evaluateAt surroundings instruction position).run scene).1.2
    (cursor.runsIntoLimit maxExpressionLevels = false →
      stop = cursor.skip.2.position ∧
      (cursor.skip.1 = true → ∃ tree : Expression, tree.IsEncodable ∧
        tree.levels ≤ maxExpressionLevels ∧ cursor.Reads tree.encode ∧
        stop = position + tree.encode.length) ∧
      (cursor.skip.1 = false → stop = instruction.size)) ∧
    position ≤ stop ∧ stop ≤ instruction.size := by
  intro cursor stop
  have within : cursor.IsWithin := inside
  refine ⟨fun clear => ?_, ?_⟩
  · have landed : stop = cursor.skip.2.position := congrArg Cursor.position
      (Evaluation.evaluate_cursor surroundings (Nat.le_refl _) cursor scene within (Or.inr clear))
    refine ⟨landed, fun succeeded => ?_, fun failed => ?_⟩
    · obtain ⟨tree, encodable, shallow, reads, behind⟩ :=
        Cursor.spans_of_skipWithin (Prod.ext succeeded rfl)
      refine ⟨tree, encodable, shallow, reads, ?_⟩
      rw [landed]
      exact congrArg Cursor.position behind
    · have exhausted : cursor.skip.2.IsExhausted := Cursor.isExhausted_of_skipWithin failed
      have sameStream := (Cursor.leads_skipWithin within maxExpressionLevels).stream_eq
      rw [landed]
      exact exhausted.trans (congrArg Array.size sameStream)
  · have leads := Evaluation.evaluate_leads surroundings maxExpressionLevels cursor scene within
    exact ⟨leads.notBefore,
      Nat.le_trans leads.isWithin (Nat.le_of_eq (congrArg Array.size leads.stream_eq))⟩

/-- A conjunction that its left operand decides, with a call whose second argument is missing. -/
def truncatedConjunction : Instruction :=
  #[9, OpCode.and.code, OpCode.bool.code, 0, OpCode.func.code, 3, 2, OpCode.bool.code, 1]

theorem evaluateAt_truncatedConjunction :
    1 ≤ truncatedConjunction.size ∧
      Cursor.runsIntoLimit maxExpressionLevels ⟨truncatedConjunction, 1⟩ = false ∧
      (Cursor.skip ⟨truncatedConjunction, 1⟩).1 = false ∧
      ((evaluateAt ⟨Script.empty, Bridge.empty⟩ truncatedConjunction 1).run
        (⟨Dictionary.empty, [], ()⟩ : Scene Unit)).1.2 = 9 := by
  have inside : 1 ≤ truncatedConjunction.size := by decide
  have clear : Cursor.runsIntoLimit maxExpressionLevels ⟨truncatedConjunction, 1⟩ = false := by
    decide +kernel
  have failed : (Cursor.skip ⟨truncatedConjunction, 1⟩).1 = false := by decide +kernel
  have position := evaluateAt_position ⟨Script.empty, Bridge.empty⟩
    (⟨Dictionary.empty, [], ()⟩ : Scene Unit) inside
  exact ⟨inside, clear, failed, (position.1 clear).2.2 failed⟩

end Staging

end Roleplay
