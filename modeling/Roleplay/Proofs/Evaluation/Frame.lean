import Roleplay.Proofs.Evaluation.Agreement
import Roleplay.Proofs.Evaluation.Typing

/-! # What evaluation leaves as it is

Scripts write to storage by assignments, and to the speakers by four operations that change a field.
Either may stand anywhere as an operand, and which of them run depends on what is evaluated before
them.  So the names that an evaluation may write are found by following it.

* `Evaluation.visits` lists the cursors at which an evaluation evaluates an expression;
* `Scene.Frame` says that two scenes differ in nothing but the stored values of some names, the
  fields of the speakers other than their ids, and the host;
* `framed_perform` covers the operations, given the same of their operands, and `framed_evaluate`
  the expressions.
-/

namespace Roleplay

variable {Host α β : Type}

/-! ## Following an evaluation -/

namespace Evaluation

variable (surroundings : Surroundings Host) (operand : Evaluation Host Value)

/-- The machines at which so many operands in a row are evaluated. -/
def row : Nat → Machine Host → List (Machine Host)
  | 0, _ => []
  | count + 1, machine => machine :: row count (operand.run machine).2

/-- The machine at which an operation, whose code has been read, evaluates its first operand: behind
the literal slots, and for an update behind the reading of the variable. -/
def beforeOperands (op : OpCode) (machine : Machine Host) : Machine Host :=
  let behindSlot := { machine with cursor := machine.cursor.readTableIndex.2 }
  match op with
  | .assign | .setSpeaker _ => behindSlot
  | .update _ =>
    let name := stringAt surroundings.script machine.cursor.readTableIndex.1
    ((getVariable surroundings.bridge name).run behindSlot).2
  | .func => { machine with cursor := behindSlot.cursor.readTableIndex.2 }
  | _ => machine

/-- How many operands are evaluated; others are skipped or have default values. -/
def evaluatedOperands (op : OpCode) (machine : Machine Host) : Nat :=
  match op with
  | .arithmetic _ | .order _ | .equals | .notEquals => 2
  | .and => if (operand.run machine).1.toBool then 2 else 1
  | .or => if (operand.run machine).1.toBool then 1 else 2
  | .not | .assign | .update _ | .setSpeaker _ | .speed | .pause => 1
  | .func =>
    let name := stringAt surroundings.script machine.cursor.readTableIndex.1
    let count := machine.cursor.readTableIndex.2.readTableIndex.1.getD 0
    ((surroundings.bridge.method? name).map fun method => min count method.parameters.length).getD 0
  | _ => 0

/-- The machines at which an operation, whose code has been read, evaluates its operands. -/
def operandsOf (op : OpCode) (machine : Machine Host) : List (Machine Host) :=
  row operand (evaluatedOperands surroundings operand op machine)
    (beforeOperands surroundings op machine)

variable {operand}

/-- The cursors at which an operation's code is read while the expression at the cursor is
evaluated, its own before those of its operands. -/
def visits : Nat → Machine Host → List Cursor
  | 0, _ => []
  | levels + 1, machine =>
    match machine.cursor.peekOperation with
    | none => []
    | some op =>
      let behindCode := { machine with cursor := machine.cursor.advance }
      machine.cursor ::
        (operandsOf surroundings (evaluate surroundings levels) op behindCode).flatMap
          (visits levels)

/-- The variable that an assignment at the cursor names; a missing string is the empty name. -/
def assignedAt (script : Script) (cursor : Cursor) : Option String :=
  match cursor.peekOperation with
  | some op =>
    if op.assignsVariable then some (stringAt script cursor.advance.readTableIndex.1) else none
  | none => none

end Evaluation

/-! ## Scenes that differ in little -/

/-- Nothing is removed from storage, no void value is brought into it, it changes only under the
given names and none of these is a property, and the speakers are the same ones in the same
order. -/
structure Scene.Frame (bridge : Bridge Host) (names : List String) (before after : Scene Host) :
    Prop where
  keeps : ∀ name, before.storage.contains name → after.storage.contains name
  isFull : (∀ name, before.storage.get? name ≠ some .void) →
    ∀ name, after.storage.get? name ≠ some .void
  changes : ∀ name, after.storage.get? name ≠ before.storage.get? name →
    bridge.property? name = none ∧ name ∈ names
  speakers : after.speakers.map Speaker.speakerId = before.speakers.map Speaker.speakerId

namespace Scene.Frame

variable {bridge : Bridge Host} {names others : List String}
  {before middle after scene : Scene Host}

theorem of_same (storage : after.storage = before.storage)
    (speakers : after.speakers.map Speaker.speakerId = before.speakers.map Speaker.speakerId) :
    Frame bridge names before after where
  keeps _ contained := by rwa [storage]
  isFull full name := by
    rw [storage]
    exact full name
  changes name changed := absurd (congrArg (·.get? name) storage) changed
  speakers := speakers

theorem refl : Frame bridge names scene scene := of_same rfl rfl

theorem trans (first : Frame bridge names before middle)
    (second : Frame bridge names middle after) : Frame bridge names before after where
  keeps name contained := second.keeps name (first.keeps name contained)
  isFull full := second.isFull (first.isFull full)
  changes name changed := by
    -- a value that changed on the whole changed in one of the two parts
    by_cases same : middle.storage.get? name = before.storage.get? name
    · exact second.changes name fun unchanged => changed (unchanged.trans same)
    · exact first.changes name same
  speakers := second.speakers.trans first.speakers

theorem mono (frame : Frame bridge names before after) (included : names ⊆ others) :
    Frame bridge others before after :=
  { frame with changes := fun name changed => (frame.changes name changed).imp_right (included ·) }

/-- Storing a value under a name that is no property changes that name at most, and storing a void
one changes nothing. -/
theorem store {name : String} (free : bridge.property? name = none) (named : name ∈ names)
    (value : Value) :
    Frame bridge names scene { scene with storage := scene.storage.store name value } where
  keeps other contained := by
    rw [Dictionary.contains] at contained ⊢
    rw [Storage.get?_store]
    split
    · rfl
    · exact contained
  isFull full other := by
    rw [Storage.get?_store]
    split
    · rename_i stored
      rintro ⟨⟩
      exact absurd stored.2 (by decide)
    · exact full other
  changes other changed := by
    rw [Storage.get?_store] at changed
    split at changed
    · rename_i stored
      exact stored.1 ▸ ⟨free, named⟩
    · exact absurd rfl changed
  speakers := rfl

end Scene.Frame

/-! ## Evaluations that stay within a frame -/

namespace Cursor

variable {cursor : Cursor}

theorem stream_read : cursor.read.2.stream = cursor.stream := by
  unfold read
  split <;> rfl

end Cursor

namespace Evaluation

open Scene

/-- From the machine, the evaluation stays in its stream and leaves everything as it is but the
values of the names. -/
structure Framed (bridge : Bridge Host) (names : List String) (machine : Machine Host)
    (evaluation : Evaluation Host α) : Prop where
  scene : Frame bridge names machine.toScene (evaluation.run machine).2.toScene
  stream : (evaluation.run machine).2.cursor.stream = machine.cursor.stream

variable {surroundings : Surroundings Host} {operand : Evaluation Host Value} {bridge : Bridge Host}
  {names others : List String} {machine : Machine Host}

theorem framed_pure {result : α} : Framed bridge names machine (pure result) := ⟨.refl, rfl⟩

theorem Framed.bind {first : Evaluation Host α} {next : α → Evaluation Host β}
    (before : Framed bridge names machine first)
    (after : Framed bridge names (first.run machine).2 (next (first.run machine).1)) :
    Framed bridge names machine (first >>= next) := by
  constructor <;> rw [StateT.run_bind]
  · exact before.scene.trans after.scene
  · exact after.stream.trans before.stream

theorem framed_get_bind {next : Machine Host → Evaluation Host α}
    (after : Framed bridge names machine (next machine)) :
    Framed bridge names machine (get >>= next) :=
  Framed.bind ⟨.refl, rfl⟩ after

theorem Framed.mono {evaluation : Evaluation Host α}
    (framed : Framed bridge names machine evaluation) (included : names ⊆ others) :
    Framed bridge others machine evaluation :=
  ⟨framed.scene.mono included, framed.stream⟩

theorem framed_move {step : Cursor → α × Cursor}
    (stays : (step machine.cursor).2.stream = machine.cursor.stream) :
    Framed bridge names machine (move step) := ⟨.refl, stays⟩

theorem framed_read : Framed bridge names machine (move Cursor.read) :=
  framed_move Cursor.stream_read

theorem framed_readTableIndex : Framed bridge names machine (move Cursor.readTableIndex) :=
  framed_move Cursor.stream_read

theorem framed_skip : Framed bridge names machine skip := framed_move Cursor.stream_skip

theorem framed_skipSeveral (count : Nat) : Framed bridge names machine (skipSeveral count) := by
  induction count generalizing machine with
  | zero => exact framed_pure
  | succ count inductionHypothesis => exact framed_skip.bind inductionHypothesis

theorem framed_textLiteral {script : Script} :
    Framed bridge names machine (textLiteral script) :=
  framed_readTableIndex.bind framed_pure

theorem framed_numberLiteral {script : Script} :
    Framed bridge names machine (numberLiteral script) :=
  framed_readTableIndex.bind framed_pure

theorem framed_getVariable {name : String} :
    Framed bridge names machine (getVariable bridge name) := by
  unfold getVariable
  constructor <;> rw [StateT.run_modifyGet] <;> cases bridge.property? name
  case scene.none | scene.some => exact .of_same rfl rfl
  case stream.none | stream.some => rfl

/-- The value of a property goes to the host, whatever storage holds under its name. -/
theorem framed_setVariable {name : String} (named : name ∈ names) {value : Value} :
    Framed bridge names machine (setVariable bridge name value) := by
  unfold setVariable
  constructor <;> rw [StateT.run_modify] <;> cases free : bridge.property? name
  case scene.none => exact .store free named value
  case scene.some => exact .of_same rfl rfl
  case stream.none | stream.some => rfl

theorem framed_callMethod {method : Method Host} {arguments : List Value} :
    Framed bridge names machine (callMethod method arguments) :=
  ⟨.of_same rfl rfl, rfl⟩

theorem speakerId_setField {field : SpeakerField} {text : String} {speaker : Speaker} :
    (setField field text speaker).speakerId = speaker.speakerId := by
  cases field <;> rfl

theorem framed_setSpeaker {field : SpeakerField} {index : Option Nat} {text : String} :
    Framed bridge names machine (setSpeaker field index text) := by
  cases index with
  -- a truncated stream names no speaker
  | none => exact ⟨.refl, rfl⟩
  | some place =>
    refine ⟨.of_same rfl (List.ext_getElem? fun other => ?_), rfl⟩
    change ((machine.speakers.modify place (setField field text)).map Speaker.speakerId)[other]? = _
    rw [List.getElem?_map, List.getElem?_modify, List.getElem?_map, Option.map_eq_map,
      Option.map_map]
    refine congrArg (Option.map · _) (funext fun speaker => ?_)
    rw [Function.comp_apply]
    split
    · exact speakerId_setField
    · rfl

/-! ## Operands -/

theorem framed_map (evaluated : Framed bridge names machine operand) (result : Value → α) :
    Framed bridge names machine (do let value ← operand; pure (result value)) :=
  evaluated.bind framed_pure

theorem framed_operandsTyped {types : List VarType}
    (operands : ∀ begun ∈ row operand types.length machine, Framed bridge names begun operand) :
    Framed bridge names machine (operandsTyped operand types) := by
  induction types generalizing machine with
  | nil => exact framed_pure
  | cons type types inductionHypothesis =>
    obtain ⟨first, others⟩ := List.forall_mem_cons.1 operands
    exact (framed_map first fun value => value.coerce type).bind
      ((inductionHypothesis others).bind framed_pure)

theorem framed_pair (operands : ∀ begun ∈ row operand 2 machine, Framed bridge names begun operand)
    (left right : Value → α) (result : α → α → β) :
    Framed bridge names machine
      (do let leftValue ← operand; let rightValue ← operand
          pure (result (left leftValue) (right rightValue))) := by
  obtain ⟨first, others⟩ := List.forall_mem_cons.1 operands
  exact first.bind (framed_map (List.forall_mem_cons.1 others).1 _)

/-! ## Operations -/

theorem framed_performEquality
    (operands : ∀ begun ∈ row operand 2 machine, Framed bridge names begun operand) :
    Framed bridge names machine (performEquality surroundings operand) := by
  refine framed_get_bind ?_
  cases resultType surroundings machine with
  | void => exact framed_pair operands id id Value.same
  | float => exact framed_pair operands Value.toFloat Value.toFloat (· == ·)
  | bool => exact framed_pair operands Value.toBool Value.toBool (· == ·)
  | string => exact framed_pair operands Value.toText Value.toText (· == ·)

/-- The right operand is evaluated only if the left one does not decide, and otherwise skipped. -/
theorem framed_shortCircuit {right : Bool → Evaluation Host Bool} {count : Bool → Nat}
    (operands : ∀ begun ∈ row operand (count (operand.run machine).1.toBool) machine,
      Framed bridge names begun operand)
    (either : ∀ left, (count left = 2 ∧ right left = operandBool operand) ∨
      (count left = 1 ∧ ∃ decided, right left = do let _ ← skip; pure decided)) :
    Framed bridge names machine (operandBool operand >>= right) := by
  have left : Framed bridge names machine operand := by
    refine operands machine ?_
    obtain ⟨two, _⟩ | ⟨one, _⟩ := either (operand.run machine).1.toBool
    · exact two ▸ .head _
    · exact one ▸ .head _
  refine (framed_map left Value.toBool).bind ?_
  change Framed bridge names (operand.run machine).2 (right (operand.run machine).1.toBool)
  obtain ⟨two, evaluated⟩ | ⟨-, decided, skipped⟩ := either (operand.run machine).1.toBool
  · rw [two] at operands
    rw [evaluated]
    exact framed_map (operands _ (.tail _ (.head _))) Value.toBool
  · rw [skipped]
    exact framed_skip.bind framed_pure

theorem framed_performAnd
    (operands : ∀ begun ∈ row operand (if (operand.run machine).1.toBool then 2 else 1) machine,
      Framed bridge names begun operand) :
    Framed bridge names machine (performAnd operand) := by
  refine @framed_shortCircuit _ _ _ _ _ _ (fun left => if left then 2 else 1) operands ?_
  intro left
  cases left with
  | true => exact .inl ⟨rfl, rfl⟩
  | false => exact .inr ⟨rfl, false, rfl⟩

theorem framed_performOr
    (operands : ∀ begun ∈ row operand (if (operand.run machine).1.toBool then 1 else 2) machine,
      Framed bridge names begun operand) :
    Framed bridge names machine (performOr operand) := by
  refine @framed_shortCircuit _ _ _ _ _ _ (fun left => if left then 1 else 2) operands ?_
  intro left
  cases left with
  | true => exact .inr ⟨rfl, true, rfl⟩
  | false => exact .inl ⟨rfl, rfl⟩

theorem framed_performCall
    (operands : ∀ begun ∈ operandsOf surroundings operand .func machine,
      Framed bridge names begun operand) :
    Framed bridge names machine (performCall surroundings operand) := by
  refine framed_textLiteral.bind (framed_readTableIndex.bind ?_)
  rw [fst_run_textLiteral]
  rw [operandsOf, evaluatedOperands] at operands
  cases found : surroundings.bridge.method?
      (stringAt surroundings.script machine.cursor.readTableIndex.1) with
  | none => exact (framed_skipSeveral _).bind framed_pure
  | some method =>
    simp only [found] at operands
    refine (framed_operandsTyped ?_).bind ((framed_skipSeveral _).bind framed_callMethod)
    rw [List.length_take]
    exact operands

/-- An operation keeps within the frame if its operands do where it evaluates them, and if the frame
has the variable that it assigns. -/
theorem framed_perform {op : OpCode}
    (operands : ∀ begun ∈ operandsOf surroundings operand op machine,
      Framed surroundings.bridge names begun operand)
    (assigned : op.assignsVariable →
      stringAt surroundings.script machine.cursor.readTableIndex.1 ∈ names) :
    Framed surroundings.bridge names machine (perform surroundings operand op) := by
  cases op
  case undefined | newLine => exact framed_pure
  case float => exact framed_numberLiteral.bind framed_pure
  case string => exact framed_textLiteral.bind framed_pure
  case bool | choice | auto => exact framed_read.bind framed_pure
  case goto => exact framed_read.bind (framed_read.bind framed_pure)
  case var => exact framed_textLiteral.bind framed_getVariable
  case func => exact framed_performCall operands
  case arithmetic operator =>
    exact framed_pair operands Value.toFloat Value.toFloat fun left right =>
      Value.float (operator.apply left right)
  case order test =>
    exact framed_pair operands Value.toFloat Value.toFloat fun left right =>
      Value.bool (test.holds left right)
  case equals | notEquals => exact (framed_performEquality operands).bind framed_pure
  case and => exact (framed_performAnd operands).bind framed_pure
  case or => exact (framed_performOr operands).bind framed_pure
  case not =>
    exact framed_map (operands machine (.head _)) fun value => Value.bool !value.toBool
  case assign =>
    refine Framed.bind ?_ framed_pure
    exact framed_textLiteral.bind ((operands _ (.head _)).bind (framed_setVariable (assigned rfl)))
  case update operator =>
    refine Framed.bind ?_ framed_pure
    exact framed_textLiteral.bind (framed_getVariable.bind
      ((framed_map (operands _ (.head _)) Value.toFloat).bind (framed_setVariable (assigned rfl))))
  case setSpeaker field =>
    refine Framed.bind ?_ framed_pure
    have text := framed_map (operands _ (.head _)) Value.toText
    exact framed_readTableIndex.bind (text.bind framed_setSpeaker)
  case speed | pause => exact (operands machine (.head _)).bind framed_pure

/-! ## Expressions -/

theorem visits_of_peek {levels : Nat} {op : OpCode}
    (peeked : machine.cursor.peekOperation = some op) :
    visits surroundings (levels + 1) machine = machine.cursor ::
      (operandsOf surroundings (evaluate surroundings levels) op
        { machine with cursor := machine.cursor.advance }).flatMap
          (visits surroundings levels) := by
  rw [visits, peeked]

/-- An expression changes only variables that assignments name which are evaluated on the way. -/
theorem framed_evaluate (levels : Nat) (machine : Machine Host) :
    Framed surroundings.bridge ((visits surroundings levels machine).filterMap
      (assignedAt surroundings.script)) machine (evaluate surroundings levels) := by
  -- by induction on the levels that are left, each operand at the machine where it begins
  induction levels generalizing machine with
  | zero => exact (framed_move rfl).bind framed_pure
  | succ levels inductionHypothesis =>
    cases peeked : machine.cursor.peekOperation with
    | none =>
      constructor <;> rw [run_evaluate_of_unknown peeked]
      · exact .refl
      · rfl
    | some op =>
      have performed : Framed surroundings.bridge
          ((visits surroundings (levels + 1) machine).filterMap (assignedAt surroundings.script))
          { machine with cursor := machine.cursor.advance }
          (perform surroundings (evaluate surroundings levels) op) := by
        rw [visits_of_peek peeked]
        refine framed_perform (fun begun member => ?_) fun assigns => ?_
        · refine (inductionHypothesis begun).mono (List.filterMap_subset _ fun cursor visited => ?_)
          exact .tail _ (List.mem_flatMap.2 ⟨begun, member, visited⟩)
        · refine List.mem_filterMap.2 ⟨machine.cursor, .head _, ?_⟩
          rw [assignedAt, peeked]
          exact if_pos assigns
      constructor <;> rw [run_evaluate_of_peek peeked]
      · exact performed.scene
      · exact performed.stream

/-! ## Staying in the stream -/

theorem stream_of_mem_row {count : Nat} {begun : Machine Host}
    (stays : ∀ machine, (operand.run machine).2.cursor.stream = machine.cursor.stream)
    (member : begun ∈ row operand count machine) : begun.cursor.stream = machine.cursor.stream := by
  induction count generalizing machine with
  | zero => nomatch member
  | succ count inductionHypothesis =>
    obtain rfl | later := List.mem_cons.1 member
    · rfl
    · exact (inductionHypothesis later).trans (stays machine)

theorem stream_beforeOperands {op : OpCode} :
    (beforeOperands surroundings op machine).cursor.stream = machine.cursor.stream := by
  have slot : machine.cursor.readTableIndex.2.stream = machine.cursor.stream := Cursor.stream_read
  cases op
  case assign | setSpeaker => exact slot
  case func => exact Cursor.stream_read.trans slot
  case update => exact (@framed_getVariable Host _ [] _ _).stream.trans slot
  all_goals rfl

/-- Whatever is visited is in the stream of the expression. -/
theorem stream_of_mem_visits {levels : Nat} {cursor : Cursor}
    (visited : cursor ∈ visits surroundings levels machine) :
    cursor.stream = machine.cursor.stream := by
  induction levels generalizing machine with
  | zero => nomatch visited
  | succ levels inductionHypothesis =>
    cases peeked : machine.cursor.peekOperation with
    | none =>
      rw [visits, peeked] at visited
      nomatch visited
    | some op =>
      rw [visits_of_peek peeked] at visited
      obtain rfl | inner := List.mem_cons.1 visited
      · rfl
      · obtain ⟨begun, member, visited⟩ := List.mem_flatMap.1 inner
        have stays machine := (@framed_evaluate Host surroundings levels machine).stream
        exact (inductionHypothesis visited).trans
          ((stream_of_mem_row stays member).trans stream_beforeOperands)

end Evaluation

end Roleplay
