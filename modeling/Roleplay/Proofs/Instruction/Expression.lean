import Mathlib.Data.List.Basic
import Roleplay.Instruction.Cursor

/-! # Expression trees

The expressions that a stream of slots can hold, as trees with one constructor for each operation
of the table of codes; operations that differ in one parameter share a constructor.

* `Expression.encode` writes a tree as slots, `Expression.levels` counts its levels of nesting;
* `Expression.operation`, `Expression.slots` and `Expression.operands` give the parts of a tree,
  and `encode_eq` says that the slots of a tree are those of its parts in this order;
* `skip_of_reads` says that skipping moves past exactly the slots of a tree.
-/

namespace Roleplay

inductive Expression where
  | undefined
  | float (index : UInt16)
  | string (index : UInt16)
  | bool (slot : UInt16)
  | var (name : UInt16)
  | func (name : UInt16) (arguments : List Expression)
  | arithmetic (operator : Arithmetic) (left right : Expression)
  | order (test : OrderTest) (left right : Expression)
  | equals (left right : Expression)
  | notEquals (left right : Expression)
  | and (left right : Expression)
  | or (left right : Expression)
  | not (operand : Expression)
  | assign (name : UInt16) (operand : Expression)
  | update (operator : Arithmetic) (name : UInt16) (operand : Expression)
  | goto (kind index : UInt16)
  | choice (index : UInt16)
  | setSpeaker (field : SpeakerField) (speaker : UInt16) (operand : Expression)
  | auto (slot : UInt16)
  | newLine
  | speed (operand : Expression)
  | pause (operand : Expression)

namespace Expression

/-! ## Parts of a tree -/

@[simp] def operation : Expression → OpCode
  | undefined => .undefined
  | float _ => .float
  | string _ => .string
  | bool _ => .bool
  | var _ => .var
  | func _ _ => .func
  | arithmetic operator _ _ => .arithmetic operator
  | order test _ _ => .order test
  | equals _ _ => .equals
  | notEquals _ _ => .notEquals
  | and _ _ => .and
  | or _ _ => .or
  | not _ => .not
  | assign _ _ => .assign
  | update operator _ _ => .update operator
  | goto _ _ => .goto
  | choice _ => .choice
  | setSpeaker field _ _ => .setSpeaker field
  | auto _ => .auto
  | newLine => .newLine
  | speed _ => .speed
  | pause _ => .pause

/-- The literal slots behind the code; a call also writes the number of its arguments. -/
@[simp] def slots : Expression → List UInt16
  | float slot | string slot | bool slot | var slot | choice slot | auto slot => [slot]
  | assign name _ | update _ name _ | setSpeaker _ name _ => [name]
  | func name arguments => [name, UInt16.ofNat arguments.length]
  | goto kind index => [kind, index]
  | _ => []

@[simp] def operands : Expression → List Expression
  | func _ arguments => arguments
  | arithmetic _ left right | order _ left right | equals left right | notEquals left right
  | and left right | or left right => [left, right]
  | not operand | assign _ operand | update _ _ operand | setSpeaker _ _ operand | speed operand
  | pause operand => [operand]
  | _ => []

/-! ## Slots and levels of a tree -/

mutual

def encode : Expression → List UInt16
  | undefined => [OpCode.undefined.code]
  | float index => [OpCode.float.code, index]
  | string index => [OpCode.string.code, index]
  | bool slot => [OpCode.bool.code, slot]
  | var name => [OpCode.var.code, name]
  | func name arguments =>
    OpCode.func.code :: name :: UInt16.ofNat arguments.length :: encodeAll arguments
  | arithmetic operator left right =>
    (OpCode.arithmetic operator).code :: (left.encode ++ right.encode)
  | order test left right => (OpCode.order test).code :: (left.encode ++ right.encode)
  | equals left right => OpCode.equals.code :: (left.encode ++ right.encode)
  | notEquals left right => OpCode.notEquals.code :: (left.encode ++ right.encode)
  | and left right => OpCode.and.code :: (left.encode ++ right.encode)
  | or left right => OpCode.or.code :: (left.encode ++ right.encode)
  | not operand => OpCode.not.code :: operand.encode
  | assign name operand => OpCode.assign.code :: name :: operand.encode
  | update operator name operand => (OpCode.update operator).code :: name :: operand.encode
  | goto kind index => [OpCode.goto.code, kind, index]
  | choice index => [OpCode.choice.code, index]
  | setSpeaker field speaker operand =>
    (OpCode.setSpeaker field).code :: speaker :: operand.encode
  | auto slot => [OpCode.auto.code, slot]
  | newLine => [OpCode.newLine.code]
  | speed operand => OpCode.speed.code :: operand.encode
  | pause operand => OpCode.pause.code :: operand.encode

@[simp] def encodeAll : List Expression → List UInt16
  | [] => []
  | tree :: trees => tree.encode ++ encodeAll trees

end

mutual

/-- The levels of nesting; an expression without operands has one. -/
def levels : Expression → Nat
  | func _ arguments => levelsOfAll arguments + 1
  | arithmetic _ left right | order _ left right | equals left right | notEquals left right
  | and left right | or left right => max left.levels right.levels + 1
  | not operand | assign _ operand | update _ _ operand | setSpeaker _ _ operand | speed operand
  | pause operand => operand.levels + 1
  | _ => 1

def levelsOfAll : List Expression → Nat
  | [] => 0
  | tree :: trees => max tree.levels (levelsOfAll trees)

end

mutual

/-- Whether the number of arguments of every call fits into a slot. -/
def IsEncodable : Expression → Prop
  | func _ arguments => arguments.length ≤ 65535 ∧ AreEncodable arguments
  | arithmetic _ left right | order _ left right | equals left right | notEquals left right
  | and left right | or left right => left.IsEncodable ∧ right.IsEncodable
  | not operand | assign _ operand | update _ _ operand | setSpeaker _ _ operand | speed operand
  | pause operand => operand.IsEncodable
  | _ => True

def AreEncodable : List Expression → Prop
  | [] => True
  | tree :: trees => tree.IsEncodable ∧ AreEncodable trees

end

theorem encode_eq (tree : Expression) :
    tree.encode = tree.operation.code :: (tree.slots ++ encodeAll tree.operands) := by
  cases tree <;> simp [encode]

theorem levels_le_levelsOfAll {tree : Expression} {trees : List Expression}
    (member : tree ∈ trees) : tree.levels ≤ levelsOfAll trees := by
  induction trees with
  | nil => cases member
  | cons head rest inductionHypothesis =>
    simp only [levelsOfAll]
    cases List.mem_cons.1 member with
    | inl same =>
      subst same
      exact Nat.le_max_left _ _
    | inr inRest =>
      exact Nat.le_trans (inductionHypothesis inRest) (Nat.le_max_right _ _)

theorem levels_eq (tree : Expression) : tree.levels = levelsOfAll tree.operands + 1 := by
  cases tree <;> simp [levels, levelsOfAll]

theorem levels_lt_of_mem_operands {tree operand : Expression} (member : operand ∈ tree.operands) :
    operand.levels < tree.levels := by
  rw [levels_eq tree]
  exact Nat.lt_succ_of_le (levels_le_levelsOfAll member)

theorem isEncodable_of_areEncodable {tree : Expression} {trees : List Expression}
    (encodable : AreEncodable trees) (member : tree ∈ trees) : tree.IsEncodable := by
  induction trees with
  | nil => cases member
  | cons head rest inductionHypothesis =>
    cases List.mem_cons.1 member with
    | inl same =>
      subst same
      exact encodable.1
    | inr inRest =>
      exact inductionHypothesis encodable.2 inRest

theorem IsEncodable.of_mem_operands {tree operand : Expression} (encodable : tree.IsEncodable)
    (member : operand ∈ tree.operands) : operand.IsEncodable := by
  -- each operation with its operands spelled out
  have areEncodable : AreEncodable tree.operands := by
    cases tree <;> simp_all [IsEncodable, AreEncodable]
  exact isEncodable_of_areEncodable areEncodable member

/-- Only a call tells the number of its operands by a slot. -/
theorem layout_operation (tree : Expression) :
    (∃ name arguments, tree = func name arguments) ∨
      tree.operation.layout = .fixed tree.slots.length tree.operands.length := by
  cases tree with
  | func name arguments => exact Or.inl ⟨name, arguments, rfl⟩
  | _ => exact Or.inr rfl

end Expression

/-! ## Trees in a stream -/

namespace Cursor

/-- Whether the next slots of the stream are the given ones. -/
def Reads (cursor : Cursor) (slots : List UInt16) : Prop :=
  slots <+: cursor.stream.toList.drop cursor.position

def advanceBy (cursor : Cursor) (count : Nat) : Cursor :=
  { cursor with position := cursor.position + count }

@[simp] theorem advanceBy_advanceBy {cursor : Cursor} {first second : Nat} :
    (cursor.advanceBy first).advanceBy second = cursor.advanceBy (first + second) := by
  simp [advanceBy, Nat.add_assoc]

theorem reads_of_append {before slots after : List UInt16} :
    Reads ⟨(before ++ slots ++ after).toArray, before.length⟩ slots := by
  simp [Reads]

theorem Reads.left {cursor : Cursor} {first second : List UInt16}
    (reads : cursor.Reads (first ++ second)) : cursor.Reads first :=
  (List.prefix_append first second).trans reads

theorem Reads.right {cursor : Cursor} {first second : List UInt16}
    (reads : cursor.Reads (first ++ second)) : (cursor.advanceBy first.length).Reads second := by
  obtain ⟨rest, stream⟩ := reads
  refine ⟨rest, ?_⟩
  simp only [advanceBy]
  -- dropping the first slots from the rest of the stream leaves the second ones in front
  rw [← List.drop_drop, ← stream, List.append_assoc, List.drop_left]

theorem Reads.tail {cursor : Cursor} {slot : UInt16} {slots : List UInt16}
    (reads : cursor.Reads (slot :: slots)) : (cursor.advanceBy 1).Reads slots :=
  Reads.right (show cursor.Reads ([slot] ++ slots) from reads)

theorem peek_of_reads {cursor : Cursor} {slot : UInt16} {slots : List UInt16}
    (reads : cursor.Reads (slot :: slots)) : cursor.peek = some slot := by
  obtain ⟨rest, stream⟩ := reads
  have first : (cursor.stream.toList.drop cursor.position)[0]? = some slot := by
    rw [← stream]
    rfl
  simpa [peek] using first

theorem read_of_reads {cursor : Cursor} {slot : UInt16} {slots : List UInt16}
    (reads : cursor.Reads (slot :: slots)) : cursor.read = (some slot, cursor.advanceBy 1) := by
  rw [read, peek_of_reads reads]
  rfl

theorem readTableIndex_of_reads {cursor : Cursor} {slot : UInt16} {slots : List UInt16}
    (reads : cursor.Reads (slot :: slots)) :
    cursor.readTableIndex = (some slot.toNat, cursor.advanceBy 1) := by
  simp [readTableIndex, read_of_reads reads]

theorem peekOperation_of_reads {cursor : Cursor} {op : OpCode} {slots : List UInt16}
    (reads : cursor.Reads (op.code :: slots)) : cursor.peekOperation = some op := by
  rw [peekOperation, peek_of_reads reads, Option.bind_some, OpCode.ofCode?_code]

theorem readOperation_of_reads {cursor : Cursor} {op : OpCode} {slots : List UInt16}
    (reads : cursor.Reads (op.code :: slots)) :
    cursor.readOperation = (some op, cursor.advanceBy 1) := by
  rw [readOperation, peekOperation_of_reads reads]
  rfl

/-! ## Skipping trees -/

theorem skipSlots_of_reads {cursor : Cursor} {slots : List UInt16} (reads : cursor.Reads slots) :
    skipSlots slots.length cursor = (true, cursor.advanceBy slots.length) := by
  induction slots generalizing cursor with
  | nil => rfl
  | cons slot slots inductionHypothesis =>
    simp only [List.length_cons, skipSlots, read_of_reads reads]
    rw [inductionHypothesis reads.tail, advanceBy_advanceBy, Nat.add_comm 1]

theorem skipMany_of_reads {skipOne : Cursor → Bool × Cursor} {trees : List Expression}
    (skips : ∀ tree ∈ trees, ∀ cursor : Cursor, cursor.Reads tree.encode →
      skipOne cursor = (true, cursor.advanceBy tree.encode.length))
    {cursor : Cursor} (reads : cursor.Reads (Expression.encodeAll trees)) :
    skipMany skipOne trees.length cursor =
      (true, cursor.advanceBy (Expression.encodeAll trees).length) := by
  induction trees generalizing cursor with
  | nil => rfl
  | cons tree trees inductionHypothesis =>
    simp only [Expression.encodeAll] at reads ⊢
    have others := inductionHypothesis
      (fun other member => skips other (List.mem_cons_of_mem _ member)) reads.right
    simp only [List.length_cons, skipMany, skips tree (by simp) cursor reads.left, others]
    simp

theorem skipOperands_of_reads {skipOne : Cursor → Bool × Cursor} {tree : Expression}
    (encodable : tree.IsEncodable)
    (skips : ∀ operand ∈ tree.operands, ∀ cursor : Cursor, cursor.Reads operand.encode →
      skipOne cursor = (true, cursor.advanceBy operand.encode.length))
    {cursor : Cursor} (reads : cursor.Reads (tree.slots ++ Expression.encodeAll tree.operands)) :
    skipOperands skipOne tree.operation.layout cursor =
      (true, cursor.advanceBy (tree.slots ++ Expression.encodeAll tree.operands).length) := by
  have operands := skipMany_of_reads skips reads.right
  -- a call tells the number of its operands by a slot, all others by their operation
  cases tree.layout_operation with
  | inl call =>
    obtain ⟨name, arguments, rfl⟩ := call
    have few : arguments.length < UInt16.size := Nat.lt_succ_of_le encodable.1
    have count : (UInt16.ofNat arguments.length).toNat = arguments.length :=
      UInt16.toNat_ofNat_of_lt' few
    simp only [Expression.slots, Expression.operands] at reads operands
    have nameRead := read_of_reads reads
    have countRead := readTableIndex_of_reads reads.tail
    simp only [Expression.operation, OpCode.layout, skipOperands, skipSlots, nameRead, countRead,
      count, advanceBy_advanceBy]
    rw [List.length_append]
    exact operands.trans (by rw [advanceBy_advanceBy]; rfl)
  | inr fixed =>
    rw [fixed]
    simp only [skipOperands, skipSlots_of_reads reads.left, operands]
    simp

theorem skipWithin_of_reads {levels : Nat} {tree : Expression} (encodable : tree.IsEncodable)
    (within : tree.levels ≤ levels) {cursor : Cursor} (reads : cursor.Reads tree.encode) :
    skipWithin levels cursor = (true, cursor.advanceBy tree.encode.length) := by
  -- on the levels that are left, as the skipping itself
  induction levels generalizing tree cursor with
  | zero => exact absurd within (by rw [tree.levels_eq]; omega)
  | succ levels inductionHypothesis =>
    rw [tree.encode_eq] at reads
    have skips : ∀ operand ∈ tree.operands, ∀ cursor : Cursor, cursor.Reads operand.encode →
        skipWithin levels cursor = (true, cursor.advanceBy operand.encode.length) := by
      intro operand member cursor reads
      have shallower := Expression.levels_lt_of_mem_operands member
      exact inductionHypothesis (encodable.of_mem_operands member) (by omega) reads
    simp only [skipWithin, readOperation_of_reads reads]
    rw [skipOperands_of_reads encodable skips reads.tail, tree.encode_eq, List.length_cons,
      advanceBy_advanceBy, Nat.add_comm 1]

/-- Skipping moves past exactly the slots of a tree that is not nested too deep. -/
theorem skip_of_reads {tree : Expression} (encodable : tree.IsEncodable)
    (within : tree.levels ≤ maxExpressionLevels) {cursor : Cursor}
    (reads : cursor.Reads tree.encode) :
    cursor.skip = (true, cursor.advanceBy tree.encode.length) :=
  skipWithin_of_reads encodable within reads

end Cursor

end Roleplay
