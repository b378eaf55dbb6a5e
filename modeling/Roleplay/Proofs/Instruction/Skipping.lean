import Mathlib.Data.List.Nodup
import Mathlib.Logic.Function.Iterate
import Roleplay.Proofs.Instruction.Expression

/-! # Where skipping stops

Skipping on a stream that need not be well formed, from any position inside it.

* `Leads` says that a cursor is further on in the same stream; `leads_skipWithin` says that skipping
  only moves on inside the stream;
* `isExhausted_of_skipWithin` says that a failure leaves the cursor at the end of the stream, so
  that stopping at the first failure and going on after it make no difference (`skipOperands_snd`);
* `exists_tree_of_skipWithin` says that a success has moved past exactly the slots of a tree;
* `runsIntoLimit` tells whether skipping reaches an expression for which no level is left; if it
  does not, more levels make no difference (`skipWithin_of_le`).
-/

namespace Roleplay

/-! ## Trees from their parts -/

theorem OpCode.code_of_ofCode? {code : UInt16} {op : OpCode} (found : ofCode? code = some op) :
    op.code = code := by
  obtain ⟨inTable, same⟩ := List.getElem?_eq_some_iff.1 found
  have place : all.idxOf op = code.toNat := by
    rw [← same]
    exact List.Nodup.idxOf_getElem (by decide) _ inTable
  rw [OpCode.code, place, UInt16.ofNat_toNat]

theorem OpCode.expressions_le_of_layout {op : OpCode} {slots expressions : Nat}
    (layout : op.layout = .fixed slots expressions) : expressions ≤ 2 := by
  cases op <;> cases layout <;> omega

theorem OpCode.eq_func_of_layout {op : OpCode} (layout : op.layout = .call) : op = .func := by
  cases op <;> first | rfl | cases layout

namespace Expression

/-- Slots and operands as the layout asks for are the parts of a tree. -/
theorem exists_of_layout : ∀ {op : OpCode} {slots : List UInt16} {operands : List Expression},
    op.layout = .fixed slots.length operands.length →
      ∃ tree : Expression, tree.operation = op ∧ tree.slots = slots ∧ tree.operands = operands
  | .undefined, [], [], _ => ⟨undefined, rfl, rfl, rfl⟩
  | .newLine, [], [], _ => ⟨newLine, rfl, rfl, rfl⟩
  | .float, [index], [], _ => ⟨float index, rfl, rfl, rfl⟩
  | .string, [index], [], _ => ⟨string index, rfl, rfl, rfl⟩
  | .bool, [slot], [], _ => ⟨bool slot, rfl, rfl, rfl⟩
  | .var, [name], [], _ => ⟨var name, rfl, rfl, rfl⟩
  | .choice, [index], [], _ => ⟨choice index, rfl, rfl, rfl⟩
  | .auto, [slot], [], _ => ⟨auto slot, rfl, rfl, rfl⟩
  | .goto, [kind, index], [], _ => ⟨goto kind index, rfl, rfl, rfl⟩
  | .arithmetic operator, [], [left, right], _ => ⟨arithmetic operator left right, rfl, rfl, rfl⟩
  | .order test, [], [left, right], _ => ⟨order test left right, rfl, rfl, rfl⟩
  | .equals, [], [left, right], _ => ⟨equals left right, rfl, rfl, rfl⟩
  | .notEquals, [], [left, right], _ => ⟨notEquals left right, rfl, rfl, rfl⟩
  | .and, [], [left, right], _ => ⟨and left right, rfl, rfl, rfl⟩
  | .or, [], [left, right], _ => ⟨or left right, rfl, rfl, rfl⟩
  | .not, [], [operand], _ => ⟨not operand, rfl, rfl, rfl⟩
  | .speed, [], [operand], _ => ⟨speed operand, rfl, rfl, rfl⟩
  | .pause, [], [operand], _ => ⟨pause operand, rfl, rfl, rfl⟩
  | .assign, [name], [operand], _ => ⟨assign name operand, rfl, rfl, rfl⟩
  | .update operator, [name], [operand], _ => ⟨update operator name operand, rfl, rfl, rfl⟩
  | .setSpeaker field, [speaker], [operand], _ =>
    ⟨setSpeaker field speaker operand, rfl, rfl, rfl⟩

theorem areEncodable_of_forall {trees : List Expression}
    (encodable : ∀ tree ∈ trees, tree.IsEncodable) : AreEncodable trees := by
  induction trees with
  | nil => exact trivial
  | cons tree trees inductionHypothesis =>
    rw [List.forall_mem_cons] at encodable
    exact ⟨encodable.1, inductionHypothesis encodable.2⟩

theorem levelsOfAll_le {trees : List Expression} {levels : Nat}
    (shallow : ∀ tree ∈ trees, tree.levels ≤ levels) : levelsOfAll trees ≤ levels := by
  induction trees with
  | nil => exact Nat.zero_le _
  | cons tree trees inductionHypothesis =>
    rw [List.forall_mem_cons] at shallow
    exact Nat.max_le.2 ⟨shallow.1, inductionHypothesis shallow.2⟩

theorem isEncodable_of_operands {tree : Expression} (few : tree.operands.length ≤ 65535)
    (encodable : ∀ operand ∈ tree.operands, operand.IsEncodable) : tree.IsEncodable := by
  cases tree with
  | func name arguments => exact ⟨few, areEncodable_of_forall encodable⟩
  | _ => simp_all [IsEncodable]

end Expression

namespace Cursor

/-! ## Moving on inside a stream -/

def IsWithin (cursor : Cursor) : Prop := cursor.position ≤ cursor.stream.size

def IsExhausted (cursor : Cursor) : Prop := cursor.position = cursor.stream.size

structure Leads (cursor next : Cursor) : Prop where
  stream_eq : next.stream = cursor.stream
  notBefore : cursor.position ≤ next.position
  isWithin : next.IsWithin

variable {cursor middle next : Cursor}

theorem IsExhausted.isWithin (exhausted : cursor.IsExhausted) : cursor.IsWithin :=
  Nat.le_of_eq exhausted

theorem isExhausted_toEnd : cursor.toEnd.IsExhausted := rfl

theorem IsExhausted.toEnd_eq (exhausted : cursor.IsExhausted) : cursor.toEnd = cursor := by
  rw [toEnd, ← exhausted]

theorem leads_refl (within : cursor.IsWithin) : cursor.Leads cursor :=
  ⟨rfl, Nat.le_refl _, within⟩

theorem Leads.trans (first : cursor.Leads middle) (second : middle.Leads next) :
    cursor.Leads next :=
  ⟨second.stream_eq.trans first.stream_eq, Nat.le_trans first.notBefore second.notBefore,
    second.isWithin⟩

theorem leads_toEnd (within : cursor.IsWithin) : cursor.Leads cursor.toEnd :=
  ⟨rfl, within, isExhausted_toEnd.isWithin⟩

theorem leads_advance {slot : UInt16} (found : cursor.peek = some slot) :
    cursor.Leads cursor.advance := by
  obtain ⟨inStream, -⟩ := Array.getElem?_eq_some_iff.1 found
  exact ⟨rfl, Nat.le_succ _, inStream⟩

theorem isExhausted_of_peek_eq_none (within : cursor.IsWithin) (missing : cursor.peek = none) :
    cursor.IsExhausted :=
  Nat.le_antisymm within (Array.getElem?_eq_none_iff.1 missing)

theorem IsExhausted.peek_eq_none (exhausted : cursor.IsExhausted) : cursor.peek = none := by
  exact Array.getElem?_eq_none_iff.2 (Nat.le_of_eq exhausted.symm)

/-! ## Reads -/

@[simp] theorem readTableIndex_snd : cursor.readTableIndex.2 = cursor.read.2 := rfl

@[simp] theorem readTableIndex_fst : cursor.readTableIndex.1 = cursor.read.1.map UInt16.toNat := rfl

theorem read_of_peek {slot : UInt16} (found : cursor.peek = some slot) :
    cursor.read = (some slot, cursor.advance) := by
  rw [read, found]

theorem read_of_peek_eq_none (missing : cursor.peek = none) : cursor.read = (none, cursor) := by
  rw [read, missing]

theorem leads_read (within : cursor.IsWithin) : cursor.Leads cursor.read.2 := by
  cases found : cursor.peek with
  | none =>
    rw [read_of_peek_eq_none found]
    exact leads_refl within
  | some slot =>
    rw [read_of_peek found]
    exact leads_advance found

theorem peek_of_peekOperation {op : OpCode} (found : cursor.peekOperation = some op) :
    cursor.peek = some op.code := by
  obtain ⟨code, peeked, decoded⟩ := Option.bind_eq_some_iff.1 found
  rw [peeked, OpCode.code_of_ofCode? decoded]

theorem reads_nil : cursor.Reads [] := List.nil_prefix

theorem reads_cons {slot : UInt16} {slots : List UInt16} (found : cursor.peek = some slot)
    (reads : cursor.advance.Reads slots) : cursor.Reads (slot :: slots) := by
  obtain ⟨inStream, same⟩ := Array.getElem?_eq_some_iff.1 found
  rw [Reads, List.drop_eq_getElem_cons inStream]
  exact List.cons_prefix_cons.2 ⟨same.symm, reads⟩

theorem Reads.append {first second : List UInt16} (reads : cursor.Reads first)
    (continues : (cursor.advanceBy first.length).Reads second) :
    cursor.Reads (first ++ second) := by
  obtain ⟨rest, stream⟩ := reads
  rw [Reads, advanceBy, ← List.drop_drop, ← stream, List.drop_left] at continues
  rw [Reads, ← stream]
  exact (List.prefix_append_right_inj first).2 continues

/-! ## Literal slots -/

/-- Skipping slots stops where reading them one by one stops, found or not. -/
theorem skipSlots_snd (count : Nat) :
    (skipSlots count cursor).2 = (fun cursor => cursor.read.2)^[count] cursor := by
  induction count generalizing cursor with
  | zero => rfl
  | succ count inductionHypothesis =>
    rw [Function.iterate_succ_apply, skipSlots]
    cases found : cursor.peek with
    | some slot =>
      simp only [read_of_peek found]
      exact inductionHypothesis
    | none =>
      have stays := read_of_peek_eq_none found
      simp only [stays]
      exact (Function.iterate_fixed (by rw [stays]) count).symm

theorem leads_iterate {step : Cursor → Cursor}
    (moves : ∀ {cursor : Cursor}, cursor.IsWithin → cursor.Leads (step cursor))
    (within : cursor.IsWithin) (count : Nat) : cursor.Leads (step^[count] cursor) := by
  induction count generalizing cursor with
  | zero => exact leads_refl within
  | succ count inductionHypothesis =>
    exact (moves within).trans (inductionHypothesis (moves within).isWithin)

theorem leads_skipSlots (within : cursor.IsWithin) (count : Nat) :
    cursor.Leads (skipSlots count cursor).2 := by
  rw [skipSlots_snd]
  exact leads_iterate leads_read within count

theorem isExhausted_of_skipSlots (within : cursor.IsWithin) {count : Nat}
    (failed : (skipSlots count cursor).1 = false) : (skipSlots count cursor).2.IsExhausted := by
  induction count generalizing cursor with
  | zero => cases failed
  | succ count inductionHypothesis =>
    cases found : cursor.peek with
    | some slot =>
      simp only [skipSlots, read_of_peek found] at failed ⊢
      exact inductionHypothesis (leads_advance found).isWithin failed
    | none =>
      simp only [skipSlots, read_of_peek_eq_none found]
      exact isExhausted_of_peek_eq_none within found

theorem exists_slots_of_skipSlots {count : Nat} (skipped : skipSlots count cursor = (true, next)) :
    ∃ slots : List UInt16, slots.length = count ∧ cursor.Reads slots ∧
      next = cursor.advanceBy slots.length := by
  induction count generalizing cursor with
  | zero =>
    cases skipped
    exact ⟨[], rfl, reads_nil, rfl⟩
  | succ count inductionHypothesis =>
    cases found : cursor.peek with
    | some slot =>
      simp only [skipSlots, read_of_peek found] at skipped
      obtain ⟨slots, rfl, reads, rfl⟩ := inductionHypothesis skipped
      refine ⟨slot :: slots, rfl, reads_cons found reads, ?_⟩
      rw [List.length_cons, Nat.add_comm, ← advanceBy_advanceBy]
      rfl
    | none =>
      simp only [skipSlots, read_of_peek_eq_none found] at skipped
      cases skipped

/-- A call whose operands are skipped has a name and the number of its arguments. -/
theorem skipOperands_call_inversion {skipOne : Cursor → Bool × Cursor}
    (skipped : skipOperands skipOne .call cursor = (true, next)) :
    ∃ name count : UInt16, cursor.Reads [name, count] ∧
      skipMany skipOne count.toNat (cursor.advanceBy 2) = (true, next) := by
  cases nameRead : cursor.peek with
  | none =>
    simp only [skipOperands, skipSlots, read_of_peek_eq_none nameRead] at skipped
    cases skipped
  | some name =>
    simp only [skipOperands, skipSlots, read_of_peek nameRead] at skipped
    cases countRead : cursor.advance.peek with
    | none =>
      simp only [readTableIndex, read_of_peek_eq_none countRead] at skipped
      cases skipped
    | some count =>
      simp only [readTableIndex, read_of_peek countRead] at skipped
      exact ⟨name, count, reads_cons nameRead (reads_cons countRead reads_nil), skipped⟩

/-! ## The operands of an operation -/

/-- Where the nested expressions of an operation begin, how many there are, and whether the literal
slots before them are in the stream. -/
structure Operands where
  complete : Bool
  count : Nat
  cursor : Cursor

/-- Reads the literal slots behind the code of an operation. -/
def operands : Layout → Cursor → Operands
  | .fixed slots expressions, cursor =>
    ⟨(skipSlots slots cursor).1, expressions, (skipSlots slots cursor).2⟩
  | .call, cursor =>
    let (count, behind) := cursor.read.2.readTableIndex
    ⟨count.isSome, count.getD 0, behind⟩

variable {skipOne : Cursor → Bool × Cursor}

theorem skipOperands_eq (layout : Layout) :
    skipOperands skipOne layout cursor =
      if (cursor.operands layout).complete then
        skipMany skipOne (cursor.operands layout).count (cursor.operands layout).cursor
      else (false, (cursor.operands layout).cursor) := by
  cases layout with
  | fixed slots expressions =>
    rw [skipOperands, operands]
    split
    next found => simp [found]
    next missing => simp [missing]
  | call =>
    cases name : cursor.peek with
    | none =>
      have stays := read_of_peek_eq_none name
      simp [skipOperands, operands, skipSlots, stays]
    | some slot =>
      simp only [skipOperands, operands, skipSlots, read_of_peek name]
      split
      next found => simp [found]
      next missing => simp [missing]

theorem leads_operands (within : cursor.IsWithin) (layout : Layout) :
    cursor.Leads (cursor.operands layout).cursor := by
  cases layout with
  | fixed slots expressions => exact leads_skipSlots within slots
  | call => exact (leads_read within).trans (leads_read (leads_read within).isWithin)

theorem isExhausted_of_operands (within : cursor.IsWithin) {layout : Layout}
    (incomplete : (cursor.operands layout).complete = false) :
    (cursor.operands layout).cursor.IsExhausted := by
  cases layout with
  | fixed slots expressions => exact isExhausted_of_skipSlots within incomplete
  | call =>
    have nameRead := leads_read within
    cases count : cursor.read.2.peek with
    | none =>
      simp only [operands, readTableIndex, read_of_peek_eq_none count]
      exact isExhausted_of_peek_eq_none nameRead.isWithin count
    | some slot => simp [operands, readTableIndex, read_of_peek count] at incomplete

/-! ## Skipping expressions -/

/-- Stopping at the first failure leaves the cursor where going on would leave it, since nothing
moves on from the end of the stream. -/
theorem skipMany_snd
    (fails : ∀ {cursor : Cursor}, (skipOne cursor).1 = false → (skipOne cursor).2.IsExhausted)
    (stays : ∀ {cursor : Cursor}, cursor.IsExhausted → (skipOne cursor).2 = cursor) (count : Nat) :
    (skipMany skipOne count cursor).2 = (fun cursor => (skipOne cursor).2)^[count] cursor := by
  induction count generalizing cursor with
  | zero => rfl
  | succ count inductionHypothesis =>
    rw [Function.iterate_succ_apply, skipMany]
    split
    next next skipped =>
      rw [inductionHypothesis, skipped]
    next next skipped =>
      have exhausted : next.IsExhausted := by
        have ended := @fails cursor
        rw [skipped] at ended
        exact ended rfl
      rw [skipped]
      exact (Function.iterate_fixed (stays exhausted) count).symm

theorem isExhausted_of_skipMany
    (fails : ∀ {cursor : Cursor}, (skipOne cursor).1 = false → (skipOne cursor).2.IsExhausted)
    {count : Nat} (failed : (skipMany skipOne count cursor).1 = false) :
    (skipMany skipOne count cursor).2.IsExhausted := by
  induction count generalizing cursor with
  | zero => cases failed
  | succ count inductionHypothesis =>
    rw [skipMany] at failed ⊢
    split at failed
    next next skipped => exact inductionHypothesis failed
    next next skipped =>
      have ended := @fails cursor
      rw [skipped] at ended
      exact ended rfl

theorem skipWithin_succ {levels : Nat} {op : OpCode} (found : cursor.peekOperation = some op) :
    skipWithin (levels + 1) cursor =
      skipOperands (skipWithin levels) op.layout cursor.advance := by
  simp only [skipWithin, readOperation, found]

theorem skipWithin_of_peekOperation_eq_none {levels : Nat}
    (missing : cursor.peekOperation = none) :
    skipWithin (levels + 1) cursor = (false, cursor.toEnd) := by
  simp only [skipWithin, readOperation, missing]

theorem skipWithin_of_isExhausted (exhausted : cursor.IsExhausted) (levels : Nat) :
    skipWithin levels cursor = (false, cursor) := by
  cases levels with
  | zero => rw [skipWithin, exhausted.toEnd_eq]
  | succ levels =>
    have missing : cursor.peekOperation = none := by
      rw [peekOperation, exhausted.peek_eq_none]
      rfl
    rw [skipWithin_of_peekOperation_eq_none missing, exhausted.toEnd_eq]

/-- Whatever makes skipping fail, the cursor is at the end of the stream then. -/
theorem isExhausted_of_skipWithin {levels : Nat} (failed : (skipWithin levels cursor).1 = false) :
    (skipWithin levels cursor).2.IsExhausted := by
  induction levels generalizing cursor with
  | zero => exact isExhausted_toEnd
  | succ levels inductionHypothesis =>
    cases found : cursor.peekOperation with
    | none =>
      rw [skipWithin_of_peekOperation_eq_none found]
      exact isExhausted_toEnd
    | some op =>
      have within := (leads_advance (peek_of_peekOperation found)).isWithin
      rw [skipWithin_succ found, skipOperands_eq] at failed ⊢
      split at failed
      next complete =>
        rw [if_pos complete]
        exact isExhausted_of_skipMany inductionHypothesis failed
      next incomplete =>
        rw [if_neg incomplete]
        exact isExhausted_of_operands within (by simpa using incomplete)

/-- Skipping the operands of an operation stops where skipping so many expressions one after the
other stops, even if the stream ends before that. -/
theorem skipOperands_snd (within : cursor.IsWithin) (levels : Nat) (layout : Layout) :
    (skipOperands (skipWithin levels) layout cursor).2 =
      (fun cursor => (skipWithin levels cursor).2)^[(cursor.operands layout).count]
        (cursor.operands layout).cursor := by
  have stays {cursor : Cursor} (exhausted : cursor.IsExhausted) :
      (skipWithin levels cursor).2 = cursor := by
    rw [skipWithin_of_isExhausted exhausted]
  rw [skipOperands_eq]
  split
  next => exact skipMany_snd isExhausted_of_skipWithin stays _
  next incomplete =>
    have exhausted := isExhausted_of_operands within (by simpa using incomplete)
    exact (Function.iterate_fixed (stays exhausted) _).symm

theorem leads_skipWithin (within : cursor.IsWithin) (levels : Nat) :
    cursor.Leads (skipWithin levels cursor).2 := by
  induction levels generalizing cursor with
  | zero => exact leads_toEnd within
  | succ levels inductionHypothesis =>
    cases found : cursor.peekOperation with
    | none =>
      rw [skipWithin_of_peekOperation_eq_none found]
      exact leads_toEnd within
    | some op =>
      have advanced := leads_advance (peek_of_peekOperation found)
      have slots := leads_operands advanced.isWithin op.layout
      rw [skipWithin_succ found, skipOperands_snd advanced.isWithin]
      exact (advanced.trans slots).trans
        (leads_iterate (fun within => inductionHypothesis within) slots.isWithin _)

theorem stream_skip : cursor.skip.2.stream = cursor.stream := by
  by_cases within : cursor.IsWithin
  · exact (leads_skipWithin within maxExpressionLevels).stream_eq
  · -- beyond its end the stream holds no operation, and the cursor returns to the end
    have missing : cursor.peek = none :=
      Array.getElem?_eq_none_iff.2 (Nat.le_of_lt (Nat.lt_of_not_le within))
    rw [skip, maxExpressionLevels, skipWithin_of_peekOperation_eq_none (by rw [peekOperation,
      missing, Option.bind_none])]
    rfl

/-! ## What was skipped -/

/-- The slots between two cursors are those of a tree of at most so many levels. -/
def Spans (levels : Nat) (cursor next : Cursor) : Prop :=
  ∃ tree : Expression, tree.IsEncodable ∧ tree.levels ≤ levels ∧ cursor.Reads tree.encode ∧
    next = cursor.advanceBy tree.encode.length

theorem exists_trees_of_skipMany {levels count : Nat}
    (spans : ∀ {cursor next : Cursor}, skipOne cursor = (true, next) → Spans levels cursor next)
    (skipped : skipMany skipOne count cursor = (true, next)) :
    ∃ trees : List Expression, trees.length = count ∧
      (∀ tree ∈ trees, tree.IsEncodable ∧ tree.levels ≤ levels) ∧
      cursor.Reads (Expression.encodeAll trees) ∧
      next = cursor.advanceBy (Expression.encodeAll trees).length := by
  induction count generalizing cursor with
  | zero =>
    cases skipped
    exact ⟨[], rfl, by simp, reads_nil, rfl⟩
  | succ count inductionHypothesis =>
    rw [skipMany] at skipped
    split at skipped
    next middle first =>
      obtain ⟨tree, encodable, shallow, reads, rfl⟩ := spans first
      obtain ⟨trees, rfl, each, continues, rfl⟩ := inductionHypothesis skipped
      refine ⟨tree :: trees, rfl, ?_, reads.append continues, ?_⟩
      · exact List.forall_mem_cons.2 ⟨⟨encodable, shallow⟩, each⟩
      · rw [advanceBy_advanceBy, Expression.encodeAll, List.length_append]
    next => cases skipped

/-- An operation whose slots and operands are in the stream begins a tree. -/
theorem spans_of_parts {levels : Nat} {op : OpCode} {slots : List UInt16}
    {trees : List Expression} (found : cursor.peek = some op.code)
    (reads : cursor.advance.Reads (slots ++ Expression.encodeAll trees))
    (each : ∀ tree ∈ trees, tree.IsEncodable ∧ tree.levels ≤ levels)
    (exists_tree : ∃ tree : Expression,
      tree.operation = op ∧ tree.slots = slots ∧ tree.operands = trees)
    (few : trees.length ≤ 65535) :
    Spans (levels + 1) cursor
      (cursor.advance.advanceBy (slots ++ Expression.encodeAll trees).length) := by
  obtain ⟨tree, rfl, rfl, rfl⟩ := exists_tree
  refine ⟨tree, ?_, ?_, ?_, ?_⟩
  · exact Expression.isEncodable_of_operands few fun operand member => (each operand member).1
  · rw [tree.levels_eq]
    exact Nat.succ_le_succ (Expression.levelsOfAll_le fun operand member => (each operand member).2)
  · rw [tree.encode_eq]
    exact reads_cons found reads
  · rw [tree.encode_eq, List.length_cons, Nat.add_comm, ← advanceBy_advanceBy]
    rfl

/-- Successful skipping has moved past exactly the slots of a tree. -/
theorem spans_of_skipWithin {levels : Nat} (skipped : skipWithin levels cursor = (true, next)) :
    Spans levels cursor next := by
  induction levels generalizing cursor next with
  | zero => cases skipped
  | succ levels inductionHypothesis =>
    cases found : cursor.peekOperation with
    | none =>
      rw [skipWithin_of_peekOperation_eq_none found] at skipped
      cases skipped
    | some op =>
      have code := peek_of_peekOperation found
      rw [skipWithin_succ found] at skipped
      cases layout : op.layout with
      | fixed slots expressions =>
        rw [layout, skipOperands] at skipped
        split at skipped
        next middle slotsSkipped =>
          obtain ⟨slots, rfl, reads, rfl⟩ := exists_slots_of_skipSlots slotsSkipped
          obtain ⟨trees, rfl, each, continues, rfl⟩ :=
            exists_trees_of_skipMany inductionHypothesis skipped
          have few := OpCode.expressions_le_of_layout layout
          rw [advanceBy_advanceBy, ← List.length_append]
          exact spans_of_parts code (reads.append continues) each
            (Expression.exists_of_layout layout) (by omega)
        next => cases skipped
      | call =>
        rw [layout] at skipped
        obtain ⟨name, count, reads, arguments⟩ := skipOperands_call_inversion skipped
        obtain ⟨trees, length, each, continues, rfl⟩ :=
          exists_trees_of_skipMany inductionHypothesis arguments
        have few : trees.length ≤ 65535 := by
          have small := count.toNat_lt
          omega
        have parts : ∃ tree : Expression,
            tree.operation = op ∧ tree.slots = [name, count] ∧ tree.operands = trees := by
          refine ⟨.func name trees, (OpCode.eq_func_of_layout layout).symm, ?_, rfl⟩
          simp [length]
        have spans := spans_of_parts code (reads.append continues) each parts few
        rwa [List.length_append, ← advanceBy_advanceBy] at spans

/-! ## The limit on nesting -/

/-- Whether one of the expressions that skipping so many of them tries runs into the limit. -/
def someRunsIntoLimit (skipOne : Cursor → Bool × Cursor) (runs : Cursor → Bool) :
    Nat → Cursor → Bool
  | 0, _ => false
  | count + 1, cursor =>
    runs cursor ||
      match skipOne cursor with
      | (true, cursor) => someRunsIntoLimit skipOne runs count cursor
      | (false, _) => false

/-- Whether skipping an expression of at most so many levels tries a nested expression for which no
level is left. -/
def runsIntoLimit : Nat → Cursor → Bool
  | 0, _ => true
  | levels + 1, cursor =>
    match cursor.readOperation with
    | (some op, cursor) =>
      (cursor.operands op.layout).complete &&
        someRunsIntoLimit (skipWithin levels) (runsIntoLimit levels)
          (cursor.operands op.layout).count (cursor.operands op.layout).cursor
    | (none, _) => false

theorem runsIntoLimit_succ {levels : Nat} {op : OpCode} (found : cursor.peekOperation = some op) :
    runsIntoLimit (levels + 1) cursor =
      ((cursor.advance.operands op.layout).complete &&
        someRunsIntoLimit (skipWithin levels) (runsIntoLimit levels)
          (cursor.advance.operands op.layout).count
          (cursor.advance.operands op.layout).cursor) := by
  simp only [runsIntoLimit, readOperation, found]

theorem skipMany_eq_of_limit {levels : Nat} {skipMore : Cursor → Bool × Cursor} {count : Nat}
    (same : ∀ {cursor : Cursor}, runsIntoLimit levels cursor = false →
      skipMore cursor = skipWithin levels cursor)
    (clear : someRunsIntoLimit (skipWithin levels) (runsIntoLimit levels) count cursor = false) :
    skipMany skipMore count cursor = skipMany (skipWithin levels) count cursor := by
  induction count generalizing cursor with
  | zero => rfl
  | succ count inductionHypothesis =>
    rw [someRunsIntoLimit, Bool.or_eq_false_iff] at clear
    rw [skipMany, skipMany, same clear.1]
    split
    next next skipped =>
      rw [skipped] at clear
      exact inductionHypothesis clear.2
    next => rfl

/-- More levels make no difference to skipping that does not run into the limit. -/
theorem skipWithin_of_le {levels more : Nat} (enough : levels ≤ more)
    (clear : runsIntoLimit levels cursor = false) :
    skipWithin more cursor = skipWithin levels cursor := by
  induction levels generalizing more cursor with
  | zero => cases clear
  | succ levels inductionHypothesis =>
    obtain ⟨more, rfl⟩ := Nat.exists_eq_add_of_lt enough
    cases found : cursor.peekOperation with
    | none =>
      rw [skipWithin_of_peekOperation_eq_none found, skipWithin_of_peekOperation_eq_none found]
    | some op =>
      rw [runsIntoLimit_succ found, Bool.and_eq_false_iff] at clear
      rw [skipWithin_succ found, skipWithin_succ found, skipOperands_eq, skipOperands_eq]
      split
      next complete =>
        have operandsClear := clear.resolve_left (by simp [complete])
        exact skipMany_eq_of_limit (inductionHypothesis (by omega)) operandsClear
      next => rfl

/-- Skipping from the cursor does not run into the limit, or the stream has ended. -/
def IsClear (levels : Nat) (cursor : Cursor) : Prop :=
  cursor.IsExhausted ∨ runsIntoLimit levels cursor = false

/-- The same of so many expressions in a row. -/
def AreClear (levels count : Nat) (cursor : Cursor) : Prop :=
  cursor.IsExhausted ∨
    someRunsIntoLimit (skipWithin levels) (runsIntoLimit levels) count cursor = false

theorem IsClear.skipWithin_of_le {levels more : Nat} (clear : IsClear levels cursor)
    (enough : levels ≤ more) : skipWithin more cursor = skipWithin levels cursor := by
  cases clear with
  | inl exhausted =>
    rw [skipWithin_of_isExhausted exhausted, skipWithin_of_isExhausted exhausted]
  | inr clear => exact Cursor.skipWithin_of_le enough clear

theorem AreClear.head {levels count : Nat} (clear : AreClear levels (count + 1) cursor) :
    IsClear levels cursor := by
  cases clear with
  | inl exhausted => exact Or.inl exhausted
  | inr clear =>
    rw [someRunsIntoLimit, Bool.or_eq_false_iff] at clear
    exact Or.inr clear.1

/-- A failure ends the stream, so that the expressions after it are clear as well. -/
theorem AreClear.tail {levels count : Nat} (clear : AreClear levels (count + 1) cursor) :
    AreClear levels count (skipWithin levels cursor).2 := by
  cases clear with
  | inl exhausted =>
    rw [skipWithin_of_isExhausted exhausted]
    exact Or.inl exhausted
  | inr clear =>
    rw [someRunsIntoLimit, Bool.or_eq_false_iff] at clear
    cases skipped : (skipWithin levels cursor).1 with
    | false => exact Or.inl (isExhausted_of_skipWithin skipped)
    | true =>
      have others := clear.2
      rw [show skipWithin levels cursor = (true, (skipWithin levels cursor).2) from
        Prod.ext skipped rfl] at others
      exact Or.inr others

theorem IsClear.operands {levels : Nat} {op : OpCode} (found : cursor.peekOperation = some op)
    (clear : IsClear (levels + 1) cursor) :
    AreClear levels (cursor.advance.operands op.layout).count
      (cursor.advance.operands op.layout).cursor := by
  have peeked := peek_of_peekOperation found
  cases clear with
  | inl exhausted =>
    rw [exhausted.peek_eq_none] at peeked
    cases peeked
  | inr clear =>
    rw [runsIntoLimit_succ found, Bool.and_eq_false_iff] at clear
    exact clear.imp_left (isExhausted_of_operands (leads_advance peeked).isWithin)

end Cursor

end Roleplay
