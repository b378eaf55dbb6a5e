import Roleplay.Proofs.Instruction.Skipping

/-! # The grammar of instructions

A stream holds an expression at a position if the slots from there on are those of a tree.  There
is one such tree at most, and skipping finds out whether there is one.

* `Expression.ofParts?` puts a tree together, so that its operation, slots and operands determine
  it;
* `Expression.eq_of_encode_append`: two trees that begin the same stream are the same, so the slots
  of a tree never begin with those of another one;
* `Expression.Occupies` says that a tree fills a stream from one position up to another;
* `Cursor.skip_grammar`: skipping accepts exactly the slots of a tree, and otherwise ends the
  stream.
-/

namespace Roleplay

namespace Expression

/-! ## Trees and their parts -/

/-- The tree of an operation with its literal slots and its operands. -/
def ofParts? : OpCode → List UInt16 → List Expression → Option Expression
  | .undefined, [], [] => some undefined
  | .float, [index], [] => some (float index)
  | .string, [index], [] => some (string index)
  | .bool, [slot], [] => some (bool slot)
  | .var, [name], [] => some (var name)
  | .func, [name, _], arguments => some (func name arguments)
  | .arithmetic operator, [], [left, right] => some (arithmetic operator left right)
  | .order test, [], [left, right] => some (order test left right)
  | .equals, [], [left, right] => some (equals left right)
  | .notEquals, [], [left, right] => some (notEquals left right)
  | .and, [], [left, right] => some (and left right)
  | .or, [], [left, right] => some (or left right)
  | .not, [], [operand] => some (not operand)
  | .assign, [name], [operand] => some (assign name operand)
  | .update operator, [name], [operand] => some (update operator name operand)
  | .goto, [kind, index], [] => some (goto kind index)
  | .choice, [index], [] => some (choice index)
  | .setSpeaker field, [speaker], [operand] => some (setSpeaker field speaker operand)
  | .auto, [slot], [] => some (auto slot)
  | .newLine, [], [] => some newLine
  | .speed, [], [operand] => some (speed operand)
  | .pause, [], [operand] => some (pause operand)
  | _, _, _ => none

theorem ofParts?_parts (tree : Expression) :
    ofParts? tree.operation tree.slots tree.operands = some tree := by
  cases tree <;> rfl

variable {tree other : Expression}

theorem eq_of_parts (operation : tree.operation = other.operation)
    (slots : tree.slots = other.slots) (operands : tree.operands = other.operands) :
    tree = other := by
  have same : ofParts? tree.operation tree.slots tree.operands = some other := by
    rw [operation, slots, operands, ofParts?_parts]
  exact Option.some.inj ((ofParts?_parts tree).symm.trans same)

theorem length_slots_of_operation (operation : tree.operation = other.operation) :
    tree.slots.length = other.slots.length := by
  rcases tree.layout_operation with ⟨name, arguments, rfl⟩ | fixed
  · rcases other.layout_operation with ⟨name', arguments', rfl⟩ | fixed'
    · rfl
    · rw [← operation] at fixed'
      cases fixed'
  · rcases other.layout_operation with ⟨name', arguments', rfl⟩ | fixed'
    · rw [operation] at fixed
      cases fixed
    · rw [operation, fixed'] at fixed
      injection fixed with slots operands
      exact slots.symm

/-- The number of operands is known from the operation, or for a call from its slots. -/
theorem length_operands_of_slots (encodable : tree.IsEncodable) (otherEncodable : other.IsEncodable)
    (operation : tree.operation = other.operation) (slots : tree.slots = other.slots) :
    tree.operands.length = other.operands.length := by
  rcases tree.layout_operation with ⟨name, arguments, rfl⟩ | fixed
  · rcases other.layout_operation with ⟨name', arguments', rfl⟩ | fixed'
    · have count : UInt16.ofNat arguments.length = UInt16.ofNat arguments'.length :=
        (List.cons.inj (List.cons.inj slots).2).1
      have few : arguments.length < UInt16.size := Nat.lt_succ_of_le encodable.1
      have few' : arguments'.length < UInt16.size := Nat.lt_succ_of_le otherEncodable.1
      rw [operands, operands, ← UInt16.toNat_ofNat_of_lt' few, count,
        UInt16.toNat_ofNat_of_lt' few']
    · rw [← operation] at fixed'
      cases fixed'
  · rcases other.layout_operation with ⟨name', arguments', rfl⟩ | fixed'
    · rw [operation] at fixed
      cases fixed
    · rw [operation, fixed'] at fixed
      injection fixed with slots operands
      exact operands.symm

/-! ## One tree at most -/

/-- If single trees are told apart by the slots they begin with, so are rows of as many trees. -/
theorem eq_of_encodeAll_append {trees others : List Expression}
    (apart : ∀ tree ∈ trees, ∀ {other : Expression} {rest rest' : List UInt16},
      other.IsEncodable → tree.encode ++ rest = other.encode ++ rest' →
        tree = other ∧ rest = rest')
    (encodable : ∀ other ∈ others, other.IsEncodable) (length : trees.length = others.length)
    {rest rest' : List UInt16} (same : encodeAll trees ++ rest = encodeAll others ++ rest') :
    trees = others ∧ rest = rest' := by
  induction trees generalizing others with
  | nil =>
    obtain rfl := List.length_eq_zero_iff.1 length.symm
    exact ⟨rfl, same⟩
  | cons tree trees inductionHypothesis =>
    cases others with
    | nil => cases length
    | cons other others =>
      rw [encodeAll, encodeAll, List.append_assoc, List.append_assoc] at same
      obtain ⟨rfl, continues⟩ := apart tree (.head _) (encodable other (.head _)) same
      obtain ⟨rfl, ends⟩ := inductionHypothesis (fun tree member => apart tree (.tail _ member))
        (fun other member => encodable other (.tail _ member)) (Nat.succ.inj length) continues
      exact ⟨rfl, ends⟩

theorem eq_of_encode_append {levels : Nat} (within : tree.levels ≤ levels)
    (encodable : tree.IsEncodable) (otherEncodable : other.IsEncodable)
    {rest rest' : List UInt16} (same : tree.encode ++ rest = other.encode ++ rest') :
    tree = other ∧ rest = rest' := by
  -- on the levels, since the operands of a tree have fewer
  induction levels generalizing tree other rest rest' with
  | zero => exact absurd within (by rw [tree.levels_eq]; omega)
  | succ levels inductionHypothesis =>
    rw [tree.encode_eq, other.encode_eq, List.cons_append, List.cons_append, List.append_assoc,
      List.append_assoc] at same
    obtain ⟨code, behind⟩ := List.cons.inj same
    have operation : tree.operation = other.operation := by
      have read := OpCode.ofCode?_code tree.operation
      rw [code, OpCode.ofCode?_code] at read
      exact (Option.some.inj read).symm
    obtain ⟨slots, operands⟩ := List.append_inj behind (length_slots_of_operation operation)
    have length := length_operands_of_slots encodable otherEncodable operation slots
    have apart : ∀ operand ∈ tree.operands, ∀ {other : Expression} {rest rest' : List UInt16},
        other.IsEncodable → operand.encode ++ rest = other.encode ++ rest' →
          operand = other ∧ rest = rest' := by
      intro operand member other rest rest' otherEncodable same
      have shallower := levels_lt_of_mem_operands member
      exact inductionHypothesis (by omega) (encodable.of_mem_operands member) otherEncodable same
    obtain ⟨row, ends⟩ := eq_of_encodeAll_append apart
      (fun operand member => otherEncodable.of_mem_operands member) length operands
    exact ⟨eq_of_parts operation slots row, ends⟩

/-- The slots of a tree do not begin with those of another one. -/
theorem eq_of_encode_prefix (encodable : tree.IsEncodable) (otherEncodable : other.IsEncodable)
    (begins : tree.encode <+: other.encode) : tree = other := by
  obtain ⟨rest, same⟩ := begins
  have whole : tree.encode ++ rest = other.encode ++ [] := by rw [same, List.append_nil]
  exact (eq_of_encode_append (Nat.le_refl _) encodable otherEncodable whole).1

/-! ## Trees that fill a part of a stream -/

/-- The slots of the stream from one position up to another are those of the tree. -/
def Occupies (tree : Expression) (stream : Instruction) (start stop : Nat) : Prop :=
  stop ≤ stream.size ∧ (stream.extract start stop).toList = tree.encode

theorem length_encode_pos : 0 < tree.encode.length := by
  rw [encode_eq]
  exact Nat.succ_pos _

theorem occupies_iff {stream : Instruction} {start stop : Nat} :
    tree.Occupies stream start stop ↔
      Cursor.Reads ⟨stream, start⟩ tree.encode ∧ stop = start + tree.encode.length := by
  have some := tree.length_encode_pos
  constructor
  · rintro ⟨inStream, same⟩
    have length := congrArg List.length same
    rw [Array.length_toList, Array.size_extract] at length
    rw [Array.toList_extract, List.extract_eq_take_drop] at same
    exact ⟨same ▸ List.take_prefix _ _, by omega⟩
  · rintro ⟨reads, rfl⟩
    have fits : tree.encode.length ≤ stream.size - start := by simpa using reads.length_le
    refine ⟨by omega, ?_⟩
    rw [Array.toList_extract, List.extract_eq_take_drop, Nat.add_sub_cancel_left]
    exact (List.prefix_iff_eq_take.1 reads).symm

end Expression

namespace Cursor

theorem spans_iff {levels : Nat} {stream : Instruction} {start stop : Nat} :
    Spans levels ⟨stream, start⟩ ⟨stream, stop⟩ ↔ ∃ tree : Expression,
      tree.IsEncodable ∧ tree.levels ≤ levels ∧ tree.Occupies stream start stop := by
  simp only [Spans, Expression.occupies_iff, advanceBy, mk.injEq, true_and]

theorem skip_eq_true_iff {cursor next : Cursor} :
    cursor.skip = (true, next) ↔ Spans maxExpressionLevels cursor next := by
  constructor
  · exact spans_of_skipWithin
  · rintro ⟨tree, encodable, within, reads, rfl⟩
    exact skip_of_reads encodable within reads

/-- Skipping that fails leaves the cursor at the end of the stream. -/
theorem skip_of_failed {cursor : Cursor} (failed : cursor.skip.1 = false) :
    cursor.skip = (false, cursor.toEnd) := by
  have exhausted : cursor.skip.2.IsExhausted := isExhausted_of_skipWithin failed
  have position : cursor.skip.2.position = cursor.stream.size := by
    rw [exhausted, stream_skip]
  refine Prod.ext failed ?_
  rw [toEnd, ← position, ← cursor.stream_skip]

/-- From any position of any stream, skipping accepts the slots of a tree that is not nested too
deep, and stops behind them.  There is no other tree at that position, whatever its depth and
wherever it ends, since the slots of a tree never begin with those of another one.  If there is
none, skipping fails and stops at the end of the stream. -/
theorem skip_grammar (stream : Instruction) (start : Nat) :
    (∀ stop, skip ⟨stream, start⟩ = (true, ⟨stream, stop⟩) ↔ ∃ tree : Expression,
      tree.IsEncodable ∧ tree.levels ≤ maxExpressionLevels ∧ tree.Occupies stream start stop) ∧
    (∀ (tree other : Expression) (stop stop' : Nat), tree.IsEncodable → other.IsEncodable →
      tree.Occupies stream start stop → other.Occupies stream start stop' →
        tree = other ∧ stop = stop') ∧
    (∀ tree other : Expression, tree.IsEncodable → other.IsEncodable →
      tree.encode <+: other.encode → tree = other) ∧
    ((¬∃ (tree : Expression) (stop : Nat), tree.IsEncodable ∧
        tree.levels ≤ maxExpressionLevels ∧ tree.Occupies stream start stop) →
      skip ⟨stream, start⟩ = (false, ⟨stream, stream.size⟩)) := by
  have accepts (stop : Nat) : skip ⟨stream, start⟩ = (true, ⟨stream, stop⟩) ↔
      ∃ tree : Expression, tree.IsEncodable ∧ tree.levels ≤ maxExpressionLevels ∧
        tree.Occupies stream start stop :=
    skip_eq_true_iff.trans spans_iff
  refine ⟨accepts, ?_, fun tree other => Expression.eq_of_encode_prefix, fun none => ?_⟩
  · intro tree other stop stop' encodable otherEncodable occupies otherOccupies
    obtain ⟨reads, rfl⟩ := Expression.occupies_iff.1 occupies
    obtain ⟨otherReads, rfl⟩ := Expression.occupies_iff.1 otherOccupies
    obtain ⟨rest, front⟩ := reads
    obtain ⟨rest', otherFront⟩ := otherReads
    obtain ⟨rfl, -⟩ := Expression.eq_of_encode_append (Nat.le_refl _) encodable otherEncodable
      (front.trans otherFront.symm)
    exact ⟨rfl, rfl⟩
  · cases skipped : (skip ⟨stream, start⟩).1 with
    | false => exact skip_of_failed skipped
    | true =>
      obtain ⟨tree, encodable, within, reads, -⟩ := skip_eq_true_iff.1 (Prod.ext skipped rfl)
      exact absurd ⟨tree, _, encodable, within, Expression.occupies_iff.2 ⟨reads, rfl⟩⟩ none

end Cursor

end Roleplay
