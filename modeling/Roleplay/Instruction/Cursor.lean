import Roleplay.Instruction.OpCode

/-! # Cursors over instructions

A position in a stream of slots, with the ways to move it.

* `Cursor.read` takes one slot, `Cursor.readOperation` one that holds the code of an operation;
* `Cursor.skip` moves past one whole expression without evaluating it.

A failed read leaves the cursor where it is.  Skipping fails on a missing operand, on an unknown
code and below 256 levels of nesting; the last two move the cursor to the end of the stream, where
a missing operand has left it already.
-/

namespace Roleplay

abbrev Instruction := Array UInt16

/-- The levels of nested expressions that are followed. -/
def maxExpressionLevels : Nat := 256

structure Cursor where
  stream : Instruction
  position : Nat
deriving Repr, DecidableEq

namespace Cursor

def start (stream : Instruction) : Cursor := ⟨stream, 0⟩

def isAtEnd (cursor : Cursor) : Bool := cursor.stream.size ≤ cursor.position

def toEnd (cursor : Cursor) : Cursor := { cursor with position := cursor.stream.size }

def advance (cursor : Cursor) : Cursor := { cursor with position := cursor.position + 1 }

def peek (cursor : Cursor) : Option UInt16 := cursor.stream[cursor.position]?

def read (cursor : Cursor) : Option UInt16 × Cursor :=
  match cursor.peek with
  | some slot => (some slot, cursor.advance)
  | none => (none, cursor)

/-- Reads a slot as an index into a table. -/
def readTableIndex (cursor : Cursor) : Option Nat × Cursor :=
  let (slot, cursor) := cursor.read
  (slot.map UInt16.toNat, cursor)

def peekOperation (cursor : Cursor) : Option OpCode := cursor.peek.bind OpCode.ofCode?

def readOperation (cursor : Cursor) : Option OpCode × Cursor :=
  match cursor.peekOperation with
  | some op => (some op, cursor.advance)
  | none => (none, cursor)

/-! ## Skipping -/

/-- Moves past literal slots; stops at the first one that is missing. -/
def skipSlots : Nat → Cursor → Bool × Cursor
  | 0, cursor => (true, cursor)
  | count + 1, cursor =>
    match cursor.read with
    | (some _, cursor) => skipSlots count cursor
    | (none, cursor) => (false, cursor)

/-- Moves past several expressions; stops after the first failure. -/
def skipMany (skipOne : Cursor → Bool × Cursor) : Nat → Cursor → Bool × Cursor
  | 0, cursor => (true, cursor)
  | count + 1, cursor =>
    match skipOne cursor with
    | (true, cursor) => skipMany skipOne count cursor
    | (false, cursor) => (false, cursor)

def skipOperands (skipOne : Cursor → Bool × Cursor) : Layout → Cursor → Bool × Cursor
  | .fixed slots expressions, cursor =>
    match skipSlots slots cursor with
    | (true, cursor) => skipMany skipOne expressions cursor
    | (false, cursor) => (false, cursor)
  | .call, cursor =>
    match skipSlots 1 cursor with
    | (false, cursor) => (false, cursor)
    | (true, cursor) =>
      match cursor.readTableIndex with
      | (some count, cursor) => skipMany skipOne count cursor
      | (none, cursor) => (false, cursor)

/-- Moves past an expression of at most so many levels. -/
def skipWithin : Nat → Cursor → Bool × Cursor
  | 0, cursor => (false, cursor.toEnd)
  | levels + 1, cursor =>
    match cursor.readOperation with
    | (some op, cursor) => skipOperands (skipWithin levels) op.layout cursor
    | (none, cursor) => (false, cursor.toEnd)

/-- Moves past one expression; tells whether the stream held one. -/
def skip (cursor : Cursor) : Bool × Cursor := skipWithin maxExpressionLevels cursor

end Cursor

end Roleplay
