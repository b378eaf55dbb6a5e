import Roleplay.Json.Record
import Roleplay.Json.Tree
import Roleplay.Script.Basic

/-! # Script files

Scripts as JSON.  Every table of a script may be left out; an instruction is an array of slots.

* `Script.toTree` writes a script, `Script.reader` reads one;
* `Script.load` reads a script from a text and validates it, `Script.loadBytes` from bytes.
-/

namespace Roleplay

open Roleplay.Json

/-! ## Jumps -/

namespace JumpKind

def reader : Reader JumpKind := Reader.choice (all.map fun kind => (kind.fileName, kind))

end JumpKind

namespace Jump

def toTree (jump : Jump) : Tree :=
  .object [("type", .string jump.kind.fileName), ("index", .integer jump.index)]

def reader : Reader Jump := fun room raw => do
  let record ← Record.ofRaw? ["type", "index"] room raw
  let kind ← record.required "type" JumpKind.reader
  let index ← record.required "index" Reader.index
  some ⟨kind, index⟩

end Jump

/-! ## Statements -/

namespace Section

def toTree (part : Section) : Tree :=
  .object (optionalMember "name" (part.name.map .string) ++ [("next", part.next.toTree)])

def reader : Reader Section := fun room raw => do
  let record ← Record.ofRaw? ["name", "next"] room raw
  let name ← record.withDefault "name" (Reader.option Reader.string) none
  let next ← record.required "next" Jump.reader
  some ⟨name, next⟩

end Section

def indicesTree (indices : List Nat) : Tree := .array (indices.map fun (n : Nat) => .integer n)

namespace LineStatement

def toTree (line : LineStatement) : Tree :=
  .object [("instructionIndices", indicesTree line.instructions), ("next", line.next.toTree),
    ("speakerIndices", indicesTree line.speakers), ("text", .string line.text)]

def reader : Reader LineStatement := fun room raw => do
  let record ←
    Record.ofRaw? ["instructionIndices", "next", "speakerIndices", "text"] room raw
  let instructions ← record.withDefault "instructionIndices" (Reader.list Reader.index) []
  let next ← record.required "next" Jump.reader
  let speakers ← record.withDefault "speakerIndices" (Reader.list Reader.index) []
  let text ← record.withDefault "text" Reader.string ""
  some ⟨instructions, next, speakers, text⟩

end LineStatement

namespace InstructionStatement

def toTree (statement : InstructionStatement) : Tree :=
  .object [("index", .integer statement.index), ("next", statement.next.toTree)]

def reader : Reader InstructionStatement := fun room raw => do
  let record ← Record.ofRaw? ["index", "next"] room raw
  let index ← record.required "index" (Reader.integer (-0x80000000) 0x7fffffff)
  let next ← record.required "next" Jump.reader
  some ⟨index, next⟩

end InstructionStatement

namespace ConditionalStatement

def toTree (conditional : ConditionalStatement) : Tree :=
  .object [("branches", indicesTree conditional.branches), ("next", conditional.next.toTree)]

def reader : Reader ConditionalStatement := fun room raw => do
  let record ← Record.ofRaw? ["branches", "next"] room raw
  let branches ← record.required "branches" (Reader.list Reader.index)
  let next ← record.required "next" Jump.reader
  some ⟨branches, next⟩

end ConditionalStatement

namespace Choice

def toTree (choice : Choice) : Tree :=
  .object [("next", choice.next.toTree), ("text", .string choice.text),
    ("disabled", .bool choice.disabled)]

def reader : Reader Choice := fun room raw => do
  let record ← Record.ofRaw? ["next", "text", "disabled"] room raw
  let next ← record.required "next" Jump.reader
  let text ← record.required "text" Reader.string
  let disabled ← record.withDefault "disabled" Reader.bool false
  some ⟨next, text, disabled⟩

end Choice

/-! ## Instructions -/

def slotReader : Reader UInt16 := fun room raw =>
  (Reader.natural 65535 room raw).map UInt16.ofNat

def instructionReader : Reader Instruction := fun room raw =>
  (Reader.list slotReader room raw).map List.toArray

def instructionTree (instruction : Instruction) : Tree :=
  .array (instruction.toList.map fun slot => .integer slot.toNat)

/-! ## Scripts -/

namespace Script

def fileFields : List String :=
  ["speakerIds", "instFloats", "instStrings", "choices", "choiceSets", "sections", "lines",
    "instructionStmts", "conditionals", "instructions"]

def toTree (script : Script) : Tree :=
  .object [
    ("speakerIds", .array (script.speakerIds.map .string)),
    ("instFloats", .array (script.floats.map .single)),
    ("instStrings", .array (script.strings.map .string)),
    ("choices", .array (script.choices.map Choice.toTree)),
    ("choiceSets", .array (script.choiceSets.map instructionTree)),
    ("sections", .array (script.sections.map Section.toTree)),
    ("lines", .array (script.lines.map LineStatement.toTree)),
    ("instructionStmts", .array (script.statements.map InstructionStatement.toTree)),
    ("conditionals", .array (script.conditionals.map ConditionalStatement.toTree)),
    ("instructions", .array (script.instructions.map instructionTree))]

def reader : Reader Script := fun room raw => do
  let record ← Record.ofRaw? fileFields room raw
  let speakerIds ← record.withDefault "speakerIds" (Reader.list Reader.string) []
  let floats ← record.withDefault "instFloats" (Reader.list Reader.single) []
  let strings ← record.withDefault "instStrings" (Reader.list Reader.string) []
  let choices ← record.withDefault "choices" (Reader.list Choice.reader) []
  let choiceSets ← record.withDefault "choiceSets" (Reader.list instructionReader) []
  let sections ← record.withDefault "sections" (Reader.list Section.reader) []
  let lines ← record.withDefault "lines" (Reader.list LineStatement.reader) []
  let statements ←
    record.withDefault "instructionStmts" (Reader.list InstructionStatement.reader) []
  let conditionals ←
    record.withDefault "conditionals" (Reader.list ConditionalStatement.reader) []
  let instructions ← record.withDefault "instructions" (Reader.list instructionReader) []
  some ⟨speakerIds, floats, strings, choices, choiceSets, sections, lines, statements,
    conditionals, instructions⟩

/-- Why a script file is refused. -/
inductive LoadError where
  | unreadable
  | invalid (error : DialogError)
deriving Repr, DecidableEq

/-- Passes on a script that was read and is valid. -/
def accept : Option Script → Except LoadError Script
  | none => .error .unreadable
  | some script =>
    match script.fault? with
    | some error => .error (.invalid error)
    | none => .ok script

def load (text : String) : Except LoadError Script := accept (read? reader text)

def loadBytes (bytes : List UInt8) : Except LoadError Script := accept (readBytes? reader bytes)

end Script

end Roleplay
