import Roleplay.Proofs.Json.RoundTrip
import Roleplay.Script.File

/-! # Saved scripts come back

A script that is read from a file has nothing in it that its written form could not hold, but for
numbers that are not finite: a numeral too large for single precision is read as an infinity, is
written `null`, and the file is then refused.

* `Script.Fits` and its kin: what the written form can hold; `gives_reader` says that the readers
  give nothing else;
* `readsAs` says of each part that fits that it is read back;
* `Script.read_toTree` puts them together;
* `Script.load_toTree` says which files can be saved and loaded again.
-/

namespace Roleplay

open Roleplay.Json

variable {room : Nat}

/-! ## Jumps -/

theorem JumpKind.readsAs {kind : JumpKind} :
    (Tree.string kind.fileName).ReadsAs JumpKind.reader room kind := by
  refine ⟨_, Tree.reads_string, ?_⟩
  change (decodeText _).bind _ = _
  rw [decodeText_map_pieceOf]
  cases kind <;> decide

namespace Jump

/-- Indices are numbers of 64 bits. -/
def Fits (jump : Jump) : Prop := jump.index ≤ 0xffffffffffffffff

theorem gives_reader : reader.Gives Fits := by
  intro room raw jump read
  simp only [reader, Option.bind_eq_bind, Option.bind_eq_some_iff, Option.some.injEq] at read
  obtain ⟨record, -, kind, -, index, readIndex, rfl⟩ := read
  exact Reader.gives_natural.required readIndex

theorem readsAs {jump : Jump} (fits : jump.Fits) :
    jump.toTree.ReadsAs reader (room + 1) jump := by
  obtain ⟨kind, readsKind, readKind⟩ :
      (Tree.string jump.kind.fileName).ReadsAs JumpKind.reader room jump.kind :=
    JumpKind.readsAs
  obtain ⟨index, readsIndex, readIndex⟩ :
      (Tree.integer jump.index).ReadsAs Reader.index room jump.index :=
    readsAs_index fits
  refine exists_reads_object [("type", kind), ("index", index)]
    (.cons ⟨rfl, readsKind⟩ (.cons ⟨rfl, readsIndex⟩ .nil)) (by simp) (by simp) ?_
  simp [Record.required, List.lookup_cons, readKind, readIndex]

end Jump

/-! ## Statements -/

namespace Section

theorem gives_reader : reader.Gives fun part => part.next.Fits := by
  intro room raw part read
  simp only [reader, Option.bind_eq_bind, Option.bind_eq_some_iff, Option.some.injEq] at read
  obtain ⟨record, -, name, -, next, readNext, rfl⟩ := read
  exact Jump.gives_reader.required readNext

theorem readsAs {part : Section} (fits : part.next.Fits) :
    part.toTree.ReadsAs reader (room + 2) part := by
  obtain ⟨name, next⟩ := part
  obtain ⟨rawNext, readsNext, readNext⟩ : next.toTree.ReadsAs Jump.reader (room + 1) next :=
    Jump.readsAs fits
  cases name with
  | none =>
    refine exists_reads_object [("next", rawNext)] (.cons ⟨rfl, readsNext⟩ .nil)
      (by simp) (by simp) ?_
    simp [Record.required, Record.withDefault, List.lookup_cons, readNext]
  | some name =>
    refine exists_reads_object
      [("name", .string (name.toList.map pieceOf)), ("next", rawNext)]
      (.cons ⟨rfl, Tree.reads_string⟩ (.cons ⟨rfl, readsNext⟩ .nil)) (by simp) (by simp) ?_
    simp [Record.required, Record.withDefault, List.lookup_cons, readNext, Reader.option,
      Reader.string, decodeText_map_pieceOf]

end Section

theorem readsAs_indicesTree {indices : List Nat}
    (fits : ∀ index ∈ indices, index ≤ 0xffffffffffffffff) :
    (indicesTree indices).ReadsAs (Reader.list Reader.index) (room + 1) indices :=
  readsAs_list_self fun index member => readsAs_index (fits index member)

namespace LineStatement

structure Fits (line : LineStatement) : Prop where
  instructions : ∀ index ∈ line.instructions, index ≤ 0xffffffffffffffff
  next : line.next.Fits
  speakers : ∀ index ∈ line.speakers, index ≤ 0xffffffffffffffff

theorem gives_reader : reader.Gives Fits := by
  intro room raw line read
  simp only [reader, Option.bind_eq_bind, Option.bind_eq_some_iff, Option.some.injEq] at read
  obtain ⟨record, -, instructions, readInstructions, next, readNext, speakers, readSpeakers,
    text, -, rfl⟩ := read
  exact ⟨Reader.gives_natural.list.withDefault (by simp) readInstructions,
    Jump.gives_reader.required readNext,
    Reader.gives_natural.list.withDefault (by simp) readSpeakers⟩

theorem readsAs {line : LineStatement} (fits : line.Fits) :
    line.toTree.ReadsAs reader (room + 2) line := by
  obtain ⟨instructions, readsInstructions, readInstructions⟩ :
      (indicesTree line.instructions).ReadsAs (Reader.list Reader.index) (room + 1)
        line.instructions :=
    readsAs_indicesTree fits.instructions
  obtain ⟨next, readsNext, readNext⟩ :
      line.next.toTree.ReadsAs Jump.reader (room + 1) line.next :=
    Jump.readsAs fits.next
  obtain ⟨speakers, readsSpeakers, readSpeakers⟩ :
      (indicesTree line.speakers).ReadsAs (Reader.list Reader.index) (room + 1) line.speakers :=
    readsAs_indicesTree fits.speakers
  refine exists_reads_object [("instructionIndices", instructions), ("next", next),
      ("speakerIndices", speakers), ("text", .string (line.text.toList.map pieceOf))]
    (.cons ⟨rfl, readsInstructions⟩ (.cons ⟨rfl, readsNext⟩ (.cons ⟨rfl, readsSpeakers⟩
      (.cons ⟨rfl, Tree.reads_string⟩ .nil)))) (by simp) (by simp) ?_
  simp [Record.required, Record.withDefault, List.lookup_cons, readInstructions, readNext,
    readSpeakers, Reader.string, decodeText_map_pieceOf]

end LineStatement

namespace InstructionStatement

/-- The index of an instruction, or its absence, is a number of 32 bits. -/
structure Fits (statement : InstructionStatement) : Prop where
  index : -0x80000000 ≤ statement.index ∧ statement.index ≤ 0x7fffffff
  next : statement.next.Fits

theorem gives_reader : reader.Gives Fits := by
  intro room raw statement read
  simp only [reader, Option.bind_eq_bind, Option.bind_eq_some_iff, Option.some.injEq] at read
  obtain ⟨record, -, index, readIndex, next, readNext, rfl⟩ := read
  exact ⟨Reader.gives_integer.required readIndex, Jump.gives_reader.required readNext⟩

theorem readsAs {statement : InstructionStatement} (fits : statement.Fits) :
    statement.toTree.ReadsAs reader (room + 2) statement := by
  obtain ⟨index, readsIndex, readIndex⟩ : (Tree.integer statement.index).ReadsAs
      (Reader.integer (-0x80000000) 0x7fffffff) (room + 1) statement.index :=
    readsAs_integer fits.index.1 fits.index.2 (by decide)
  obtain ⟨next, readsNext, readNext⟩ :
      statement.next.toTree.ReadsAs Jump.reader (room + 1) statement.next :=
    Jump.readsAs fits.next
  refine exists_reads_object [("index", index), ("next", next)]
    (.cons ⟨rfl, readsIndex⟩ (.cons ⟨rfl, readsNext⟩ .nil)) (by simp) (by simp) ?_
  simp [Record.required, List.lookup_cons, readIndex, readNext]

end InstructionStatement

namespace ConditionalStatement

structure Fits (conditional : ConditionalStatement) : Prop where
  branches : ∀ index ∈ conditional.branches, index ≤ 0xffffffffffffffff
  next : conditional.next.Fits

theorem gives_reader : reader.Gives Fits := by
  intro room raw conditional read
  simp only [reader, Option.bind_eq_bind, Option.bind_eq_some_iff, Option.some.injEq] at read
  obtain ⟨record, -, branches, readBranches, next, readNext, rfl⟩ := read
  exact ⟨Reader.gives_natural.list.required readBranches, Jump.gives_reader.required readNext⟩

theorem readsAs {conditional : ConditionalStatement} (fits : conditional.Fits) :
    conditional.toTree.ReadsAs reader (room + 2) conditional := by
  obtain ⟨branches, readsBranches, readBranches⟩ :
      (indicesTree conditional.branches).ReadsAs (Reader.list Reader.index) (room + 1)
        conditional.branches :=
    readsAs_indicesTree fits.branches
  obtain ⟨next, readsNext, readNext⟩ :
      conditional.next.toTree.ReadsAs Jump.reader (room + 1) conditional.next :=
    Jump.readsAs fits.next
  refine exists_reads_object [("branches", branches), ("next", next)]
    (.cons ⟨rfl, readsBranches⟩ (.cons ⟨rfl, readsNext⟩ .nil)) (by simp) (by simp) ?_
  simp [Record.required, List.lookup_cons, readBranches, readNext]

end ConditionalStatement

namespace Choice

theorem gives_reader : reader.Gives fun choice => choice.next.Fits := by
  intro room raw choice read
  simp only [reader, Option.bind_eq_bind, Option.bind_eq_some_iff, Option.some.injEq] at read
  obtain ⟨record, -, next, readNext, text, -, disabled, -, rfl⟩ := read
  exact Jump.gives_reader.required readNext

theorem readsAs {choice : Choice} (fits : choice.next.Fits) :
    choice.toTree.ReadsAs reader (room + 2) choice := by
  obtain ⟨next, readsNext, readNext⟩ :
      choice.next.toTree.ReadsAs Jump.reader (room + 1) choice.next :=
    Jump.readsAs fits
  refine exists_reads_object [("next", next), ("text", .string (choice.text.toList.map pieceOf)),
      ("disabled", .bool choice.disabled)]
    (.cons ⟨rfl, readsNext⟩ (.cons ⟨rfl, Tree.reads_string⟩ (.cons ⟨rfl, Tree.reads_bool⟩ .nil)))
    (by simp) (by simp) ?_
  simp [Record.required, Record.withDefault, List.lookup_cons, readNext, Reader.string,
    Reader.bool, decodeText_map_pieceOf]

end Choice

/-! ## Instructions -/

theorem readsAs_slot {slot : UInt16} :
    (Tree.integer slot.toNat).ReadsAs slotReader room slot := by
  obtain ⟨raw, reads, read⟩ :
      (Tree.integer slot.toNat).ReadsAs (Reader.natural 65535) room slot.toNat :=
    readsAs_natural (Nat.le_of_lt_succ slot.toNat_lt) (by decide)
  exact ⟨raw, reads, (congrArg (Option.map UInt16.ofNat) read).trans (by simp)⟩

theorem readsAs_instructionTree {instruction : Instruction} :
    (instructionTree instruction).ReadsAs instructionReader (room + 1) instruction := by
  obtain ⟨raw, reads, read⟩ : (instructionTree instruction).ReadsAs (Reader.list slotReader)
      (room + 1) instruction.toList :=
    readsAs_list_self fun _ _ => readsAs_slot
  exact ⟨raw, reads, (congrArg (Option.map List.toArray) read).trans (by simp)⟩

/-! ## Scripts -/

namespace Script

/-- Whether a written script can hold all that the script has, numbers aside. -/
structure Fits (script : Script) : Prop where
  choices : ∀ choice ∈ script.choices, choice.next.Fits
  sections : ∀ part ∈ script.sections, part.next.Fits
  lines : ∀ line ∈ script.lines, line.Fits
  statements : ∀ statement ∈ script.statements, statement.Fits
  conditionals : ∀ conditional ∈ script.conditionals, conditional.Fits

theorem gives_reader : reader.Gives Fits := by
  intro room raw script read
  simp only [reader, Option.bind_eq_bind, Option.bind_eq_some_iff, Option.some.injEq] at read
  obtain ⟨record, -, speakerIds, -, floats, -, strings, -, choices, readChoices, choiceSets, -,
    sections, readSections, lines, readLines, statements, readStatements,
    conditionals, readConditionals, instructions, -, rfl⟩ := read
  exact ⟨Choice.gives_reader.list.withDefault (by simp) readChoices,
    Section.gives_reader.list.withDefault (by simp) readSections,
    LineStatement.gives_reader.list.withDefault (by simp) readLines,
    InstructionStatement.gives_reader.list.withDefault (by simp) readStatements,
    ConditionalStatement.gives_reader.list.withDefault (by simp) readConditionals⟩

theorem exists_reads_toTree {script : Script} (fits : script.Fits)
    (faithful : ∀ number ∈ script.floats, Single.isFinite number = true → IsFaithful number) :
    ∃ raw, script.toTree.Reads raw ∧ reader (room + 4) raw =
      if ∀ number ∈ script.floats, Single.isFinite number = true then some script else none := by
  have strings : ∀ texts : List String,
      (Tree.array (texts.map .string)).ReadsAs (Reader.list Reader.string) (room + 3) texts :=
    fun texts => readsAs_list_self fun _ _ => readsAs_string
  have instructions : ∀ table : List Instruction, (Tree.array (table.map instructionTree)).ReadsAs
      (Reader.list instructionReader) (room + 3) table :=
    fun table => readsAs_list_self fun _ _ => readsAs_instructionTree
  obtain ⟨speakerIds, readsSpeakerIds, readSpeakerIds⟩ := strings script.speakerIds
  obtain ⟨floats, readsFloats, readFloats⟩ := @exists_reads_singles (room + 2) _ faithful
  obtain ⟨texts, readsTexts, readTexts⟩ := strings script.strings
  obtain ⟨choices, readsChoices, readChoices⟩ :
      (Tree.array (script.choices.map Choice.toTree)).ReadsAs (Reader.list Choice.reader)
        (room + 3) script.choices :=
    readsAs_list_self fun choice member => Choice.readsAs (fits.choices choice member)
  obtain ⟨choiceSets, readsChoiceSets, readChoiceSets⟩ := instructions script.choiceSets
  obtain ⟨sections, readsSections, readSections⟩ :
      (Tree.array (script.sections.map Section.toTree)).ReadsAs (Reader.list Section.reader)
        (room + 3) script.sections :=
    readsAs_list_self fun part member => Section.readsAs (fits.sections part member)
  obtain ⟨lines, readsLines, readLines⟩ :
      (Tree.array (script.lines.map LineStatement.toTree)).ReadsAs
        (Reader.list LineStatement.reader) (room + 3) script.lines :=
    readsAs_list_self fun line member => LineStatement.readsAs (fits.lines line member)
  obtain ⟨statements, readsStatements, readStatements⟩ :
      (Tree.array (script.statements.map InstructionStatement.toTree)).ReadsAs
        (Reader.list InstructionStatement.reader) (room + 3) script.statements :=
    readsAs_list_self fun statement member =>
      InstructionStatement.readsAs (fits.statements statement member)
  obtain ⟨conditionals, readsConditionals, readConditionals⟩ :
      (Tree.array (script.conditionals.map ConditionalStatement.toTree)).ReadsAs
        (Reader.list ConditionalStatement.reader) (room + 3) script.conditionals :=
    readsAs_list_self fun conditional member =>
      ConditionalStatement.readsAs (fits.conditionals conditional member)
  obtain ⟨table, readsTable, readTable⟩ := instructions script.instructions
  refine exists_reads_object [("speakerIds", speakerIds), ("instFloats", floats),
      ("instStrings", texts), ("choices", choices), ("choiceSets", choiceSets),
      ("sections", sections), ("lines", lines), ("instructionStmts", statements),
      ("conditionals", conditionals), ("instructions", table)]
    (.cons ⟨rfl, readsSpeakerIds⟩ (.cons ⟨rfl, readsFloats⟩ (.cons ⟨rfl, readsTexts⟩
      (.cons ⟨rfl, readsChoices⟩ (.cons ⟨rfl, readsChoiceSets⟩ (.cons ⟨rfl, readsSections⟩
        (.cons ⟨rfl, readsLines⟩ (.cons ⟨rfl, readsStatements⟩ (.cons ⟨rfl, readsConditionals⟩
          (.cons ⟨rfl, readsTable⟩ .nil))))))))))
    (by simp [fileFields]) (by simp) ?_
  by_cases finite : ∀ number ∈ script.floats, Single.isFinite number = true
  · rw [if_pos finite] at readFloats ⊢
    simp [Record.withDefault, List.lookup_cons, readSpeakerIds, readFloats, readTexts, readChoices,
      readChoiceSets, readSections, readLines, readStatements, readConditionals, readTable]
  · rw [if_neg finite] at readFloats ⊢
    simp [Record.withDefault, List.lookup_cons, readSpeakerIds, readFloats]

theorem read_toTree {script : Script} (fits : script.Fits)
    (faithful : ∀ number ∈ script.floats, Single.isFinite number = true → IsFaithful number) :
    read? reader script.toTree.text =
      if ∀ number ∈ script.floats, Single.isFinite number = true then some script else none := by
  obtain ⟨raw, reads, read⟩ := @exists_reads_toTree 123 script fits faithful
  exact (read?_of_reads reads).trans read

/-- A script that has been loaded has passed the check, and a file can hold it. -/
theorem load_inversion {text : String} {script : Script} (loaded : load text = .ok script) :
    script.Fits ∧ script.fault? = none := by
  obtain ⟨read, faultless⟩ : read? reader text = some script ∧ script.fault? = none := by
    rw [load, accept.eq_def] at loaded
    split at loaded
    case h_1 => cases loaded
    case h_2 read =>
      split at loaded
      case h_1 => cases loaded
      case h_2 faultless =>
        cases loaded
        exact ⟨read, faultless⟩
  obtain ⟨raw, -, readRaw⟩ := Option.bind_eq_some_iff.1 read
  exact ⟨gives_reader maxNesting raw script readRaw, faultless⟩

/-- A script that has been loaded is saved as a text that is loaded again, as the same script, just
if all its numbers are finite; otherwise the text cannot be read. -/
theorem load_toTree {text : String} {script : Script} (loaded : load text = .ok script)
    (faithful : ∀ number ∈ script.floats, Single.isFinite number = true → IsFaithful number) :
    load script.toTree.text =
      if ∀ number ∈ script.floats, Single.isFinite number = true then .ok script
      else .error .unreadable := by
  obtain ⟨fits, faultless⟩ := load_inversion loaded
  rw [load, read_toTree fits faithful]
  split
  · rw [accept, faultless]
  · rfl

/-- A script as an author may write it, with some structures as arrays and the empty tables left
out. -/
def interludeText : String :=
  "\x7b\"instFloats\": [3.5], \"sections\": [[\"start\", [\"section\", 1]], [null, [\"end\", 0]]]\x7d"

def interlude : Script :=
  { Script.empty with
    floats := [3.5]
    sections := [⟨some "start", ⟨.section, 1⟩⟩, ⟨none, .finish⟩] }

theorem load_toTree_interlude :
    load interludeText = .ok interlude ∧ load interlude.toTree.text = .ok interlude := by
  have loaded : load interludeText = .ok interlude := by decide +kernel
  have faithful : ∀ number ∈ interlude.floats,
      Single.isFinite number = true → IsFaithful number := by
    decide +kernel
  have finite : ∀ number ∈ interlude.floats, Single.isFinite number = true := by decide +kernel
  exact ⟨loaded, (load_toTree loaded faithful).trans (if_pos finite)⟩

/-- A numeral that exceeds single precision. -/
def excessText : String :=
  "\x7b\"instFloats\":[1e39],\"sections\":[\x7b\"next\":\x7b\"type\":\"end\",\"index\":0\x7d\x7d]\x7d"

def excess : Script :=
  { Script.empty with floats := [Single.infinity], sections := [⟨none, .finish⟩] }

/-- There are scripts that are loaded but cannot be loaded again once they have been saved. -/
theorem not_forall_load_toTree :
    ¬∀ (text : String) (script : Script), load text = .ok script →
      (∀ number ∈ script.floats, Single.isFinite number = true → IsFaithful number) →
      load script.toTree.text = .ok script := by
  intro all
  have loaded : load excessText = .ok excess := by decide +kernel
  have infinite : ¬∀ number ∈ excess.floats, Single.isFinite number = true := by decide +kernel
  -- there is no digit to lose
  have faithful : ∀ number ∈ excess.floats,
      Single.isFinite number = true → IsFaithful number := by
    decide +kernel
  have again : load excess.toTree.text = .ok excess := all excessText excess loaded faithful
  rw [load, read_toTree (load_inversion loaded).1 faithful, if_neg infinite] at again
  cases again

end Script

end Roleplay
