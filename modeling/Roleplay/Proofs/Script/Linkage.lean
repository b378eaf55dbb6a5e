import Roleplay.Evaluation.Instruction

/-! # Linked scripts

What the check of a script is good for: a jump that the script permits leads to a statement, and all
that the statement refers to in the tables of statements exists.

* `Script.IsLinked` says that there is a section and that nothing dangles, and
  `isLinked_of_validate` that the check makes sure of it;
* `Statement` is a statement with what its execution looks up, and `Script.statement?` is the
  look-up, which fails at the first index beyond its table;
* `Script.IsLinked.exists_statement` says that it does not fail, and
  `Script.IsLinked.permits_of_mem_targets` that a statement leads on to permitted jumps;
* `Script.Leaps` relates a jump to those that its statement computes, which no check sees;
* `Statement.references` are what a statement names outside of the tables of statements, which the
  check does not look at either.
-/

namespace Roleplay

/-- A statement with everything in the tables of statements that its execution refers to. -/
inductive Statement where
  | section (part : Section)
  | line (index : Nat) (statement : LineStatement)
  | instruction (statement : InstructionStatement)
  /-- The statements of the branches, and the jump that is taken if none of them holds. -/
  | conditional (branches : List InstructionStatement) (otherwise : Jump)
  | choice (index : Nat) (choiceSet : Instruction)
deriving DecidableEq

/-- The jumps that the script gives a statement to go on with. -/
def Statement.targets (script : Script) : Statement → List Jump
  | .section part => [part.next]
  | .line _ statement => [statement.next]
  | .instruction statement => [statement.next]
  | .conditional branches otherwise => otherwise :: branches.map (·.next)
  | .choice .. => script.choices.map (·.next)

/-- Whether a statement runs an instruction that is written to go to a target. -/
def Statement.Computes (script : Script) (target : Jump) : Statement → Prop
  | .instruction statement => ∃ index instruction, statement.instruction? = some index ∧
      script.instructions[index]? = some instruction ∧
      (Cursor.start instruction).peekOperation = some .goto ∧
      Staging.writtenJump? instruction = some target
  | _ => False

def Statement.LeadsTo (script : Script) (target : Jump) (statement : Statement) : Prop :=
  target ∈ statement.targets script ∨ statement.Computes script target

namespace Script

structure IsLinked (script : Script) : Prop where
  entered : script.sections ≠ []
  permits : ∀ jump ∈ script.edges ++ script.branches, script.permits jump = true

variable {script : Script} {jump target : Jump}

theorem isLinked_of_validate (valid : script.validate = .ok ()) : script.IsLinked := by
  have faultless : script.fault? = none := by
    rw [validate] at valid
    split at valid
    next => cases valid
    next none => exact none
  rw [fault?] at faultless
  split at faultless
  next => cases faultless
  next entered =>
    refine ⟨by simpa using entered, fun jump member => ?_⟩
    have found := List.find?_eq_none.1 (Option.map_eq_none_iff.1 faultless) jump member
    simpa using found

/-! ## Looking statements up -/

/-- The statement that a jump leads to; absent if the jump ends the dialog, or if any index is
beyond its table. -/
def statement? (script : Script) (jump : Jump) : Option Statement :=
  match jump.kind with
  | .undefined | .finish => none
  | .section => script.sections[jump.index]?.map .section
  | .line => script.lines[jump.index]?.map (.line jump.index)
  | .instruction => script.statements[jump.index]?.map .instruction
  | .conditional => do
    let conditional ← script.conditionals[jump.index]?
    let branches ← conditional.branches.mapM (script.statements[·]?)
    some (.conditional branches conditional.next)
  | .choice => script.choiceSets[jump.index]?.map (.choice jump.index)

theorem permits_iff {kind : JumpKind} {index size : Nat}
    (table : script.tableSize? kind = some size) :
    script.permits ⟨kind, index⟩ = true ↔ index < size := by
  simp [permits, table]

/-- Branches that exist can be looked up one after the other. -/
theorem exists_mapM_statements {branches : List Nat}
    (inRange : ∀ branch ∈ branches, branch < script.statements.length) :
    ∃ statements, branches.mapM (script.statements[·]?) = some statements := by
  induction branches with
  | nil => exact ⟨[], rfl⟩
  | cons branch branches inductionHypothesis =>
    rw [List.forall_mem_cons] at inRange
    obtain ⟨statements, found⟩ := inductionHypothesis inRange.2
    refine ⟨script.statements.get ⟨branch, inRange.1⟩ :: statements, ?_⟩
    simp [List.mapM_cons, List.getElem?_eq_getElem inRange.1, found]

theorem IsLinked.branch_lt (linked : script.IsLinked) {conditional : ConditionalStatement}
    (known : conditional ∈ script.conditionals) {branch : Nat}
    (member : branch ∈ conditional.branches) : branch < script.statements.length := by
  have isBranch : (⟨.instruction, branch⟩ : Jump) ∈ script.branches := by
    rw [branches, List.mem_flatMap]
    exact ⟨conditional, known, List.mem_map_of_mem member⟩
  exact (permits_iff rfl).1 (linked.permits _ (List.mem_append_right _ isBranch))

/-- What the check permits can be looked up in full. -/
theorem IsLinked.exists_statement (linked : script.IsLinked)
    (permitted : script.permits jump = true) (leads : jump.isFinal = false) :
    ∃ statement, script.statement? jump = some statement := by
  obtain ⟨kind, index⟩ := jump
  cases kind with
  | undefined | finish => cases leads
  | «section» | line | instruction | choice =>
    have inRange := (permits_iff rfl).1 permitted
    simp [statement?, List.getElem?_eq_getElem inRange]
  | conditional =>
    have inRange := (permits_iff rfl).1 permitted
    obtain ⟨statements, found⟩ := exists_mapM_statements fun branch member =>
      linked.branch_lt (List.getElem_mem inRange) member
    simp [statement?, List.getElem?_eq_getElem inRange, found]

/-! ## Where statements lead -/

theorem mem_statements_of_mapM {branches : List Nat} {statements : List InstructionStatement}
    (found : branches.mapM (script.statements[·]?) = some statements) :
    ∀ statement ∈ statements, statement ∈ script.statements := by
  induction branches generalizing statements with
  | nil =>
    cases found
    simp
  | cons branch branches inductionHypothesis =>
    simp only [List.mapM_cons, Option.bind_eq_bind, Option.bind_eq_some_iff, Option.pure_def,
      Option.some.injEq] at found
    obtain ⟨statement, here, others, foundOthers, rfl⟩ := found
    rw [List.forall_mem_cons]
    exact ⟨List.mem_of_getElem? here, inductionHypothesis foundOthers⟩

/-- No statement of a linked script leads to a jump without target. -/
theorem IsLinked.permits_of_mem_targets (linked : script.IsLinked) {statement : Statement}
    (found : script.statement? jump = some statement) (member : target ∈ statement.targets script) :
    script.permits target = true := by
  suffices isEdge : target ∈ script.edges from linked.permits _ (List.mem_append_left _ isEdge)
  obtain ⟨kind, index⟩ := jump
  simp only [edges, List.mem_append, List.mem_map]
  cases kind with
  | undefined | finish => cases found
  | «section» =>
    obtain ⟨part, here, rfl⟩ := Option.map_eq_some_iff.1 found
    have known := List.mem_of_getElem? here
    simp only [Statement.targets, List.mem_singleton] at member
    exact .inl (.inl (.inl (.inl ⟨part, known, member.symm⟩)))
  | line =>
    obtain ⟨line, here, rfl⟩ := Option.map_eq_some_iff.1 found
    have known := List.mem_of_getElem? here
    simp only [Statement.targets, List.mem_singleton] at member
    exact .inl (.inl (.inl (.inr ⟨line, known, member.symm⟩)))
  | instruction =>
    obtain ⟨instruction, here, rfl⟩ := Option.map_eq_some_iff.1 found
    have known := List.mem_of_getElem? here
    simp only [Statement.targets, List.mem_singleton] at member
    exact .inl (.inl (.inr ⟨instruction, known, member.symm⟩))
  | conditional =>
    simp only [statement?, Option.bind_eq_bind, Option.bind_eq_some_iff, Option.some.injEq] at found
    obtain ⟨conditional, here, statements, foundBranches, rfl⟩ := found
    have known := List.mem_of_getElem? here
    simp only [Statement.targets, List.mem_cons, List.mem_map] at member
    -- a branch is a statement of the script, so that its jump is among the edges by itself
    rcases member with rfl | ⟨branch, isBranch, rfl⟩
    · exact .inl (.inr ⟨conditional, known, rfl⟩)
    · exact .inl (.inl (.inr ⟨branch, mem_statements_of_mapM foundBranches branch isBranch, rfl⟩))
  | choice =>
    obtain ⟨choiceSet, here, rfl⟩ := Option.map_eq_some_iff.1 found
    simp only [Statement.targets, List.mem_map] at member
    exact .inr member

/-- The script is entered at a section that exists. -/
theorem IsLinked.permits_entry (linked : script.IsLinked) : script.permits entry = true :=
  (permits_iff rfl).2 (List.length_pos_iff.2 linked.entered)

theorem permits_sectionNamed {name : String} {index : Nat}
    (found : script.sectionNamed? name = some index) :
    script.permits ⟨.section, index⟩ = true := by
  obtain ⟨inRange, -⟩ := List.findIdx?_eq_some_iff_getElem.1 found
  exact (permits_iff rfl).2 inRange

/-- Whether the statement of a jump computes a jump to the target. -/
def Leaps (script : Script) (jump target : Jump) : Prop :=
  ∃ statement, script.statement? jump = some statement ∧ statement.Computes script target

theorem IsLinked.permits_or_leaps (linked : script.IsLinked) {statement : Statement}
    (found : script.statement? jump = some statement) (leads : statement.LeadsTo script target) :
    script.permits target = true ∨ script.Leaps jump target :=
  leads.imp (linked.permits_of_mem_targets found) fun computes => ⟨statement, found, computes⟩

end Script

/-! ## References -/

/-- The tables that statements refer to besides those of statements. -/
inductive ReferenceTable where
  | instructions
  | choices
  | speakers
deriving DecidableEq

def ReferenceTable.size (script : Script) (speakers : List Speaker) : ReferenceTable → Nat
  | .instructions => script.instructions.length
  | .choices => script.choices.length
  | .speakers => speakers.length

structure Reference where
  table : ReferenceTable
  index : Nat
deriving DecidableEq

/-- Whether the table of a reference has an entry for it.  The speakers are those of a session, which
are the script's only until a session is restored. -/
def Reference.IsInRange (script : Script) (speakers : List Speaker) (reference : Reference) : Prop :=
  reference.index < reference.table.size script speakers

def InstructionStatement.references (statement : InstructionStatement) : List Reference :=
  statement.instruction?.toList.map (⟨.instructions, ·⟩)

namespace Statement

/-- The references of a choice set, in the order in which its entries are read. -/
def entryReferences : List UInt16 → List Reference
  | [] => []
  | entry :: slots =>
    match OpCode.ofCode? entry with
    | some .choice =>
      match slots with
      | [] => []
      | index :: slots => ⟨.choices, index.toNat⟩ :: entryReferences slots
    | some .goto =>
      match slots with
      | [] => []
      | _ :: slots => entryReferences slots
    | _ => ⟨.instructions, entry.toNat⟩ :: entryReferences slots

/-- What a statement names outside of the tables of statements. -/
def references : Statement → List Reference
  | .section _ => []
  | .line _ statement =>
    statement.instructions.map (⟨.instructions, ·⟩) ++ statement.speakers.map (⟨.speakers, ·⟩)
  | .instruction statement => statement.references
  | .conditional branches _ => branches.flatMap InstructionStatement.references
  | .choice _ choiceSet => entryReferences choiceSet.toList

end Statement

end Roleplay
