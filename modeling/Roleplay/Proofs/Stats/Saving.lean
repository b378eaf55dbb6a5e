import Roleplay.Proofs.Json.RoundTrip
import Roleplay.Proofs.Stats.Outcomes
import Roleplay.Stats.File

/-! # Saved modifiers come back

A modifier is read back from its written form as it was before it came into use: active, registered
nowhere, and with its condition started over.

* `Json.Tree.nesting` is how deep a written tree is, `Modifier.nesting_toTree` how deep a modifier;
* `Predicate.readsAs`, `Condition.readsAs` and `Modifier.readsAs` say what is read back;
* `Condition.read_toTree` and `Modifier.read_saved` are the statements about texts.
-/

namespace Roleplay

open Roleplay.Json

namespace Json

/-! ## Nesting -/

mutual

/-- How many arrays and objects stand inside one another. -/
def Tree.nesting : Tree → Nat
  | .array items => itemsNesting items + 1
  | .object members => membersNesting members + 1
  | _ => 0

def itemsNesting : List Tree → Nat
  | [] => 0
  | item :: items => max item.nesting (itemsNesting items)

def membersNesting : List (String × Tree) → Nat
  | [] => 0
  | (_, tree) :: members => max tree.nesting (membersNesting members)

end

theorem membersNesting_append {first second : List (String × Tree)} :
    membersNesting (first ++ second) = max (membersNesting first) (membersNesting second) := by
  induction first with
  | nil => simp [membersNesting]
  | cons member first inductionHypothesis =>
    simp [membersNesting, inductionHypothesis, Nat.max_assoc]

/-! ## Members that may be left out -/

variable {α : Type} {room : Nat}

/-- What is read of a member that is left out when it has no value. -/
def optionalRaw (key : String) (raw? : Option Raw) : List (String × Raw) :=
  raw?.toList.map fun raw => (key, raw)

theorem forall₂_optionalMember {key : String} {tree? : Option Tree} {raw? : Option Raw}
    (reads : Option.Rel Tree.Reads tree? raw?) :
    List.Forall₂ (fun member raw => member.1 = raw.1 ∧ member.2.Reads raw.2)
      (optionalMember key tree?) (optionalRaw key raw?) := by
  cases reads with
  | none => exact .nil
  | some reads => exact .cons ⟨rfl, reads⟩ .nil

theorem lookup_optionalRaw {key field : String} {raw? : Option Raw} :
    (optionalRaw key raw?).lookup field = if field = key then raw? else none := by
  cases raw? with
  | none => simp [optionalRaw]
  | some raw =>
    by_cases same : field = key
    · simp [optionalRaw, same]
    · have different : (field == key) = false := beq_eq_false_iff_ne.2 same
      simp [optionalRaw, List.lookup_cons, same, different]

theorem withDefault_of_lookup {record : Record} {field : String} {raw : Raw} {reader : Reader α}
    {absent : α} (found : record.members.lookup field = some raw) :
    record.withDefault field reader absent = reader record.room raw := by
  rw [Record.withDefault, found]

/-- A value that is written only if there is one is read back. -/
theorem exists_reads_optional {β : Type} {reader : Reader β} {toTree : α → Tree} {f : α → β}
    {value? : Option α} (refuses : reader room .null = none)
    (reads : ∀ value ∈ value?, (toTree value).ReadsAs reader room (f value)) :
    ∃ raw?, Option.Rel Tree.Reads (value?.map toTree) raw? ∧
      ∀ (record : Record) (field : String), record.room = room →
        record.members.lookup field = raw? →
          record.withDefault field (Reader.option reader) none = some (value?.map f) := by
  cases value? with
  | none =>
    refine ⟨none, .none, fun record field _ missing => ?_⟩
    rw [Record.withDefault, missing]
    rfl
  | some value =>
    obtain ⟨raw, reads, read⟩ := reads value rfl
    refine ⟨some raw, .some reads, fun record field inside found => ?_⟩
    -- a reader that refuses `null` cannot have been given it
    have given : Reader.option reader room raw = (reader room raw).map some := by
      cases raw with
      | null => rw [refuses] at read; cases read
      | bool | number | string | array | object => rfl
    rw [Record.withDefault, found, inside]
    exact given.trans (congrArg (Option.map some) read)

end Json

variable {room : Nat}

/-! ## Names -/

theorem readsAs_choice {α : Type} {names : List (String × α)} {name : String} {value : α}
    (found : names.lookup name = some value) :
    (Tree.string name).ReadsAs (Reader.choice names) room value := by
  refine ⟨_, Tree.reads_string, ?_⟩
  rw [Reader.choice, decodeText_map_pieceOf, Option.bind_some, found]

theorem Stat.readsAs {stat : Stat} : (Tree.string stat.name).ReadsAs Stat.reader room stat :=
  readsAs_choice (by cases stat <;> decide)

theorem ModifierOp.readsAs {op : ModifierOp} :
    (Tree.string op.name).ReadsAs ModifierOp.reader room op :=
  readsAs_choice (by cases op <;> decide)

theorem Comparison.readsAs {comparison : Comparison} :
    (Tree.string comparison.fileName).ReadsAs Comparison.reader room comparison :=
  readsAs_choice (by cases comparison <;> decide)

theorem Junction.readsAs {junction : Junction} :
    (Tree.string junction.fileName).ReadsAs Junction.reader room junction :=
  readsAs_choice (by cases junction <;> decide)

theorem Outcome.readsAs {outcome : Outcome} :
    (Tree.string outcome.text).ReadsAs Outcome.reader room outcome := by
  refine ⟨_, Tree.reads_string, ?_⟩
  rw [Outcome.reader, decodePieces_map_pieceOf, Option.bind_some, Outcome.read?_text]

/-! ## Predicates -/

namespace Predicate

/-- The numbers that are written. -/
def writtenNumbers : Predicate → List Float32
  | timed seconds _ => [seconds]
  | statValue _ _ value => [value]
  | hpRatio _ ratio => [ratio]
  | damageCount .. => []

theorem nesting_toTree {predicate : Predicate} : predicate.toTree.nesting = 2 := by
  cases predicate <;> simp [toTree, Tree.nesting, membersNesting]

/-- A predicate is read from its kind and its payload. -/
theorem readsAs_tagged {name : String} {kind : Kind} {payload : Tree} {predicate : Predicate}
    (named : (Tree.string name).ReadsAs Kind.reader room kind)
    (reads : payload.ReadsAs (payloadReader .usual kind) room predicate) :
    (Tree.object [("kind", .string name), ("payload", payload)]).ReadsAs reader (room + 1)
      predicate := by
  obtain ⟨rawKind, readsKind, readKind⟩ := named
  obtain ⟨rawPayload, readsPayload, readPayload⟩ := reads
  let raws : List (String × Raw) := [("kind", rawKind), ("payload", rawPayload)]
  refine ⟨.object (raws.map Tree.rawMember),
    Tree.reads_object (.cons ⟨rfl, readsKind⟩ (.cons ⟨rfl, readsPayload⟩ .nil)), ?_⟩
  rw [reader, mapM_rawMember]
  simp [raws, readKind, readPayload]

/-- A payload is read as what its reader makes of the members. -/
theorem exists_reads_payload {fields : List String} {read : Record → Option Predicate}
    {members : List (String × Tree)} {made : Option Predicate} (raws : List (String × Raw))
    (written : List.Forall₂ (fun member raw => member.1 = raw.1 ∧ member.2.Reads raw.2) members
      raws)
    (known : ∀ raw ∈ raws, raw.1 ∈ fields) (distinct : (raws.map (·.1)).Nodup)
    (makes : read ⟨false, raws, room⟩ = made) :
    ∃ raw, (Tree.object members).Reads raw ∧
      (Record.ofObject? fields (room + 1) raw).bind read = made := by
  refine ⟨_, Tree.reads_object written, ?_⟩
  rw [Record.ofObject?, Record.ofRaw?_map_rawMember known distinct, Option.bind_some, makes]

theorem readsAs {predicate : Predicate}
    (faithful : ∀ number ∈ predicate.writtenNumbers, IsFaithful number) :
    predicate.toTree.ReadsAs reader (room + 2) predicate.reset := by
  cases predicate with
  | timed seconds elapsed =>
    have named : (Tree.string "timed").ReadsAs Kind.reader (room + 1) .timed :=
      readsAs_choice (by decide)
    obtain ⟨raw, reads, read⟩ : (Tree.single seconds).ReadsAs Reader.single room seconds :=
      (faithful seconds (by simp [writtenNumbers])).readsAs
    refine readsAs_tagged named (exists_reads_payload [("seconds", raw)]
      (.cons ⟨rfl, reads⟩ .nil) (by simp) (by simp) ?_)
    simp [Record.required, read, reset]
  | statValue stat comparison value =>
    have named : (Tree.string "statValue").ReadsAs Kind.reader (room + 1) .statValue :=
      readsAs_choice (by decide)
    obtain ⟨rawStat, readsStat, readStat⟩ :
        (Tree.string stat.name).ReadsAs Stat.reader room stat :=
      Stat.readsAs
    obtain ⟨rawComparison, readsComparison, readComparison⟩ :
        (Tree.string comparison.fileName).ReadsAs Comparison.reader room comparison :=
      Comparison.readsAs
    obtain ⟨rawValue, readsValue, readValue⟩ :
        (Tree.single value).ReadsAs Reader.single room value :=
      (faithful value (by simp [writtenNumbers])).readsAs
    refine readsAs_tagged named (exists_reads_payload
      [("stat", rawStat), ("compare", rawComparison), ("value", rawValue)]
      (.cons ⟨rfl, readsStat⟩ (.cons ⟨rfl, readsComparison⟩ (.cons ⟨rfl, readsValue⟩ .nil)))
      (by simp) (by simp) ?_)
    simp [Record.required, List.lookup_cons, NameReaders.usual, readStat, readComparison,
      readValue, reset]
  | hpRatio comparison ratio =>
    have named : (Tree.string "hpRatio").ReadsAs Kind.reader (room + 1) .hpRatio :=
      readsAs_choice (by decide)
    obtain ⟨rawComparison, readsComparison, readComparison⟩ :
        (Tree.string comparison.fileName).ReadsAs Comparison.reader room comparison :=
      Comparison.readsAs
    obtain ⟨rawRatio, readsRatio, readRatio⟩ :
        (Tree.single ratio).ReadsAs Reader.single room ratio :=
      (faithful ratio (by simp [writtenNumbers])).readsAs
    refine readsAs_tagged named (exists_reads_payload
      [("compare", rawComparison), ("ratio", rawRatio)]
      (.cons ⟨rfl, readsComparison⟩ (.cons ⟨rfl, readsRatio⟩ .nil)) (by simp) (by simp) ?_)
    simp [Record.required, List.lookup_cons, NameReaders.usual, readComparison, readRatio, reset]
  | damageCount count received =>
    have named : (Tree.string "damageCount").ReadsAs Kind.reader (room + 1) .damageCount :=
      readsAs_choice (by decide)
    obtain ⟨raw, reads, read⟩ : (Tree.integer count.toNat).ReadsAs (Reader.natural 0xffffffff)
        room count.toNat :=
      readsAs_natural (Nat.le_of_lt_succ count.toNat_lt) (by decide)
    refine readsAs_tagged named (exists_reads_payload [("count", raw)]
      (.cons ⟨rfl, reads⟩ .nil) (by simp) (by simp) ?_)
    simp [Record.required, read, reset]

end Predicate

/-! ## Conditions -/

namespace Condition

/-- The numbers that are written. -/
def writtenNumbers (condition : Condition) : List Float32 :=
  condition.nodes.flatMap fun node => node.predicate.writtenNumbers

theorem nesting_treeFrom {node : ConditionNode} {rest : List ConditionNode} :
    (treeFrom node rest).nesting = rest.length + 3 := by
  induction rest generalizing node with
  | nil => simp [treeFrom, Tree.nesting, membersNesting, Predicate.nesting_toTree]
  | cons next rest inductionHypothesis =>
    simp [treeFrom, Tree.nesting, membersNesting, Predicate.nesting_toTree, inductionHypothesis]

theorem nesting_toTree {condition : Condition} :
    condition.toTree.nesting = condition.nodes.length + 2 := by
  rw [toTree, nesting_treeFrom, nodes, List.length_cons]

theorem reader_null : reader room .null = none := by
  cases room <;> rfl

/-- The chain behind a node. -/
def following : List ConditionNode → Option Condition
  | [] => none
  | next :: rest => some ⟨next, rest⟩

theorem treeFrom_eq {node : ConditionNode} {rest : List ConditionNode} : treeFrom node rest =
    .object ([("predicate", node.predicate.toTree), ("resultType", .string node.outcome.text),
      ("additionalLogicOp", .string node.junction.fileName)] ++
        optionalMember "additionalCondition" ((following rest).map toTree)) := by
  cases rest <;> rfl

/-- A node is read with the chain behind it. -/
theorem readsAs_node {node : ConditionNode} {rest : List ConditionNode}
    (faithful : ∀ number ∈ node.predicate.writtenNumbers, IsFaithful number)
    (others : ∀ condition ∈ following rest,
      condition.toTree.ReadsAs reader (room + 2) condition.reset) :
    (treeFrom node rest).ReadsAs reader (room + 3) (reset ⟨node, rest⟩) := by
  obtain ⟨predicate, readsPredicate, readPredicate⟩ :
      node.predicate.toTree.ReadsAs Predicate.reader (room + 2) node.predicate.reset :=
    Predicate.readsAs faithful
  obtain ⟨outcome, readsOutcome, readOutcome⟩ :
      (Tree.string node.outcome.text).ReadsAs Outcome.reader (room + 2) node.outcome :=
    Outcome.readsAs
  obtain ⟨junction, readsJunction, readJunction⟩ :
      (Tree.string node.junction.fileName).ReadsAs Junction.reader (room + 2) node.junction :=
    Junction.readsAs
  obtain ⟨next?, readsNext, readNext⟩ : ∃ next?,
      Option.Rel Tree.Reads ((following rest).map toTree) next? ∧
        ∀ (record : Record) (field : String), record.room = room + 2 →
          record.members.lookup field = next? →
            record.withDefault field (Reader.option fun _ raw => reader (room + 2) raw) none =
              some ((following rest).map reset) :=
    exists_reads_optional reader_null others
  rw [treeFrom_eq]
  refine exists_reads_object ([("predicate", predicate), ("resultType", outcome),
      ("additionalLogicOp", junction)] ++ optionalRaw "additionalCondition" next?)
    (.cons ⟨rfl, readsPredicate⟩ (.cons ⟨rfl, readsOutcome⟩ (.cons ⟨rfl, readsJunction⟩
      (forall₂_optionalMember readsNext))))
    ?_ ?_ ?_
  · cases next? <;> simp [optionalRaw, fileFields]
  · cases next? <;> simp [optionalRaw]
  · have read := readNext ⟨false, [("predicate", predicate), ("resultType", outcome),
        ("additionalLogicOp", junction)] ++ optionalRaw "additionalCondition" next?, room + 2⟩
      "additionalCondition" rfl (by simp [List.lookup_cons, lookup_optionalRaw])
    have nodes : ((following rest).map (Condition.nodes ∘ reset)).getD [] =
        rest.map ConditionNode.reset := by
      cases rest <;> rfl
    rw [read]
    simp [Record.required, Record.withDefault, List.lookup_cons, readPredicate, readOutcome,
      readJunction, nodes, reset, ConditionNode.reset]

theorem readsAs_treeFrom {node : ConditionNode} {rest : List ConditionNode}
    (faithful : ∀ number ∈ writtenNumbers ⟨node, rest⟩, IsFaithful number) :
    (treeFrom node rest).ReadsAs reader (room + rest.length + 3) (reset ⟨node, rest⟩) := by
  have first : ∀ number ∈ node.predicate.writtenNumbers, IsFaithful number :=
    fun number member => faithful number (by simp [writtenNumbers, nodes, member])
  -- on the chain, whose later nodes are nested in the first one
  induction rest generalizing node with
  | nil => exact readsAs_node first fun _ none => absurd none (by simp [following])
  | cons next rest inductionHypothesis =>
    have later : ∀ number ∈ writtenNumbers ⟨next, rest⟩, IsFaithful number := by
      intro number member
      refine faithful number ?_
      rw [writtenNumbers, nodes, List.flatMap_cons]
      exact List.mem_append_right _ member
    have others : (treeFrom next rest).ReadsAs reader (room + rest.length + 3)
        (reset ⟨next, rest⟩) :=
      inductionHypothesis later fun number member =>
        later number (by simp [writtenNumbers, nodes, member])
    refine readsAs_node first fun condition behind => ?_
    obtain rfl := Option.some.inj behind
    exact others

theorem readsAs {condition : Condition}
    (faithful : ∀ number ∈ condition.writtenNumbers, IsFaithful number)
    (deep : condition.toTree.nesting ≤ room) :
    condition.toTree.ReadsAs reader room condition.reset := by
  obtain ⟨head, tail⟩ := condition
  have enough : tail.length + 3 ≤ room := by
    rwa [nesting_toTree, nodes, List.length_cons] at deep
  have exact : room - (tail.length + 3) + tail.length + 3 = room := by omega
  have reads : (treeFrom head tail).ReadsAs reader (room - (tail.length + 3) + tail.length + 3)
      (reset ⟨head, tail⟩) :=
    readsAs_treeFrom faithful
  rwa [exact] at reads

/-- A condition that is not nested too deep is read back from its text, started over. -/
theorem read_toTree {condition : Condition}
    (faithful : ∀ number ∈ condition.writtenNumbers, IsFaithful number)
    (shallow : condition.toTree.nesting ≤ maxNesting) :
    read? reader condition.toTree.text = some condition.reset :=
  read?_of_readsAs (readsAs faithful shallow)

end Condition

/-! ## Modifiers -/

namespace Modifier

/-- The numbers that are written. -/
def writtenNumbers (modifier : Modifier) : List Float32 :=
  modifier.value :: (modifier.condition.map Condition.writtenNumbers).getD []

/-- A modifier as it was before it came into use. -/
def unused (modifier : Modifier) : Modifier :=
  { modifier with
    condition := modifier.condition.map Condition.reset
    isActive := true
    isRegistered := false }

/-- An unconditional modifier is one object, a conditional one has its chain inside. -/
theorem nesting_toTree {modifier : Modifier} : modifier.toTree.nesting =
    (modifier.condition.map fun condition => condition.toTree.nesting).getD 0 + 1 := by
  have texts {key : String} {text? : Option String} :
      membersNesting (optionalMember key (text?.map .string)) = 0 := by
    cases text? <;> simp [optionalMember, membersNesting, Tree.nesting]
  have conditions : membersNesting
      (optionalMember "condition" (modifier.condition.map Condition.toTree)) =
        (modifier.condition.map fun condition => condition.toTree.nesting).getD 0 := by
    cases modifier.condition <;> simp [optionalMember, membersNesting]
  simp [toTree, Tree.nesting, membersNesting_append, membersNesting, texts, conditions]

theorem readsAs {modifier : Modifier}
    (faithful : ∀ number ∈ modifier.writtenNumbers, IsFaithful number)
    (deep : modifier.toTree.nesting ≤ room + 1) :
    modifier.toTree.ReadsAs reader (room + 1) modifier.unused := by
  obtain ⟨stat, readsStat, readStat⟩ :
      (Tree.string modifier.stat.name).ReadsAs Stat.reader room modifier.stat :=
    Stat.readsAs
  obtain ⟨op, readsOp, readOp⟩ :
      (Tree.string modifier.op.name).ReadsAs ModifierOp.reader room modifier.op :=
    ModifierOp.readsAs
  obtain ⟨value, readsValue, readValue⟩ :
      (Tree.single modifier.value).ReadsAs Reader.single room modifier.value :=
    (faithful modifier.value (by simp [writtenNumbers])).readsAs
  have conditions : ∀ condition ∈ modifier.condition,
      condition.toTree.ReadsAs Condition.reader room condition.reset := by
    intro condition conditional
    rw [Option.mem_def] at conditional
    refine Condition.readsAs (fun number member => faithful number ?_) ?_
    · simp [writtenNumbers, conditional, member]
    · simpa [nesting_toTree, conditional] using deep
  obtain ⟨condition?, readsCondition, readCondition⟩ :=
    exists_reads_optional Condition.reader_null conditions
  have strings (text? : Option String) : ∃ raw?,
      Option.Rel Tree.Reads (text?.map .string) raw? ∧
        ∀ (record : Record) (field : String), record.room = room →
          record.members.lookup field = raw? →
            record.withDefault field (Reader.option Reader.string) none = some (text?.map id) :=
    exists_reads_optional rfl fun _ _ => readsAs_string
  obtain ⟨id?, readsId, readId⟩ := strings modifier.customValueId
  obtain ⟨source?, readsSource, readSource⟩ := strings modifier.source
  let raws := [("statType", stat), ("op", op), ("value", value)] ++
    optionalRaw "condition" condition? ++ optionalRaw "customValueId" id? ++
    [("isHidden", .bool modifier.isHidden)] ++ optionalRaw "source" source?
  have written : List.Forall₂ (fun member raw => member.1 = raw.1 ∧ member.2.Reads raw.2)
      ([("statType", .string modifier.stat.name), ("op", .string modifier.op.name),
        ("value", .single modifier.value)] ++
        optionalMember "condition" (modifier.condition.map Condition.toTree) ++
        optionalMember "customValueId" (modifier.customValueId.map .string) ++
        [("isHidden", .bool modifier.isHidden)] ++
        optionalMember "source" (modifier.source.map .string)) raws :=
    List.rel_append (List.rel_append (List.rel_append (List.rel_append
      (.cons ⟨rfl, readsStat⟩ (.cons ⟨rfl, readsOp⟩ (.cons ⟨rfl, readsValue⟩ .nil)))
      (forall₂_optionalMember readsCondition)) (forall₂_optionalMember readsId))
      (.cons ⟨rfl, Tree.reads_bool⟩ .nil)) (forall₂_optionalMember readsSource)
  refine exists_reads_object raws written ?_ ?_ ?_
  · cases condition? <;> cases id? <;> cases source? <;> simp [raws, optionalRaw, fileFields]
  · cases condition? <;> cases id? <;> cases source? <;> simp [raws, optionalRaw]
  · obtain ⟨record, same⟩ : ∃ record : Record, record = ⟨false, raws, room⟩ := ⟨_, rfl⟩
    have inside : record.room = room := by rw [same]
    -- the members that are always written are found under their keys, and so are the others
    have foundStat : record.members.lookup "statType" = some stat := by simp [same, raws]
    have foundOp : record.members.lookup "op" = some op := by
      simp [same, raws, List.lookup_cons]
    have foundValue : record.members.lookup "value" = some value := by
      simp [same, raws, List.lookup_cons]
    have foundHidden : record.members.lookup "isHidden" = some (.bool modifier.isHidden) := by
      simp [same, raws, List.lookup_append, List.lookup_cons, lookup_optionalRaw]
    have foundCondition : record.members.lookup "condition" = condition? := by
      simp [same, raws, List.lookup_append, List.lookup_cons, lookup_optionalRaw]
    have foundId : record.members.lookup "customValueId" = id? := by
      simp [same, raws, List.lookup_append, List.lookup_cons, lookup_optionalRaw]
    have foundSource : record.members.lookup "source" = source? := by
      simp [same, raws, List.lookup_append, List.lookup_cons, lookup_optionalRaw]
    rw [← same, withDefault_of_lookup foundStat, withDefault_of_lookup foundOp,
      withDefault_of_lookup foundValue, withDefault_of_lookup foundHidden, inside, readStat, readOp,
      readValue, readCondition record _ inside foundCondition, readId record _ inside foundId,
      readSource record _ inside foundSource]
    simp [Reader.bool, unused, Modifier.new, default]

/-- Whatever its texts are, and the kinds, flags and operators of its chain, a modifier is read back
from its text as it was before it came into use, unless the chain is nested too deep.  A chain that
is written for itself may be nested one level deeper. -/
theorem read_saved (modifier : Modifier)
    (finite : ∀ number ∈ modifier.writtenNumbers, Single.isFinite number = true)
    (faithful : ∀ number ∈ modifier.writtenNumbers,
      Single.isFinite number = true → IsFaithful number) :
    (modifier.toTree.nesting ≤ maxNesting →
      read? reader modifier.toTree.text = some modifier.unused) ∧
    ∀ condition ∈ modifier.condition, condition.toTree.nesting ≤ maxNesting →
      read? Condition.reader condition.toTree.text = some condition.reset := by
  have sound : ∀ number ∈ modifier.writtenNumbers, IsFaithful number :=
    fun number member => faithful number member (finite number member)
  refine ⟨fun shallow => read?_of_readsAs (readsAs sound shallow), ?_⟩
  intro condition conditional shallow
  rw [Option.mem_def] at conditional
  refine Condition.read_toTree (fun number member => sound number ?_) shallow
  simp [writtenNumbers, conditional, member]

/-- A modifier in use, with a node of every kind, flags without a name, and texts that have to be
escaped. -/
def worn : Modifier where
  stat := .attack
  op := .percentMult
  value := 0.25
  condition := some ⟨⟨.timed 1.5 3, ⟨0xff⟩, .or, true⟩,
    [⟨.statValue .speed .notEquals 3, ⟨0⟩, .and, true⟩,
      ⟨.hpRatio .lessEquals 0.5, ⟨0x82⟩, .or, false⟩, ⟨.damageCount 7 4, .remove, .and, false⟩]⟩
  customValueId := some "\"rage\"\n"
  isHidden := true
  source := some "a\\b"
  isActive := false
  isRegistered := true

theorem read_saved_worn :
    (∀ number ∈ worn.writtenNumbers, Single.isFinite number = true) ∧
      (∀ number ∈ worn.writtenNumbers, Single.isFinite number = true → IsFaithful number) ∧
      worn.toTree.nesting = 7 ∧ worn.unused ≠ worn ∧
      read? reader worn.toTree.text = some worn.unused := by
  have finite : ∀ number ∈ worn.writtenNumbers, Single.isFinite number = true := by decide +kernel
  have faithful : ∀ number ∈ worn.writtenNumbers,
      Single.isFinite number = true → IsFaithful number := by
    decide +kernel
  have nesting : worn.toTree.nesting = 7 := by decide +kernel
  have shallow : worn.toTree.nesting ≤ maxNesting := nesting.trans_le (by decide)
  exact ⟨finite, faithful, nesting, by decide +kernel,
    (read_saved worn finite faithful).1 shallow⟩

end Modifier

end Roleplay
