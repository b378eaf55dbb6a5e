import Roleplay.Json.Record
import Roleplay.Json.Tree
import Roleplay.Stats.Modifier
import Roleplay.Stats.Outcome

/-! # Modifiers and conditions in files

Modifiers and conditions as JSON.  What changes while a condition is in use is not saved: timers,
counts and flags are cleared, and a modifier comes back active and unregistered.

* `Predicate.toTree` and `Predicate.reader` name the kind of a predicate beside its contents;
* `Condition.toTree` and `Condition.reader` nest each node of a chain in the one before it;
* `Modifier.toTree` and `Modifier.reader` leave out what is absent.
-/

namespace Roleplay

open Roleplay.Json

/-! ## Names -/

def Stat.reader : Reader Stat := Reader.choice (Stat.all.map fun stat => (stat.name, stat))

def ModifierOp.reader : Reader ModifierOp :=
  Reader.choice (ModifierOp.all.map fun op => (op.name, op))

def Comparison.reader : Reader Comparison :=
  Reader.choice (Comparison.all.map fun comparison => (comparison.fileName, comparison))

def Junction.fileName : Junction → String
  | .and => "and"
  | .or => "or"

def Junction.reader : Reader Junction := Reader.choice [("and", .and), ("or", .or)]

def Outcome.reader : Reader Outcome
  | _, .string pieces => (decodePieces pieces).bind Outcome.read?
  | _, _ => none

/-! ## Predicates -/

namespace Predicate

inductive Kind where
  | timed
  | statValue
  | hpRatio
  | damageCount
deriving Repr, DecidableEq

def Kind.reader : Reader Kind :=
  Reader.choice [("timed", timed), ("statValue", statValue), ("hpRatio", hpRatio),
    ("damageCount", damageCount)]

def toTree : Predicate → Tree
  | timed seconds _ =>
    .object [("kind", .string "timed"), ("payload", .object [("seconds", .single seconds)])]
  | statValue stat comparison value =>
    .object [("kind", .string "statValue"),
      ("payload", .object [("stat", .string stat.name),
        ("compare", .string comparison.fileName), ("value", .single value)])]
  | hpRatio comparison ratio =>
    .object [("kind", .string "hpRatio"),
      ("payload", .object [("compare", .string comparison.fileName), ("ratio", .single ratio)])]
  | damageCount count _ =>
    .object [("kind", .string "damageCount"),
      ("payload", .object [("count", .integer count.toNat)])]

/-- How the names in a payload are read: loosely if the payload stands before its kind. -/
structure NameReaders where
  stat : Reader Stat
  comparison : Reader Comparison

def NameReaders.usual : NameReaders := ⟨Stat.reader, Comparison.reader⟩

def NameReaders.loose : NameReaders :=
  ⟨Reader.looseChoice (Stat.all.map fun stat => (stat.name, stat)),
    Reader.looseChoice (Comparison.all.map fun comparison => (comparison.fileName, comparison))⟩

/-- Reads the payload of a kind, which is always an object. -/
def payloadReader (names : NameReaders) : Kind → Reader Predicate
  | .timed => fun room raw => do
    let record ← Record.ofObject? ["seconds"] room raw
    let seconds ← record.required "seconds" Reader.single
    some (timed seconds 0)
  | .statValue => fun room raw => do
    let record ← Record.ofObject? ["stat", "compare", "value"] room raw
    let stat ← record.required "stat" names.stat
    let comparison ← record.required "compare" names.comparison
    let value ← record.required "value" Reader.single
    some (statValue stat comparison value)
  | .hpRatio => fun room raw => do
    let record ← Record.ofObject? ["compare", "ratio"] room raw
    let comparison ← record.required "compare" names.comparison
    let ratio ← record.required "ratio" Reader.single
    some (hpRatio comparison ratio)
  | .damageCount => fun room raw => do
    let record ← Record.ofObject? ["count"] room raw
    let count ← record.required "count" (Reader.natural 0xffffffff)
    some (damageCount (UInt32.ofNat count) 0)

/-- Reads a kind and its payload, from an array in this order or from the two members of an object
in any order.  A payload that stands before its kind has to be sound as a whole. -/
def reader : Reader Predicate
  | room + 1, .array [kind, payload] => do
    let kind ← Kind.reader room kind
    payloadReader .usual kind room payload
  | room + 1, .object members => do
    let named : List (String × Raw) ←
      members.mapM fun (key, raw) => (decodeText key).map fun name => (name, raw)
    match named.filter fun member => member.1 = "kind" || member.1 = "payload" with
    | [("kind", kind), ("payload", payload)] => do
      let kind ← Kind.reader room kind
      payloadReader .usual kind room payload
    | [("payload", payload), ("kind", kind)] => do
      let kind ← Kind.reader room kind
      if payload.isSound room then payloadReader .loose kind room payload else none
    | _ => none
  | _, _ => none

end Predicate

/-! ## Conditions -/

namespace Condition

/-- Writes a node with the nodes behind it nested inside. -/
def treeFrom (node : ConditionNode) : List ConditionNode → Tree
  | [] =>
    .object [("predicate", node.predicate.toTree), ("resultType", .string node.outcome.text),
      ("additionalLogicOp", .string node.junction.fileName)]
  | next :: rest =>
    .object [("predicate", node.predicate.toTree), ("resultType", .string node.outcome.text),
      ("additionalLogicOp", .string node.junction.fileName),
      ("additionalCondition", treeFrom next rest)]

def toTree (condition : Condition) : Tree := treeFrom condition.head condition.tail

def fileFields : List String :=
  ["predicate", "resultType", "additionalLogicOp", "additionalCondition"]

def reader : Reader Condition
  | 0, _ => none
  | room + 1, raw => do
    let record ← Record.ofRaw? fileFields (room + 1) raw
    let predicate ← record.required "predicate" Predicate.reader
    let outcome ← record.withDefault "resultType" Outcome.reader .remove
    let junction ← record.withDefault "additionalLogicOp" Junction.reader .and
    let next ←
      record.withDefault "additionalCondition" (Reader.option fun _ raw => reader room raw) none
    some ⟨⟨predicate, outcome, junction, false⟩, (next.map Condition.nodes).getD []⟩

end Condition

/-! ## Modifiers -/

namespace Modifier

def toTree (modifier : Modifier) : Tree :=
  .object ([("statType", .string modifier.stat.name), ("op", .string modifier.op.name),
    ("value", .single modifier.value)] ++
    optionalMember "condition" (modifier.condition.map Condition.toTree) ++
    optionalMember "customValueId" (modifier.customValueId.map .string) ++
    [("isHidden", .bool modifier.isHidden)] ++
    optionalMember "source" (modifier.source.map .string))

def fileFields : List String :=
  ["statType", "op", "value", "condition", "customValueId", "isHidden", "source"]

def reader : Reader Modifier := fun room raw => do
  let record ← Record.ofRaw? fileFields room raw
  let stat ← record.withDefault "statType" Stat.reader .maxHp
  let op ← record.withDefault "op" ModifierOp.reader .baseAdd
  let value ← record.withDefault "value" Reader.single 0
  let condition ← record.withDefault "condition" (Reader.option Condition.reader) none
  let customValueId ← record.withDefault "customValueId" (Reader.option Reader.string) none
  let isHidden ← record.withDefault "isHidden" Reader.bool false
  let source ← record.withDefault "source" (Reader.option Reader.string) none
  some { Modifier.new stat op value with
    condition := condition, customValueId := customValueId, isHidden := isHidden,
    source := source }

end Modifier

end Roleplay
