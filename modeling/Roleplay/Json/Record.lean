import Roleplay.Dictionary
import Roleplay.Json.Scan

/-! # Reading typed values

From raw trees to values of a known type.

* `Reader` is the type of readers; it carries how many arrays and objects may still be opened;
* `Record` holds the fields of a structure, written as an object or as an array in the order of the
  fields;
* `read?` runs a reader on a whole text with the usual room of 127 levels.

A structure written as an object ignores unknown members, and refuses a known one that is repeated.
-/

namespace Roleplay.Json

/-- How to read one type of value, given how many arrays and objects may still be opened. -/
abbrev Reader (α : Type) := Nat → Raw → Option α

/-- The number of arrays and objects that may stand inside one another. -/
def maxNesting : Nat := 127

def read? {α : Type} (reader : Reader α) (text : String) : Option α :=
  (Raw.ofText? text).bind (reader maxNesting)

def readBytes? {α : Type} (reader : Reader α) (bytes : List UInt8) : Option α :=
  (Raw.ofBytes? bytes).bind (reader maxNesting)

namespace Reader

variable {α : Type}

/-! ## Scalars -/

def bool : Reader Bool
  | _, .bool truth => some truth
  | _, _ => none

def string : Reader String
  | _, .string pieces => decodeText pieces
  | _, _ => none

def single : Reader Float32
  | _, .number number => number.single?
  | _, _ => none

def integer (low high : Int) : Reader Int
  | _, .number number => number.integer?.filter fun n => low ≤ n && n ≤ high
  | _, _ => none

def natural (high : Nat) : Reader Nat := fun room raw =>
  (integer 0 high room raw).map Int.toNat

def index : Reader Nat := natural 0xffffffffffffffff

/-! ## Compound values -/

/-- Nothing, written `null`, or a value. -/
def option (reader : Reader α) : Reader (Option α)
  | _, .null => some none
  | room, raw => (reader room raw).map some

def list (reader : Reader α) : Reader (List α)
  | room + 1, .array items => items.mapM (reader room)
  | _, _ => none

/-- An object as a dictionary; the last member of a key wins. -/
def dictionary (reader : Reader α) : Reader (Dictionary α)
  | room + 1, .object members =>
    (members.mapM fun (key, raw) => do
      let name ← decodeText key
      let value ← reader room raw
      some (name, value)).map Dictionary.ofList
  | _, _ => none

/-- One of several names; the name may also be the only key of an object with the value `null`. -/
def choice (names : List (String × α)) : Reader α
  | _, .string pieces => (decodeText pieces).bind fun name => names.lookup name
  | _ + 1, .object [(key, .null)] => (decodeText key).bind fun name => names.lookup name
  | _, _ => none

/-- Like `choice`, but the value of the key may be an empty object as well. -/
def looseChoice (names : List (String × α)) : Reader α
  | _, .object [(key, .object [])] => (decodeText key).bind fun name => names.lookup name
  | room, raw => choice names room raw

end Reader

/-! ## Structures -/

structure Record where
  /-- Whether the structure was written as an array. -/
  positional : Bool
  members : List (String × Raw)
  /-- The room that is left inside the structure. -/
  room : Nat

namespace Record

variable {α : Type}

/-- Pairs the items of an array with the fields in order. -/
def ofItems? (fields : List String) (items : List Raw) : Option (List (String × Raw)) :=
  if items.length ≤ fields.length then some (fields.zip items) else none

/-- Keeps the known members of an object. -/
def ofMembers? (fields : List String) (members : List (List Piece × Raw)) :
    Option (List (String × Raw)) :=
  let named? : Option (List (String × Raw)) :=
    members.mapM fun (key, raw) => (decodeText key).map fun name => (name, raw)
  named?.bind fun named =>
    let known : List (String × Raw) := named.filter fun member => fields.contains member.1
    if (known.map (·.1)).Nodup then some known else none

def ofRaw? (fields : List String) : Reader Record
  | room + 1, .array items => (ofItems? fields items).map fun members => ⟨true, members, room⟩
  | room + 1, .object members =>
    (ofMembers? fields members).map fun members => ⟨false, members, room⟩
  | _, _ => none

/-- Reads the fields of a structure that may not be written as an array. -/
def ofObject? (fields : List String) : Reader Record
  | room, .object members => ofRaw? fields room (.object members)
  | _, _ => none

def required (record : Record) (field : String) (reader : Reader α) : Option α :=
  (record.members.lookup field).bind (reader record.room)

def withDefault (record : Record) (field : String) (reader : Reader α) (absent : α) : Option α :=
  match record.members.lookup field with
  | some raw => reader record.room raw
  | none => some absent

/-- A field that may be left out of an object, but not of an array. -/
def optional (record : Record) (field : String) (reader : Reader α) : Option (Option α) :=
  match record.members.lookup field with
  | some raw => Reader.option reader record.room raw
  | none => if record.positional then none else some none

end Record

end Roleplay.Json
