import Roleplay.Json.Number

/-! # Raw JSON

The syntax of a JSON text before any type gives it a meaning.  Numbers keep their digits, strings
their escapes, and objects the order and repetition of their members, so a reader that has no use
for a part of the text never has to judge it.

* `Raw` is the tree, `Piece` a part of a string;
* `decodePieces` gives the text of a string, if its escapes denote one;
* `Raw.isSound` says that a tree can be read whole, whatever its meaning.
-/

namespace Roleplay.Json

/-- A part of a string between its quotes. -/
inductive Piece where
  | char (c : Char)
  /-- A 16-bit unit written as an escape. -/
  | unit (code : Nat)
  /-- Bytes that encode no character. -/
  | broken
deriving Repr, DecidableEq

inductive Raw where
  | null
  | bool (truth : Bool)
  | number (number : Number)
  | string (pieces : List Piece)
  | array (items : List Raw)
  | object (members : List (List Piece × Raw))
deriving Repr, Inhabited

/-! ## Strings -/

def isHighUnit (code : Nat) : Bool := 0xd800 ≤ code && code < 0xdc00

def isLowUnit (code : Nat) : Bool := 0xdc00 ≤ code && code < 0xe000

/-- The character of two units that belong together. -/
def pairedChar (high low : Nat) : Char :=
  Char.ofNat (0x10000 + (high - 0xd800) * 0x400 + (low - 0xdc00))

/-- The characters of a string.  A unit of a pair that stands alone, and broken bytes, denote
none. -/
def decodePieces : List Piece → Option (List Char)
  | [] => some []
  | .char c :: rest => (decodePieces rest).map (c :: ·)
  | .broken :: _ => none
  | .unit code :: rest =>
    if isHighUnit code then
      match rest with
      | .unit low :: rest =>
        if isLowUnit low then (decodePieces rest).map (pairedChar code low :: ·) else none
      | _ => none
    else if isLowUnit code then none
    else (decodePieces rest).map (Char.ofNat code :: ·)

def decodeText (pieces : List Piece) : Option String := (decodePieces pieces).map String.ofList

/-! ## Sound trees -/

mutual

/-- Whether every string of the tree denotes a text, every number is in range, and no more than
`room` arrays and objects stand inside one another. -/
def Raw.isSound (room : Nat) : Raw → Bool
  | .null => true
  | .bool _ => true
  | .number number => number.inRange
  | .string pieces => (decodePieces pieces).isSome
  | .array items => 0 < room && itemsSound (room - 1) items
  | .object members => 0 < room && membersSound (room - 1) members

def itemsSound (room : Nat) : List Raw → Bool
  | [] => true
  | item :: items => item.isSound room && itemsSound room items

def membersSound (room : Nat) : List (List Piece × Raw) → Bool
  | [] => true
  | (key, value) :: members =>
    (decodePieces key).isSome && value.isSound room && membersSound room members

end

end Roleplay.Json
