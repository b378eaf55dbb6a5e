import Roleplay.Json.Scan
import Roleplay.Stats.Condition
import Roleplay.Text.Blank

/-! # Written outcomes

The outcome of a condition as text: the names of its flags with bars between them, and bits that
have no name as one hexadecimal number.

* `Outcome.text` writes an outcome, `Outcome.read?` reads one;
* `Outcome.readFlag?` reads one item between the bars.
-/

namespace Roleplay

namespace Outcome

def flags : List (String × Outcome) := [("REMOVE", remove), ("DEACTIVATE", deactivate)]

/-! ## Writing -/

/-- The names of the flags, then the bits without a name. -/
def words (outcome : Outcome) : List String :=
  let unnamed := outcome.bits &&& 0xfc
  (if outcome.removes then ["REMOVE"] else []) ++
    (if outcome.deactivates then ["DEACTIVATE"] else []) ++
    (if unnamed = 0 then [] else ["0x" ++ String.ofList (Nat.toDigits 16 unnamed.toNat)])

def text (outcome : Outcome) : String := " | ".intercalate outcome.words

/-! ## Reading -/

/-- Cuts a text at every bar. -/
def splitBars : List Char → List (List Char)
  | [] => [[]]
  | c :: rest =>
    if c = '|' then [] :: splitBars rest
    else
      match splitBars rest with
      | item :: items => (c :: item) :: items
      | [] => [[c]]

/-- The number of a run of hexadecimal digits, absent if a character is none. -/
def hexValue? (digits : List Char) : Option Nat :=
  digits.foldl (fun value? c => do
    let value ← value?
    let digit ← Json.hexDigit? c
    some (16 * value + digit)) (some 0)

/-- Eight bits in hexadecimal digits, which a plus sign may precede. -/
def readBits? (text : List Char) : Option Outcome :=
  let digits :=
    match text with
    | '+' :: digits => digits
    | digits => digits
  if digits.isEmpty then none
  else (hexValue? digits).bind fun value =>
    if value < 256 then some ⟨UInt8.ofNat value⟩ else none

/-- The bits of one item: a name, or a hexadecimal number. -/
def readFlag? (item : List Char) : Option Outcome :=
  match item with
  | '0' :: 'x' :: digits => readBits? digits
  | item => flags.lookup (String.ofList item)

/-- Reads items between bars, each with blanks around it; a blank text is no flag. -/
def read? (text : List Char) : Option Outcome :=
  if (Text.trim text).isEmpty then some nothing
  else
    (splitBars text).foldl (fun outcome? item => do
      let outcome ← outcome?
      let flag ← readFlag? (Text.trim item)
      some (outcome.union flag)) (some nothing)

end Outcome

end Roleplay
