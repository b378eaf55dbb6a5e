import Roleplay.Decimal.Numeral

/-! # Event tags

What may stand between the brackets of an event tag: a number, `speed` or `pause` with a number,
`auto` with or without a truth value, or `br`.  Words are read in any ASCII case, blanks are spaces
and tabs, and nothing may be left over.

* `EventTag.read?` reads the content of a bracket group;
* each kind of tag has a reader of its own that returns what follows the tag.
-/

namespace Roleplay.Markup

open Roleplay.Text

inductive EventTag where
  /-- Refers to an instruction of the line by its place. -/
  | instruction (place : Nat)
  | speed (factor : Float32)
  | pause (seconds : Float32)
  | auto (on : Bool)
  | newLine
deriving DecidableEq

/-! ## Blanks and assignment -/

def isSpace (c : Char) : Bool := c = ' ' || c = '\t'

def skipSpace (text : List Char) : List Char := text.dropWhile isSpace

/-- What follows an equals sign with optional blanks around it. -/
def dropAssignment? (text : List Char) : Option (List Char) :=
  match skipSpace text with
  | '=' :: rest => some (skipSpace rest)
  | _ => none

/-! ## The kinds of tags -/

/-- Places are limited to 64 bits. -/
def takePlace? (text : List Char) : Option (EventTag × List Char) :=
  let (digits, rest) := takeDigits text
  let place := digitsValue digits
  if digits.isEmpty then none
  else if place < 0x10000000000000000 then some (.instruction place, rest)
  else none

/-- A number after an assignment sign: a numeral, or an unsigned name of a special number. -/
def takeNumber? (text : List Char) : Option (Float32 × List Char) :=
  let (_, unsigned) := Decimal.takeSign text
  if (Decimal.takeMantissa? unsigned).isSome then
    (Decimal.Numeral.scan text).map fun (numeral, rest) => (numeral.value, rest)
  else
    match dropKeyword? "nan".toList text with
    | some rest => some (Single.notANumber, rest)
    | none =>
      match dropKeyword? "infinity".toList text with
      | some rest => some (Single.infinity, rest)
      | none => (dropKeyword? "inf".toList text).map fun rest => (Single.infinity, rest)

def takeAssigned? (keyword : String) (tag : Float32 → EventTag) (text : List Char) :
    Option (EventTag × List Char) := do
  let rest ← dropKeyword? keyword.toList text
  let rest ← dropAssignment? rest
  let (number, rest) ← takeNumber? rest
  some (tag number, rest)

def takeTruth? (text : List Char) : Option (Bool × List Char) :=
  match dropKeyword? "true".toList text with
  | some rest => some (true, rest)
  | none => (dropKeyword? "false".toList text).map fun rest => (false, rest)

/-- The keyword alone turns automatic advance on. -/
def takeAuto? (text : List Char) : Option (EventTag × List Char) :=
  (dropKeyword? "auto".toList text).map fun rest =>
    match (dropAssignment? rest).bind takeTruth? with
    | some (on, rest) => (.auto on, rest)
    | none => (.auto true, rest)

def takeNewLine? (text : List Char) : Option (EventTag × List Char) :=
  (dropKeyword? "br".toList text).map fun rest => (.newLine, rest)

/-- The first kind of tag that can be read. -/
def takeTag? (text : List Char) : Option (EventTag × List Char) :=
  takePlace? text <|> takeAssigned? "speed" .speed text <|> takeAssigned? "pause" .pause text <|>
    takeAuto? text <|> takeNewLine? text

def EventTag.read? (content : List Char) : Option EventTag :=
  match takeTag? (skipSpace content) with
  | some (tag, rest) => if (skipSpace rest).isEmpty then some tag else none
  | none => none

end Roleplay.Markup
