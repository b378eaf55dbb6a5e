import Roleplay.Json.Raw

/-! # Reading JSON syntax

From a text or from bytes to a raw tree.  The grammar is strict: no comments, no trailing commas,
no leading zeros, no control characters in strings, and nothing but blanks after the value.

* `Raw.ofText?` reads a text, `Raw.ofBytes?` reads UTF-8 bytes;
* `symbolsOfBytes` decodes UTF-8, marking the bytes that encode nothing.
-/

namespace Roleplay.Json

open Roleplay.Text

/-- A character, or nothing where the bytes encode none. -/
abbrev Symbol := Option Char

/-! ## Blanks, words and digits -/

def isBlankSymbol : Symbol → Bool
  | some c => c = ' ' || c = '\n' || c = '\t' || c = '\r'
  | none => false

def skipBlanks (text : List Symbol) : List Symbol := text.dropWhile isBlankSymbol

def dropWord? : List Char → List Symbol → Option (List Symbol)
  | [], text => some text
  | c :: word, some d :: text => if c = d then dropWord? word text else none
  | _ :: _, _ => none

def takeDigitSymbols : List Symbol → List Char × List Symbol
  | some c :: text =>
    if c.isDigit then
      let (digits, rest) := takeDigitSymbols text
      (c :: digits, rest)
    else ([], some c :: text)
  | text => ([], text)

/-! ## Numbers -/

/-- The fraction after a number's whole part: a point needs digits. -/
def takeFraction? : List Symbol → Option (List Char × List Symbol)
  | some '.' :: text =>
    let (digits, rest) := takeDigitSymbols text
    if digits.isEmpty then none else some (digits, rest)
  | text => some ([], text)

/-- The digits of an exponent after its letter, which may carry a sign. -/
def takeSignedDigits? (text : List Symbol) : Option ((Bool × List Char) × List Symbol) :=
  let (negative, unsigned) : Bool × List Symbol :=
    match text with
    | some '-' :: rest => (true, rest)
    | some '+' :: rest => (false, rest)
    | rest => (false, rest)
  let (digits, rest) := takeDigitSymbols unsigned
  if digits.isEmpty then none else some ((negative, digits), rest)

def takeExponentPart? : List Symbol → Option (Option (Bool × List Char) × List Symbol)
  | some 'e' :: text => (takeSignedDigits? text).map fun (exponent, rest) => (some exponent, rest)
  | some 'E' :: text => (takeSignedDigits? text).map fun (exponent, rest) => (some exponent, rest)
  | text => some (none, text)

/-- A number without its sign: a leading zero stands alone. -/
def takeUnsigned? (negative : Bool) (text : List Symbol) : Option (Number × List Symbol) := do
  let (whole, rest) := takeDigitSymbols text
  if whole.isEmpty || (whole.head? = some '0' && whole.length > 1) then none
  else
    let (fraction, rest) ← takeFraction? rest
    let (exponent, rest) ← takeExponentPart? rest
    some (⟨negative, whole, fraction, exponent⟩, rest)

def takeNumber? : List Symbol → Option (Number × List Symbol)
  | some '-' :: text => takeUnsigned? true text
  | text => takeUnsigned? false text

/-! ## Strings -/

def hexDigit? (c : Char) : Option Nat :=
  if '0' ≤ c && c ≤ '9' then some (c.toNat - 48)
  else if 'a' ≤ c && c ≤ 'f' then some (c.toNat - 87)
  else if 'A' ≤ c && c ≤ 'F' then some (c.toNat - 55)
  else none

/-- The unit written by four hexadecimal digits. -/
def hexUnit? (first second third fourth : Symbol) : Option Nat := do
  let a ← first.bind hexDigit?
  let b ← second.bind hexDigit?
  let c ← third.bind hexDigit?
  let d ← fourth.bind hexDigit?
  some (((a * 16 + b) * 16 + c) * 16 + d)

/-- The character of a one-letter escape. -/
def escapedChar? (c : Char) : Option Char :=
  if c = '"' || c = '\\' || c = '/' then some c
  else if c = 'b' then some (Char.ofNat 8)
  else if c = 'f' then some (Char.ofNat 12)
  else if c = 'n' then some '\n'
  else if c = 'r' then some '\r'
  else if c = 't' then some '\t'
  else none

/-- The pieces of a string up to its closing quote, and the rest. -/
def takeString? : List Symbol → Option (List Piece × List Symbol)
  | [] => none
  | none :: text => (takeString? text).map fun (pieces, rest) => (.broken :: pieces, rest)
  | some '"' :: text => some ([], text)
  | some '\\' :: some 'u' :: a :: b :: c :: d :: text =>
    (hexUnit? a b c d).bind fun code =>
      (takeString? text).map fun (pieces, rest) => (.unit code :: pieces, rest)
  | some '\\' :: some c :: text =>
    (escapedChar? c).bind fun char =>
      (takeString? text).map fun (pieces, rest) => (.char char :: pieces, rest)
  | some c :: text =>
    if c = '\\' || c.toNat < 0x20 then none
    else (takeString? text).map fun (pieces, rest) => (.char c :: pieces, rest)

/-! ## Values -/

/-- A value that holds no other. -/
def takeScalar? : List Symbol → Option (Raw × List Symbol)
  | some '"' :: text => (takeString? text).map fun (pieces, rest) => (.string pieces, rest)
  | some 'n' :: text => (dropWord? ['u', 'l', 'l'] text).map fun rest => (.null, rest)
  | some 't' :: text => (dropWord? ['r', 'u', 'e'] text).map fun rest => (.bool true, rest)
  | some 'f' :: text => (dropWord? ['a', 'l', 's', 'e'] text).map fun rest => (.bool false, rest)
  | text => (takeNumber? text).map fun (number, rest) => (.number number, rest)

def takeKey? (text : List Symbol) : Option (List Piece × List Symbol) :=
  match skipBlanks text with
  | some '"' :: text =>
    (takeString? text).bind fun (key, rest) =>
      match skipBlanks rest with
      | some ':' :: rest => some (key, rest)
      | _ => none
  | _ => none

mutual

/-- A value at the front of a text, and the rest.  Two units of fuel pay for each symbol. -/
def takeValue? : Nat → List Symbol → Option (Raw × List Symbol)
  | 0, _ => none
  | fuel + 1, text =>
    match skipBlanks text with
    | some '[' :: text =>
      match skipBlanks text with
      | some ']' :: rest => some (.array [], rest)
      | text => (takeItems? fuel text).map fun (items, rest) => (.array items, rest)
    | some '\x7b' :: text =>
      match skipBlanks text with
      | some '\x7d' :: rest => some (.object [], rest)
      | text => (takeMembers? fuel text).map fun (members, rest) => (.object members, rest)
    | text => takeScalar? text

/-- The items of an array, at least one, through the closing bracket. -/
def takeItems? : Nat → List Symbol → Option (List Raw × List Symbol)
  | 0, _ => none
  | fuel + 1, text =>
    (takeValue? fuel text).bind fun (item, rest) =>
      match skipBlanks rest with
      | some ']' :: rest => some ([item], rest)
      | some ',' :: rest => (takeItems? fuel rest).map fun (items, rest) => (item :: items, rest)
      | _ => none

/-- The members of an object, at least one, through the closing brace. -/
def takeMembers? : Nat → List Symbol → Option (List (List Piece × Raw) × List Symbol)
  | 0, _ => none
  | fuel + 1, text =>
    (takeKey? text).bind fun (key, rest) =>
      (takeValue? fuel rest).bind fun (value, rest) =>
        match skipBlanks rest with
        | some '\x7d' :: rest => some ([(key, value)], rest)
        | some ',' :: rest =>
          (takeMembers? fuel rest).map fun (members, rest) => ((key, value) :: members, rest)
        | _ => none

end

def Raw.ofSymbols? (text : List Symbol) : Option Raw :=
  match takeValue? (2 * text.length + 2) text with
  | some (raw, rest) => if (skipBlanks rest).isEmpty then some raw else none
  | none => none

def Raw.ofText? (text : String) : Option Raw := Raw.ofSymbols? (text.toList.map some)

/-! ## UTF-8 -/

/-- The low six bits of a continuation byte. -/
def continuation? (byte : UInt8) : Option Nat :=
  if 0x80 ≤ byte && byte < 0xc0 then some (byte.toNat - 0x80) else none

/-- The character that a lead byte and the bytes after it encode in their shortest form, with the
number of bytes after the lead byte. -/
def encodedChar? (lead : UInt8) (rest : List UInt8) : Option (Char × Nat) :=
  let code (initial count least : Nat) : Option (Char × Nat) :=
    let tail := rest.take count
    if tail.length < count then none
    else do
      let bits ← tail.mapM continuation?
      let value := bits.foldl (fun value sixBits => value * 64 + sixBits) initial
      if least ≤ value ∧ value.isValidChar then some (Char.ofNat value, count) else none
  if lead < 0x80 then some (Char.ofNat lead.toNat, 0)
  else if 0xc0 ≤ lead && lead < 0xe0 then code (lead.toNat - 0xc0) 1 0x80
  else if 0xe0 ≤ lead && lead < 0xf0 then code (lead.toNat - 0xe0) 2 0x800
  else if 0xf0 ≤ lead && lead < 0xf8 then code (lead.toNat - 0xf0) 3 0x10000
  else none

/-- Decodes UTF-8; `covered` bytes belong to a character already decoded. -/
def symbolsFrom : Nat → List UInt8 → List Symbol
  | _, [] => []
  | covered + 1, _ :: rest => symbolsFrom covered rest
  | 0, lead :: rest =>
    match encodedChar? lead rest with
    | some (c, count) => some c :: symbolsFrom count rest
    | none => none :: symbolsFrom 0 rest

def symbolsOfBytes (bytes : List UInt8) : List Symbol := symbolsFrom 0 bytes

def Raw.ofBytes? (bytes : List UInt8) : Option Raw := Raw.ofSymbols? (symbolsOfBytes bytes)

end Roleplay.Json
