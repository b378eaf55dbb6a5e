import Roleplay.Decimal.Single
import Roleplay.Text.Ascii

/-! # Numerals

Decimal numbers written with a point and an exponent, and the two grammars that read them.

* `Numeral` holds the digits of a numeral, `Numeral.value` rounds it;
* `Numeral.scan` reads a numeral at the front of a text, as event tags do;
* `readSingle?` reads a whole text, as variables holding text do.
-/

namespace Roleplay.Decimal

open Roleplay.Text

/-- The digits of a numeral. -/
structure Numeral where
  negative : Bool
  whole : List Char
  fraction : List Char
  exponent : Int
deriving Repr, DecidableEq

/-- The nearest single-precision number, ties to even. -/
def Numeral.value (numeral : Numeral) : Float32 :=
  Single.ofDecimal numeral.negative (digitsValue (numeral.whole ++ numeral.fraction))
    (numeral.exponent - numeral.fraction.length)

/-! ## Parts of a numeral -/

/-- An optional sign: whether it is a minus, and the rest. -/
def takeSign : List Char → Bool × List Char
  | '-' :: rest => (true, rest)
  | '+' :: rest => (false, rest)
  | text => (false, text)

/-- Digits with an optional point; at least one digit stands before or after the point. -/
def takeMantissa? (text : List Char) : Option (List Char × List Char × List Char) :=
  let (whole, rest) := takeDigits text
  match rest with
  | '.' :: afterPoint =>
    let (fraction, rest) := takeDigits afterPoint
    if whole.isEmpty && fraction.isEmpty then none else some (whole, fraction, rest)
  | _ => if whole.isEmpty then none else some (whole, [], rest)

/-- The digits of an exponent after its letter, with an optional sign. -/
def takeExponent? (text : List Char) : Option (Int × List Char) :=
  let (negative, rest) := takeSign text
  let (digits, rest) := takeDigits rest
  if digits.isEmpty then none
  else some (if negative then -(digitsValue digits : Int) else digitsValue digits, rest)

/-- A numeral at the front of a text, and the rest.  A letter `e` that no digits follow makes the
whole text unreadable. -/
def Numeral.scan (text : List Char) : Option (Numeral × List Char) :=
  let (negative, afterSign) := takeSign text
  (takeMantissa? afterSign).bind fun (whole, fraction, rest) =>
    match rest with
    | c :: afterLetter =>
      if c = 'e' ∨ c = 'E' then
        (takeExponent? afterLetter).map fun (exponent, rest) =>
          (⟨negative, whole, fraction, exponent⟩, rest)
      else some (⟨negative, whole, fraction, 0⟩, rest)
    | [] => some (⟨negative, whole, fraction, 0⟩, [])

/-! ## Names of special numbers -/

/-- Infinity and not-a-number by name, in any case. -/
def specialNumber? (name : List Char) : Option Float32 :=
  if sameIgnoringCase name "inf".toList || sameIgnoringCase name "infinity".toList then
    some Single.infinity
  else if sameIgnoringCase name "nan".toList then some Single.notANumber
  else none

/-- Reads a whole text as a number: an optional sign, then a numeral or the name of a special
number, and nothing else. -/
def readSingle? (text : List Char) : Option Float32 :=
  let (negative, unsigned) := takeSign text
  match specialNumber? unsigned with
  | some number => some (if negative then -number else number)
  | none =>
    match Numeral.scan text with
    | some (numeral, []) => some numeral.value
    | _ => none

end Roleplay.Decimal
