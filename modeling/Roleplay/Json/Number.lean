import Roleplay.Decimal.Single
import Roleplay.Text.Ascii

/-! # Numbers in saved files

A number is kept as its digits until the type that reads it is known.

* `Number.integer?` reads a number written without fraction or exponent that fits 64 bits;
* `Number.double?` reads any number into double precision, unless it is too large for it;
* `Number.single?` reads any number into single precision.

Digits are gathered into one 64-bit significand as long as they fit; the digits after that only
count places.  The significand is then scaled by one power of ten, so the result of a long numeral
may be off in its last bit.
-/

namespace Roleplay.Json

open Roleplay.Text

/-- The digits of a number as they stand in the file. -/
structure Number where
  negative : Bool
  whole : List Char
  fraction : List Char
  /-- Whether the exponent is negative, and its digits. -/
  exponent : Option (Bool × List Char)
deriving Repr, DecidableEq

namespace Number

/-- A whole number of 64 bits.  Minus zero is no whole number. -/
def integer? (number : Number) : Option Int :=
  let magnitude := digitsValue number.whole
  if number.fraction.isEmpty && number.exponent.isNone then
    if number.negative then
      if magnitude = 0 ∨ magnitude > 0x8000000000000000 then none else some (-magnitude)
    else if magnitude < 0x10000000000000000 then some magnitude
    else none
  else none

/-- Appends digits to a significand as long as it fits 64 bits: the significand, and how many
digits were left out. -/
def gather : Nat → List Char → Nat × Nat
  | significand, [] => (significand, 0)
  | significand, c :: rest =>
    let next := 10 * significand + (c.toNat - 48)
    if next < 0x10000000000000000 then gather next rest else (significand, rest.length + 1)

/-- The power `10 ^ exponent` in double precision. -/
def power (exponent : Nat) : Float := Float.ofScientific 1 false exponent

/-- Scales by `10 ^ exponent` in one multiplication or division if the power fits double precision.
A smaller power is applied in rounds of `10 ^ -308`, which turn any significand into zero by the
third, and a larger one exceeds double precision. -/
def scale : Nat → Float → Int → Option Float
  | rounds, number, exponent =>
    if exponent.natAbs ≤ 308 then
      if 0 ≤ exponent then
        let product := number * power exponent.natAbs
        if product.isInf then none else some product
      else some (number / power exponent.natAbs)
    else if number == 0 then some number
    else if 0 ≤ exponent then none
    else match rounds with
      | 0 => some 0
      | rounds + 1 => scale rounds (number / power 308) (exponent + 308)

/-- The number in double precision, absent if it is too large. -/
def double? (number : Number) : Option Float :=
  let (wholePart, wholeLeft) := gather 0 number.whole
  let (significand, fractionLeft) := gather wholePart number.fraction
  let places : Int := (wholeLeft : Int) - ((number.fraction.length - fractionLeft : Nat) : Int)
  let magnitude? :=
    match number.exponent with
    | none => scale 3 (Float.ofNat significand) places
    | some (negative, digits) =>
      let exponent := digitsValue digits
      if exponent ≥ 0x80000000 then
        if significand ≠ 0 ∧ ¬ negative then none else some 0
      else scale 3 (Float.ofNat significand)
        (if negative then places - (exponent : Int) else places + (exponent : Int))
  magnitude?.map fun magnitude => if number.negative then -magnitude else magnitude

/-- The number in single precision: whole numbers round once, all others by way of double
precision. -/
def single? (number : Number) : Option Float32 :=
  match number.integer? with
  | some n => some (Single.ofInt n)
  | none => number.double?.map Single.ofDouble

def inRange (number : Number) : Bool := number.integer?.isSome || number.double?.isSome

end Number

end Roleplay.Json
