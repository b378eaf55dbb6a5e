import Roleplay.Decimal.Shortest

/-! # Single-precision numbers as decimals

Taking a `Float32` apart into sign, mantissa and exponent, and building one from a decimal.

* `Single.classify` splits a number into not-a-number, infinity, zero and a `BinaryPoint`;
* `Single.ofDecimal` rounds `significand * 10 ^ exponent` to the nearest number, ties to even;
* `Single.ofDouble` rounds a double-precision number the same way;
* `Single.maximum` and `Single.minimum` treat not-a-number as a missing operand;
* `Single.clamp` and `Single.positivePart` bound a number.
-/

namespace Roleplay.Single

open Roleplay.Decimal

/-! ## Taking a number apart -/

/-- What a single-precision number is, with its sign where it has one. -/
inductive Class where
  | notANumber
  | infinite (negative : Bool)
  | zero (negative : Bool)
  | finite (negative : Bool) (point : BinaryPoint)
deriving Repr, DecidableEq

/-- Reads the class off the bits: one sign bit, eight exponent bits, 23 fraction bits. -/
def classify (number : Float32) : Class :=
  let bits : Nat := number.toBits.toNat
  let negative : Bool := bits ≥ 0x80000000
  let biased : Nat := bits / 0x800000 % 0x100
  let fraction : Nat := bits % 0x800000
  if biased = 255 then
    if fraction = 0 then .infinite negative else .notANumber
  else if biased = 0 then
    if fraction = 0 then .zero negative else .finite negative ⟨fraction, -149, false⟩
  else
    .finite negative ⟨0x800000 + fraction, (biased : Int) - 150, fraction = 0 && biased > 1⟩

def isFinite (number : Float32) : Bool :=
  match classify number with
  | .zero _ | .finite .. => true
  | _ => false

/-! ## Building a number -/

def infinity : Float32 := Float32.ofBits 0x7f800000

def notANumber : Float32 := Float32.ofBits 0x7fc00000

/-- The number of decimal digits, at least one. -/
def digitCount (n : Nat) : Nat := (Nat.toDigits 10 n).length

/-- Rounds `significand * 10 ^ exponent`.  Numbers of more than 39 places before the point are
infinite and numbers below `10 ^ -46` are zero, so no huge power is ever computed. -/
def ofMagnitude (significand : Nat) (exponent : Int) : Float32 :=
  let places := (digitCount significand : Int) + exponent
  if significand = 0 then 0
  else if places > 39 then infinity
  else if places < -45 then 0
  else Float32.ofScientific significand (exponent < 0) exponent.natAbs

/-- Rounds the decimal `± significand * 10 ^ exponent`; zero keeps the sign. -/
def ofDecimal (negative : Bool) (significand : Nat) (exponent : Int) : Float32 :=
  if negative then -ofMagnitude significand exponent else ofMagnitude significand exponent

/-- Rounds `± mantissa * 2 ^ exponent`, which is a decimal since a half is five tenths. -/
def ofBinary (negative : Bool) (mantissa : Nat) (exponent : Int) : Float32 :=
  match exponent with
  | .ofNat e => ofDecimal negative (mantissa * Nat.pow 2 e) 0
  | .negSucc e => ofDecimal negative (mantissa * Nat.pow 5 (e + 1)) (.negSucc e)

/-- Rounds a double-precision number, read off its bits. -/
def ofDouble (number : Float) : Float32 :=
  let bits : Nat := number.toBits.toNat
  let negative : Bool := bits ≥ 0x8000000000000000
  let biased : Nat := bits / 0x10000000000000 % 0x800
  let fraction : Nat := bits % 0x10000000000000
  if biased = 2047 then
    if fraction = 0 then (if negative then -infinity else infinity) else notANumber
  else if biased = 0 then ofBinary negative fraction (-1074)
  else ofBinary negative (0x10000000000000 + fraction) ((biased : Int) - 1075)

def ofInt (n : Int) : Float32 := ofDecimal (n < 0) n.natAbs 0

/-! ## Bounds

A comparison with not-a-number fails, so the first operand is kept on ties and on an absent second
operand, and given up only when it is itself absent. -/

def maximum (first second : Float32) : Float32 :=
  if first.isNaN then second else if first < second then second else first

def minimum (first second : Float32) : Float32 :=
  if first.isNaN then second else if second < first then second else first

/-- The number if it is positive, zero if it is not. -/
def positivePart (number : Float32) : Float32 := if 0 < number then number else 0

/-- Moves a number into `[low, high]`; not-a-number stays. -/
def clamp (number low high : Float32) : Float32 :=
  let raised := if number < low then low else number
  if high < raised then high else raised

/-- The distance of one from the next larger number, `2 ^ -23`. -/
def epsilon : Float32 := Float32.ofBits 0x34000000

/-- Whether two numbers differ by at most `epsilon`. -/
def near (first second : Float32) : Bool := (first - second).abs ≤ epsilon

end Roleplay.Single
