import Roleplay.Decimal.Single

/-! # Written numbers

How a single-precision number is written: its shortest decimal, laid out as a `Style` says.

* `Style.plain` is the style of displayed values: never an exponent, `3.5`, `10`, `-0`, `inf`;
* `Style.data` is the style of saved files: `15.0`, `1e-7`, `3.4028235e+38`;
* `Style.write` writes a number in a style.
-/

namespace Roleplay.Decimal

/-- The decisions a written form makes. -/
structure Style where
  /-- Which of two equally near shortest decimals is written. -/
  tie : Tie
  /-- What follows the digits of a whole number. -/
  wholeEnding : String
  /-- The powers of ten of the first digit that are written without an exponent, all if absent. -/
  positional : Option (Int × Int)
deriving Repr, DecidableEq

namespace Style

/-- Displayed values show every digit place and no point after a whole number. -/
def plain : Style := ⟨.upward, "", none⟩

/-- Saved numbers keep a point, and leave positional notation below `10 ^ -6` and from
`10 ^ 13` on. -/
def data : Style := ⟨.toEven, ".0", some (-6, 12)⟩

def zeros (count : Nat) : String := String.ofList (List.replicate count '0')

def writePositional (style : Style) (decimal : Scientific) : String :=
  let digits := Nat.toDigits 10 decimal.significand
  match decimal.exponent with
  | .ofNat e => String.ofList digits ++ zeros e ++ style.wholeEnding
  | .negSucc e =>
    let places := e + 1
    if places < digits.length then
      String.ofList (digits.take (digits.length - places)) ++ "." ++
        String.ofList (digits.drop (digits.length - places))
    else "0." ++ zeros (places - digits.length) ++ String.ofList digits

/-- Writes one digit, the other digits after a point if there are any, and a signed exponent. -/
def writeExponential (decimal : Scientific) : String :=
  let digits := Nat.toDigits 10 decimal.significand
  let exponent := decimal.exponent + (digits.length - 1 : Nat)
  String.ofList (digits.take 1) ++
    (if digits.length > 1 then "." ++ String.ofList (digits.drop 1) else "") ++
    (if exponent < 0 then "e-" else "e+") ++ toString exponent.natAbs

def isPositional (style : Style) (decimal : Scientific) : Bool :=
  match style.positional with
  | none => true
  | some (low, high) =>
    let exponent := decimal.exponent + ((Single.digitCount decimal.significand - 1 : Nat) : Int)
    low ≤ exponent && exponent ≤ high

def writeDecimal (style : Style) (decimal : Scientific) : String :=
  if style.isPositional decimal then style.writePositional decimal else writeExponential decimal

def sign (negative : Bool) : String := if negative then "-" else ""

/-- Writes a number; not-a-number shows no sign. -/
def write (style : Style) (number : Float32) : String :=
  match Single.classify number with
  | .notANumber => "NaN"
  | .infinite negative => sign negative ++ "inf"
  | .zero negative => sign negative ++ "0" ++ style.wholeEnding
  | .finite negative point => sign negative ++ style.writeDecimal (point.shortest style.tie)

end Style

end Roleplay.Decimal
