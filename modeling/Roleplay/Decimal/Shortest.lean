/-! # Shortest decimals

The decimal with the fewest digits that still rounds to a given binary number.  A positive binary
number `mantissa * 2 ^ exponent` owns an interval of reals that round to it: it reaches half way to
either neighbour, and its ends belong to it exactly when the mantissa is even.  The decimal grids
`10 ^ e` are tried from the coarsest; on each grid only the two points next to the number can be the
nearest ones inside the interval, so the first grid with such a point gives the fewest digits.

* `BinaryPoint.gridPoint?` picks the point of one grid, if the interval holds one;
* `BinaryPoint.shortest` searches the grids.
-/

namespace Roleplay.Decimal

/-- The positive number `significand * 10 ^ exponent`. -/
structure Scientific where
  significand : Nat
  exponent : Int
deriving Repr, DecidableEq, Inhabited

/-- Which of two equally near grid points is taken. -/
inductive Tie where
  | upward
  | toEven
deriving Repr, DecidableEq

/-- The positive number `mantissa * 2 ^ exponent`. -/
structure BinaryPoint where
  mantissa : Nat
  exponent : Int
  /-- Whether the neighbour below is only half as far as the one above. -/
  narrowBelow : Bool
deriving Repr, DecidableEq

namespace BinaryPoint

/-- `base ^ exponent` as a numerator and a denominator. -/
def powerRatio (base : Nat) (exponent : Int) : Nat × Nat :=
  (Nat.pow base exponent.toNat, Nat.pow base (-exponent).toNat)

/-- The ends of the rounding interval and the number itself, in quarters of `2 ^ exponent`. -/
def quarters (point : BinaryPoint) : Nat × Nat × Nat :=
  (4 * point.mantissa - (if point.narrowBelow then 1 else 2), 4 * point.mantissa,
    4 * point.mantissa + 2)

/-- The multiple of `10 ^ grid` that is nearest to the number among those that round to it. -/
def gridPoint? (point : BinaryPoint) (tie : Tie) (grid : Int) : Option Nat :=
  let (tenUp, tenDown) := powerRatio 10 grid
  let (twoUp, twoDown) := powerRatio 2 (point.exponent - 2)
  let (low, middle, high) := point.quarters
  -- cross-multiplied, so that everything below compares whole numbers
  let step := tenUp * twoDown
  let unit := twoUp * tenDown
  let covers (candidate : Nat) : Bool :=
    if point.mantissa % 2 = 0 then
      low * unit ≤ candidate * step && candidate * step ≤ high * unit
    else low * unit < candidate * step && candidate * step < high * unit
  let below := middle * unit / step
  let above := below + 1
  match covers below, covers above with
  | false, false => none
  | true, false => some below
  | false, true => some above
  | true, true =>
    let down := middle * unit - below * step
    let up := above * step - middle * unit
    if down < up then some below
    else if up < down then some above
    else match tie with
      | .upward => some above
      | .toEven => some (if below % 2 = 0 then below else above)

/-- The grids from `10 ^ 38` down to `10 ^ -45`, which every single-precision number needs at
most. -/
def grids : List Int := (List.range 84).map fun (place : Nat) => 38 - (place : Int)

/-- The shortest decimal of a binary number of single precision. -/
def shortest (point : BinaryPoint) (tie : Tie) : Scientific :=
  (grids.findSome? fun grid =>
    (point.gridPoint? tie grid).map fun significand => ⟨significand, grid⟩).getD ⟨0, 0⟩

end BinaryPoint

end Roleplay.Decimal
