import Roleplay.Proofs.Decimal.Order

/-! # The values of single-precision numbers

Finite single-precision numbers stand for rational ones.  Comparisons compare what they stand for,
and sums and differences stand for the sums and differences of their operands wherever nothing is
rounded.

* `Single.value` is what a number stands for, `Single.value_le_iff` what comparisons compare;
* `Single.AddsExactly` and `Single.SubtractsExactly` say that nothing is rounded.
-/

namespace Roleplay.Single

open Float.Model (UnpackedFloat)

/-- What a number stands for, zero for those that are not finite. -/
def valueOf : UnpackedFloat → ℚ
  | .finite .positive mantissa exponent _ => mantissa * 2 ^ exponent
  | .finite .negative mantissa exponent _ => -(mantissa * 2 ^ exponent)
  | _ => 0

def value (number : Float32) : ℚ := valueOf number.toModel.unpack

/-! ## Canonical numbers -/

/-- The exponent is the least one that leaves the mantissa at most 24 bits. -/
def IsCanonical : UnpackedFloat → Prop
  | .finite _ mantissa exponent _ =>
    mantissa < 2 ^ 24 ∧ -149 ≤ exponent ∧ (2 ^ 23 ≤ mantissa ∨ exponent = -149)
  | _ => True

theorem isCanonical_unpack (bits : BitVec 32) :
    IsCanonical (UnpackedFloat.unpack .binary32 bits) := by
  have fraction : (@UnpackedFloat.unpackMantissa .binary32 bits).toNat < 2 ^ 23 :=
    BitVec.isLt _
  have bias : (Float.Model.Format.exponentBias .binary32 : ℤ) = 127 := rfl
  simp only [UnpackedFloat.unpack]
  split
  · split <;> trivial
  · split
    next least =>
      split
      · trivial
      · -- below the least exponent the leading bit is missing
        rw [IsCanonical, least]
        exact ⟨by omega, by simp [bias], .inr (by simp [bias])⟩
    next normal =>
      have leading : (1#1 ++ @UnpackedFloat.unpackMantissa .binary32 bits).toNat =
          2 ^ 23 + (@UnpackedFloat.unpackMantissa .binary32 bits).toNat := by
        rw [BitVec.toNat_append, ← Nat.shiftLeft_add_eq_or_of_lt fraction]
        rfl
      have positive : 0 < (@UnpackedFloat.unpackExponent .binary32 bits).toNat :=
        Nat.pos_of_ne_zero fun zero => normal (BitVec.eq_of_toNat_eq zero)
      rw [IsCanonical, leading, bias]
      exact ⟨by omega, by push_cast; omega, .inl (by omega)⟩

variable {first second : UnpackedFloat}

/-- A larger exponent, or a larger mantissa with the same one, makes a larger number. -/
theorem scaled_lt {mantissa mantissa' : ℕ} {exponent exponent' : ℤ} (low : mantissa < 2 ^ 24)
    (least : -149 ≤ exponent) (high : 2 ^ 23 ≤ mantissa' ∨ exponent' = -149)
    (less : exponent < exponent' ∨ exponent = exponent' ∧ mantissa < mantissa') :
    (mantissa * 2 ^ exponent : ℚ) < mantissa' * 2 ^ exponent' := by
  have positive : (0 : ℚ) < 2 ^ exponent := by positivity
  rcases less with steeper | ⟨rfl, less⟩
  · have full : 2 ^ 23 ≤ mantissa' := high.resolve_right (by omega)
    calc (mantissa * 2 ^ exponent : ℚ)
        < 2 ^ 24 * 2 ^ exponent := mul_lt_mul_of_pos_right (by exact_mod_cast low) positive
      _ = 2 ^ 23 * 2 ^ (exponent + 1) := by rw [zpow_add_one₀ two_ne_zero]; ring
      _ ≤ mantissa' * 2 ^ exponent' := by
        gcongr
        · exact_mod_cast full
        · exact one_le_two
        · exact steeper
  · exact mul_lt_mul_of_pos_right (Nat.cast_lt.2 less) positive

theorem scaled_pos {mantissa : ℕ} {exponent : ℤ} (positive : 0 < mantissa) :
    (0 : ℚ) < mantissa * 2 ^ exponent := by
  positivity

theorem toLex_lt {sign exponent mantissa sign' exponent' mantissa' : ℤ} :
    (toLex (sign, toLex (exponent, mantissa)) : Place) <
        toLex (sign', toLex (exponent', mantissa')) ↔
      sign < sign' ∨ sign = sign' ∧
        (exponent < exponent' ∨ exponent = exponent' ∧ mantissa < mantissa') := by
  simp only [Prod.Lex.toLex_lt_toLex]

/-- Finite numbers stand in the order of their places. -/
theorem valueOf_lt {x y : Place} (canonical : IsCanonical first) (canonical' : IsCanonical second)
    (finite : first.isFinite = true) (finite' : second.isFinite = true)
    (found : placeOf first = some x) (found' : placeOf second = some y) (less : x < y) :
    valueOf first < valueOf second := by
  rcases first with _ | _ | _ | ⟨_ | _, m, e, nonzero⟩ <;>
    rcases second with _ | _ | _ | ⟨_ | _, m', e', nonzero'⟩ <;>
    try first | exact absurd finite Bool.false_ne_true | exact absurd finite' Bool.false_ne_true
  all_goals
    obtain rfl := Option.some.inj found
    obtain rfl := Option.some.inj found'
    rw [toLex_lt] at less
  -- numbers of different signs differ in the first component of their places
  case zero.zero => simp at less
  case zero.finite.negative => simp at less
  case finite.positive.zero => simp at less
  case finite.positive.finite.negative => simp at less
  case zero.finite.positive => exact scaled_pos nonzero'
  case finite.negative.zero => exact neg_lt_zero.2 (scaled_pos nonzero)
  case finite.negative.finite.positive =>
    exact (neg_lt_zero.2 (scaled_pos nonzero)).trans (scaled_pos nonzero')
  case finite.negative.finite.negative =>
    exact neg_lt_neg (scaled_lt canonical'.1 canonical'.2.1 canonical.2.2 (by omega))
  case finite.positive.finite.positive =>
    exact scaled_lt canonical.1 canonical.2.1 canonical'.2.2 (by omega)

theorem valueOf_place {x : Place} (found : placeOf first = some x) :
    valueOf first = (ofLex (ofLex x).2).2 * 2 ^ ((ofLex x).1 * (ofLex (ofLex x).2).1) := by
  rcases first with (_ | _) | _ | _ | ⟨_ | _, m, e, _⟩ <;> cases found <;> simp [valueOf]

/-! ## Comparisons -/

variable {number other : Float32}

theorem value_lt (finite : number.isFinite = true) (finite' : other.isFinite = true)
    (less : number < other) : value number < value other := by
  obtain ⟨x, found, y, found', less⟩ := lt_iff.1 less
  exact valueOf_lt (isCanonical_unpack _) (isCanonical_unpack _) finite finite' found found' less

/-- Of finite numbers one is at most the other just if what it stands for is. -/
theorem value_le_iff (finite : number.isFinite = true) (finite' : other.isFinite = true) :
    value number ≤ value other ↔ number ≤ other := by
  constructor
  · intro less
    refine le_of_not_lt (isNaN_of_isFinite finite) (isNaN_of_isFinite finite') fun more => ?_
    exact (value_lt finite' finite more).not_ge less
  · intro less
    obtain ⟨x, found, y, found', places⟩ := le_iff.1 less
    rcases places.eq_or_lt with rfl | places
    · exact ((valueOf_place found).trans (valueOf_place found').symm).le
    · exact (value_lt finite finite' (lt_iff.2 ⟨x, found, y, found', places⟩)).le

theorem value_zero : value 0 = 0 := rfl

theorem isFinite_zero : Float32.isFinite 0 = true := by decide +kernel

theorem isFinite_of_value_ne_zero (nonzero : value number ≠ 0) : number.isFinite = true := by
  change number.toModel.unpack.isFinite = true
  rw [value] at nonzero
  cases unpacked : number.toModel.unpack with
  | infinity | notANumber =>
    rw [unpacked] at nonzero
    exact absurd rfl nonzero
  | zero | finite => rfl

theorem value_nonneg (nonneg : 0 ≤ number) : 0 ≤ value number := by
  by_contra negative
  have finite := isFinite_of_value_ne_zero (not_le.1 negative).ne
  exact negative ((value_le_iff isFinite_zero finite).2 nonneg)

/-- The positive part of a number that is not negative stands for the same as the number. -/
theorem value_positivePart (finite : number.isFinite = true) (nonneg : 0 ≤ value number) :
    value (positivePart number) = value number := by
  rw [positivePart]
  split
  · rfl
  · rename_i notPositive
    have low := le_of_not_lt (isNaN_of_isFinite finite) isNaN_zero notPositive
    exact nonneg.antisymm ((value_le_iff finite isFinite_zero).2 low)

/-! ## Exact sums and differences -/

/-- Nothing is rounded when the numbers are added. -/
structure AddsExactly (first second : Float32) : Prop where
  finite : first.isFinite = true
  finite' : second.isFinite = true
  finiteSum : (first + second).isFinite = true
  value_add : value (first + second) = value first + value second

/-- Nothing is rounded when the second number is taken off the first one. -/
structure SubtractsExactly (first second : Float32) : Prop where
  finite : first.isFinite = true
  finite' : second.isFinite = true
  finiteDifference : (first - second).isFinite = true
  value_sub : value (first - second) = value first - value second

instance (first second : Float32) : Decidable (AddsExactly first second) :=
  decidable_of_iff (first.isFinite = true ∧ second.isFinite = true ∧
      (first + second).isFinite = true ∧ value (first + second) = value first + value second)
    ⟨fun ⟨finite, finite', finiteSum, same⟩ => ⟨finite, finite', finiteSum, same⟩,
      fun exact => ⟨exact.finite, exact.finite', exact.finiteSum, exact.value_add⟩⟩

instance (first second : Float32) : Decidable (SubtractsExactly first second) :=
  decidable_of_iff (first.isFinite = true ∧ second.isFinite = true ∧
      (first - second).isFinite = true ∧ value (first - second) = value first - value second)
    ⟨fun ⟨finite, finite', finiteDifference, same⟩ => ⟨finite, finite', finiteDifference, same⟩,
      fun exact => ⟨exact.finite, exact.finite', exact.finiteDifference, exact.value_sub⟩⟩

example : AddsExactly 64.5 0.5 ∧ ¬AddsExactly 64.5 0.1 := by decide +kernel

/-- What is left of a number after one that is not larger is taken off. -/
theorem SubtractsExactly.value_positivePart (exact : SubtractsExactly number other)
    (less : other ≤ number) :
    value (positivePart (number - other)) = value number - value other ∧
      0 ≤ value number - value other := by
  have nonneg : 0 ≤ value number - value other :=
    sub_nonneg.2 ((value_le_iff exact.finite' exact.finite).2 less)
  rw [Single.value_positivePart exact.finiteDifference (exact.value_sub ▸ nonneg), exact.value_sub]
  exact ⟨rfl, nonneg⟩

end Roleplay.Single
