import Mathlib
import Roleplay.Decimal.Single

/-! # The order of single-precision numbers

All single-precision numbers but not-a-number stand in one line, with the two zeros at one place.
Comparisons compare places, and a comparison with not-a-number fails, so the laws of a linear order
hold as far as both numbers have a place.

* `Single.place` is the place of a number, `Single.lt_iff` and `Single.le_iff` say what comparisons
  compare;
* `Single.le_clamp` and `Single.clamp_le` bound a clamped number;
* `Single.isNaN_sub` says that taking a finite number off leaves a number;
* `Single.near_self` and `Single.near_of_not_finite` say which numbers are near themselves.
-/

namespace Roleplay.Single

open Float.Model (UnpackedFloat Format)

/-! ## Places -/

/-- A place by sign, exponent and mantissa; the latter two count down if the number is negative. -/
abbrev Place := ℤ ×ₗ ℤ ×ₗ ℤ

def placeOf : UnpackedFloat → Option Place
  | .notANumber => none
  | .infinity .negative => some (toLex (-2, toLex (0, 0)))
  | .finite .negative mantissa exponent _ =>
    some (toLex (-1, toLex (-exponent, -(mantissa : ℤ))))
  | .zero _ => some (toLex (0, toLex (0, 0)))
  | .finite .positive mantissa exponent _ => some (toLex (1, toLex (exponent, (mantissa : ℤ))))
  | .infinity .positive => some (toLex (2, toLex (0, 0)))

def place (number : Float32) : Option Place := placeOf number.toModel.unpack

theorem isNaN_iff {number : Float32} : number.isNaN = true ↔ place number = none := by
  change number.toModel.unpack.isNaN = true ↔ placeOf number.toModel.unpack = none
  rcases number.toModel.unpack with (_ | _) | _ | _ | ⟨_ | _, _, _, _⟩ <;>
    simp [placeOf, UnpackedFloat.isNaN]

theorem exists_place {number : Float32} (present : number.isNaN = false) :
    ∃ x, place number = some x := by
  rw [← Option.isSome_iff_exists, Option.isSome_iff_ne_none]
  intro absent
  rw [isNaN_iff.2 absent] at present
  cases present

theorem isNaN_of_place {number : Float32} {x : Place} (found : place number = some x) :
    number.isNaN = false := by
  rw [Bool.eq_false_iff]
  intro absent
  rw [isNaN_iff.1 absent] at found
  cases found

/-! ## Comparisons -/

theorem compare_toLex {sign exponent mantissa sign' exponent' mantissa' : ℤ} :
    compare (α := Place) (toLex (sign, toLex (exponent, mantissa)))
        (toLex (sign', toLex (exponent', mantissa'))) =
      (compare sign sign').then ((compare exponent exponent').then
        (compare mantissa mantissa')) := by
  rw [Prod.Lex.compare_def]
  simp only [compareLex, compareOn, Prod.Lex.compare_def, ofLex_toLex]

theorem compare_neg {first second : ℤ} : compare (-first) (-second) = compare second first := by
  rcases lt_trichotomy first second with less | rfl | more
  · rw [compare_gt_iff_gt.2 less, compare_gt_iff_gt.2 (neg_lt_neg less)]
  · rw [compare_eq_iff_eq.2 rfl, compare_eq_iff_eq.2 rfl]
  · rw [compare_lt_iff_lt.2 more, compare_lt_iff_lt.2 (neg_lt_neg more)]

theorem compare_natCast {first second : ℕ} :
    compare (first : ℤ) (second : ℤ) = compare first second := by
  rcases lt_trichotomy first second with less | rfl | more
  · rw [compare_lt_iff_lt.2 less, compare_lt_iff_lt.2 (Int.ofNat_lt.2 less)]
  · rw [compare_eq_iff_eq.2 rfl, compare_eq_iff_eq.2 rfl]
  · rw [compare_gt_iff_gt.2 more, compare_gt_iff_gt.2 (Int.ofNat_lt.2 more)]

theorem compare_eq (first second : UnpackedFloat) :
    first.compare second = (placeOf first).bind fun x => (placeOf second).map (compare x) := by
  rcases first with (_ | _) | _ | _ | ⟨_ | _, m, e, _⟩ <;>
    rcases second with (_ | _) | _ | _ | ⟨_ | _, m', e', _⟩
  -- numbers of different kinds differ in the first component of their places
  case finite.negative.finite.negative =>
    simp only [UnpackedFloat.compare, placeOf, Option.bind_some, Option.map_some, compare_toLex,
      compare_neg, compare_natCast, Ordering.swap_then, Option.some.injEq]
    rw [Std.OrientedOrd.eq_swap (a := e'), Std.OrientedOrd.eq_swap (a := m')]
    rfl
  case finite.positive.finite.positive =>
    simp only [UnpackedFloat.compare, placeOf, Option.bind_some, Option.map_some, compare_toLex,
      compare_natCast, Option.some.injEq]
    rfl
  all_goals rfl

theorem lt_iff {first second : Float32} :
    first < second ↔ ∃ x ∈ place first, ∃ y ∈ place second, x < y := by
  have compares : first < second ↔
      first.toModel.unpack.compare second.toModel.unpack == some .lt :=
    decide_eq_true_iff
  rw [compares, compare_eq, beq_iff_eq]
  simp only [place, Option.bind_eq_some_iff, Option.map_eq_some_iff, compare_lt_iff_lt,
    Option.mem_def]

theorem le_iff {first second : Float32} :
    first ≤ second ↔ ∃ x ∈ place first, ∃ y ∈ place second, x ≤ y := by
  have compares : first ≤ second ↔
      (first.toModel.unpack.compare second.toModel.unpack).any Ordering.isLE :=
    decide_eq_true_iff
  rw [compares, compare_eq]
  simp only [place, Option.any_eq_true, Option.bind_eq_some_iff, Option.map_eq_some_iff,
    Option.mem_def]
  constructor
  · rintro ⟨_, ⟨x, found, y, found', rfl⟩, less⟩
    exact ⟨x, found, y, found', compare_le_iff_le.1 (Ordering.isLE_iff_ne_gt.1 less)⟩
  · rintro ⟨x, found, y, found', less⟩
    exact ⟨_, ⟨x, found, y, found', rfl⟩, Ordering.isLE_iff_ne_gt.2 (compare_le_iff_le.2 less)⟩

variable {first second third : Float32}

theorem le_of_lt (less : first < second) : first ≤ second := by
  obtain ⟨x, found, y, found', less⟩ := lt_iff.1 less
  exact le_iff.2 ⟨x, found, y, found', less.le⟩

theorem not_le_of_lt (less : first < second) : ¬second ≤ first := by
  intro more
  obtain ⟨x, found, y, found', less⟩ := lt_iff.1 less
  obtain ⟨y', again', x', again, more⟩ := le_iff.1 more
  obtain rfl := Option.some.inj (found'.symm.trans again')
  obtain rfl := Option.some.inj (found.symm.trans again)
  exact less.not_ge more

theorem le_refl (present : first.isNaN = false) : first ≤ first := by
  obtain ⟨x, found⟩ := exists_place present
  exact le_iff.2 ⟨x, found, x, found, le_rfl⟩

theorem le_trans (less : first ≤ second) (less' : second ≤ third) : first ≤ third := by
  obtain ⟨x, found, y, found', less⟩ := le_iff.1 less
  obtain ⟨y', found'', z, found''', less'⟩ := le_iff.1 less'
  obtain rfl := Option.some.inj (found'.symm.trans found'')
  exact le_iff.2 ⟨x, found, z, found''', less.trans less'⟩

theorem le_of_not_lt (present : first.isNaN = false) (present' : second.isNaN = false)
    (notLess : ¬second < first) : first ≤ second := by
  obtain ⟨x, found⟩ := exists_place present
  obtain ⟨y, found'⟩ := exists_place present'
  refine le_iff.2 ⟨x, found, y, found', not_lt.1 fun less => notLess ?_⟩
  exact lt_iff.2 ⟨y, found', x, found, less⟩

theorem isNaN_of_lt (less : first < second) : second.isNaN = false := by
  obtain ⟨_, _, _, found, _⟩ := lt_iff.1 less
  exact isNaN_of_place found

/-! ## Bounds -/

theorem isNaN_zero : (0 : Float32).isNaN = false := by decide +kernel

theorem isNaN_positivePart {number : Float32} : (positivePart number).isNaN = false := by
  rw [positivePart]
  split
  · rename_i positive
    exact isNaN_of_lt positive
  · exact isNaN_zero

theorem positivePart_nonneg {number : Float32} : 0 ≤ positivePart number := by
  rw [positivePart]
  split
  · rename_i positive
    exact le_of_lt positive
  · exact le_refl isNaN_zero

section Clamp

variable {number low : Float32} (present : number.isNaN = false)
  (presentLow : low.isNaN = false)

include present presentLow

/-- The number as it is raised first, before it is lowered. -/
theorem exists_raised (high : Float32) : ∃ raised : Float32, raised.isNaN = false ∧ low ≤ raised ∧
    clamp number low high = if high < raised then high else raised := by
  refine ⟨if number < low then low else number, ?_, ?_, rfl⟩
  · split
    · exact presentLow
    · exact present
  · split
    · exact le_refl presentLow
    · rename_i notBelow
      exact le_of_not_lt presentLow present notBelow

theorem le_clamp {high : Float32} (ordered : low ≤ high) : low ≤ clamp number low high := by
  obtain ⟨raised, _, above, same⟩ := exists_raised present presentLow high
  rw [same]
  split
  · exact ordered
  · exact above

variable {high : Float32} (presentHigh : high.isNaN = false)

include presentHigh

theorem isNaN_clamp : (clamp number low high).isNaN = false := by
  obtain ⟨raised, presentRaised, _, same⟩ := exists_raised present presentLow high
  rw [same]
  split
  · exact presentHigh
  · exact presentRaised

theorem clamp_le : clamp number low high ≤ high := by
  obtain ⟨raised, presentRaised, _, same⟩ := exists_raised present presentLow high
  rw [same]
  split
  · exact le_refl presentHigh
  · rename_i notAbove
    exact le_of_not_lt presentRaised presentHigh notAbove

end Clamp

/-! ## Differences -/

theorem isNaN_packComponents {sign : UnpackedFloat.Sign} {exponent : BitVec 8}
    {mantissa : BitVec 23} (small : exponent ≠ -1#8) :
    (UnpackedFloat.unpack .binary32
      (UnpackedFloat.packComponents .binary32 sign exponent mantissa)).isNaN = false := by
  rw [UnpackedFloat.unpack]
  simp only [UnpackedFloat.unpackExponent_packComponents]
  rw [if_neg small]
  split
  · split <;> rfl
  · rfl

/-- Only not-a-number is packed as not-a-number. -/
theorem isNaN_pack {number : UnpackedFloat} (present : number ≠ .notANumber) :
    (Float32.Model.pack number).isNaN = false := by
  have infinite (sign : UnpackedFloat.Sign) : (UnpackedFloat.unpack .binary32
      (UnpackedFloat.packedInfinity .binary32 sign)).isNaN = false := by
    cases sign <;> decide
  change (UnpackedFloat.unpack .binary32 (number.pack .binary32)).isNaN = false
  cases number with
  | notANumber => exact absurd rfl present
  | infinity sign => exact infinite sign
  | zero sign => cases sign <;> decide
  | finite sign mantissa exponent positive =>
    simp only [UnpackedFloat.pack]
    split
    · exact infinite sign
    · -- an exponent that would fill its field has become infinity before
      rename_i small
      split
      · apply isNaN_packComponents
        intro full
        have value := congrArg BitVec.toNat full
        change _ % 256 = 255 at value
        change ¬256 ≤ _ + 1 at small
        omega
      · exact isNaN_packComponents (by decide)

theorem round_ne_notANumber {sign : UnpackedFloat.Sign} {mantissa : ℕ} {exponent : ℤ} :
    UnpackedFloat.round .binary32 sign mantissa exponent ≠ .notANumber := by
  intro rounded
  simp only [UnpackedFloat.round, UnpackedFloat.roundWithAccuracy] at rounded
  split at rounded <;> cases rounded

theorem normalize_ne_notANumber {mantissa exponent : ℤ} {sign : UnpackedFloat.Sign} :
    UnpackedFloat.normalize .binary32 mantissa exponent sign ≠ .notANumber := by
  intro normal
  rw [UnpackedFloat.normalize] at normal
  split at normal
  · exact round_ne_notANumber normal
  · cases normal
  · exact round_ne_notANumber normal

theorem isNaN_of_isFinite {number : Float32} (finite : number.isFinite = true) :
    number.isNaN = false := by
  change number.toModel.unpack.isFinite = true at finite
  change number.toModel.unpack.isNaN = false
  cases unpacked : number.toModel.unpack with
  | notANumber =>
    rw [unpacked] at finite
    cases finite
  | infinity | zero | finite => rfl

theorem isNaN_sub (present : first.isNaN = false) (finite : second.isFinite = true) :
    (first - second).isNaN = false := by
  change first.toModel.unpack.isNaN = false at present
  change second.toModel.unpack.isFinite = true at finite
  apply isNaN_pack
  generalize first.toModel.unpack = x at present
  generalize second.toModel.unpack = y at finite
  intro difference
  -- only infinity less infinity is not a number
  cases y with
  | notANumber | infinity _ => cases finite
  | zero sign =>
    cases x with
    | notANumber => cases present
    | infinity _ | finite _ _ _ _ => cases difference
    | zero _ =>
      simp only [UnpackedFloat.sub] at difference
      split at difference <;> cases difference
  | finite sign mantissa exponent positive =>
    cases x with
    | notANumber => cases present
    | infinity _ | zero _ => cases difference
    | finite _ _ _ _ => exact normalize_ne_notANumber difference

/-! ## Nearness -/

section Near

variable {first second : UnpackedFloat}

theorem sub_self_unpacked (finite : first.isFinite = true) :
    UnpackedFloat.sub .binary32 first first = .zero .positive := by
  cases first with
  | notANumber | infinity _ => cases finite
  | zero sign => cases sign <;> rfl
  | finite sign mantissa exponent positive => simp [UnpackedFloat.sub, UnpackedFloat.normalize]

/-- What is left once a number is taken off that is not finite is not finite either. -/
theorem sub_of_not_finite (first : UnpackedFloat) (infinite : second.isFinite = false) :
    UnpackedFloat.sub .binary32 first second = .notANumber ∨
      ∃ sign, UnpackedFloat.sub .binary32 first second = .infinity sign := by
  cases second with
  | zero | finite => cases infinite
  | notANumber => cases first <;> exact Or.inl rfl
  | infinity sign =>
    cases first with
    | notANumber => exact Or.inl rfl
    | zero | finite => exact Or.inr ⟨_, rfl⟩
    | infinity other =>
      simp only [UnpackedFloat.sub]
      split
      · exact Or.inr ⟨other, rfl⟩
      · exact Or.inl rfl

end Near

theorem sub_eq_pack (first second : Float32) : first - second = Float32.ofModel
    (.pack (UnpackedFloat.sub .binary32 first.toModel.unpack second.toModel.unpack)) := rfl

theorem near_self {number : Float32} (finite : number.isFinite = true) :
    near number number = true := by
  have finite' : number.toModel.unpack.isFinite = true := finite
  rw [near, sub_eq_pack, sub_self_unpacked finite']
  decide +kernel

/-- No number, not even itself, is near one that is not finite. -/
theorem near_of_not_finite {number other : Float32} (infinite : other.isFinite = false) :
    near number other = false := by
  have infinite' : other.toModel.unpack.isFinite = false := infinite
  rw [near, sub_eq_pack]
  rcases sub_of_not_finite number.toModel.unpack infinite' with same | ⟨sign, same⟩
  · rw [same]
    decide +kernel
  · rw [same]
    cases sign <;> decide +kernel

end Roleplay.Single
