import Mathlib.Data.List.TakeWhile
import Roleplay.Decimal.Numeral

/-! # The notation of numerals

How a numeral is written: an optional sign, digits with an optional point, and an optional exponent.
Each part of the notation is given by the texts it may be, and the reader of the part takes just
such a text off the front, provided that what follows cannot go on with it.

* `IsSign`, `IsMantissa` and `IsExponent` are the parts, each with what it stands for, and
  `IsNumeral` is the whole;
* `Begins` says what the first character is like, if there is one;
* `exists_isNumeral_of_scan` and `IsNumeral.scan_append` say that scanning reads this notation.
-/

namespace Roleplay.Decimal

open Roleplay.Text

/-! ## The notation -/

def IsDigits (digits : List Char) : Prop := ∀ c ∈ digits, c.isDigit = true

/-- An optional sign, and whether it is a minus. -/
inductive IsSign : List Char → Bool → Prop
  | none : IsSign [] false
  | plus : IsSign ['+'] false
  | minus : IsSign ['-'] true

/-- Digits with an optional point, and the digits before and after it; there is at least one. -/
inductive IsMantissa : List Char → List Char → List Char → Prop
  | whole {whole : List Char} : IsDigits whole → whole ≠ [] → IsMantissa whole whole []
  | point {whole fraction : List Char} : IsDigits whole → IsDigits fraction →
      whole ++ fraction ≠ [] → IsMantissa (whole ++ '.' :: fraction) whole fraction

/-- An optional exponent; behind the letter there is at least one digit. -/
inductive IsExponent : List Char → Int → Prop
  | none : IsExponent [] 0
  | some {letter : Char} {sign digits : List Char} {negative : Bool} :
      letter = 'e' ∨ letter = 'E' → IsSign sign negative → IsDigits digits → digits ≠ [] →
      IsExponent (letter :: (sign ++ digits))
        (if negative then -(digitsValue digits : Int) else digitsValue digits)

/-- A whole numeral. -/
inductive IsNumeral : List Char → Numeral → Prop
  | mk {sign mantissa exponentPart whole fraction : List Char} {negative : Bool} {exponent : Int} :
      IsSign sign negative → IsMantissa mantissa whole fraction →
      IsExponent exponentPart exponent →
      IsNumeral (sign ++ mantissa ++ exponentPart) ⟨negative, whole, fraction, exponent⟩

/-! ## First characters -/

/-- What the first character is like, if there is one. -/
def Begins (holds : Char → Prop) (text : List Char) : Prop := ∀ c ∈ text.head?, holds c

section Begins

variable {holds other : Char → Prop} {text rest : List Char} {c : Char}

theorem begins_nil : Begins holds [] := by simp [Begins]

@[simp] theorem begins_cons : Begins holds (c :: text) ↔ holds c := by simp [Begins]

theorem Begins.imp (begins : Begins holds text) (implies : ∀ c, holds c → other c) :
    Begins other text :=
  fun c first => implies c (begins c first)

/-- In front of a text that begins in some way, only more of the kind makes the whole begin so. -/
theorem Begins.append (front : Begins holds text) (back : text = [] → Begins holds rest) :
    Begins holds (text ++ rest) := by
  cases text with
  | nil => exact back rfl
  | cons c text => exact begins_cons.2 (begins_cons.1 front)

theorem begins_of_forall (all : ∀ c ∈ text, holds c) : Begins holds text :=
  fun c first => all c (List.mem_of_mem_head? first)

end Begins

/-! ## Digits -/

variable {digits text rest : List Char}

theorem takeDigits_isDigits_append (isDigits : IsDigits digits)
    (stops : Begins (fun c => c.isDigit = false) rest) :
    takeDigits (digits ++ rest) = (digits, rest) := by
  have front : rest.takeWhile Char.isDigit = [] ∧ rest.dropWhile Char.isDigit = rest := by
    cases rest with
    | nil => exact ⟨rfl, rfl⟩
    | cons c rest =>
      have other := begins_cons.1 stops
      exact ⟨List.takeWhile_cons_of_neg (by simp [other]),
        List.dropWhile_cons_of_neg (by simp [other])⟩
  rw [takeDigits, List.takeWhile_append_of_pos isDigits, List.dropWhile_append_of_pos isDigits,
    front.1, front.2, List.append_nil]

theorem takeDigits_of_begins (noDigit : Begins (fun c => c.isDigit = false) rest) :
    takeDigits rest = ([], rest) := by
  have none : IsDigits [] := by simp [IsDigits]
  exact takeDigits_isDigits_append none noDigit

theorem isDigits_takeDigits : IsDigits (takeDigits text).1 :=
  fun _ member => List.mem_takeWhile_imp member

/-! ## Signs -/

theorem exists_isSign_of_takeSign (text : List Char) :
    ∃ sign, text = sign ++ (takeSign text).2 ∧ IsSign sign (takeSign text).1 := by
  unfold takeSign
  split
  · exact ⟨['-'], rfl, .minus⟩
  · exact ⟨['+'], rfl, .plus⟩
  · exact ⟨[], rfl, .none⟩

theorem takeSign_of_begins (unsigned : Begins (fun c => c ≠ '+' ∧ c ≠ '-') rest) :
    takeSign rest = (false, rest) := by
  unfold takeSign
  split
  · exact absurd rfl (begins_cons.1 unsigned).2
  · exact absurd rfl (begins_cons.1 unsigned).1
  · rfl

theorem IsSign.takeSign_append {sign : List Char} {negative : Bool} (isSign : IsSign sign negative)
    (unsigned : Begins (fun c => c ≠ '+' ∧ c ≠ '-') rest) :
    takeSign (sign ++ rest) = (negative, rest) := by
  cases isSign with
  | none => exact takeSign_of_begins unsigned
  | plus | minus => rfl

/-! ## Mantissas -/

section Mantissa

variable {mantissa whole fraction : List Char}

theorem exists_isMantissa_of_takeMantissa?
    (found : takeMantissa? text = some (whole, fraction, rest)) :
    ∃ mantissa, text = mantissa ++ rest ∧ IsMantissa mantissa whole fraction := by
  have split : (takeDigits text).1 ++ (takeDigits text).2 = text := takeDigits_append
  have digits : IsDigits (takeDigits text).1 := isDigits_takeDigits
  unfold takeMantissa? at found
  dsimp only at found
  split at found
  next afterPoint pointed =>
    have splitFraction : (takeDigits afterPoint).1 ++ (takeDigits afterPoint).2 = afterPoint :=
      takeDigits_append
    split at found
    next => cases found
    next some =>
      cases found
      refine ⟨_, ?_, .point digits isDigits_takeDigits ?_⟩
      · rw [List.append_assoc, List.cons_append, splitFraction, ← pointed, split]
      · simpa using some
  next =>
    split at found
    next => cases found
    next some =>
      cases found
      exact ⟨_, split.symm, .whole digits (by simpa using some)⟩

theorem IsMantissa.takeMantissa?_append (isMantissa : IsMantissa mantissa whole fraction)
    (stops : Begins (fun c => c.isDigit = false ∧ c ≠ '.') rest) :
    takeMantissa? (mantissa ++ rest) = some (whole, fraction, rest) := by
  have noDigit : Begins (fun c => c.isDigit = false) rest := stops.imp fun _ => And.left
  cases isMantissa with
  | whole isDigits some =>
    -- what follows is no point, so that the digits are all
    rw [takeMantissa?, takeDigits_isDigits_append isDigits noDigit]
    dsimp only
    split
    next => exact absurd rfl (begins_cons.1 stops).2
    next => rw [if_neg (by simpa using some)]
  | @point whole fraction isWhole isFraction some =>
    -- the digits before the point end there, those after it where the mantissa ends
    have point : Begins (fun c => c.isDigit = false) ('.' :: (fraction ++ rest)) :=
      begins_cons.2 (by decide)
    rw [List.append_assoc, List.cons_append, takeMantissa?,
      takeDigits_isDigits_append isWhole point]
    simp only [takeDigits_isDigits_append isFraction noDigit]
    exact if_neg (by simpa using some)

/-- A mantissa begins with a digit or with the point. -/
theorem IsMantissa.begins (isMantissa : IsMantissa mantissa whole fraction) (rest : List Char) :
    mantissa ≠ [] ∧ Begins (fun c => c.isDigit = true ∨ c = '.') (mantissa ++ rest) := by
  cases isMantissa with
  | whole isDigits some =>
    refine ⟨some, Begins.append (begins_of_forall fun c member => ?_) fun none => absurd none some⟩
    exact Or.inl (isDigits c member)
  | point isWhole _ _ =>
    refine ⟨by simp, ?_⟩
    rw [List.append_assoc]
    exact Begins.append (begins_of_forall fun c member => Or.inl (isWhole c member)) fun _ =>
      begins_cons.2 (Or.inr rfl)

theorem unsigned_of_isDigit_or_point {c : Char} (first : c.isDigit = true ∨ c = '.') :
    c ≠ '+' ∧ c ≠ '-' := by
  constructor <;> rintro rfl <;> exact absurd first (by decide)

end Mantissa

/-! ## Numerals -/

theorem exists_isExponent_of_takeExponent? {letter : Char} {exponent : Int}
    (isLetter : letter = 'e' ∨ letter = 'E') (found : takeExponent? text = some (exponent, rest)) :
    ∃ exponentPart, letter :: text = exponentPart ++ rest ∧ IsExponent exponentPart exponent := by
  obtain ⟨sign, split, isSign⟩ := exists_isSign_of_takeSign text
  have splitDigits : (takeDigits (takeSign text).2).1 ++ (takeDigits (takeSign text).2).2 =
      (takeSign text).2 := takeDigits_append
  unfold takeExponent? at found
  dsimp only at found
  split at found
  next => cases found
  next some =>
    cases found
    refine ⟨_, ?_, .some isLetter isSign isDigits_takeDigits (by simpa using some)⟩
    rw [List.cons_append, List.append_assoc, splitDigits, ← split]

theorem takeExponent?_append {sign : List Char} {negative : Bool} (isSign : IsSign sign negative)
    (isDigits : IsDigits digits) (some : digits ≠ [])
    (stops : Begins (fun c => c.isDigit = false) rest) :
    takeExponent? (sign ++ digits ++ rest) =
      Option.some (if negative then -(digitsValue digits : Int) else digitsValue digits, rest) := by
  have unsigned : Begins (fun c => c ≠ '+' ∧ c ≠ '-') (digits ++ rest) :=
    Begins.append (begins_of_forall fun c member =>
      unsigned_of_isDigit_or_point (Or.inl (isDigits c member))) fun none => absurd none some
  rw [List.append_assoc, takeExponent?, isSign.takeSign_append unsigned]
  dsimp only
  rw [takeDigits_isDigits_append isDigits stops]
  exact if_neg (by simpa using some)

theorem exists_isNumeral_of_scan {numeral : Numeral}
    (found : Numeral.scan text = some (numeral, rest)) :
    ∃ number, text = number ++ rest ∧ IsNumeral number numeral := by
  obtain ⟨sign, split, isSign⟩ := exists_isSign_of_takeSign text
  unfold Numeral.scan at found
  dsimp only at found
  obtain ⟨⟨whole, fraction, behind⟩, mantissaFound, exponentFound⟩ :=
    Option.bind_eq_some_iff.1 found
  obtain ⟨mantissa, splitMantissa, isMantissa⟩ :=
    exists_isMantissa_of_takeMantissa? mantissaFound
  have joined : text = sign ++ mantissa ++ behind := by
    rw [List.append_assoc, ← splitMantissa, ← split]
  dsimp only at exponentFound
  split at exponentFound
  next c afterLetter =>
    split at exponentFound
    next isLetter =>
      -- behind the letter there must be an exponent, or nothing is read at all
      obtain ⟨⟨exponent, left⟩, taken, same⟩ := Option.map_eq_some_iff.1 exponentFound
      cases same
      obtain ⟨exponentPart, splitExponent, isExponent⟩ :=
        exists_isExponent_of_takeExponent? isLetter taken
      refine ⟨_, ?_, .mk isSign isMantissa isExponent⟩
      rw [joined, splitExponent, List.append_assoc _ exponentPart]
    next =>
      cases exponentFound
      exact ⟨_, by rw [joined, List.append_nil], .mk isSign isMantissa .none⟩
  next =>
    cases exponentFound
    exact ⟨_, by simp only [joined, List.append_nil], .mk isSign isMantissa .none⟩

/-- What may follow a numeral without being read as a part of it. -/
def EndsNumeral (c : Char) : Prop := c.isDigit = false ∧ c ≠ '.' ∧ c ≠ 'e' ∧ c ≠ 'E'

theorem IsNumeral.scan_append {number : List Char} {numeral : Numeral}
    (isNumeral : IsNumeral number numeral) (stops : Begins EndsNumeral rest) :
    Numeral.scan (number ++ rest) = some (numeral, rest) := by
  obtain ⟨isSign, isMantissa, isExponent⟩ := isNumeral
  rename_i sign mantissa exponentPart whole fraction negative exponent
  -- each part begins with a character that the part before it cannot go on with
  have unsigned : Begins (fun c => c ≠ '+' ∧ c ≠ '-') (mantissa ++ (exponentPart ++ rest)) :=
    (isMantissa.begins _).2.imp fun _ => unsigned_of_isDigit_or_point
  have behind : Begins (fun c => c.isDigit = false ∧ c ≠ '.') (exponentPart ++ rest) := by
    cases isExponent with
    | none => exact stops.imp fun c ends => ⟨ends.1, ends.2.1⟩
    | some isLetter _ _ _ => obtain rfl | rfl := isLetter <;> exact begins_cons.2 (by decide)
  rw [List.append_assoc, List.append_assoc, Numeral.scan, isSign.takeSign_append unsigned]
  dsimp only
  rw [isMantissa.takeMantissa?_append behind, Option.bind_some]
  cases isExponent with
  | none =>
    cases rest with
    | nil => rfl
    | cons c rest =>
      have ends := begins_cons.1 stops
      exact if_neg fun isLetter => isLetter.elim ends.2.2.1 ends.2.2.2
  | some isLetter isSign isDigits some =>
    have taken := takeExponent?_append isSign isDigits some (stops.imp fun _ => And.left)
    simp only [List.cons_append, if_pos isLetter, taken, Option.map_some]

end Roleplay.Decimal
