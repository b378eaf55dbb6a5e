import Roleplay.Proofs.Decimal.Notation
import Roleplay.Proofs.Markup.Document

/-! # The grammar of event tags

What may stand between the brackets of an event tag, as a grammar, and that the reader accepts just
this grammar and gives what the derivation stands for.

* `EventTag.IsWritten` is the grammar of the tags, built on words in any case, blanks, assignment
  signs and numbers;
* `exists_isWritten_of_takeTag?` says that what is read off the front of a text is in the grammar;
* `EventTag.IsWritten.takeTag?_append` says that whatever is in the grammar is read off the front,
  if only blanks follow: no alternative that is tried before can take it;
* `EventTag.read?_eq_some_iff` says both of the whole content of a tag.
-/

namespace Roleplay.Markup

open Roleplay.Text Roleplay.Decimal

/-! ## The grammar -/

/-- The keyword, in any ASCII case. -/
def IsWord (keyword : String) (word : List Char) : Prop :=
  word.map lowercase = keyword.toList.map lowercase

/-- Spaces and tabs, or nothing. -/
def IsBlanks (text : List Char) : Prop := ∀ c ∈ text, c = ' ' ∨ c = '\t'

/-- An equals sign with optional blanks around it. -/
inductive IsAssignment : List Char → Prop
  | mk {before after : List Char} : IsBlanks before → IsBlanks after →
      IsAssignment (before ++ '=' :: after)

/-- A number: a numeral, or the name of a special number. -/
inductive IsNumber : List Char → Float32 → Prop
  | numeral {number : List Char} {numeral : Numeral} : IsNumeral number numeral →
      IsNumber number numeral.value
  | notANumber {word : List Char} : IsWord "nan" word → IsNumber word Single.notANumber
  | infinity {word : List Char} : IsWord "infinity" word → IsNumber word Single.infinity
  | inf {word : List Char} : IsWord "inf" word → IsNumber word Single.infinity

/-- How a tag may be written. -/
inductive EventTag.IsWritten : EventTag → List Char → Prop
  | instruction {digits : List Char} : IsDigits digits → digits ≠ [] →
      digitsValue digits < UInt64.size → IsWritten (.instruction (digitsValue digits)) digits
  | speed {word sign number : List Char} {factor : Float32} : IsWord "speed" word →
      IsAssignment sign → IsNumber number factor →
      IsWritten (.speed factor) (word ++ sign ++ number)
  | pause {word sign number : List Char} {seconds : Float32} : IsWord "pause" word →
      IsAssignment sign → IsNumber number seconds →
      IsWritten (.pause seconds) (word ++ sign ++ number)
  /-- Alone, the keyword turns automatic advance on. -/
  | auto {word : List Char} : IsWord "auto" word → IsWritten (.auto true) word
  | autoAssigned {word sign truth : List Char} (on : Bool) : IsWord "auto" word →
      IsAssignment sign → IsWord (if on then "true" else "false") truth →
      IsWritten (.auto on) (word ++ sign ++ truth)
  | newLine {word : List Char} : IsWord "br" word → IsWritten .newLine word

/-! ## Words -/

variable {keyword other : String} {word text rest : List Char}

theorem isWord_of_dropKeyword? (found : dropKeyword? keyword.toList text = some rest) :
    ∃ word, text = word ++ rest ∧ IsWord keyword word :=
  dropKeyword?_inversion found

/-- A keyword whose first letters stand there in some case is read on behind them. -/
theorem dropKeyword?_of_map_eq {letters : List Char}
    (same : word.map lowercase = letters.map lowercase) (more rest : List Char) :
    dropKeyword? (letters ++ more) (word ++ rest) = dropKeyword? more rest := by
  induction letters generalizing word with
  | nil => rw [List.map_eq_nil_iff.1 same, List.nil_append, List.nil_append]
  | cons letter letters inductionHypothesis =>
    obtain ⟨c, word, rfl, first, others⟩ := List.map_eq_cons_iff.1 same
    rw [List.cons_append, List.cons_append, dropKeyword?, if_pos first.symm,
      inductionHypothesis others]

theorem IsWord.dropKeyword?_append (isWord : IsWord keyword word) (rest : List Char) :
    dropKeyword? keyword.toList (word ++ rest) = some rest := by
  have whole := dropKeyword?_of_map_eq isWord [] rest
  rwa [List.append_nil] at whole

/-- The first letter of a keyword, in lower case. -/
def initial (keyword : String) : Option Char := keyword.toList.head?.map lowercase

theorem IsWord.exists_cons {holds : Char → Bool} (isWord : IsWord keyword word)
    (first : (initial keyword).any holds = true) :
    ∃ c others, word = c :: others ∧ holds (lowercase c) = true := by
  have same : word.head?.map lowercase = initial keyword := by
    rw [initial, ← List.head?_map, ← List.head?_map, isWord]
  rw [← same, Option.any_map] at first
  obtain ⟨c, begins, held⟩ := (Option.any_eq_true _ _).1 first
  obtain ⟨others, rfl⟩ := List.head?_eq_some_iff.1 begins
  exact ⟨c, others, rfl, held⟩

/-- Words that begin with different letters are not taken for each other. -/
theorem IsWord.dropKeyword?_eq_none (isWord : IsWord other word) (keyword : String)
    (differ : (initial other).any (fun c => (initial keyword).any fun d => c ≠ d) = true)
    (rest : List Char) : dropKeyword? keyword.toList (word ++ rest) = none := by
  obtain ⟨c, others, rfl, differs⟩ := isWord.exists_cons differ
  obtain ⟨d, first, distinct⟩ := (Option.any_eq_true _ _).1 differs
  obtain ⟨letter, begins, rfl⟩ := Option.map_eq_some_iff.1 first
  obtain ⟨letters, same⟩ := List.head?_eq_some_iff.1 begins
  rw [same, List.cons_append, dropKeyword?,
    if_neg fun equal => of_decide_eq_true distinct equal.symm]

/-- Letters are neither blank, nor do they belong to a numeral or its sign. -/
theorem ne_of_isLower {c : Char} (lower : (lowercase c).isLower = true) :
    c.isDigit = false ∧ c ≠ '.' ∧ c ≠ '+' ∧ c ≠ '-' ∧ c ≠ ' ' ∧ c ≠ '\t' := by
  refine ⟨?_, ?_, ?_, ?_, ?_, ?_⟩
  · rw [Bool.eq_false_iff]
    intro digit
    rw [lowercase_of_isDigit digit] at lower
    have low : 'a'.val ≤ c.val := of_decide_eq_true (Bool.and_eq_true_iff.1 lower).1
    have high : c.val ≤ '9'.val := of_decide_eq_true (Bool.and_eq_true_iff.1 digit).2
    exact absurd (UInt32.le_trans low high) (by decide)
  all_goals
    rintro rfl
    exact absurd lower (by decide)

/-! ## Blanks and assignment signs -/

theorem isSpace_iff {c : Char} : isSpace c = true ↔ c = ' ' ∨ c = '\t' := by
  simp [isSpace]

theorem exists_isBlanks_of_skipSpace (text : List Char) :
    ∃ blanks, text = blanks ++ skipSpace text ∧ IsBlanks blanks :=
  ⟨text.takeWhile isSpace, List.takeWhile_append_dropWhile.symm,
    fun _ member => isSpace_iff.1 (List.mem_takeWhile_imp member)⟩

theorem IsBlanks.skipSpace_append {blanks : List Char} (isBlanks : IsBlanks blanks)
    (stops : Begins (fun c => ¬(c = ' ' ∨ c = '\t')) rest) : skipSpace (blanks ++ rest) = rest := by
  rw [skipSpace, List.dropWhile_append_of_pos fun c member => isSpace_iff.2 (isBlanks c member)]
  cases rest with
  | nil => rfl
  | cons c rest => exact List.dropWhile_cons_of_neg (mt isSpace_iff.1 (begins_cons.1 stops))

theorem IsBlanks.skipSpace_eq_nil {blanks : List Char} (isBlanks : IsBlanks blanks) :
    skipSpace blanks = [] := by
  simpa using isBlanks.skipSpace_append begins_nil

theorem exists_isAssignment_of_dropAssignment? (found : dropAssignment? text = some rest) :
    ∃ sign, text = sign ++ rest ∧ IsAssignment sign := by
  obtain ⟨before, split, isBefore⟩ := exists_isBlanks_of_skipSpace text
  unfold dropAssignment? at found
  split at found
  next behind equals =>
    cases found
    obtain ⟨after, splitAfter, isAfter⟩ := exists_isBlanks_of_skipSpace behind
    refine ⟨_, ?_, .mk isBefore isAfter⟩
    rw [List.append_assoc, List.cons_append, ← splitAfter, ← equals, ← split]
  next => cases found

theorem IsAssignment.dropAssignment?_append {sign : List Char} (isAssignment : IsAssignment sign)
    (stops : Begins (fun c => ¬(c = ' ' ∨ c = '\t')) rest) :
    dropAssignment? (sign ++ rest) = some rest := by
  obtain ⟨isBefore, isAfter⟩ := isAssignment
  have equals : ∀ text, Begins (fun c => ¬(c = ' ' ∨ c = '\t')) ('=' :: text) :=
    fun text => begins_cons.2 (by decide)
  rw [List.append_assoc, List.cons_append, dropAssignment?, isBefore.skipSpace_append (equals _)]
  exact congrArg some (isAfter.skipSpace_append stops)

/-- Blanks alone hold no assignment sign. -/
theorem IsBlanks.dropAssignment?_eq_none {blanks : List Char} (isBlanks : IsBlanks blanks) :
    dropAssignment? blanks = none := by
  rw [dropAssignment?, isBlanks.skipSpace_eq_nil]

/-! ## Numbers -/

theorem exists_isNumber_of_takeNumber? {number : Float32}
    (found : takeNumber? text = some (number, rest)) :
    ∃ written, text = written ++ rest ∧ IsNumber written number := by
  unfold takeNumber? at found
  dsimp only at found
  split at found
  next =>
    obtain ⟨⟨numeral, left⟩, scanned, same⟩ := Option.map_eq_some_iff.1 found
    cases same
    obtain ⟨written, split, isNumeral⟩ := exists_isNumeral_of_scan scanned
    exact ⟨written, split, .numeral isNumeral⟩
  next =>
    split at found
    next dropped =>
      cases found
      obtain ⟨word, split, isWord⟩ := isWord_of_dropKeyword? dropped
      exact ⟨word, split, .notANumber isWord⟩
    next =>
      split at found
      next dropped =>
        cases found
        obtain ⟨word, split, isWord⟩ := isWord_of_dropKeyword? dropped
        exact ⟨word, split, .infinity isWord⟩
      next =>
        obtain ⟨left, dropped, same⟩ := Option.map_eq_some_iff.1 found
        cases same
        obtain ⟨word, split, isWord⟩ := isWord_of_dropKeyword? dropped
        exact ⟨word, split, .inf isWord⟩

/-- A word is not taken for a numeral. -/
theorem IsWord.takeMantissa?_eq_none (isWord : IsWord keyword word)
    (lower : (initial keyword).any Char.isLower = true) (rest : List Char) :
    takeMantissa? (takeSign (word ++ rest)).2 = none := by
  obtain ⟨c, others, rfl, isLower⟩ := isWord.exists_cons lower
  obtain ⟨noDigit, noPoint, noPlus, noMinus, -⟩ := ne_of_isLower isLower
  rw [List.cons_append, takeSign_of_begins (begins_cons.2 ⟨noPlus, noMinus⟩)]
  have digits : takeDigits (c :: (others ++ rest)) = ([], c :: (others ++ rest)) :=
    takeDigits_of_begins (begins_cons.2 noDigit)
  rw [takeMantissa?, digits]
  dsimp only
  split
  next pointed => exact absurd (List.cons.inj pointed).1 noPoint
  next => rfl

/-- Where no numeral can be read, the names of the special numbers are tried. -/
theorem takeNumber?_of_takeMantissa?_eq_none
    (mantissa : takeMantissa? (takeSign text).2 = none) :
    takeNumber? text =
      ((dropKeyword? "nan".toList text).map fun rest => (Single.notANumber, rest)).or
        (((dropKeyword? "infinity".toList text).map fun rest => (Single.infinity, rest)).or
          ((dropKeyword? "inf".toList text).map fun rest => (Single.infinity, rest))) := by
  rw [takeNumber?]
  dsimp only
  rw [if_neg (by simp [mantissa])]
  cases dropKeyword? "nan".toList text with
  | some rest => rfl
  | none => cases dropKeyword? "infinity".toList text <;> rfl

/-- A blank is no letter. -/
theorem IsBlanks.dropKeyword?_eq_none {blanks : List Char} (isBlanks : IsBlanks blanks)
    (lower : (initial keyword).any Char.isLower = true) :
    dropKeyword? keyword.toList blanks = none := by
  obtain ⟨d, first, isLower⟩ := (Option.any_eq_true _ _).1 lower
  obtain ⟨letter, begins, rfl⟩ := Option.map_eq_some_iff.1 first
  obtain ⟨letters, same⟩ := List.head?_eq_some_iff.1 begins
  rw [same]
  cases blanks with
  | nil => rfl
  | cons c blanks =>
    rw [dropKeyword?, if_neg]
    intro equal
    rw [equal] at isLower
    have blank := isBlanks c List.mem_cons_self
    have notBlank := (ne_of_isLower isLower).2.2.2.2
    exact blank.elim notBlank.1 notBlank.2

theorem IsNumber.takeNumber?_append {written : List Char} {number : Float32}
    (isNumber : IsNumber written number) (isBlanks : IsBlanks rest) :
    takeNumber? (written ++ rest) = some (number, rest) := by
  cases isNumber with
  | numeral isNumeral =>
    have stops : Begins EndsNumeral rest := begins_of_forall fun c member => by
      obtain rfl | rfl := isBlanks c member <;> exact ⟨rfl, by decide, by decide, by decide⟩
    have scanned := isNumeral.scan_append stops
    have mantissa : (takeMantissa? (takeSign (written ++ rest)).2).isSome = true := by
      obtain ⟨found, taken, -⟩ := Option.bind_eq_some_iff.1 scanned
      exact Option.isSome_of_eq_some taken
    rw [takeNumber?]
    dsimp only
    rw [if_pos mantissa, scanned]
    rfl
  | notANumber isWord =>
    have mantissa := isWord.takeMantissa?_eq_none (by decide) rest
    rw [takeNumber?_of_takeMantissa?_eq_none mantissa, isWord.dropKeyword?_append]
    rfl
  | infinity isWord =>
    have mantissa := isWord.takeMantissa?_eq_none (by decide) rest
    have notNan := isWord.dropKeyword?_eq_none "nan" (by decide) rest
    rw [takeNumber?_of_takeMantissa?_eq_none mantissa, notNan, isWord.dropKeyword?_append]
    rfl
  | inf isWord =>
    have mantissa := isWord.takeMantissa?_eq_none (by decide) rest
    have notNan := isWord.dropKeyword?_eq_none "nan" (by decide) rest
    -- the longer name would have to go on in the blanks
    have notInfinity : dropKeyword? "infinity".toList (written ++ rest) = none := by
      have longer := dropKeyword?_of_map_eq isWord "inity".toList rest
      exact longer.trans (isBlanks.dropKeyword?_eq_none (by decide))
    rw [takeNumber?_of_takeMantissa?_eq_none mantissa, notNan, notInfinity,
      isWord.dropKeyword?_append]
    rfl

/-- No word begins with a blank. -/
theorem IsWord.begins (isWord : IsWord keyword word)
    (lower : (initial keyword).any Char.isLower = true) (rest : List Char) :
    Begins (fun c => ¬(c = ' ' ∨ c = '\t')) (word ++ rest) := by
  obtain ⟨c, others, rfl, isLower⟩ := isWord.exists_cons lower
  have notBlank := (ne_of_isLower isLower).2.2.2.2
  exact begins_cons.2 fun blank => blank.elim notBlank.1 notBlank.2

/-- No number begins with a blank. -/
theorem IsNumber.begins {written : List Char} {number : Float32}
    (isNumber : IsNumber written number) (rest : List Char) :
    Begins (fun c => ¬(c = ' ' ∨ c = '\t')) (written ++ rest) := by
  cases isNumber with
  | numeral isNumeral =>
    obtain ⟨isSign, isMantissa, -⟩ := isNumeral
    cases isSign with
    | none =>
      rw [List.nil_append, List.append_assoc]
      refine (isMantissa.begins _).2.imp fun c first => ?_
      rintro (rfl | rfl) <;> exact absurd first (by decide)
    | plus | minus => exact begins_cons.2 (by decide)
  | notANumber isWord | infinity isWord | inf isWord => exact isWord.begins (by decide) rest

/-! ## Tags -/

theorem exists_isWord_of_takeTruth? {on : Bool} (found : takeTruth? text = some (on, rest)) :
    ∃ truth, text = truth ++ rest ∧ IsWord (if on then "true" else "false") truth := by
  unfold takeTruth? at found
  split at found
  next dropped =>
    cases found
    exact isWord_of_dropKeyword? dropped
  next =>
    obtain ⟨left, dropped, same⟩ := Option.map_eq_some_iff.1 found
    cases same
    exact isWord_of_dropKeyword? dropped

theorem exists_isNumber_of_takeAssigned? {make : Float32 → EventTag} {tag : EventTag}
    (found : takeAssigned? keyword make text = some (tag, rest)) :
    ∃ word sign written number, text = word ++ sign ++ written ++ rest ∧ IsWord keyword word ∧
      IsAssignment sign ∧ IsNumber written number ∧ tag = make number := by
  obtain ⟨afterWord, dropped, found⟩ := Option.bind_eq_some_iff.1 found
  obtain ⟨afterSign, assigned, found⟩ := Option.bind_eq_some_iff.1 found
  obtain ⟨⟨number, left⟩, taken, same⟩ := Option.bind_eq_some_iff.1 found
  cases same
  obtain ⟨word, rfl, isWord⟩ := isWord_of_dropKeyword? dropped
  obtain ⟨sign, rfl, isAssignment⟩ := exists_isAssignment_of_dropAssignment? assigned
  obtain ⟨written, rfl, isNumber⟩ := exists_isNumber_of_takeNumber? taken
  exact ⟨word, sign, written, number, by simp, isWord, isAssignment, isNumber, rfl⟩

theorem exists_isWritten_of_takeAuto? {tag : EventTag}
    (found : takeAuto? text = some (tag, rest)) :
    ∃ written, text = written ++ rest ∧ tag.IsWritten written := by
  obtain ⟨afterWord, dropped, same⟩ := Option.map_eq_some_iff.1 found
  obtain ⟨word, rfl, isWord⟩ := isWord_of_dropKeyword? dropped
  split at same
  next on left assigned =>
    cases same
    obtain ⟨afterSign, sign, truth⟩ := Option.bind_eq_some_iff.1 assigned
    obtain ⟨sign, rfl, isAssignment⟩ := exists_isAssignment_of_dropAssignment? sign
    obtain ⟨truth, rfl, isTruth⟩ := exists_isWord_of_takeTruth? truth
    exact ⟨_, by simp, .autoAssigned on isWord isAssignment isTruth⟩
  next =>
    cases same
    exact ⟨word, rfl, .auto isWord⟩

/-- Whatever is read as a tag is written as one. -/
theorem exists_isWritten_of_takeTag? {tag : EventTag} (found : takeTag? text = some (tag, rest)) :
    ∃ written, text = written ++ rest ∧ tag.IsWritten written := by
  simp only [takeTag?, Option.orElse_eq_orElse, Option.orElse_eq_or, Option.or_eq_some_iff]
    at found
  -- one of the readers has taken it; that those tried before have not does not matter here
  rcases found with place | ⟨-, speed | ⟨-, pause | ⟨-, auto | ⟨-, newLine⟩⟩⟩⟩
  · unfold takePlace? at place
    dsimp only at place
    split at place
    next => cases place
    next some =>
      split at place
      next fits =>
        cases place
        exact ⟨_, takeDigits_append.symm, .instruction isDigits_takeDigits (by simpa using some)
          fits⟩
      next => cases place
  · obtain ⟨word, sign, number, factor, rfl, isWord, isAssignment, isNumber, rfl⟩ :=
      exists_isNumber_of_takeAssigned? speed
    exact ⟨_, rfl, .speed isWord isAssignment isNumber⟩
  · obtain ⟨word, sign, number, seconds, rfl, isWord, isAssignment, isNumber, rfl⟩ :=
      exists_isNumber_of_takeAssigned? pause
    exact ⟨_, rfl, .pause isWord isAssignment isNumber⟩
  · exact exists_isWritten_of_takeAuto? auto
  · obtain ⟨left, dropped, same⟩ := Option.map_eq_some_iff.1 newLine
    cases same
    obtain ⟨word, rfl, isWord⟩ := isWord_of_dropKeyword? dropped
    exact ⟨word, rfl, .newLine isWord⟩

/-! ## Every written tag is read -/

theorem takeTag?_eq (text : List Char) :
    takeTag? text = (takePlace? text).or ((takeAssigned? "speed" .speed text).or
      ((takeAssigned? "pause" .pause text).or ((takeAuto? text).or (takeNewLine? text)))) := by
  simp only [takeTag?, Option.orElse_eq_orElse, Option.orElse_eq_or]

section Reading

variable (isBlanks : IsBlanks rest)

/-- No word is taken for a place. -/
theorem IsWord.takePlace?_eq_none (isWord : IsWord keyword word)
    (lower : (initial keyword).any Char.isLower = true) (rest : List Char) :
    takePlace? (word ++ rest) = none := by
  obtain ⟨c, others, rfl, isLower⟩ := isWord.exists_cons lower
  have digits : takeDigits (c :: (others ++ rest)) = ([], c :: (others ++ rest)) :=
    takeDigits_of_begins (begins_cons.2 (ne_of_isLower isLower).1)
  rw [List.cons_append, takePlace?, digits]
  rfl

/-- An assignment with another keyword is not taken for one with this keyword. -/
theorem IsWord.takeAssigned?_eq_none {make : Float32 → EventTag} (isWord : IsWord other word)
    (keyword : String)
    (differ : (initial other).any (fun c => (initial keyword).any fun d => c ≠ d) = true)
    (rest : List Char) : takeAssigned? keyword make (word ++ rest) = none := by
  rw [takeAssigned?, isWord.dropKeyword?_eq_none keyword differ rest]
  rfl

theorem IsWord.takeAuto?_eq_none (isWord : IsWord other word)
    (differ : (initial other).any (fun c => (initial "auto").any fun d => c ≠ d) = true)
    (rest : List Char) : takeAuto? (word ++ rest) = none := by
  rw [takeAuto?, isWord.dropKeyword?_eq_none "auto" differ rest]
  rfl

theorem IsWord.takeTruth?_append {on : Bool} {truth : List Char}
    (isTruth : IsWord (if on then "true" else "false") truth) (rest : List Char) :
    takeTruth? (truth ++ rest) = some (on, rest) := by
  cases on with
  | true =>
    have isWord : IsWord "true" truth := isTruth
    rw [takeTruth?, isWord.dropKeyword?_append]
  | false =>
    have isWord : IsWord "false" truth := isTruth
    rw [takeTruth?, isWord.dropKeyword?_eq_none "true" (by decide), isWord.dropKeyword?_append]
    rfl

include isBlanks

theorem IsWord.takeAssigned?_append {make : Float32 → EventTag} {sign written : List Char}
    {number : Float32} (isWord : IsWord keyword word) (isAssignment : IsAssignment sign)
    (isNumber : IsNumber written number) :
    takeAssigned? keyword make (word ++ sign ++ written ++ rest) = some (make number, rest) := by
  rw [List.append_assoc, List.append_assoc, takeAssigned?, isWord.dropKeyword?_append]
  simp only [Option.bind_eq_bind, Option.bind_some]
  rw [isAssignment.dropAssignment?_append (isNumber.begins rest)]
  simp only [Option.bind_some, isNumber.takeNumber?_append isBlanks]

/-- Whatever is written as a tag is read as one: no kind of tag that is tried before takes it. -/
theorem EventTag.IsWritten.takeTag?_append {tag : EventTag} {written : List Char}
    (isWritten : tag.IsWritten written) : takeTag? (written ++ rest) = some (tag, rest) := by
  rw [takeTag?_eq]
  cases isWritten with
  | instruction isDigits some fits =>
    have stops : Begins (fun c => c.isDigit = false) rest := begins_of_forall fun c member => by
      obtain rfl | rfl := isBlanks c member <;> rfl
    have place : takePlace? (written ++ rest) =
        Option.some (.instruction (digitsValue written), rest) := by
      rw [takePlace?, takeDigits_isDigits_append isDigits stops]
      exact (if_neg (by simpa using some)).trans (if_pos fits)
    rw [place, Option.some_or]
  | speed isWord isAssignment isNumber =>
    rw [isWord.takeAssigned?_append isBlanks isAssignment isNumber, List.append_assoc,
      List.append_assoc, isWord.takePlace?_eq_none (by decide), Option.none_or, Option.some_or]
  | pause isWord isAssignment isNumber =>
    rw [isWord.takeAssigned?_append isBlanks isAssignment isNumber, List.append_assoc,
      List.append_assoc, isWord.takePlace?_eq_none (by decide),
      isWord.takeAssigned?_eq_none "speed" (by decide),
      Option.none_or, Option.none_or, Option.some_or]
  | auto isWord =>
    -- only blanks follow, which make no assignment
    have alone : takeAuto? (written ++ rest) = some (.auto true, rest) := by
      rw [takeAuto?, isWord.dropKeyword?_append, Option.map_some,
        isBlanks.dropAssignment?_eq_none]
      rfl
    rw [alone, isWord.takePlace?_eq_none (by decide),
      isWord.takeAssigned?_eq_none "speed" (by decide),
      isWord.takeAssigned?_eq_none "pause" (by decide),
      Option.none_or, Option.none_or, Option.none_or, Option.some_or]
  | @autoAssigned word sign truth on isWord isAssignment isTruth =>
    -- the blanks behind the sign end where the truth value begins
    have notBlank : Begins (fun c => ¬(c = ' ' ∨ c = '\t')) (truth ++ rest) := by
      cases on <;> exact IsWord.begins isTruth (by decide) rest
    have assigned : takeAuto? (word ++ (sign ++ (truth ++ rest))) = some (.auto on, rest) := by
      rw [takeAuto?, isWord.dropKeyword?_append, Option.map_some,
        isAssignment.dropAssignment?_append notBlank, Option.bind_some,
        IsWord.takeTruth?_append isTruth]
    rw [List.append_assoc, List.append_assoc, assigned, isWord.takePlace?_eq_none (by decide),
      isWord.takeAssigned?_eq_none "speed" (by decide),
      isWord.takeAssigned?_eq_none "pause" (by decide),
      Option.none_or, Option.none_or, Option.none_or, Option.some_or]
  | newLine isWord =>
    rw [takeNewLine?, isWord.dropKeyword?_append, isWord.takePlace?_eq_none (by decide),
      isWord.takeAssigned?_eq_none "speed" (by decide),
      isWord.takeAssigned?_eq_none "pause" (by decide),
      isWord.takeAuto?_eq_none (by decide)]
    rfl

end Reading

/-- No tag begins with a blank. -/
theorem EventTag.IsWritten.begins {tag : EventTag} {written : List Char}
    (isWritten : tag.IsWritten written) (rest : List Char) :
    Begins (fun c => ¬(c = ' ' ∨ c = '\t')) (written ++ rest) := by
  cases isWritten with
  | instruction isDigits some =>
    refine Begins.append (begins_of_forall fun c member => ?_) fun none => absurd none some
    rintro (rfl | rfl) <;> exact absurd (isDigits _ member) (by decide)
  | speed isWord | pause isWord | autoAssigned _ isWord =>
    rw [List.append_assoc, List.append_assoc]
    exact isWord.begins (by decide) _
  | auto isWord | newLine isWord => exact isWord.begins (by decide) rest

/-- The content of a tag is read just if, between optional blanks, it is written as the grammar
says, and what is read is what the derivation stands for. -/
theorem EventTag.read?_eq_some_iff {content : List Char} {tag : EventTag} :
    EventTag.read? content = some tag ↔
      ∃ before written after, content = before ++ written ++ after ∧ IsBlanks before ∧
        IsBlanks after ∧ tag.IsWritten written := by
  constructor
  · intro read
    obtain ⟨before, split, isBefore⟩ := exists_isBlanks_of_skipSpace content
    unfold EventTag.read? at read
    split at read
    next tag rest found =>
      split at read
      next none =>
        cases read
        obtain ⟨written, joined, isWritten⟩ := exists_isWritten_of_takeTag? found
        obtain ⟨after, whole, isAfter⟩ := exists_isBlanks_of_skipSpace rest
        rw [List.isEmpty_iff.1 none, List.append_nil] at whole
        refine ⟨before, written, after, ?_, isBefore, isAfter, isWritten⟩
        rw [List.append_assoc, ← whole, ← joined, ← split]
      next => cases read
    next => cases read
  · rintro ⟨before, written, after, rfl, isBefore, isAfter, isWritten⟩
    rw [EventTag.read?, List.append_assoc, isBefore.skipSpace_append (isWritten.begins after),
      isWritten.takeTag?_append isAfter]
    dsimp only
    rw [isAfter.skipSpace_eq_nil]
    rfl

example : EventTag.read? "AUTO = True\t".toList = some (.auto true) ∧
    EventTag.read? "auto=truex".toList = none := by
  decide +kernel

end Roleplay.Markup
