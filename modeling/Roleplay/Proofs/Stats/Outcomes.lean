import Mathlib.Data.List.TakeWhile
import Roleplay.Stats.Outcome

/-! # Written outcomes come back

An outcome is written as the names of its flags with bars between them, and one hexadecimal number
for the bits that have no name.

* `Outcome.map_trim_splitBars` cuts a text at its bars again;
* `Outcome.readFlag?_hexadecimal` reads a number back;
* `Outcome.read?_text` puts them together, for every byte.
-/

namespace Roleplay

open Roleplay.Text

namespace Outcome

/-! ## Items -/

/-- A word that stands between bars: neither empty nor broken by a bar or a blank. -/
structure IsItem (word : List Char) : Prop where
  nonempty : word ≠ []
  plain : ∀ c ∈ word, c ≠ '|' ∧ isBlank c = false

instance (word : List Char) : Decidable (IsItem word) :=
  decidable_of_iff (word ≠ [] ∧ word.all (fun c => c ≠ '|' ∧ isBlank c = false) = true)
    ⟨fun ⟨nonempty, plain⟩ => ⟨nonempty, fun c member =>
        of_decide_eq_true (List.all_eq_true.1 plain c member)⟩,
      fun ⟨nonempty, plain⟩ => ⟨nonempty, List.all_eq_true.2 fun c member =>
        decide_eq_true (plain c member)⟩⟩

variable {word rest : List Char} {words : List (List Char)}

theorem splitBars_append_bar (unbroken : '|' ∉ word) :
    splitBars (word ++ '|' :: rest) = word :: splitBars rest := by
  induction word with
  | nil => rfl
  | cons c word inductionHypothesis =>
    simp only [List.mem_cons, not_or] at unbroken
    rw [List.cons_append, splitBars, if_neg (Ne.symm unbroken.1),
      inductionHypothesis unbroken.2]

theorem splitBars_of_notMem (unbroken : '|' ∉ word) : splitBars word = [word] := by
  induction word with
  | nil => rfl
  | cons c word inductionHypothesis =>
    simp only [List.mem_cons, not_or] at unbroken
    rw [splitBars, if_neg (Ne.symm unbroken.1), inductionHypothesis unbroken.2]

/-- Blanks around a word are trimmed. -/
theorem IsItem.trim (item : IsItem word) {before after : List Char}
    (blankBefore : ∀ c ∈ before, isBlank c = true) (blankAfter : ∀ c ∈ after, isBlank c = true) :
    Text.trim (before ++ word ++ after) = word := by
  have stays {text more : List Char} (same : ∀ c ∈ text, isBlank c = false) (some : text ≠ []) :
      (text ++ more).dropWhile isBlank = text ++ more := by
    cases text with
    | nil => exact absurd rfl some
    | cons c text => simp [same c (by simp)]
  have goes {text more : List Char} (blank : ∀ c ∈ text, isBlank c = true) :
      (text ++ more).dropWhile isBlank = more.dropWhile isBlank :=
    List.dropWhile_append_of_pos blank
  have plain : ∀ c ∈ word, isBlank c = false := fun c member => (item.plain c member).2
  rw [Text.trim, List.append_assoc, goes blankBefore, stays plain item.nonempty,
    List.reverse_append, goes (by simpa using blankAfter), ← List.append_nil word.reverse,
    stays (by simpa using plain) (by simpa using item.nonempty), List.append_nil,
    List.reverse_reverse]

theorem IsItem.notMem (item : IsItem word) : '|' ∉ word :=
  fun member => (item.plain '|' member).1 rfl

/-- Between the bars stand the words, with blanks around them. -/
theorem map_trim_splitBars {before : List Char} (padding : ∀ c ∈ before, c = ' ')
    (items : ∀ word ∈ words, IsItem word) (nonempty : words ≠ []) :
    (splitBars (before ++ [' ', '|', ' '].intercalate words)).map Text.trim = words := by
  have blank : ∀ c ∈ before, isBlank c = true := by
    intro c member
    rw [padding c member]
    decide
  have unbroken {word : List Char} (item : IsItem word) : '|' ∉ before ++ word := by
    intro member
    cases List.mem_append.1 member with
    | inl inPadding => exact absurd (padding _ inPadding) (by decide)
    | inr inWord => exact item.notMem inWord
  induction words generalizing before with
  | nil => exact absurd rfl nonempty
  | cons word words inductionHypothesis =>
    have first : IsItem word := items word (.head _)
    have later : ∀ word ∈ words, IsItem word := fun other member => items other (.tail _ member)
    cases words with
    | nil =>
      rw [List.intercalate_singleton, splitBars_of_notMem (unbroken first), List.map_singleton,
        ← List.append_nil (before ++ word), first.trim blank (by simp)]
    | cons next words =>
      -- a bar is cut with one blank on each side of it
      have cut : before ++ [' ', '|', ' '].intercalate (word :: next :: words) =
          (before ++ word ++ [' ']) ++
            '|' :: ([' '] ++ [' ', '|', ' '].intercalate (next :: words)) := by
        simp [List.intercalate_cons_cons]
      have here : '|' ∉ before ++ word ++ [' '] := by
        simpa using unbroken first
      have blankAfter : ∀ c ∈ [' '], isBlank c = true := List.forall_mem_singleton.2 rfl
      have others : (splitBars ([' '] ++ [' ', '|', ' '].intercalate (next :: words))).map
          Text.trim = next :: words :=
        inductionHypothesis (by simp) later (by simp) blankAfter fun item => by
          simpa using item.notMem
      rw [cut, splitBars_append_bar here, List.map_cons, first.trim blank blankAfter, others]

/-! ## Numbers -/

theorem hexDigit?_digitChar : ∀ digit < 16, Json.hexDigit? digit.digitChar = some digit := by
  decide

theorem hexValue?_append {digits more : List Char} : hexValue? (digits ++ more) =
    more.foldl (fun value? c => do
      let value ← value?
      let digit ← Json.hexDigit? c
      some (16 * value + digit)) (hexValue? digits) :=
  List.foldl_append

theorem hexValue?_toDigits {n : Nat} : hexValue? (Nat.toDigits 16 n) = some n := by
  induction n using Nat.strongRecOn with
  | ind n inductionHypothesis =>
    by_cases single : n < 16
    · have read := hexDigit?_digitChar n single
      rw [Nat.toDigits_of_lt_base single]
      simp [hexValue?, read]
    · have read := hexDigit?_digitChar (n % 16) (Nat.mod_lt _ (by decide))
      have earlier := inductionHypothesis (n / 16) (by omega)
      rw [Nat.toDigits_of_base_le (by decide) (Nat.not_lt.1 single), hexValue?_append, earlier]
      simp [read]
      omega

theorem isSome_of_mem_toDigits {n : Nat} {c : Char} (member : c ∈ Nat.toDigits 16 n) :
    (Json.hexDigit? c).isSome = true := by
  induction n using Nat.strongRecOn with
  | ind n inductionHypothesis =>
    by_cases single : n < 16
    · rw [Nat.toDigits_of_lt_base single, List.mem_singleton] at member
      rw [member, hexDigit?_digitChar n single]
      rfl
    · rw [Nat.toDigits_of_base_le (by decide) (Nat.not_lt.1 single), List.mem_append,
        List.mem_singleton] at member
      rcases member with earlier | rfl
      · exact inductionHypothesis (n / 16) (by omega) earlier
      · rw [hexDigit?_digitChar _ (Nat.mod_lt _ (by decide))]
        rfl

theorem plain_of_hexDigit? {c : Char} (digit : (Json.hexDigit? c).isSome = true) :
    c ≠ '|' ∧ isBlank c = false := by
  have range : 0x20 < c.toNat ∧ c.toNat < 0x7c := by
    rw [Json.hexDigit?] at digit
    split at digit
    next decimal =>
      simp only [Bool.and_eq_true, decide_eq_true_eq] at decimal
      exact ⟨Nat.lt_of_lt_of_le (by decide) decimal.1, Nat.lt_of_le_of_lt decimal.2 (by decide)⟩
    next =>
      split at digit
      next lower =>
        simp only [Bool.and_eq_true, decide_eq_true_eq] at lower
        exact ⟨Nat.lt_of_lt_of_le (by decide) lower.1, Nat.lt_of_le_of_lt lower.2 (by decide)⟩
      next =>
        split at digit
        next upper =>
          simp only [Bool.and_eq_true, decide_eq_true_eq] at upper
          exact ⟨Nat.lt_of_lt_of_le (by decide) upper.1, Nat.lt_of_le_of_lt upper.2 (by decide)⟩
        next => cases digit
  refine ⟨?_, ?_⟩
  · rintro rfl
    exact absurd range.2 (by decide)
  · simp only [isBlank, blankRanges, List.any_cons, List.any_nil, Bool.or_false,
      Bool.or_eq_false_iff, Bool.and_eq_false_iff, decide_eq_false_iff_not]
    omega

/-- A number as it stands between bars. -/
def hexadecimal (n : Nat) : List Char := '0' :: 'x' :: Nat.toDigits 16 n

theorem isItem_hexadecimal {n : Nat} : IsItem (hexadecimal n) := by
  refine ⟨List.cons_ne_nil _ _, fun c member => ?_⟩
  simp only [hexadecimal, List.mem_cons] at member
  rcases member with rfl | rfl | inDigits
  · decide
  · decide
  · exact plain_of_hexDigit? (isSome_of_mem_toDigits inDigits)

theorem readFlag?_hexadecimal {n : Nat} (fits : n < 256) :
    readFlag? (hexadecimal n) = some ⟨UInt8.ofNat n⟩ := by
  have unsigned : ∀ digits, Nat.toDigits 16 n ≠ '+' :: digits := by
    intro digits same
    have digit : (Json.hexDigit? '+').isSome = true :=
      isSome_of_mem_toDigits (same ▸ List.mem_cons_self)
    exact absurd digit (by decide)
  have nonempty : (Nat.toDigits 16 n).isEmpty = false := by simp [Nat.toDigits_ne_nil]
  rw [hexadecimal, readFlag?, readBits?, if_neg (by simp [nonempty]), hexValue?_toDigits,
    Option.bind_some, if_pos fits]
  exact unsigned

/-! ## Texts -/

/-- Reads one more word. -/
def addWord (outcome? : Option Outcome) (word : List Char) : Option Outcome := do
  let outcome ← outcome?
  let flag ← readFlag? word
  some (outcome.union flag)

theorem trim_ne_nil {text : List Char} {c : Char} (member : c ∈ text)
    (plain : isBlank c = false) : Text.trim text ≠ [] := by
  intro empty
  rw [Text.trim, List.reverse_eq_nil_iff, List.dropWhile_eq_nil_iff] at empty
  have parts : text.takeWhile isBlank ++ text.dropWhile isBlank = text :=
    List.takeWhile_append_dropWhile
  have blank : isBlank c = true := by
    cases List.mem_append.1 (parts ▸ member) with
    | inl inFront => exact List.mem_takeWhile_imp inFront
    | inr behind => exact empty c (List.mem_reverse.2 behind)
  rw [plain] at blank
  cases blank

theorem read?_intercalate (items : ∀ word ∈ words, IsItem word) :
    read? ([' ', '|', ' '].intercalate words) = words.foldl addWord (some nothing) := by
  cases words with
  | nil => rfl
  | cons word words =>
    have cut : (splitBars ([' ', '|', ' '].intercalate (word :: words))).map Text.trim =
        word :: words :=
      @map_trim_splitBars _ [] (by simp) items (by simp)
    have solid : Text.trim ([' ', '|', ' '].intercalate (word :: words)) ≠ [] := by
      obtain ⟨c, member⟩ := List.exists_mem_of_ne_nil word (items word (.head _)).nonempty
      refine trim_ne_nil ?_ ((items word (.head _)).plain c member).2
      cases words with
      | nil => simpa using member
      | cons next words => simp [List.intercalate_cons_cons, member]
    rw [read?, if_neg (by simpa using solid), ← cut, List.foldl_map, cut]
    rfl

theorem addWord_of_read {flag : Outcome} (read : readFlag? word = some flag) (outcome : Outcome) :
    addWord (some outcome) word = some (outcome.union flag) := by
  simp [addWord, read]

theorem foldl_addWord {flag : Outcome} (read : readFlag? word = some flag) (isSet : Bool)
    (outcome : Outcome) : (if isSet then [word] else []).foldl addWord (some outcome) =
      some (outcome.union (if isSet then flag else nothing)) := by
  cases isSet with
  | false => simp [union, nothing]
  | true => exact addWord_of_read read outcome

/-- The flags of a byte and the bits without a name make up the byte. -/
theorem union_flags {outcome : Outcome} :
    ((nothing.union (if outcome.removes then remove else nothing)).union
      (if outcome.deactivates then deactivate else nothing)).union ⟨outcome.bits &&& 0xfc⟩ =
        outcome := by
  have bytes : ∀ n : Fin 256,
      ((nothing.union (if (Outcome.mk ⟨⟨n⟩⟩).removes then remove else nothing)).union
        (if (Outcome.mk ⟨⟨n⟩⟩).deactivates then deactivate else nothing)).union
          ⟨⟨⟨n⟩⟩ &&& 0xfc⟩ = ⟨⟨⟨n⟩⟩⟩ := by
    decide +kernel
  exact bytes outcome.bits.toBitVec.toFin

theorem words_eq {outcome : Outcome} : outcome.words.map String.toList =
    (if outcome.removes then ["REMOVE".toList] else []) ++
      (if outcome.deactivates then ["DEACTIVATE".toList] else []) ++
        (if outcome.bits &&& 0xfc ≠ 0 then [hexadecimal (outcome.bits &&& 0xfc).toNat]
          else []) := by
  have number (n : Nat) :
      ("0x" ++ String.ofList (Nat.toDigits 16 n)).toList = hexadecimal n := by
    simp [hexadecimal]
  rw [words]
  generalize outcome.bits &&& 0xfc = unnamed
  simp only [List.map_append, apply_ite (List.map String.toList), List.map_cons, List.map_nil,
    number, ite_not]

theorem isItem_of_mem_words {outcome : Outcome} {word : List Char}
    (member : word ∈ outcome.words.map String.toList) : IsItem word := by
  have named {isSet : Bool} {name : List Char} (item : IsItem name)
      (inName : word ∈ if isSet then [name] else []) : IsItem word := by
    cases isSet with
    | false => cases inName
    | true => exact List.mem_singleton.1 inName ▸ item
  rw [words_eq] at member
  rcases List.mem_append.1 member with inNames | inNumber
  · rcases List.mem_append.1 inNames with inRemove | inDeactivate
    · exact named (by decide) inRemove
    · exact named (by decide) inDeactivate
  · split at inNumber
    · exact List.mem_singleton.1 inNumber ▸ isItem_hexadecimal
    · cases inNumber

/-- Every outcome is read back, whatever its bits are. -/
theorem read?_text {outcome : Outcome} : read? outcome.text.toList = some outcome := by
  have separator : " | ".toList = [' ', '|', ' '] := rfl
  have removes : readFlag? "REMOVE".toList = some remove := by decide
  have deactivates : readFlag? "DEACTIVATE".toList = some deactivate := by decide
  have unnamed : readFlag? (hexadecimal (outcome.bits &&& 0xfc).toNat) =
      some ⟨outcome.bits &&& 0xfc⟩ := by
    rw [readFlag?_hexadecimal (UInt8.toNat_lt _), UInt8.ofNat_toNat]
  rw [text, String.toList_intercalate, separator,
    read?_intercalate fun _ => isItem_of_mem_words, words_eq, List.foldl_append,
    List.foldl_append, foldl_addWord removes, foldl_addWord deactivates]
  have number (earlier : Outcome) : (if outcome.bits &&& 0xfc ≠ 0 then
      [hexadecimal (outcome.bits &&& 0xfc).toNat] else []).foldl addWord (some earlier) =
        some (earlier.union ⟨outcome.bits &&& 0xfc⟩) := by
    split
    next => exact addWord_of_read unnamed earlier
    next none =>
      rw [Classical.not_not.1 none]
      simp [union]
  rw [number, union_flags]

end Outcome

end Roleplay
