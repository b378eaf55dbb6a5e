import Mathlib.Data.List.DropRight
import Mathlib.Data.List.Forall2
import Roleplay.Json.Scan
import Roleplay.Json.Tree

/-! # Scanning what was written

A tree is written as a text from which the scanner takes the same tree again, whatever stands behind
it.

* `takeNumber?_append`: what follows a value does not prolong a number;
* `takeString?_flatMap_escapeChar` and `decodeText_map_pieceOf`: any text survives its quotes;
* `Tree.Reads` says which raw tree a written tree is taken for; `Tree.reads_array` and
  `Tree.reads_object` compose it;
* `Tree.ofText?_of_reads` applies it to a whole text.
-/

namespace Roleplay.Json

open Roleplay.Text

variable {text rest : List Symbol}

/-- What may stand behind a value: nothing, or the rest of the array or object around it. -/
inductive IsTail : List Symbol → Prop where
  | nil : IsTail []
  | comma (rest : List Symbol) : IsTail (some ',' :: rest)
  | bracket (rest : List Symbol) : IsTail (some ']' :: rest)
  | brace (rest : List Symbol) : IsTail (some '\x7d' :: rest)

/-! ## Blanks -/

theorem skipBlanks_idem : skipBlanks (skipBlanks text) = skipBlanks text :=
  List.dropWhile_idempotent ..

theorem skipBlanks_append_of_ne_nil (nonempty : skipBlanks text ≠ []) :
    skipBlanks (text ++ rest) = skipBlanks text ++ rest :=
  List.dropWhile_append.trans (if_neg (mt List.isEmpty_iff.1 nonempty))

theorem skipBlanks_append_of_blank (blank : skipBlanks text = []) :
    skipBlanks (text ++ rest) = skipBlanks rest :=
  List.dropWhile_append.trans (if_pos (List.isEmpty_iff.2 blank))

/-! ## Numbers -/

theorem takeDigitSymbols_append (tail : IsTail rest) :
    takeDigitSymbols (text ++ rest) =
      ((takeDigitSymbols text).1, (takeDigitSymbols text).2 ++ rest) := by
  induction text with
  | nil => cases tail <;> rfl
  | cons symbol text inductionHypothesis =>
    cases symbol with
    | none => rfl
    | some c =>
      simp only [List.cons_append, takeDigitSymbols]
      split
      · rw [inductionHypothesis]
      · rfl

theorem takeFraction?_append (tail : IsTail rest) {digits : List Char} {left : List Symbol}
    (taken : takeFraction? text = some (digits, left)) :
    takeFraction? (text ++ rest) = some (digits, left ++ rest) := by
  cases text with
  | nil =>
    obtain ⟨rfl, rfl⟩ := Prod.mk.inj (Option.some.inj taken)
    cases tail <;> rfl
  | cons symbol text =>
    by_cases point : symbol = some '.'
    · subst point
      simp only [takeFraction?, List.cons_append, takeDigitSymbols_append tail] at taken ⊢
      split at taken
      · cases taken
      · rename_i nonempty
        obtain ⟨rfl, rfl⟩ := Prod.mk.inj (Option.some.inj taken)
        rw [if_neg nonempty]
    · have skips (more : List Symbol) :
          takeFraction? (symbol :: more) = some ([], symbol :: more) := by
        rw [takeFraction?]
        rintro _ ⟨⟩
        exact point rfl
      rw [skips] at taken
      obtain ⟨rfl, rfl⟩ := Prod.mk.inj (Option.some.inj taken)
      exact skips _

theorem takeSignedDigits?_append (tail : IsTail rest) {exponent : Bool × List Char}
    {left : List Symbol} (taken : takeSignedDigits? text = some (exponent, left)) :
    takeSignedDigits? (text ++ rest) = some (exponent, left ++ rest) := by
  have unsigned (negative : Bool) (digits : List Symbol)
      (taken : (if (takeDigitSymbols digits).1.isEmpty then none
        else some ((negative, (takeDigitSymbols digits).1), (takeDigitSymbols digits).2)) =
          some (exponent, left)) :
      (if (takeDigitSymbols (digits ++ rest)).1.isEmpty then none
        else some ((negative, (takeDigitSymbols (digits ++ rest)).1),
          (takeDigitSymbols (digits ++ rest)).2)) = some (exponent, left ++ rest) := by
    rw [takeDigitSymbols_append tail]
    split at taken
    · cases taken
    · rename_i nonempty
      obtain ⟨rfl, rfl⟩ := Prod.mk.inj (Option.some.inj taken)
      exact if_neg nonempty
  cases text with
  | nil => cases taken
  | cons symbol text =>
    by_cases minus : symbol = some '-'
    · subst minus
      exact unsigned true text taken
    · by_cases plus : symbol = some '+'
      · subst plus
        exact unsigned false text taken
      · have skips (more : List Symbol) : takeSignedDigits? (symbol :: more) =
            (if (takeDigitSymbols (symbol :: more)).1.isEmpty then none
              else some ((false, (takeDigitSymbols (symbol :: more)).1),
                (takeDigitSymbols (symbol :: more)).2)) := by
          rw [takeSignedDigits?]
          · rintro _ ⟨⟩
            exact minus rfl
          · rintro _ ⟨⟩
            exact plus rfl
        rw [skips] at taken
        rw [List.cons_append, skips]
        exact unsigned false (symbol :: text) taken

/-- What follows the digits of an exponent is left when they are taken. -/
theorem map_takeSignedDigits?_append (tail : IsTail rest) {exponent : Option (Bool × List Char)}
    {left : List Symbol}
    (taken : ((takeSignedDigits? text).map fun (exponent, rest) => (some exponent, rest)) =
      some (exponent, left)) :
    ((takeSignedDigits? (text ++ rest)).map fun (exponent, rest) => (some exponent, rest)) =
      some (exponent, left ++ rest) := by
  obtain ⟨⟨signed, after⟩, took, same⟩ := Option.map_eq_some_iff.1 taken
  obtain ⟨rfl, rfl⟩ := Prod.mk.inj same
  rw [takeSignedDigits?_append tail took]
  rfl

theorem takeExponentPart?_append (tail : IsTail rest) {exponent : Option (Bool × List Char)}
    {left : List Symbol} (taken : takeExponentPart? text = some (exponent, left)) :
    takeExponentPart? (text ++ rest) = some (exponent, left ++ rest) := by
  cases text with
  | nil =>
    obtain ⟨rfl, rfl⟩ := Prod.mk.inj (Option.some.inj taken)
    cases tail <;> rfl
  | cons symbol text =>
    by_cases small : symbol = some 'e'
    · subst small
      exact map_takeSignedDigits?_append tail taken
    · by_cases capital : symbol = some 'E'
      · subst capital
        exact map_takeSignedDigits?_append tail taken
      · have skips (more : List Symbol) :
            takeExponentPart? (symbol :: more) = some (none, symbol :: more) := by
          rw [takeExponentPart?]
          · rintro _ ⟨⟩
            exact small rfl
          · rintro _ ⟨⟩
            exact capital rfl
        rw [skips] at taken
        obtain ⟨rfl, rfl⟩ := Prod.mk.inj (Option.some.inj taken)
        exact skips _

theorem takeUnsigned?_append (tail : IsTail rest) {negative : Bool} {number : Number}
    {left : List Symbol} (taken : takeUnsigned? negative text = some (number, left)) :
    takeUnsigned? negative (text ++ rest) = some (number, left ++ rest) := by
  rw [takeUnsigned?] at taken ⊢
  rw [takeDigitSymbols_append tail]
  dsimp only at taken ⊢
  split at taken
  · cases taken
  · rename_i whole
    rw [if_neg whole]
    obtain ⟨⟨fraction, afterFraction⟩, fractions, taken⟩ := Option.bind_eq_some_iff.1 taken
    obtain ⟨⟨exponent, afterExponent⟩, exponents, taken⟩ := Option.bind_eq_some_iff.1 taken
    obtain ⟨rfl, rfl⟩ := Prod.mk.inj (Option.some.inj taken)
    simp only [takeFraction?_append tail fractions, takeExponentPart?_append tail exponents,
      Option.bind_eq_bind, Option.bind_some]

/-- What follows a value does not prolong a number. -/
theorem takeNumber?_append (tail : IsTail rest) {number : Number} {left : List Symbol}
    (taken : takeNumber? text = some (number, left)) :
    takeNumber? (text ++ rest) = some (number, left ++ rest) := by
  cases text with
  | nil => cases taken
  | cons symbol text =>
    by_cases minus : symbol = some '-'
    · subst minus
      exact takeUnsigned?_append tail taken
    · have skips (more : List Symbol) :
          takeNumber? (symbol :: more) = takeUnsigned? false (symbol :: more) := by
        rw [takeNumber?]
        rintro _ ⟨⟩
        exact minus rfl
      rw [skips] at taken
      rw [List.cons_append, skips]
      exact takeUnsigned?_append tail taken

/-- A number begins with a digit or a minus. -/
theorem exists_cons_of_takeNumber? {taken : Number × List Symbol}
    (took : takeNumber? text = some taken) :
    ∃ c more, text = some c :: more ∧ (c = '-' ∨ c.isDigit = true) := by
  cases text with
  | nil => cases took
  | cons symbol more =>
    cases symbol with
    | none => cases took
    | some c =>
      refine ⟨c, more, rfl, ?_⟩
      by_cases minus : c = '-'
      · exact Or.inl minus
      · refine Or.inr (Classical.byContradiction fun other => ?_)
        have starts : takeNumber? (some c :: more) = takeUnsigned? false (some c :: more) := by
          rw [takeNumber?]
          rintro _ ⟨⟩
          exact minus rfl
        rw [starts, takeUnsigned?, takeDigitSymbols, if_neg other] at took
        cases took

theorem ne_of_startsNumber {c : Char} (starts : c = '-' ∨ c.isDigit = true) (letter : Char)
    (opens : letter ∈ [' ', '\n', '\t', '\r', '[', '\x7b', '"', 'n', 't', 'f']) : c ≠ letter := by
  have differs : ∀ letter ∈ [' ', '\n', '\t', '\r', '[', '\x7b', '"', 'n', 't', 'f'],
      ¬(letter = '-' ∨ letter.isDigit = true) := by
    simp
  exact fun same => differs letter opens (same ▸ starts)

theorem skipBlanks_of_takeNumber? {taken : Number × List Symbol}
    (took : takeNumber? text = some taken) : skipBlanks text = text := by
  obtain ⟨c, more, rfl, starts⟩ := exists_cons_of_takeNumber? took
  exact List.dropWhile_cons_of_neg (by simp [isBlankSymbol, ne_of_startsNumber starts])

/-! ## Strings -/

/-- What the written form of a character is taken for. -/
def pieceOf (c : Char) : Piece :=
  if c.toNat < 0x20 ∧ c ∉ ['\n', '\r', '\t', Char.ofNat 8, Char.ofNat 12] then .unit c.toNat
  else .char c

theorem hexUnit?_hexChar : ∀ code < 0x20,
    hexUnit? (some '0') (some '0') (some (hexChar (code / 16))) (some (hexChar (code % 16))) =
      some code := by
  decide

theorem takeString?_escapeChar {c : Char} :
    takeString? ((escapeChar c).map some ++ rest) =
      (takeString? rest).map fun (pieces, rest) => (pieceOf c :: pieces, rest) := by
  by_cases letter : c ∈ ['"', '\\', '\n', '\r', '\t', Char.ofNat 8, Char.ofNat 12]
  · -- an escape of one letter
    simp only [List.mem_cons, List.not_mem_nil, or_false] at letter
    obtain rfl | rfl | rfl | rfl | rfl | rfl | rfl := letter <;> rfl
  · simp only [List.mem_cons, List.not_mem_nil, or_false, not_or] at letter
    obtain ⟨quotes, backslash, newline, carriageReturn, tab, backspace, formFeed⟩ := letter
    have notBackspace : c.toNat ≠ 8 := fun same => backspace (by rw [← same, Char.ofNat_toNat])
    have notFormFeed : c.toNat ≠ 12 := fun same => formFeed (by rw [← same, Char.ofNat_toNat])
    rw [escapeChar, if_neg quotes, if_neg backslash, if_neg newline, if_neg carriageReturn,
      if_neg tab, if_neg notBackspace, if_neg notFormFeed]
    by_cases control : c.toNat < 0x20
    · have piece : pieceOf c = .unit c.toNat :=
        if_pos ⟨control, by simp [newline, carriageReturn, tab, backspace, formFeed]⟩
      rw [if_pos control, piece]
      change (hexUnit? (some '0') (some '0') (some (hexChar (c.toNat / 16)))
        (some (hexChar (c.toNat % 16)))).bind _ = _
      rw [hexUnit?_hexChar c.toNat control]
      rfl
    · have piece : pieceOf c = .char c := if_neg fun both => control both.1
      have plain : (c = '\\' || decide (c.toNat < 0x20)) = false := by simp [backslash, control]
      rw [if_neg control, piece, List.map_cons, List.map_nil, List.cons_append, List.nil_append,
        takeString?]
      · rw [plain]
        rfl
      · exact quotes
      · exact fun _ _ _ _ _ _ => backslash
      · exact fun _ _ _ => backslash

/-- A string is taken up to its closing quote. -/
theorem takeString?_flatMap_escapeChar {chars : List Char} :
    takeString? ((chars.flatMap escapeChar).map some ++ some '"' :: rest) =
      some (chars.map pieceOf, rest) := by
  induction chars with
  | nil => rfl
  | cons c chars inductionHypothesis =>
    rw [List.flatMap_cons, List.map_append, List.append_assoc, takeString?_escapeChar,
      inductionHypothesis]
    rfl

theorem decodePieces_map_pieceOf {chars : List Char} :
    decodePieces (chars.map pieceOf) = some chars := by
  induction chars with
  | nil => rfl
  | cons c chars inductionHypothesis =>
    rw [List.map_cons, pieceOf]
    split
    · rename_i control
      have high : isHighUnit c.toNat = false := by simp [isHighUnit]; omega
      have low : isLowUnit c.toNat = false := by simp [isLowUnit]; omega
      rw [decodePieces.eq_def]
      simp [high, low, inductionHypothesis]
    · rw [decodePieces, inductionHypothesis]
      rfl

theorem decodeText_map_pieceOf {string : String} :
    decodeText (string.toList.map pieceOf) = some string := by
  rw [decodeText, decodePieces_map_pieceOf, Option.map_some, String.ofList_toList]

/-! ## Values -/

/-- Wherever the tree is written as a value, it is taken for the raw tree, and blanks apart nothing
of what stands behind it is taken. -/
def Tree.Reads (tree : Tree) (raw : Raw) : Prop :=
  ∀ fuel rest, 2 * tree.chars.length ≤ fuel → IsTail rest →
    ∃ left, takeValue? fuel (tree.chars.map some ++ rest) = some (raw, left) ∧
      skipBlanks left = skipBlanks rest

theorem takeValue?_skipBlanks {fuel : Nat} :
    takeValue? fuel (skipBlanks text) = takeValue? fuel text := by
  cases fuel with
  | zero => rfl
  | succ fuel => rw [takeValue?, takeValue?, skipBlanks_idem]

theorem takeValue?_of_takeNumber? {fuel : Nat} {number : Number} {left : List Symbol}
    (taken : takeNumber? text = some (number, left)) :
    takeValue? (fuel + 1) text = some (.number number, left) := by
  have visible : skipBlanks text = text := skipBlanks_of_takeNumber? taken
  obtain ⟨c, more, rfl, starts⟩ := exists_cons_of_takeNumber? taken
  have begins {letter : Char} {others : List Symbol}
      (same : some c :: more = some letter :: others) : c = letter :=
    Option.some.inj (List.cons.inj same).1
  -- no other value starts like a number
  have scalar : takeScalar? (some c :: more) = some (.number number, left) := by
    rw [takeScalar?.eq_def]
    split
    · exact absurd (begins ‹_›) (ne_of_startsNumber starts '"' (by simp))
    · exact absurd (begins ‹_›) (ne_of_startsNumber starts 'n' (by simp))
    · exact absurd (begins ‹_›) (ne_of_startsNumber starts 't' (by simp))
    · exact absurd (begins ‹_›) (ne_of_startsNumber starts 'f' (by simp))
    · rw [taken]
      rfl
  rw [takeValue?, visible]
  split
  · exact absurd (begins ‹_›) (ne_of_startsNumber starts '[' (by simp))
  · exact absurd (begins ‹_›) (ne_of_startsNumber starts '\x7b' (by simp))
  · exact scalar

/-- Only numbers are taken for numbers. -/
theorem takeNumber?_of_takeValue? {fuel : Nat} {number : Number} {left : List Symbol}
    (took : takeValue? fuel text = some (.number number, left)) :
    takeNumber? (skipBlanks text) = some (number, left) := by
  cases fuel with
  | zero => cases took
  | succ fuel =>
    rw [takeValue?] at took
    split at took
    · split at took
      · cases took
      · obtain ⟨_, _, same⟩ := Option.map_eq_some_iff.1 took
        cases same
    · split at took
      · cases took
      · obtain ⟨_, _, same⟩ := Option.map_eq_some_iff.1 took
        cases same
    · rw [takeScalar?.eq_def] at took
      split at took
      case h_5 =>
        obtain ⟨_, taken, same⟩ := Option.map_eq_some_iff.1 took
        cases same
        exact taken
      all_goals
        obtain ⟨_, _, same⟩ := Option.map_eq_some_iff.1 took
        cases same

namespace Tree

theorem Reads.congr {tree other : Tree} {raw : Raw} (reads : tree.Reads raw)
    (same : other.chars = tree.chars) : other.Reads raw := by
  rw [Reads, same]
  exact reads

/-- The scanner always has fuel for one more step. -/
theorem Reads.of_succ {tree : Tree} {raw : Raw} (nonempty : tree.chars ≠ [])
    (takes : ∀ fuel rest, 2 * tree.chars.length ≤ fuel + 1 → IsTail rest →
      ∃ left, takeValue? (fuel + 1) (tree.chars.map some ++ rest) = some (raw, left) ∧
        skipBlanks left = skipBlanks rest) : tree.Reads raw := by
  intro fuel rest enough tail
  have some : 0 < tree.chars.length := List.length_pos_iff.2 nonempty
  obtain ⟨fuel, rfl⟩ : ∃ less, fuel = less + 1 := ⟨fuel - 1, by omega⟩
  exact takes fuel rest enough tail

theorem reads_null : null.Reads .null :=
  .of_succ (by simp [chars]) fun _ rest _ _ => ⟨rest, rfl, rfl⟩

theorem reads_bool {truth : Bool} : (bool truth).Reads (.bool truth) := by
  cases truth with
  | false => exact .of_succ (by simp [chars]) fun _ rest _ _ => ⟨rest, rfl, rfl⟩
  | true => exact .of_succ (by simp [chars]) fun _ rest _ _ => ⟨rest, rfl, rfl⟩

theorem map_quote {chars : List Char} : (quote chars).map some ++ rest =
    some '"' :: ((chars.flatMap escapeChar).map some ++ some '"' :: rest) := by
  simp [quote]

theorem reads_string {string : String} :
    (Tree.string string).Reads (.string (string.toList.map pieceOf)) := by
  refine .of_succ (by simp [chars, quote]) fun fuel rest _ _ => ⟨rest, ?_, rfl⟩
  rw [chars, map_quote]
  change (takeString? _).map _ = _
  rw [takeString?_flatMap_escapeChar]
  rfl

theorem reads_of_takeNumber? {tree : Tree} {number : Number} {left : List Symbol}
    (taken : takeNumber? (skipBlanks (tree.chars.map some)) = some (number, left))
    (blank : skipBlanks left = []) : tree.Reads (.number number) := by
  obtain ⟨c, more, visible, _⟩ := exists_cons_of_takeNumber? taken
  have nonempty : tree.chars ≠ [] := by
    intro empty
    rw [empty] at visible
    cases visible
  refine .of_succ nonempty fun fuel rest _ tail => ⟨left ++ rest, ?_, ?_⟩
  · rw [← takeValue?_skipBlanks, skipBlanks_append_of_ne_nil (by simp [visible])]
    exact takeValue?_of_takeNumber? (takeNumber?_append tail taken)
  · exact skipBlanks_append_of_blank blank

/-- A number that is read as a whole text is read as a part of one. -/
theorem reads_number {tree : Tree} {number : Number}
    (scanned : Raw.ofText? tree.text = some (.number number)) : tree.Reads (.number number) := by
  rw [Raw.ofText?, text, String.toList_ofList, Raw.ofSymbols?] at scanned
  split at scanned
  · rename_i raw left took
    split at scanned
    · rename_i blank
      obtain rfl := Option.some.inj scanned
      exact reads_of_takeNumber? (takeNumber?_of_takeValue? took) (List.isEmpty_iff.1 blank)
    · cases scanned
  · cases scanned

/-! ## Arrays and objects -/

theorem takeItems?_skipBlanks {fuel : Nat} :
    takeItems? fuel (skipBlanks text) = takeItems? fuel text := by
  cases fuel with
  | zero => rfl
  | succ fuel => rw [takeItems?, takeItems?, takeValue?_skipBlanks]

theorem takeItems?_bracket {fuel : Nat} : takeItems? fuel (some ']' :: text) = none := by
  match fuel with
  | 0 => rfl
  | 1 => rfl
  | fuel + 2 => rfl

theorem takeItems?_last {item : Tree} {raw : Raw} (reads : item.Reads raw) {fuel : Nat}
    (enough : 2 * item.chars.length ≤ fuel) :
    takeItems? (fuel + 1) (item.chars.map some ++ some ']' :: rest) = some ([raw], rest) := by
  obtain ⟨left, took, blank⟩ := reads fuel (some ']' :: rest) enough (.bracket rest)
  rw [takeItems?, took, Option.bind_some]
  dsimp only
  rw [blank]
  rfl

theorem takeItems?_comma {item : Tree} {raw : Raw} (reads : item.Reads raw) {fuel : Nat}
    (enough : 2 * item.chars.length ≤ fuel) :
    takeItems? (fuel + 1) (item.chars.map some ++ some ',' :: rest) =
      (takeItems? fuel rest).map fun (items, rest) => (raw :: items, rest) := by
  obtain ⟨left, took, blank⟩ := reads fuel (some ',' :: rest) enough (.comma rest)
  rw [takeItems?, took, Option.bind_some]
  dsimp only
  rw [blank]
  rfl

theorem takeItems?_itemChars {items : List Tree} {raws : List Raw}
    (reads : List.Forall₂ Reads items raws) (nonempty : items ≠ []) {fuel : Nat}
    (enough : 2 * (itemChars items).length < fuel) :
    takeItems? fuel ((itemChars items).map some ++ some ']' :: rest) = some (raws, rest) := by
  induction reads generalizing fuel with
  | nil => exact absurd rfl nonempty
  | @cons item raw items raws first others inductionHypothesis =>
    obtain ⟨fuel, rfl⟩ : ∃ less, fuel = less + 1 := ⟨fuel - 1, by omega⟩
    cases others with
    | nil =>
      rw [itemChars] at enough ⊢
      exact takeItems?_last first (by omega)
    | @cons next _ more _ second later =>
      have shape : itemChars (item :: next :: more) =
          item.chars ++ ',' :: itemChars (next :: more) :=
        rfl
      rw [shape, List.length_append, List.length_cons] at enough
      have continued : takeItems? fuel
          ((itemChars (next :: more)).map some ++ some ']' :: rest) = some (_ :: _, rest) :=
        inductionHypothesis (by simp) (by omega)
      rw [shape, List.map_append, List.map_cons, List.append_assoc, List.cons_append,
        takeItems?_comma first (by omega), continued]
      rfl

/-- Behind the bracket that opens an array. -/
theorem takeValue?_bracket {fuel : Nat} : takeValue? (fuel + 1) (some '[' :: text) =
    match skipBlanks text with
    | some ']' :: rest => some (.array [], rest)
    | text => (takeItems? fuel text).map fun (items, rest) => (.array items, rest) :=
  rfl

theorem reads_array {items : List Tree} {raws : List Raw}
    (reads : List.Forall₂ Reads items raws) : (Tree.array items).Reads (.array raws) := by
  refine .of_succ (by simp [chars]) fun fuel rest enough _ => ⟨rest, ?_, rfl⟩
  have shape : (Tree.array items).chars.map some ++ rest =
      some '[' :: ((itemChars items).map some ++ some ']' :: rest) := by
    simp [chars]
  have length : (Tree.array items).chars.length = (itemChars items).length + 2 := by
    simp [chars]
  rw [shape]
  cases reads with
  | nil => rfl
  | @cons item raw items raws first others =>
    have took : takeItems? fuel ((itemChars (item :: items)).map some ++ some ']' :: rest) =
        some (raw :: raws, rest) :=
      takeItems?_itemChars (.cons first others) (by simp) (by omega)
    rw [takeValue?_bracket]
    -- an item never begins with the bracket that would close an empty array
    split
    · rename_i closed
      rw [← takeItems?_skipBlanks, closed, takeItems?_bracket] at took
      cases took
    · rw [takeItems?_skipBlanks, took]
      rfl

/-- A member of an object as it is taken from its written form. -/
def rawMember (member : String × Raw) : List Piece × Raw :=
  (member.1.toList.map pieceOf, member.2)

theorem takeKey?_quote {key : String} :
    takeKey? ((quote key.toList).map some ++ some ':' :: rest) =
      some (key.toList.map pieceOf, rest) := by
  rw [map_quote]
  change (takeString? _).bind _ = _
  rw [takeString?_flatMap_escapeChar]
  rfl

theorem takeMembers?_brace {fuel : Nat} : takeMembers? fuel (some '\x7d' :: text) = none := by
  cases fuel <;> rfl

theorem takeMembers?_skipBlanks {fuel : Nat} :
    takeMembers? fuel (skipBlanks text) = takeMembers? fuel text := by
  cases fuel with
  | zero => rfl
  | succ fuel => rw [takeMembers?, takeMembers?, takeKey?, takeKey?, skipBlanks_idem]

theorem takeMembers?_last {key : String} {tree : Tree} {raw : Raw} (reads : tree.Reads raw)
    {fuel : Nat} (enough : 2 * tree.chars.length ≤ fuel) :
    takeMembers? (fuel + 1)
        ((quote key.toList).map some ++ some ':' :: (tree.chars.map some ++ some '\x7d' :: rest)) =
      some ([rawMember (key, raw)], rest) := by
  obtain ⟨left, took, blank⟩ := reads fuel (some '\x7d' :: rest) enough (.brace rest)
  rw [takeMembers?, takeKey?_quote, Option.bind_some]
  dsimp only
  rw [took, Option.bind_some]
  dsimp only
  rw [blank]
  rfl

theorem takeMembers?_comma {key : String} {tree : Tree} {raw : Raw} (reads : tree.Reads raw)
    {fuel : Nat} (enough : 2 * tree.chars.length ≤ fuel) :
    takeMembers? (fuel + 1)
        ((quote key.toList).map some ++ some ':' :: (tree.chars.map some ++ some ',' :: rest)) =
      (takeMembers? fuel rest).map fun (members, rest) =>
        (rawMember (key, raw) :: members, rest) := by
  obtain ⟨left, took, blank⟩ := reads fuel (some ',' :: rest) enough (.comma rest)
  rw [takeMembers?, takeKey?_quote, Option.bind_some]
  dsimp only
  rw [took, Option.bind_some]
  dsimp only
  rw [blank]
  rfl

theorem takeMembers?_memberChars {members : List (String × Tree)} {raws : List (String × Raw)}
    (reads : List.Forall₂ (fun member raw => member.1 = raw.1 ∧ member.2.Reads raw.2) members raws)
    (nonempty : members ≠ []) {fuel : Nat} (enough : 2 * (memberChars members).length < fuel) :
    takeMembers? fuel ((memberChars members).map some ++ some '\x7d' :: rest) =
      some (raws.map rawMember, rest) := by
  induction reads generalizing fuel with
  | nil => exact absurd rfl nonempty
  | @cons member raw members raws first others inductionHypothesis =>
    obtain ⟨fuel, rfl⟩ : ∃ less, fuel = less + 1 := ⟨fuel - 1, by omega⟩
    obtain ⟨key, tree⟩ := member
    obtain ⟨name, value⟩ := raw
    obtain ⟨same, first⟩ := first
    dsimp only at same first
    subst same
    cases others with
    | nil =>
      rw [memberChars] at enough ⊢
      rw [List.length_append, List.length_cons] at enough
      rw [List.map_append, List.map_cons, List.append_assoc, List.cons_append]
      exact takeMembers?_last first (by omega)
    | @cons next _ more _ second later =>
      have shape : memberChars ((key, tree) :: next :: more) =
          quote key.toList ++ ':' :: (tree.chars ++ ',' :: memberChars (next :: more)) :=
        rfl
      rw [shape, List.length_append, List.length_cons, List.length_append,
        List.length_cons] at enough
      have continued : takeMembers? fuel
          ((memberChars (next :: more)).map some ++ some '\x7d' :: rest) =
            some ((_ :: _).map rawMember, rest) :=
        inductionHypothesis (by simp) (by omega)
      rw [shape, List.map_append, List.map_cons, List.append_assoc, List.cons_append,
        List.map_append, List.map_cons, List.append_assoc, List.cons_append,
        takeMembers?_comma first (by omega), continued]
      rfl

/-- Behind the brace that opens an object. -/
theorem takeValue?_brace {fuel : Nat} : takeValue? (fuel + 1) (some '\x7b' :: text) =
    match skipBlanks text with
    | some '\x7d' :: rest => some (.object [], rest)
    | text => (takeMembers? fuel text).map fun (members, rest) => (.object members, rest) :=
  rfl

theorem reads_object {members : List (String × Tree)} {raws : List (String × Raw)}
    (reads : List.Forall₂ (fun member raw => member.1 = raw.1 ∧ member.2.Reads raw.2)
      members raws) : (Tree.object members).Reads (.object (raws.map rawMember)) := by
  refine .of_succ (by simp [chars]) fun fuel rest enough _ => ⟨rest, ?_, rfl⟩
  have shape : (Tree.object members).chars.map some ++ rest =
      some '\x7b' :: ((memberChars members).map some ++ some '\x7d' :: rest) := by
    simp [chars]
  have length : (Tree.object members).chars.length = (memberChars members).length + 2 := by
    simp [chars]
  rw [shape]
  cases reads with
  | nil => rfl
  | @cons member raw members raws first others =>
    have took : takeMembers? fuel
        ((memberChars (member :: members)).map some ++ some '\x7d' :: rest) =
          some ((raw :: raws).map rawMember, rest) :=
      takeMembers?_memberChars (.cons first others) (by simp) (by omega)
    rw [takeValue?_brace]
    -- nor does a member begin with the brace that would close an empty object
    split
    · rename_i closed
      rw [← takeMembers?_skipBlanks, closed, takeMembers?_brace] at took
      cases took
    · rw [takeMembers?_skipBlanks, took]
      rfl

/-! ## Whole texts -/

theorem ofText?_of_reads {tree : Tree} {raw : Raw} (reads : tree.Reads raw) :
    Raw.ofText? tree.text = some raw := by
  obtain ⟨left, took, blank⟩ := reads (2 * tree.chars.length + 2) [] (by omega) .nil
  rw [List.append_nil] at took
  rw [Raw.ofText?, text, String.toList_ofList, Raw.ofSymbols?, List.length_map, took]
  exact if_pos (List.isEmpty_iff.2 blank)

end Tree

end Roleplay.Json
