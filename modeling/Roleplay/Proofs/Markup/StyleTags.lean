import Roleplay.Proofs.Markup.EventTags

/-! # The grammar of style tags

What a style tag is, as a grammar, and the one way in which a text is cut from left to right into
escaped brackets, style tags and single characters.

* `IsStyleTag` is the grammar of the tags, and `styleTag?_eq_some_iff` says that the reader takes
  just these off the front of a text;
* `IsTokens` cuts a text; `exists_isTokens` and `IsTokens.unique` say that there is one way to cut;
* `IsTokens.strip_eq` says that stripping deletes just the style tags that the cut finds;
* `strip_tokens` puts this together, with the event tags that stripping keeps.
-/

namespace Roleplay.Markup

open Roleplay.Text Roleplay.Decimal

/-! ## The grammar -/

/-- An optional parameter, with the separators that set it off from the name. -/
inductive IsParameter : List Char → Prop
  | none : IsParameter []
  | some {separators value : List Char} : separators ≠ [] →
      (∀ c ∈ separators, c = ' ' ∨ c = '=') → (∀ c ∈ value, c ≠ ']' ∧ c ≠ '[' ∧ c ≠ '\n') →
      IsParameter (separators ++ value)

/-- A style tag.  Its name ends where the parameter or the bracket begins, neither of which can go
on with it. -/
inductive IsStyleTag : List Char → Prop
  | mk {slash name parameter : List Char} : slash = [] ∨ slash = ['/'] →
      (∀ c ∈ name, c.isAlphanum = true ∨ c = '_') → (∃ known ∈ knownTags, IsWord known name) →
      IsParameter parameter → IsStyleTag ('[' :: (slash ++ name ++ parameter ++ [']']))

/-! ## Reading style tags -/

variable {text rest tag : List Char}

theorem isNameChar_iff {c : Char} : isNameChar c = true ↔ c.isAlphanum = true ∨ c = '_' := by
  simp [isNameChar]

theorem isSeparator_iff {c : Char} : isSeparator c = true ↔ c = ' ' ∨ c = '=' := by
  simp [isSeparator]

theorem isParameterChar_iff {c : Char} :
    isParameterChar c = true ↔ c ≠ ']' ∧ c ≠ '[' ∧ c ≠ '\n' := by
  simp [isParameterChar, and_assoc]

theorem isKnownTag_iff {name : List Char} :
    isKnownTag name = true ↔ ∃ known ∈ knownTags, IsWord known name := by
  simp only [isKnownTag, sameIgnoringCase, List.any_eq_true, beq_iff_eq, IsWord]
  exact exists_congr fun known => and_congr_right fun _ => eq_comm

theorem ne_nil_of_known {name : List Char} (known : ∃ known ∈ knownTags, IsWord known name) :
    name ≠ [] := by
  rintro rfl
  have named : ∀ known ∈ knownTags, known.toList.map lowercase ≠ [] := by decide +kernel
  obtain ⟨keyword, member, isWord⟩ := known
  exact named keyword member isWord.symm

theorem isParameter_splitParameter (text : List Char) : IsParameter (splitParameter text).1 := by
  unfold splitParameter
  dsimp only
  split
  next => exact .none
  next some =>
    exact .some (by simpa using some)
      (fun _ member => isSeparator_iff.1 (List.mem_takeWhile_imp member))
      fun _ member => isParameterChar_iff.1 (List.mem_takeWhile_imp member)

section Parameter

variable {parameter : List Char} (isParameter : IsParameter parameter)

include isParameter

/-- A parameter is split off as a whole, wherever its value is taken to begin. -/
theorem IsParameter.splitParameter_eq :
    splitParameter parameter = (parameter, []) := by
  cases isParameter with
  | none => rfl
  | @some separators value some separate inValue =>
    have front : (separators ++ value).takeWhile isSeparator ≠ [] := by
      rw [List.takeWhile_append_of_pos fun c member => isSeparator_iff.2 (separate c member)]
      simp [some]
    have valid : ∀ c ∈ (separators ++ value).dropWhile isSeparator, isParameterChar c = true := by
      intro c member
      rw [List.dropWhile_append_of_pos fun c member => isSeparator_iff.2 (separate c member)]
        at member
      exact isParameterChar_iff.2 (inValue c ((List.dropWhile_suffix _).subset member))
    rw [splitParameter, if_neg (by simpa using front), List.takeWhile_eq_self_iff.2 valid,
      List.dropWhile_eq_nil_iff.2 valid, List.takeWhile_append_dropWhile]

/-- Neither a parameter nor nothing goes on with a name. -/
theorem IsParameter.begins : Begins (fun c => isNameChar c = false) parameter := by
  cases isParameter with
  | none => exact begins_nil
  | some some separate _ =>
    refine Begins.append (begins_of_forall fun c member => ?_) fun none => absurd none some
    obtain rfl | rfl := separate c member <;> rfl

end Parameter

theorem isStyleTag_of_styleTag? (found : styleTag? text = some (tag, rest)) : IsStyleTag tag := by
  unfold styleTag? at found
  split at found
  next text =>
    dsimp only at found
    split at found
    next known =>
      split at found
      next =>
        cases found
        have slash : (splitSlash text).1 = [] ∨ (splitSlash text).1 = ['/'] := by
          unfold splitSlash
          split <;> simp
        exact .mk slash (fun _ member => isNameChar_iff.1 (List.mem_takeWhile_imp member))
          (isKnownTag_iff.1 (Bool.and_eq_true_iff.1 known).2) (isParameter_splitParameter _)
      next => cases found
    next => cases found
  next => cases found

theorem IsStyleTag.styleTag?_append (isStyleTag : IsStyleTag tag) (rest : List Char) :
    styleTag? (tag ++ rest) = some (tag, rest) := by
  obtain ⟨slash, named, known, isParameter⟩ := isStyleTag
  rename_i sign name parameter
  have notEmpty : name ≠ [] := ne_nil_of_known known
  have nameChars : ∀ c ∈ name, isNameChar c = true :=
    fun c member => isNameChar_iff.2 (named c member)
  have splitsSlash : splitSlash (sign ++ name ++ parameter) = (sign, name ++ parameter) := by
    obtain rfl | rfl := slash
    · -- the name holds a first character, which is no slash
      obtain ⟨first, others, rfl⟩ := List.exists_cons_of_ne_nil notEmpty
      rw [List.nil_append, List.cons_append, splitSlash]
      rintro _ same
      have notSlash := nameChars first List.mem_cons_self
      rw [(List.cons.inj same).1] at notSlash
      exact absurd notSlash (by decide)
    · rfl
  have endsName : parameter.takeWhile isNameChar = [] ∧
      parameter.dropWhile isNameChar = parameter := by
    cases parameter with
    | nil => exact ⟨rfl, rfl⟩
    | cons c others =>
      have other := begins_cons.1 isParameter.begins
      exact ⟨List.takeWhile_cons_of_neg (by simp [other]),
        List.dropWhile_cons_of_neg (by simp [other])⟩
  -- nothing of the tag reads across its closing bracket
  have whole : '[' :: (sign ++ name ++ parameter ++ [']']) ++ rest =
      '[' :: (sign ++ name ++ parameter ++ ']' :: rest) := by simp
  have closing : isNameChar ']' = false := by decide
  simp only [whole, styleTag?, splitSlash_closed, takeWhile_closed closing,
    dropWhile_closed closing, splitParameter_closed, splitsSlash,
    List.takeWhile_append_of_pos nameChars, List.dropWhile_append_of_pos nameChars, endsName,
    List.append_nil, isParameter.splitParameter_eq, List.nil_append]
  rw [if_pos]
  simp [notEmpty, isKnownTag_iff.2 known]

/-- The reader takes just the style tags of the grammar off the front of a text. -/
theorem styleTag?_eq_some_iff :
    styleTag? text = some (tag, rest) ↔ text = tag ++ rest ∧ IsStyleTag tag := by
  constructor
  · intro found
    exact ⟨(append_of_styleTag?_eq_some found).symm, isStyleTag_of_styleTag? found⟩
  · rintro ⟨rfl, isStyleTag⟩
    exact isStyleTag.styleTag?_append rest

/-! ## Cutting a text -/

/-- A text cut from left to right.  An escaped bracket is taken first, then a style tag, and a
single character only where neither stands. -/
inductive IsTokens : List Char → List Piece → Prop
  | nil : IsTokens [] []
  | escape {bracket : Char} {rest : List Char} {tokens : List Piece} :
      bracket = '[' ∨ bracket = ']' → IsTokens rest tokens →
      IsTokens ('\\' :: bracket :: rest) (.escape bracket :: tokens)
  | style {tag rest : List Char} {tokens : List Piece} : IsStyleTag tag → IsTokens rest tokens →
      IsTokens (tag ++ rest) (.style tag :: tokens)
  | char {c : Char} {rest : List Char} {tokens : List Piece} :
      (∀ bracket after, bracket = '[' ∨ bracket = ']' → c :: rest ≠ '\\' :: bracket :: after) →
      (∀ tag, IsStyleTag tag → ¬tag <+: c :: rest) → IsTokens rest tokens →
      IsTokens (c :: rest) (.char c :: tokens)

theorem styleTag?_eq_none_iff :
    styleTag? text = none ↔ ∀ tag, IsStyleTag tag → ¬tag <+: text := by
  constructor
  · rintro missing tag isStyleTag ⟨rest, rfl⟩
    rw [isStyleTag.styleTag?_append rest] at missing
    cases missing
  · intro never
    rw [Option.eq_none_iff_forall_ne_some]
    rintro ⟨tag, rest⟩ found
    obtain ⟨rfl, isStyleTag⟩ := styleTag?_eq_some_iff.1 found
    exact never tag isStyleTag (List.prefix_append tag rest)

theorem exists_isTokens (text : List Char) : ∃ tokens, IsTokens text tokens := by
  induction text using strip.induct with
  | case1 => exact ⟨[], .nil⟩
  | case2 rest inductionHypothesis =>
    obtain ⟨tokens, isTokens⟩ := inductionHypothesis
    exact ⟨_, .escape (Or.inl rfl) isTokens⟩
  | case3 rest inductionHypothesis =>
    obtain ⟨tokens, isTokens⟩ := inductionHypothesis
    exact ⟨_, .escape (Or.inr rfl) isTokens⟩
  | case4 c rest opens closes tag after taken inductionHypothesis =>
    obtain ⟨tokens, isTokens⟩ := inductionHypothesis
    obtain ⟨whole, isStyleTag⟩ := styleTag?_eq_some_iff.1 taken
    rw [whole]
    exact ⟨_, .style isStyleTag isTokens⟩
  | case5 c rest opens closes kept inductionHypothesis =>
    obtain ⟨tokens, isTokens⟩ := inductionHypothesis
    refine ⟨_, .char ?_ (styleTag?_eq_none_iff.1 kept) isTokens⟩
    rintro bracket after (rfl | rfl) same
    · exact opens after (List.cons.inj same).1 (List.cons.inj same).2
    · exact closes after (List.cons.inj same).1 (List.cons.inj same).2

theorem IsStyleTag.exists_cons (isStyleTag : IsStyleTag tag) : ∃ inside, tag = '[' :: inside := by
  obtain ⟨-⟩ := isStyleTag
  exact ⟨_, rfl⟩

section Tokens

variable {tokens others : List Piece}

/-- There is one way to cut a text. -/
theorem IsTokens.unique (first : IsTokens text tokens) (second : IsTokens text others) :
    tokens = others := by
  induction first generalizing others with
  | nil =>
    generalize whole : ([] : List Char) = text at second
    cases second with
    | nil => rfl
    | style isStyleTag _ =>
      obtain ⟨inside, rfl⟩ := isStyleTag.exists_cons
      cases whole
    | escape | char => cases whole
  | @escape bracket rest _ isBracket _ inductionHypothesis =>
    generalize whole : '\\' :: bracket :: rest = text at second
    cases second with
    | nil => cases whole
    | escape _ behind =>
      cases whole
      rw [inductionHypothesis behind]
    | style isStyleTag _ =>
      obtain ⟨inside, rfl⟩ := isStyleTag.exists_cons
      cases whole
    | char unescaped _ _ => exact absurd whole.symm (unescaped bracket rest isBracket)
  | @style tag rest _ isStyleTag _ inductionHypothesis =>
    generalize whole : tag ++ rest = text at second
    cases second with
    | nil =>
      obtain ⟨inside, rfl⟩ := isStyleTag.exists_cons
      cases whole
    | escape _ _ =>
      obtain ⟨inside, rfl⟩ := isStyleTag.exists_cons
      cases whole
    | @style other after _ isOther behind =>
      -- the reader finds one tag at the front of the text
      have read := isStyleTag.styleTag?_append rest
      rw [whole, isOther.styleTag?_append after] at read
      cases read
      rw [inductionHypothesis behind]
    | char _ never _ => exact absurd ⟨rest, whole⟩ (never tag isStyleTag)
  | @char c rest _ unescaped never _ inductionHypothesis =>
    generalize whole : c :: rest = text at second
    cases second with
    | nil => cases whole
    | @escape bracket after _ isBracket _ => exact absurd whole (unescaped bracket after isBracket)
    | @style tag after _ isStyleTag _ => exact absurd ⟨after, whole.symm⟩ (never tag isStyleTag)
    | char _ _ behind =>
      cases whole
      rw [inductionHypothesis behind]

/-- Nothing is lost by cutting, and stripping deletes just the style tags. -/
theorem IsTokens.strip_eq (isTokens : IsTokens text tokens) :
    tokens.flatMap Piece.source = text ∧ strip text = tokens.flatMap Piece.shown := by
  induction isTokens with
  | nil => exact ⟨rfl, by rw [strip]; rfl⟩
  | @escape bracket rest _ isBracket _ inductionHypothesis =>
    rw [List.flatMap_cons, List.flatMap_cons, strip_escape isBracket, inductionHypothesis.1,
      inductionHypothesis.2]
    exact ⟨rfl, rfl⟩
  | @style tag rest _ isStyleTag _ inductionHypothesis =>
    rw [List.flatMap_cons, List.flatMap_cons, strip_style (isStyleTag.styleTag?_append rest),
      inductionHypothesis.1, inductionHypothesis.2]
    exact ⟨rfl, rfl⟩
  | @char c rest _ unescaped never _ inductionHypothesis =>
    have opens (inside : List Char) (escape : c = '\\') (bracket : rest = '[' :: inside) : False :=
      unescaped '[' inside (Or.inl rfl) (by rw [escape, bracket])
    have closes (inside : List Char) (escape : c = '\\') (bracket : rest = ']' :: inside) : False :=
      unescaped ']' inside (Or.inr rfl) (by rw [escape, bracket])
    rw [List.flatMap_cons, List.flatMap_cons,
      strip_keeps (styleTag?_eq_none_iff.2 never) opens closes, inductionHypothesis.1,
      inductionHypothesis.2]
    exact ⟨rfl, rfl⟩

end Tokens

/-- Every text is cut in one way into escaped brackets, style tags and single characters, and
stripping deletes just the style tags of this cut.  No event tag is among them: whatever follows it,
a group whose content is read as an event tag is no style tag, and stripping leaves it. -/
theorem strip_tokens :
    (∀ text : List Char, ∃ tokens : List Piece, IsTokens text tokens ∧
      (∀ others, IsTokens text others → others = tokens) ∧
      tokens.flatMap Piece.source = text ∧ strip text = tokens.flatMap Piece.shown) ∧
    ∀ (content after : List Char) (tag : EventTag), (∀ c ∈ content, c ≠ '[' ∧ c ≠ ']') →
      EventTag.read? content = some tag →
      styleTag? ('[' :: (content ++ ']' :: after)) = none ∧
        strip ('[' :: (content ++ ']' :: after)) = '[' :: (content ++ ']' :: strip after) := by
  refine ⟨fun text => ?_, fun content after tag plain read => ?_⟩
  · obtain ⟨tokens, isTokens⟩ := exists_isTokens text
    exact ⟨tokens, isTokens, fun others isOthers => isOthers.unique isTokens, isTokens.strip_eq⟩
  · have kept := styleTag?_of_read? read after
    have found := splitGroup?_of_plain plain '[' after
    refine ⟨kept, ?_⟩
    rw [strip_keeps kept (by simp) (by simp), strip_of_splitGroup? (by simp) found]

/-- A tag with two separators, an escaped bracket, and a tag behind a change of speed. -/
def warning : List Char := "[COLOR= =red]\\[b][speed=2][/i]!".toList

theorem strip_tokens_warning :
    (∃ tokens, IsTokens warning tokens ∧
      tokens.flatMap Piece.shown = "\\[b][speed=2]!".toList) ∧
    EventTag.read? "speed=2".toList = some (.speed 2) ∧
      strip "[speed=2][/i]!".toList = "[speed=2]!".toList := by
  obtain ⟨cut, keeps⟩ := strip_tokens
  obtain ⟨tokens, isTokens, -, -, shown⟩ := cut warning
  have read : EventTag.read? "speed=2".toList = some (.speed 2) := by decide +kernel
  have plain : ∀ c ∈ "speed=2".toList, c ≠ '[' ∧ c ≠ ']' := by simp
  have kept := keeps "speed=2".toList "[/i]!".toList _ plain read
  refine ⟨⟨tokens, isTokens, shown.symm.trans (by decide +kernel)⟩, read, ?_⟩
  exact kept.2.trans (by decide +kernel)

end Roleplay.Markup
