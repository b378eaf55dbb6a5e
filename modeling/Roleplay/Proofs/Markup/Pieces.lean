import Mathlib.Data.List.TakeWhile
import Roleplay.Markup.Event

/-! # Pieces of a marked-up text

How the renderer reads a text: as escaped brackets, style tags, other bracket groups and single
characters, one after the other.

* `pieces` cuts a text in this way, and `IsCut` is the same as a relation (`isCut_pieces`);
* `IsCut.flatMap_source` says that nothing is lost or changed by cutting;
* `IsCut.flatMap_shown` says that `strip` takes out the style tags and keeps all other pieces as
  they are.
-/

namespace Roleplay.Markup

/-! ## Groups and style tags -/

theorem splitGroup?_cons {previous c : Char} (notClosing : c ≠ ']') (rest : List Char) :
    splitGroup? previous (c :: rest) =
      if c = '[' ∧ previous ≠ '\\' then none
      else (splitGroup? c rest).map fun (content, after) => (c :: content, after) := by
  rw [splitGroup?]
  exact notClosing

/-- A group ends at once, or it goes on with a character that does not open another one. -/
theorem splitGroup?_inversion {previous c : Char} {rest content after : List Char}
    (found : splitGroup? previous (c :: rest) = some (content, after)) :
    (c = ']' ∧ content = [] ∧ after = rest) ∨
      (c ≠ ']' ∧ (c = '[' → previous = '\\') ∧
        ∃ inner, content = c :: inner ∧ splitGroup? c rest = some (inner, after)) := by
  by_cases closing : c = ']'
  · subst closing
    cases found
    exact Or.inl ⟨rfl, rfl, rfl⟩
  · rw [splitGroup?_cons closing] at found
    split at found
    next => cases found
    next opens =>
      obtain ⟨⟨inner, behind⟩, innerFound, same⟩ := Option.map_eq_some_iff.1 found
      cases same
      refine Or.inr ⟨closing, fun opening => ?_, inner, rfl, innerFound⟩
      by_contra escaped
      exact opens ⟨opening, escaped⟩

theorem append_of_splitGroup?_eq_some {previous : Char} {text content after : List Char}
    (found : splitGroup? previous text = some (content, after)) :
    content ++ ']' :: after = text := by
  induction text generalizing previous content with
  | nil => cases found
  | cons c rest inductionHypothesis =>
    rcases splitGroup?_inversion found with ⟨rfl, rfl, rfl⟩ | ⟨-, -, inner, rfl, innerFound⟩
    · rfl
    · rw [List.cons_append, inductionHypothesis innerFound]

theorem closing_notMem_of_splitGroup?_eq_some {previous : Char} {text content after : List Char}
    (found : splitGroup? previous text = some (content, after)) : ']' ∉ content := by
  induction text generalizing previous content with
  | nil => cases found
  | cons c rest inductionHypothesis =>
    rcases splitGroup?_inversion found with ⟨-, rfl, -⟩ | ⟨notClosing, -, inner, rfl, innerFound⟩
    · exact List.not_mem_nil
    · rw [List.mem_cons, not_or]
      exact ⟨notClosing.symm, inductionHypothesis innerFound⟩

/-- Without brackets inside, a group ends at its first closing bracket. -/
theorem splitGroup?_of_plain {content : List Char} (plain : ∀ c ∈ content, c ≠ '[' ∧ c ≠ ']')
    (previous : Char) (after : List Char) :
    splitGroup? previous (content ++ ']' :: after) = some (content, after) := by
  induction content generalizing previous with
  | nil => rfl
  | cons c content inductionHypothesis =>
    rw [List.forall_mem_cons] at plain
    obtain ⟨⟨notOpening, notClosing⟩, others⟩ := plain
    rw [List.cons_append, splitGroup?]
    · rw [if_neg fun opens => notOpening opens.1, inductionHypothesis others]
      rfl
    · intro closes
      exact notClosing closes

/-- What stands between the brackets of a style tag. -/
def styleContent (text : List Char) : List Char :=
  let afterSlash := (splitSlash text).2
  (splitSlash text).1 ++ afterSlash.takeWhile isNameChar ++
    (splitParameter (afterSlash.dropWhile isNameChar)).1

theorem plain_of_isNameChar {c : Char} (name : isNameChar c = true) : c ≠ '[' ∧ c ≠ ']' := by
  constructor <;> rintro rfl <;> exact absurd name (by decide)

theorem plain_styleContent {text : List Char} :
    ∀ c ∈ styleContent text, c ≠ '[' ∧ c ≠ ']' := by
  intro c member
  rw [styleContent, List.append_assoc, List.mem_append, List.mem_append] at member
  rcases member with slash | name | parameter
  · unfold splitSlash at slash
    split at slash
    next => simp_all
    next => cases slash
  · exact plain_of_isNameChar (List.mem_takeWhile_imp name)
  · unfold splitParameter at parameter
    dsimp only at parameter
    split at parameter
    next => cases parameter
    next =>
      cases List.mem_append.1 parameter with
      | inl separator =>
        have holds := List.mem_takeWhile_imp separator
        constructor <;> rintro rfl <;> exact absurd holds (by decide)
      | inr inParameter =>
        have holds := List.mem_takeWhile_imp inParameter
        constructor <;> rintro rfl <;> exact absurd holds (by decide)

theorem styleTag?_inversion {text tag after : List Char}
    (found : styleTag? text = some (tag, after)) :
    ∃ content, tag = '[' :: (content ++ [']']) ∧ (∀ c ∈ content, c ≠ '[' ∧ c ≠ ']') ∧
      text = '[' :: (content ++ ']' :: after) := by
  have joined := append_of_styleTag?_eq_some found
  unfold styleTag? at found
  split at found
  next text =>
    dsimp only at found
    split at found
    next =>
      split at found
      next =>
        cases found
        refine ⟨styleContent text, rfl, plain_styleContent, ?_⟩
        rw [← joined]
        simp [styleContent]
      next => cases found
    next => cases found
  next => cases found

/-! ## Style tags by their content -/

section Closed

variable {p : Char → Bool} {content : List Char}

theorem takeWhile_closed (closing : p ']' = false) (after : List Char) :
    (content ++ ']' :: after).takeWhile p = content.takeWhile p := by
  induction content with
  | nil => simp [closing]
  | cons c content inductionHypothesis =>
    simp only [List.cons_append, List.takeWhile_cons, inductionHypothesis]

theorem dropWhile_closed (closing : p ']' = false) (after : List Char) :
    (content ++ ']' :: after).dropWhile p = content.dropWhile p ++ ']' :: after := by
  induction content with
  | nil => simp [closing]
  | cons c content inductionHypothesis =>
    simp only [List.cons_append, List.dropWhile_cons, inductionHypothesis]
    split <;> rfl

theorem splitSlash_closed (after : List Char) :
    splitSlash (content ++ ']' :: after) =
      ((splitSlash content).1, (splitSlash content).2 ++ ']' :: after) := by
  unfold splitSlash
  cases content with
  | nil => rfl
  | cons c content =>
    rw [List.cons_append]
    split <;> simp_all

theorem splitParameter_closed (after : List Char) :
    splitParameter (content ++ ']' :: after) =
      ((splitParameter content).1, (splitParameter content).2 ++ ']' :: after) := by
  have separators : isSeparator ']' = false := by decide
  have parameter : isParameterChar ']' = false := by decide
  simp only [splitParameter, takeWhile_closed separators, dropWhile_closed separators,
    takeWhile_closed parameter, dropWhile_closed parameter]
  split <;> rfl

/-- Whatever follows it, a style tag is read as one. -/
theorem styleTag?_closed {after : List Char}
    (taken : styleTag? ('[' :: (content ++ ']' :: after)) =
      some ('[' :: (content ++ [']']), after)) (behind : List Char) :
    styleTag? ('[' :: (content ++ ']' :: behind)) = some ('[' :: (content ++ [']']), behind) := by
  have name : isNameChar ']' = false := by decide
  simp only [styleTag?, splitSlash_closed, takeWhile_closed name, dropWhile_closed name,
    splitParameter_closed] at taken ⊢
  split at taken
  next known =>
    rw [if_pos known]
    cases left : (splitParameter ((splitSlash content).2.dropWhile isNameChar)).2 with
    | nil =>
      simp only [left, List.nil_append, Option.some.injEq, Prod.mk.injEq] at taken ⊢
      exact ⟨taken.1, trivial⟩
    | cons c others =>
      -- the tag would have ended before the closing bracket
      rw [left, List.cons_append] at taken
      split at taken
      next early =>
        obtain ⟨-, rfl⟩ := List.cons.inj early
        have shorter := congrArg (fun result => result.map (·.2.length)) taken
        simp only [Option.map_some, Option.some.injEq, List.length_append, List.length_cons]
          at shorter
        omega
      next => cases taken
  next => cases taken

end Closed

/-! ## Pieces -/

inductive Piece where
  /-- A backslash and the bracket that it keeps from being read as one. -/
  | escape (bracket : Char)
  | char (c : Char)
  | style (tag : List Char)
  /-- A group that is no style tag, by what stands between its brackets. -/
  | group (content : List Char)
deriving DecidableEq

namespace Piece

def source : Piece → List Char
  | escape bracket => ['\\', bracket]
  | char c => [c]
  | style tag => tag
  | group content => '[' :: (content ++ [']'])

/-- What the renderer leaves of a piece. -/
def shown : Piece → List Char
  | style _ => []
  | piece => piece.source

end Piece

/-- Cuts a text as the renderer reads it. -/
def pieces (text : List Char) : List Piece :=
  match text with
  | [] => []
  | '\\' :: '[' :: rest => .escape '[' :: pieces rest
  | '\\' :: ']' :: rest => .escape ']' :: pieces rest
  | c :: rest =>
    match _taken : styleTag? (c :: rest) with
    | some (tag, after) => .style tag :: pieces after
    | none =>
      if c = '[' then
        match _found : splitGroup? '[' rest with
        | some (content, after) => .group content :: pieces after
        | none => .char c :: pieces rest
      else .char c :: pieces rest
termination_by text.length
decreasing_by
  all_goals first
    | exact length_lt_of_styleTag?_eq_some _taken
    | (have shorter := length_lt_of_splitGroup?_eq_some _found
       simp only [List.length_cons]; omega)
    | (simp only [List.length_cons]; omega)

/-- The reading of a text, piece by piece, with what is known of each. -/
inductive IsCut : List Char → List Piece → Prop
  | nil : IsCut [] []
  | escape {bracket : Char} {rest : List Char} {others : List Piece} :
      bracket = '[' ∨ bracket = ']' → IsCut rest others →
        IsCut ('\\' :: bracket :: rest) (.escape bracket :: others)
  | style {text tag after : List Char} {others : List Piece} :
      styleTag? text = some (tag, after) → IsCut after others → IsCut text (.style tag :: others)
  | group {rest content after : List Char} {others : List Piece} :
      styleTag? ('[' :: rest) = none → splitGroup? '[' rest = some (content, after) →
        IsCut after others → IsCut ('[' :: rest) (.group content :: others)
  | opening {rest : List Char} {others : List Piece} :
      styleTag? ('[' :: rest) = none → splitGroup? '[' rest = none →
        IsCut rest others → IsCut ('[' :: rest) (.char '[' :: others)
  | char {c : Char} {rest : List Char} {others : List Piece} :
      c ≠ '[' → (∀ inside, c = '\\' → rest = '[' :: inside → False) →
        (∀ inside, c = '\\' → rest = ']' :: inside → False) →
        IsCut rest others → IsCut (c :: rest) (.char c :: others)

theorem isCut_pieces (text : List Char) : IsCut text (pieces text) := by
  fun_induction pieces text with
  | case1 => exact .nil
  | case2 rest inductionHypothesis => exact .escape (Or.inl rfl) inductionHypothesis
  | case3 rest inductionHypothesis => exact .escape (Or.inr rfl) inductionHypothesis
  | case4 c rest _ _ tag after taken inductionHypothesis => exact .style taken inductionHypothesis
  | case5 rest content after found _ _ taken inductionHypothesis =>
    exact .group taken found inductionHypothesis
  | case6 rest found _ _ taken inductionHypothesis => exact .opening taken found inductionHypothesis
  | case7 c rest opens closes _ notOpening inductionHypothesis =>
    exact .char notOpening opens closes inductionHypothesis

variable {text : List Char} {cut : List Piece}

/-- Nothing is lost or changed by cutting. -/
theorem IsCut.flatMap_source (isCut : IsCut text cut) : cut.flatMap Piece.source = text := by
  induction isCut with
  | nil => rfl
  | escape _ _ inductionHypothesis =>
    rw [List.flatMap_cons, inductionHypothesis]
    rfl
  | style taken _ inductionHypothesis =>
    rw [List.flatMap_cons, inductionHypothesis]
    exact append_of_styleTag?_eq_some taken
  | group _ found _ inductionHypothesis =>
    rw [List.flatMap_cons, inductionHypothesis, ← append_of_splitGroup?_eq_some found]
    simp [Piece.source]
  | opening _ _ _ inductionHypothesis =>
    rw [List.flatMap_cons, inductionHypothesis]
    rfl
  | char _ _ _ _ inductionHypothesis =>
    rw [List.flatMap_cons, inductionHypothesis]
    rfl

/-! ## Stripping -/

theorem strip_escape {bracket : Char} (isBracket : bracket = '[' ∨ bracket = ']')
    (rest : List Char) : strip ('\\' :: bracket :: rest) = '\\' :: bracket :: strip rest := by
  rcases isBracket with rfl | rfl <;> rw [strip]

theorem strip_style {text tag after : List Char} (taken : styleTag? text = some (tag, after)) :
    strip text = strip after := by
  obtain ⟨content, -, -, rfl⟩ := styleTag?_inversion taken
  rw [strip]
  · split
    next found =>
      rw [taken] at found
      cases found
      rfl
    next missing =>
      rw [taken] at missing
      cases missing
  all_goals simp

theorem strip_keeps {c : Char} {rest : List Char} (kept : styleTag? (c :: rest) = none)
    (opens : ∀ inside, c = '\\' → rest = '[' :: inside → False)
    (closes : ∀ inside, c = '\\' → rest = ']' :: inside → False) :
    strip (c :: rest) = c :: strip rest := by
  rw [strip]
  · split
    next found =>
      rw [kept] at found
      cases found
    next => rfl
  · exact opens
  · exact closes

theorem styleTag?_eq_none {c : Char} (notOpening : c ≠ '[') (rest : List Char) :
    styleTag? (c :: rest) = none := by
  unfold styleTag?
  split
  next same => exact absurd (List.cons.inj same).1 notOpening
  next => rfl

/-- Inside a group no bracket opens another one, so that all of it is kept. -/
theorem strip_of_splitGroup? {previous : Char} {text content after : List Char}
    (begun : previous = '\\' → ∀ inside, text ≠ '[' :: inside)
    (found : splitGroup? previous text = some (content, after)) :
    strip text = content ++ ']' :: strip after := by
  induction text using strip.induct generalizing previous content with
  | case1 => cases found
  | case2 rest inductionHypothesis =>
    -- the group goes on behind an escaped opening bracket
    obtain ⟨closing, -, -⟩ | ⟨-, -, inner, rfl, escaped⟩ := splitGroup?_inversion found
    · cases closing
    obtain ⟨closing, -, -⟩ | ⟨-, -, inner, rfl, innerFound⟩ := splitGroup?_inversion escaped
    · cases closing
    rw [strip_escape (Or.inl rfl), inductionHypothesis (by simp) innerFound]
    rfl
  | case3 rest =>
    -- but it ends at a closing bracket, escaped or not
    obtain ⟨closing, -, -⟩ | ⟨-, -, inner, rfl, escaped⟩ := splitGroup?_inversion found
    · cases closing
    cases escaped
    rw [strip_escape (Or.inr rfl)]
    rfl
  | case4 c rest _ _ tag behind taken =>
    obtain ⟨inside, -, -, opening⟩ := styleTag?_inversion taken
    obtain ⟨rfl, -⟩ := List.cons.inj opening
    obtain ⟨closing, -, -⟩ | ⟨-, escaped, -⟩ := splitGroup?_inversion found
    · cases closing
    · exact absurd rfl (begun (escaped rfl) rest)
  | case5 c rest opens closes kept inductionHypothesis =>
    rw [strip_keeps kept opens closes]
    rcases splitGroup?_inversion found with ⟨rfl, rfl, rfl⟩ | ⟨-, -, inner, rfl, innerFound⟩
    · rfl
    · rw [inductionHypothesis (fun escape inside same => opens inside escape same) innerFound]
      rfl

/-- Stripping takes out the style tags and keeps all other pieces as they are. -/
theorem IsCut.flatMap_shown (isCut : IsCut text cut) : cut.flatMap Piece.shown = strip text := by
  induction isCut with
  | nil => rw [strip]; rfl
  | escape isBracket _ inductionHypothesis =>
    rw [List.flatMap_cons, inductionHypothesis, strip_escape isBracket]
    rfl
  | style taken _ inductionHypothesis =>
    rw [List.flatMap_cons, inductionHypothesis, strip_style taken]
    rfl
  | group kept found _ inductionHypothesis =>
    rw [List.flatMap_cons, inductionHypothesis, strip_keeps kept (by simp) (by simp),
      strip_of_splitGroup? (by simp) found]
    simp [Piece.shown, Piece.source]
  | opening kept _ _ inductionHypothesis =>
    rw [List.flatMap_cons, inductionHypothesis, strip_keeps kept (by simp) (by simp)]
    rfl
  | char notOpening opens closes _ inductionHypothesis =>
    rw [List.flatMap_cons, inductionHypothesis,
      strip_keeps (styleTag?_eq_none notOpening _) opens closes]
    rfl

end Roleplay.Markup
