import Roleplay.Proofs.Markup.Pieces

/-! # The walk along the shown text

The walk that finds the events of a line compares the text with what the renderer shows of it.  It
agrees with the renderer as long as no style tag is mimicked: as long as what is shown behind a tag
does not begin with the very characters of the tag.

* `Piece.segment` is the segment that a piece should become;
* `IsMimicked` says that some style tag is mimicked;
* `IsCut.segments_iff` says that the walk finds the right segments exactly if none is;
* `segments_strip_of_closed` says that it does if all brackets are closed or escaped.
-/

namespace Roleplay.Markup

/-! ## The right segments -/

/-- What the walk should make of a piece: style tags are markup and all other groups are genuine. -/
def Piece.segment : Piece → Segment
  | escape bracket => .char bracket
  | char c => .char c
  | style tag => .markup tag
  | group content =>
    match EventTag.read? content with
    | some tag => .tag tag (group content).source
    | none => .text (group content).source

/-- What is shown behind some style tag begins with the characters of the tag. -/
def IsMimicked (cut : List Piece) : Prop :=
  ∃ before tag behind, cut = before ++ Piece.style tag :: behind ∧
    tag <+: behind.flatMap Piece.shown

theorem isMimicked_nil : ¬ IsMimicked [] := by
  rintro ⟨before, tag, behind, split, -⟩
  simp at split

theorem isMimicked_cons {piece : Piece} {cut : List Piece} :
    IsMimicked (piece :: cut) ↔
      (∃ tag, piece = .style tag ∧ tag <+: cut.flatMap Piece.shown) ∨ IsMimicked cut := by
  constructor
  · rintro ⟨before, tag, behind, split, shown⟩
    cases before with
    | nil =>
      obtain ⟨rfl, rfl⟩ := List.cons.inj split
      exact Or.inl ⟨tag, rfl, shown⟩
    | cons first before =>
      obtain ⟨-, rfl⟩ := List.cons.inj split
      exact Or.inr ⟨before, tag, behind, rfl, shown⟩
  · rintro (⟨tag, rfl, shown⟩ | ⟨before, tag, behind, rfl, shown⟩)
    · exact ⟨[], tag, cut, rfl, shown⟩
    · exact ⟨piece :: before, tag, behind, rfl, shown⟩

theorem isMimicked_cons_of_shown {piece : Piece} {cut : List Piece}
    (kept : ∀ tag, piece ≠ .style tag) : IsMimicked (piece :: cut) ↔ IsMimicked cut := by
  rw [isMimicked_cons]
  exact ⟨fun either => either.resolve_left fun ⟨tag, same, _⟩ => kept tag same, Or.inr⟩

theorem isMimicked_cons_style {tag : List Char} {cut : List Piece} :
    IsMimicked (.style tag :: cut) ↔ tag <+: cut.flatMap Piece.shown ∨ IsMimicked cut := by
  simp [isMimicked_cons]

instance decidableIsMimicked : DecidablePred IsMimicked
  | [] => isFalse isMimicked_nil
  | .style _ :: cut =>
    have := decidableIsMimicked cut
    decidable_of_iff' _ isMimicked_cons_style
  | .escape _ :: cut | .char _ :: cut | .group _ :: cut =>
    have := decidableIsMimicked cut
    decidable_of_iff' _ (isMimicked_cons_of_shown (by simp))

/-! ## One step of the walk -/

@[simp] theorem dropShown_cons (c : Char) (shown : List Char) :
    dropShown c (c :: shown) = shown := by
  simp [dropShown]

@[simp] theorem dropShownEscape_cons (bracket : Char) (shown : List Char) :
    dropShownEscape bracket ('\\' :: bracket :: shown) = shown := by
  simp [dropShownEscape]

theorem segments_escape {bracket : Char} (isBracket : bracket = '[' ∨ bracket = ']')
    (rest shown : List Char) :
    segments ('\\' :: bracket :: rest) shown =
      .char bracket :: segments rest (dropShownEscape bracket shown) := by
  rcases isBracket with rfl | rfl <;> rw [segments]

theorem segments_char {c : Char} {rest : List Char} (notOpening : c ≠ '[')
    (opens : ∀ inside, c = '\\' → rest = '[' :: inside → False)
    (closes : ∀ inside, c = '\\' → rest = ']' :: inside → False) (shown : List Char) :
    segments (c :: rest) shown = .char c :: segments rest (dropShown c shown) := by
  rw [segments, if_neg notOpening]
  · exact opens
  · exact closes

theorem segments_opening {rest : List Char} (found : splitGroup? '[' rest = none)
    (shown : List Char) :
    segments ('[' :: rest) shown = .char '[' :: segments rest (dropShown '[' shown) := by
  rw [segments, if_pos rfl]
  · split
    next => rfl
    next other =>
      rw [found] at other
      cases other
  all_goals simp

theorem segments_group {rest content after : List Char}
    (found : splitGroup? '[' rest = some (content, after)) (shown : List Char) :
    segments ('[' :: rest) shown =
      if (Piece.group content).source <+: shown then
        (Piece.group content).segment ::
          segments after (shown.drop (Piece.group content).source.length)
      else .markup (Piece.group content).source :: segments after shown := by
  rw [segments, if_pos rfl]
  · split
    next missing =>
      rw [found] at missing
      cases missing
    next other =>
      rw [found] at other
      cases other
      simp only [List.prefix_iff_eq_take, eq_comm]
      rfl
  all_goals simp

/-- A style tag that the walk takes for a genuine group becomes something else than markup. -/
theorem segment_group_ne_markup (content group : List Char) :
    (Piece.group content).segment ≠ .markup group := by
  simp only [Piece.segment]
  split <;> simp

theorem IsCut.segments_iff {text : List Char} {cut : List Piece} (isCut : IsCut text cut) :
    segments text (strip text) = cut.map Piece.segment ↔ ¬ IsMimicked cut := by
  induction isCut with
  | nil => simp [segments, isMimicked_nil]
  | escape isBracket _ inductionHypothesis =>
    rw [strip_escape isBracket, segments_escape isBracket, dropShownEscape_cons,
      isMimicked_cons_of_shown (by simp), ← inductionHypothesis]
    simp [Piece.segment]
  | @style text tag after others taken isCut inductionHypothesis =>
    obtain ⟨content, rfl, plain, rfl⟩ := styleTag?_inversion taken
    have found := splitGroup?_of_plain plain '['
    rw [strip_style taken, segments_group (found _), isMimicked_cons_style, isCut.flatMap_shown,
      List.map_cons]
    by_cases mimicked : (Piece.group content).source <+: strip after
    · -- the walk takes the tag for a group that is shown
      rw [if_pos mimicked]
      constructor
      · intro same
        exact absurd (List.cons.inj same).1 (segment_group_ne_markup content _)
      · intro neither
        exact absurd (Or.inl mimicked) neither
    · rw [if_neg mimicked, List.cons.injEq, inductionHypothesis, not_or]
      exact and_congr ⟨fun _ => mimicked, fun _ => rfl⟩ Iff.rfl
  | @group rest content after others kept found _ inductionHypothesis =>
    -- the group is shown in full, so the walk finds it there
    have shown : strip ('[' :: rest) = (Piece.group content).source ++ strip after := by
      rw [strip_keeps kept (by simp) (by simp), strip_of_splitGroup? (by simp) found]
      simp [Piece.source]
    rw [shown, segments_group found, if_pos (List.prefix_append _ _), List.drop_left,
      isMimicked_cons_of_shown (by simp), ← inductionHypothesis, List.map_cons, List.cons.injEq]
    exact and_iff_right rfl
  | opening kept found _ inductionHypothesis =>
    rw [strip_keeps kept (by simp) (by simp), segments_opening found, dropShown_cons,
      isMimicked_cons_of_shown (by simp), ← inductionHypothesis]
    simp [Piece.segment]
  | char notOpening opens closes _ inductionHypothesis =>
    rw [strip_keeps (styleTag?_eq_none notOpening _) opens closes,
      segments_char notOpening opens closes, dropShown_cons,
      isMimicked_cons_of_shown (by simp), ← inductionHypothesis]
    simp [Piece.segment]

/-! ## Texts without open brackets -/

/-- What a cut shows begins like a style tag only behind a bracket that is left open: a group with
the characters of a style tag would have been taken out. -/
theorem IsCut.not_prefix_shown {text content : List Char} {cut : List Piece}
    (isCut : IsCut text cut) (closed : Piece.char '[' ∉ cut)
    (plain : ∀ c ∈ content, c ≠ '[' ∧ c ≠ ']')
    (isStyle : ∀ behind, styleTag? ('[' :: (content ++ ']' :: behind)) ≠ none) :
    ¬ '[' :: (content ++ [']']) <+: cut.flatMap Piece.shown := by
  intro shown
  induction isCut with
  | nil => simp at shown
  | escape => simp [Piece.shown, Piece.source] at shown
  | style _ _ inductionHypothesis =>
    exact inductionHypothesis (fun member => closed (List.mem_cons_of_mem _ member)) shown
  | @group rest inside after others kept found _ _ =>
    obtain ⟨behind, joined⟩ := shown
    have contentPlain : ∀ c ∈ content, decide (c ≠ ']') = true :=
      fun c member => decide_eq_true (plain c member).2
    have insidePlain : ∀ c ∈ inside, decide (c ≠ ']') = true := fun c member =>
      decide_eq_true fun closing => closing_notMem_of_splitGroup?_eq_some found (closing ▸ member)
    -- both groups end at their first closing bracket
    have same : content = inside := by
      have cutAt := congrArg (fun text => (text.drop 1).takeWhile (· ≠ ']')) joined
      simp only [List.flatMap_cons, Piece.shown, Piece.source, List.cons_append, List.drop_one,
        List.tail_cons, List.append_assoc] at cutAt
      rwa [takeWhile_closed (by simp), takeWhile_closed (by simp),
        List.takeWhile_eq_self_iff.2 contentPlain, List.takeWhile_eq_self_iff.2 insidePlain]
        at cutAt
    subst same
    rw [← append_of_splitGroup?_eq_some found] at kept
    exact isStyle after kept
  | opening => exact closed (List.mem_cons_self ..)
  | char notOpening =>
    obtain ⟨same, -⟩ := List.cons_prefix_cons.1 shown
    exact notOpening same.symm

theorem IsCut.not_isMimicked_of_closed {text : List Char} {cut : List Piece}
    (isCut : IsCut text cut) (closed : Piece.char '[' ∉ cut) : ¬ IsMimicked cut := by
  induction isCut with
  | nil => exact isMimicked_nil
  | escape _ _ inductionHypothesis | group _ _ _ inductionHypothesis
  | opening _ _ _ inductionHypothesis | char _ _ _ _ inductionHypothesis =>
    rw [isMimicked_cons_of_shown (by simp)]
    exact inductionHypothesis fun member => closed (List.mem_cons_of_mem _ member)
  | style taken isCut inductionHypothesis =>
    have closedBehind := fun member => closed (List.mem_cons_of_mem _ member)
    obtain ⟨content, rfl, plain, rfl⟩ := styleTag?_inversion taken
    rw [isMimicked_cons_style, not_or]
    refine ⟨isCut.not_prefix_shown closedBehind plain fun behind missing => ?_,
      inductionHypothesis closedBehind⟩
    rw [styleTag?_closed taken] at missing
    cases missing

/-- In a text whose bracket groups are all closed or escaped the walk agrees with the renderer. -/
theorem segments_strip_of_closed {text : List Char} (closed : Piece.char '[' ∉ pieces text) :
    segments text (strip text) = (pieces text).map Piece.segment :=
  (isCut_pieces text).segments_iff.2 ((isCut_pieces text).not_isMimicked_of_closed closed)

end Roleplay.Markup
