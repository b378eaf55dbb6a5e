import Roleplay.Proofs.Session.Delivery

/-! # Which events become due

An event is due once the renderer shows as many characters as were counted before it.  What the
renderer shows is the displayed text without its style tags.  The displayed text is not the authored
one: escaped brackets have lost their backslashes and numbers have become the texts that they stand
for, so that the renderer may find tags where characters were counted.

* `Emission.marks` are the displayed characters, each with whether it is counted;
* `OpensTag` says that a counted bracket opens a style tag in the displayed text;
* `IsHarmless.length_le` says that the renderer shows at least the counted characters, if all style
  tags that it may find are made of other characters; `isHarmless_marks` says that they are, unless
  a counted bracket opens a tag;
* `not_opensTag_of_closed` says that none does in a text without backslashes and open brackets;
* `Line.takeDue_shown` says when an event becomes due, and that all do unless a counted bracket
  opens a tag.
-/

namespace Roleplay

namespace Markup

/-! ## Counted characters -/

/-- What is displayed, each character with whether it is counted. -/
def Emission.marks : Emission → List (Char × Bool)
  | visible text => text.map fun c => (c, true)
  | hidden group => group.map fun c => (c, false)
  | event _ => []

/-- What is displayed but not counted. -/
def Emission.uncounted : Emission → List Char
  | hidden group => group
  | _ => []

section Marks

variable {emissions : List Emission}

theorem map_fst_marks :
    (emissions.flatMap Emission.marks).map Prod.fst = emissions.flatMap Emission.displayed := by
  rw [List.map_flatMap]
  refine List.flatMap_congr fun emission _ => ?_
  cases emission <;> simp [Emission.marks, Emission.displayed, Function.comp_def]

theorem length_filter_marks :
    ((emissions.flatMap Emission.marks).filter Prod.snd).length =
      (emissions.flatMap Emission.counted).length := by
  induction emissions with
  | nil => rfl
  | cons emission emissions inductionHypothesis =>
    rw [List.flatMap_cons, List.flatMap_cons, List.filter_append, List.length_append,
      List.length_append, inductionHypothesis]
    congr 1
    cases emission <;> simp [Emission.marks, Emission.counted, List.filter_map, Function.comp_def]

theorem length_displayed (emissions : List Emission) :
    (emissions.flatMap Emission.displayed).length =
      (emissions.flatMap Emission.counted).length +
        (emissions.flatMap Emission.uncounted).length := by
  induction emissions with
  | nil => rfl
  | cons emission emissions inductionHypothesis =>
    simp only [List.flatMap_cons, List.length_append, inductionHypothesis]
    cases emission <;> simp [Emission.displayed, Emission.counted, Emission.uncounted] <;> omega

end Marks

/-- What the renderer takes out of a piece. -/
def Piece.stripped : Piece → List Char
  | style tag => tag
  | _ => []

theorem length_shown_add_stripped (cut : List Piece) :
    (cut.flatMap Piece.shown).length + (cut.flatMap Piece.stripped).length =
      (cut.flatMap Piece.source).length := by
  induction cut with
  | nil => rfl
  | cons piece cut inductionHypothesis =>
    simp only [List.flatMap_cons, List.length_append, ← inductionHypothesis]
    cases piece <;> simp [Piece.shown, Piece.stripped, Piece.source] <;> omega

/-- What the renderer shows of a displayed text and the style tags that it takes out of it are the
counted and the uncounted characters. -/
theorem length_strip_displayed (emissions : List Emission) :
    (strip (emissions.flatMap Emission.displayed)).length +
        ((pieces (emissions.flatMap Emission.displayed)).flatMap Piece.stripped).length =
      (emissions.flatMap Emission.counted).length +
        (emissions.flatMap Emission.uncounted).length := by
  have isCut := isCut_pieces (emissions.flatMap Emission.displayed)
  rw [← length_displayed, ← isCut.flatMap_shown, length_shown_add_stripped, isCut.flatMap_source]

/-! ## Tags that hold no counted character -/

/-- Wherever a style tag may be found, it is made of characters that are not counted. -/
def IsHarmless (marks : List (Char × Bool)) : Prop :=
  ∀ suffix tag rest, suffix <:+ marks → styleTag? (suffix.map Prod.fst) = some (tag, rest) →
    ∀ mark ∈ suffix.take tag.length, mark.2 = false

variable {marks : List (Char × Bool)}

theorem IsHarmless.of_suffix {suffix : List (Char × Bool)} (harmless : IsHarmless marks)
    (isSuffix : suffix <:+ marks) : IsHarmless suffix :=
  fun inner tag rest inside => harmless inner tag rest (inside.trans isSuffix)

/-- Then stripping leaves at least the counted characters. -/
theorem IsHarmless.length_le (harmless : IsHarmless marks) :
    (marks.filter Prod.snd).length ≤ (strip (marks.map Prod.fst)).length := by
  generalize whole : marks.map Prod.fst = text
  induction text using strip.induct generalizing marks with
  | case1 =>
    rw [List.map_eq_nil_iff.1 whole]
    exact Nat.zero_le _
  | case2 rest inductionHypothesis | case3 rest inductionHypothesis =>
    -- both characters of an escape are kept, whether they are counted or not
    obtain ⟨first, others, rfl, -, behind⟩ := List.map_eq_cons_iff.1 whole
    obtain ⟨second, marks, rfl, -, same⟩ := List.map_eq_cons_iff.1 behind
    have kept := inductionHypothesis
      (harmless.of_suffix ((List.suffix_cons _ _).trans (List.suffix_cons _ _))) same
    have counted := List.length_filter_le Prod.snd [first, second]
    rw [strip_escape (by simp)]
    have split : first :: second :: marks = [first, second] ++ marks := rfl
    simp only [split, List.filter_append, List.length_append, List.length_cons,
      List.length_nil] at counted ⊢
    omega
  | case4 c rest _ _ tag after taken inductionHypothesis =>
    -- no character of the tag is counted
    have joined : tag ++ after = c :: rest := append_of_styleTag?_eq_some taken
    have uncounted := harmless marks tag after (List.suffix_refl _) (whole ▸ taken)
    have behind : (marks.drop tag.length).map Prod.fst = after := by
      rw [List.map_drop, whole, ← joined, List.drop_left]
    have kept := inductionHypothesis (harmless.of_suffix (List.drop_suffix _ _)) behind
    have none : (marks.take tag.length).filter Prod.snd = [] :=
      List.filter_eq_nil_iff.2 fun mark member => by simp [uncounted mark member]
    rw [strip_style taken, ← List.take_append_drop tag.length marks, List.filter_append, none]
    exact kept
  | case5 c rest opens closes kept inductionHypothesis =>
    obtain ⟨first, marks, rfl, -, same⟩ := List.map_eq_cons_iff.1 whole
    have kept' := inductionHypothesis (harmless.of_suffix (List.suffix_cons _ _)) same
    have counted := List.length_filter_le Prod.snd [first]
    rw [strip_keeps kept opens closes]
    have split : first :: marks = [first] ++ marks := rfl
    simp only [split, List.filter_append, List.length_append, List.length_cons,
      List.length_nil] at counted ⊢
    omega

/-! ## Where tags may be found -/

/-- A counted bracket opens a style tag in the displayed text. -/
def OpensTag (emissions : List Emission) : Prop :=
  ∃ before front back after,
    emissions = before ++ Emission.visible (front ++ '[' :: back) :: after ∧
      (styleTag? ('[' :: (back ++ after.flatMap Emission.displayed))).isSome = true

/-- Markup is a bracket group: it ends at its first closing bracket. -/
def Emission.IsGroup : Emission → Prop
  | hidden group => ∃ content, group = '[' :: (content ++ [']']) ∧ ']' ∉ content
  | _ => True

/-- A place in a list that is put together lies in one of the parts. -/
theorem exists_part_of_suffix {α β : Type} {parts : α → List β} {items : List α} {first : β}
    {rest : List β} (isSuffix : first :: rest <:+ items.flatMap parts) :
    ∃ before item after front back, items = before ++ item :: after ∧
      parts item = front ++ first :: back ∧ rest = back ++ after.flatMap parts := by
  induction items with
  | nil => cases List.suffix_nil.1 isSuffix
  | cons item items inductionHypothesis =>
    -- the place lies in the first part, or in what follows it
    obtain ⟨front, joined⟩ := isSuffix
    rw [List.flatMap_cons] at joined
    obtain ⟨more, whole, behind⟩ | ⟨more, whole, behind⟩ := List.append_eq_append_iff.1 joined
    · cases more with
      | nil =>
        obtain ⟨before, other, after, front, back, rfl, same, rfl⟩ :=
          inductionHypothesis ⟨[], behind⟩
        exact ⟨item :: before, other, after, front, back, rfl, same, rfl⟩
      | cons mark more =>
        obtain ⟨rfl, rfl⟩ := List.cons.inj behind
        exact ⟨[], item, items, front, more, rfl, whole, rfl⟩
    · obtain ⟨before, other, after, front, back, rfl, same, rfl⟩ :=
        inductionHypothesis ⟨more, behind.symm⟩
      exact ⟨item :: before, other, after, front, back, rfl, same, rfl⟩

theorem takeWhile_of_notMem {inner : List Char} (inside : ']' ∉ inner) (behind : List Char) :
    (inner ++ ']' :: behind).takeWhile (fun c => c ≠ ']') = inner := by
  rw [takeWhile_closed (by simp), List.takeWhile_eq_self_iff]
  intro c member
  exact decide_eq_true fun closing => inside (closing ▸ member)

/-- A tag ends at the first closing bracket behind its opening one. -/
theorem length_of_styleTag? {inner behind tag rest : List Char} (inside : ']' ∉ inner)
    (found : styleTag? ('[' :: (inner ++ ']' :: behind)) = some (tag, rest)) :
    tag.length = inner.length + 2 := by
  obtain ⟨content, rfl, plain, whole⟩ := styleTag?_inversion found
  have inContent : ']' ∉ content := fun member => (plain ']' member).2 rfl
  have same := congrArg (List.takeWhile fun c => c ≠ ']') (List.cons.inj whole).2
  rw [takeWhile_of_notMem inside, takeWhile_of_notMem inContent] at same
  simp [same]

/-- From a bracket inside of markup on, markup goes up to its closing bracket. -/
theorem exists_inner_of_isGroup {front back : List Char}
    (isGroup : (Emission.hidden (front ++ '[' :: back)).IsGroup) :
    ∃ inner, back = inner ++ [']'] ∧ ']' ∉ inner := by
  obtain ⟨content, whole, inside⟩ := isGroup
  cases front with
  | nil => exact ⟨content, (List.cons.inj whole).2, inside⟩
  | cons c front =>
    have joined : front ++ '[' :: back = content ++ [']'] := (List.cons.inj whole).2
    -- what is left of the markup ends with its closing bracket
    obtain rfl | ⟨inner, last, rfl⟩ := List.eq_nil_or_concat' back
    · -- the last character would be both brackets
      exact absurd (List.append_inj' joined rfl).2 (by decide)
    · rw [← List.cons_append, ← List.append_assoc] at joined
      obtain ⟨same, closing⟩ := List.append_inj' joined rfl
      refine ⟨inner, by rw [closing], fun member => inside ?_⟩
      rw [← same]
      exact List.mem_append_right _ (List.mem_cons_of_mem _ member)

/-- Unless a counted bracket opens a tag, all tags are made of characters that are not counted. -/
theorem isHarmless_marks {emissions : List Emission}
    (groups : ∀ emission ∈ emissions, emission.IsGroup) (never : ¬OpensTag emissions) :
    IsHarmless (emissions.flatMap Emission.marks) := by
  intro suffix tag rest isSuffix found mark member
  obtain ⟨content, -, -, opening⟩ := styleTag?_inversion found
  obtain ⟨⟨c, isCounted⟩, others, rfl, isOpening, -⟩ := List.map_eq_cons_iff.1 opening
  obtain rfl : c = '[' := isOpening
  obtain ⟨before, emission, after, front, back, rfl, marks, rfl⟩ := exists_part_of_suffix isSuffix
  cases emission with
  | event => exact absurd marks (by simp [Emission.marks])
  | visible text =>
    -- a counted bracket would open the tag
    obtain ⟨front, text, rfl, rfl, behind⟩ := List.map_eq_append_iff.1 marks
    obtain ⟨c, back, rfl, same, rfl⟩ := List.map_eq_cons_iff.1 behind
    obtain ⟨rfl, rfl⟩ := Prod.mk.inj same
    refine absurd ⟨before, front, back, after, rfl, ?_⟩ never
    rw [List.map_cons, List.map_append, map_fst_marks, List.map_map] at found
    exact Option.isSome_of_eq_some (by simpa [Function.comp_def] using found)
  | hidden group =>
    obtain ⟨front, text, rfl, rfl, behind⟩ := List.map_eq_append_iff.1 marks
    obtain ⟨c, back, rfl, same, rfl⟩ := List.map_eq_cons_iff.1 behind
    obtain ⟨rfl, rfl⟩ := Prod.mk.inj same
    have isGroup : (Emission.hidden (front ++ '[' :: back)).IsGroup := groups _ (by simp)
    obtain ⟨inner, rfl, inside⟩ := exists_inner_of_isGroup isGroup
    have read : styleTag? ('[' :: (inner ++ ']' :: after.flatMap Emission.displayed)) =
        some (tag, rest) := by
      rw [List.map_cons, List.map_append, map_fst_marks, List.map_map] at found
      simpa [Function.comp_def] using found
    -- the tag is the rest of the markup
    rw [← List.cons_append,
      List.take_append_of_le_length (by simp [length_of_styleTag? inside read])] at member
    have inMarkup := List.mem_of_mem_take member
    simp only [List.map_append, List.mem_cons, List.mem_append, List.mem_map] at inMarkup
    rcases inMarkup with rfl | ⟨_, _, rfl⟩ | ⟨_, _, rfl⟩ <;> rfl

/-- Then the renderer shows at least the counted characters. -/
theorem length_counted_le {emissions : List Emission}
    (groups : ∀ emission ∈ emissions, emission.IsGroup) (never : ¬OpensTag emissions) :
    (emissions.flatMap Emission.counted).length ≤
      (strip (emissions.flatMap Emission.displayed)).length := by
  rw [← length_filter_marks, ← map_fst_marks]
  exact (isHarmless_marks groups never).length_le

/-! ## What a line emits -/

/-- Markup segments are bracket groups. -/
theorem exists_content_of_mem_segments {text shown group : List Char}
    (member : Segment.markup group ∈ segments text shown) :
    ∃ content, group = '[' :: (content ++ [']']) ∧ ']' ∉ content := by
  fun_induction segments text shown with
  | case1 => cases member
  | case2 _ _ inductionHypothesis | case3 _ _ inductionHypothesis
  | case4 _ _ _ _ _ inductionHypothesis | case7 _ _ _ _ _ _ inductionHypothesis =>
    exact inductionHypothesis ((List.mem_cons.1 member).resolve_left (by simp))
  | case5 _ rest content after found _ _ segment _ _ inductionHypothesis =>
    refine inductionHypothesis ((List.mem_cons.1 member).resolve_left fun same => ?_)
    exact segment_group_ne_markup content group same.symm
  | case6 _ rest content after found _ _ _ _ inductionHypothesis =>
    rcases List.mem_cons.1 member with same | behind
    · exact ⟨content, Segment.markup.inj same, closing_notMem_of_splitGroup?_eq_some found⟩
    · exact inductionHypothesis behind

section Emissions

variable {State : Type} {resolve : Nat → StateM State Resolution} {segment : Segment}
  {state : State}

/-- Each contribution to a line is made by one of its segments. -/
theorem exists_emit_of_mem {list : List Segment} {emission : Emission}
    (member : emission ∈ ((list.mapM (Segment.emit resolve)).run state).1) :
    ∃ segment ∈ list, ∃ before : State, ((segment.emit resolve).run before).1 = emission := by
  induction list generalizing state with
  | nil => cases member
  | cons segment list inductionHypothesis =>
    rw [List.mapM_cons] at member
    rcases List.mem_cons.1 member with rfl | behind
    · exact ⟨segment, List.mem_cons_self, state, rfl⟩
    · obtain ⟨other, inList, before, same⟩ := inductionHypothesis behind
      exact ⟨other, List.mem_cons_of_mem _ inList, before, same⟩

theorem emit_instruction (place : Nat) (group : List Char) :
    (((Segment.tag (.instruction place) group).emit resolve).run state).1 =
      match ((resolve place).run state).1 with
      | .event instruction => .event (.instruction instruction)
      | .splice inserted => .visible inserted.toList
      | .unresolved => .visible group := by
  rw [Segment.emit, StateT.run_bind]
  dsimp only [bind, Id.run]
  cases ((resolve place).run state).1 <;> rfl

theorem eq_markup_of_emit {group : List Char}
    (emits : ((segment.emit resolve).run state).1 = .hidden group) : segment = .markup group := by
  cases segment with
  | markup => rw [Emission.hidden.inj emits]
  | char | text => cases emits
  | tag tag source =>
    cases tag with
    | instruction place =>
      rw [emit_instruction] at emits
      split at emits <;> cases emits
    | _ => cases emits

/-- Counted are single characters, groups that are kept, and the texts that numbers stand for. -/
theorem visible_of_emit {text : List Char}
    (emits : ((segment.emit resolve).run state).1 = .visible text) :
    (∃ c, segment = .char c ∧ text = [c]) ∨ segment = .text text ∨
      ∃ place group, segment = .tag (.instruction place) group ∧
        (text = group ∨ ∃ inserted : String,
          ((resolve place).run state).1 = .splice inserted ∧ text = inserted.toList) := by
  cases segment with
  | markup => cases emits
  | char c => exact Or.inl ⟨c, rfl, (Emission.visible.inj emits).symm⟩
  | text group => exact Or.inr (Or.inl (congrArg Segment.text (Emission.visible.inj emits)))
  | tag tag source =>
    cases tag with
    | instruction place =>
      rw [emit_instruction] at emits
      refine Or.inr (Or.inr ⟨place, source, rfl, ?_⟩)
      split at emits
      next => cases emits
      next inserted isSplice =>
        exact Or.inr ⟨inserted, isSplice, (Emission.visible.inj emits).symm⟩
      next => exact Or.inl (Emission.visible.inj emits).symm
    | _ => cases emits

theorem isGroup_of_mem {text shown : List Char} {emission : Emission}
    (member : emission ∈ (((segments text shown).mapM (Segment.emit resolve)).run state).1) :
    emission.IsGroup := by
  obtain ⟨segment, inText, before, emits⟩ := exists_emit_of_mem member
  cases emission with
  | visible | event => trivial
  | hidden group =>
    rw [eq_markup_of_emit emits] at inText
    exact exists_content_of_mem_segments inText

end Emissions

/-! ## Texts that open no tag -/

/-- What is counted holds no opening bracket, or it is a group that is no style tag. -/
def Emission.IsPlain : Emission → Prop
  | visible text => '[' ∉ text ∨ ∃ content, text = '[' :: (content ++ [']']) ∧ '[' ∉ content ∧
      ∀ behind, styleTag? ('[' :: (content ++ ']' :: behind)) = none
  | _ => True

theorem not_opensTag_of_isPlain {emissions : List Emission}
    (plain : ∀ emission ∈ emissions, emission.IsPlain) : ¬OpensTag emissions := by
  rintro ⟨before, front, back, after, rfl, opens⟩
  have isPlain : (Emission.visible (front ++ '[' :: back)).IsPlain := plain _ (by simp)
  rcases isPlain with none | ⟨content, whole, inside, kept⟩
  · exact none (by simp)
  · cases front with
    | nil =>
      rw [(List.cons.inj whole).2, List.append_assoc, List.singleton_append, kept] at opens
      cases opens
    | cons c front =>
      -- the group holds no further opening bracket
      have joined : front ++ '[' :: back = content ++ [']'] := (List.cons.inj whole).2
      have member : '[' ∈ content ++ [']'] := joined ▸ by simp
      exact inside ((List.mem_append.1 member).resolve_right (by simp))

/-- Without backslashes no group holds an opening bracket. -/
theorem opening_notMem_of_splitGroup? {previous : Char} {text content after : List Char}
    (found : splitGroup? previous text = some (content, after)) (first : previous ≠ '\\')
    (unescaped : '\\' ∉ text) : '[' ∉ content := by
  induction text generalizing previous content with
  | nil => cases found
  | cons c rest inductionHypothesis =>
    rw [List.mem_cons, not_or] at unescaped
    rcases splitGroup?_inversion found with ⟨-, rfl, -⟩ | ⟨-, opens, inner, rfl, innerFound⟩
    · exact List.not_mem_nil
    · rw [List.mem_cons, not_or]
      exact ⟨fun opening => first (opens opening.symm),
        inductionHypothesis innerFound (Ne.symm unescaped.1) unescaped.2⟩

/-- Whether a group is a style tag does not depend on what follows it. -/
theorem styleTag?_eq_none_closed {content after : List Char} (inside : ']' ∉ content)
    (missing : styleTag? ('[' :: (content ++ ']' :: after)) = none) (behind : List Char) :
    styleTag? ('[' :: (content ++ ']' :: behind)) = none := by
  rw [Option.eq_none_iff_forall_ne_some]
  rintro ⟨tag, rest⟩ found
  have whole : tag ++ rest = '[' :: (content ++ [']']) ++ behind := by
    rw [append_of_styleTag?_eq_some found]
    simp
  obtain ⟨rfl, rfl⟩ := List.append_inj whole (by simp [length_of_styleTag? inside found])
  rw [styleTag?_closed found after] at missing
  cases missing

/-- Without backslashes a group of a text holds no opening bracket, and it is no style tag. -/
theorem IsCut.plain_of_group {text content : List Char} {cut : List Piece} (isCut : IsCut text cut)
    (unescaped : '\\' ∉ text) (member : Piece.group content ∈ cut) :
    '[' ∉ content ∧ ∀ behind, styleTag? ('[' :: (content ++ ']' :: behind)) = none := by
  induction isCut with
  | nil => cases member
  | escape => exact absurd List.mem_cons_self unescaped
  | style taken _ inductionHypothesis =>
    rw [← append_of_styleTag?_eq_some taken, List.mem_append, not_or] at unescaped
    exact inductionHypothesis unescaped.2 ((List.mem_cons.1 member).resolve_left (by simp))
  | @group rest inside after others kept found _ inductionHypothesis =>
    have inRest : '\\' ∉ rest := fun inRest => unescaped (List.mem_cons_of_mem _ inRest)
    have whole := append_of_splitGroup?_eq_some found
    rcases List.mem_cons.1 member with same | behind
    · cases same
      refine ⟨opening_notMem_of_splitGroup? found (by decide) inRest, ?_⟩
      rw [← whole] at kept
      exact styleTag?_eq_none_closed (closing_notMem_of_splitGroup?_eq_some found) kept
    · refine inductionHypothesis (fun inAfter => inRest ?_) behind
      rw [← whole]
      exact List.mem_append_right _ (List.mem_cons_of_mem _ inAfter)
  | opening _ _ _ inductionHypothesis | char _ _ _ _ inductionHypothesis =>
    refine inductionHypothesis (fun inRest => unescaped (List.mem_cons_of_mem _ inRest)) ?_
    exact (List.mem_cons.1 member).resolve_left (by simp)

theorem segment_group (content : List Char) :
    (Piece.group content).segment = .text (Piece.group content).source ∨
      ∃ tag, (Piece.group content).segment = .tag tag (Piece.group content).source := by
  simp only [Piece.segment]
  split
  next tag _ => exact Or.inr ⟨tag, rfl⟩
  next => exact Or.inl rfl

section Plain

variable {State : Type} {resolve : Nat → StateM State Resolution}
  (splices : ∀ (place : Nat) (before : State) (inserted : String),
    ((resolve place).run before).1 = .splice inserted → '[' ∉ inserted.toList)

include splices

/-- What a text without backslashes and open brackets emits is plain, if no text that is inserted
holds an opening bracket. -/
theorem IsCut.isPlain_emit {text : List Char} {cut : List Piece} (isCut : IsCut text cut)
    (unescaped : '\\' ∉ text) (closed : Piece.char '[' ∉ cut) {piece : Piece}
    (member : piece ∈ cut) (before : State) :
    ((piece.segment.emit resolve).run before).1.IsPlain := by
  cases emits : ((piece.segment.emit resolve).run before).1 with
  | hidden | event => trivial
  | visible shown =>
    have plainGroup (content : List Char) (isGroup : piece = .group content)
        (same : shown = (Piece.group content).source) : (Emission.visible shown).IsPlain := by
      subst isGroup same
      obtain ⟨inside, kept⟩ := isCut.plain_of_group unescaped member
      exact Or.inr ⟨content, rfl, inside, kept⟩
    cases piece with
    | escape bracket =>
      refine absurd ?_ unescaped
      rw [← isCut.flatMap_source]
      exact List.mem_flatMap.2 ⟨_, member, List.mem_cons_self⟩
    | char c =>
      obtain rfl : [c] = shown := Emission.visible.inj emits
      exact Or.inl fun opening => closed (List.mem_singleton.1 opening ▸ member)
    | style tag => cases emits
    | group content =>
      have fromGroup := segment_group content
      rcases visible_of_emit emits with ⟨c, same, -⟩ | same | ⟨place, group, same, kept⟩ <;>
        rw [same] at fromGroup
      · simp at fromGroup
      · exact plainGroup content rfl (by simpa using fromGroup)
      · rcases kept with rfl | ⟨inserted, isSplice, rfl⟩
        · exact plainGroup content rfl (by simpa using fromGroup)
        · exact Or.inl (splices place before inserted isSplice)

theorem not_opensTag_of_closed {text : List Char} (unescaped : '\\' ∉ text)
    (closed : Piece.char '[' ∉ pieces text) (state : State) :
    ¬OpensTag (((segments text (strip text)).mapM (Segment.emit resolve)).run state).1 := by
  refine not_opensTag_of_isPlain fun emission member => ?_
  obtain ⟨segment, inText, before, rfl⟩ := exists_emit_of_mem member
  rw [segments_strip_of_closed closed] at inText
  obtain ⟨piece, inCut, rfl⟩ := List.mem_map.1 inText
  exact (isCut_pieces text).isPlain_emit splices unescaped closed inCut before

end Plain

end Markup

open Roleplay.Markup

/-! ## Events of a line -/

/-- A line made of any text, with any text shown of it and any resolver, once all is displayed that
the renderer shows of it.  An event is due just if the style tags that the renderer takes out are no
longer than the markup, which is not counted, and what is counted behind the event.  Unless a
counted bracket opens a style tag, all events are due and handed out.  None does if the text is
without backslashes and open brackets, and no text that stands for a number holds an opening
bracket. -/
theorem Line.takeDue_shown {State : Type} (text shown : List Char)
    (resolve : Nat → StateM State Resolution) (state : State) (index : Nat)
    (speakers : List Speaker) (next : Jump) :
    let emissions := (((segments text shown).mapM (Segment.emit resolve)).run state).1
    let display := ((Display.ofText text shown resolve).run state).1
    let line := Line.new index speakers display next
    let count := (strip line.text.toList).length
    let stripped := (pieces line.text.toList).flatMap Piece.stripped
    (∀ event ∈ line.events, event.index ≤ count ↔
      stripped.length ≤
        (emissions.flatMap Emission.uncounted).length + (display.visible - event.index)) ∧
    (¬OpensTag emissions →
      (∀ event ∈ line.events, event.index ≤ count) ∧ (line.takeDue count).1 = line.events) ∧
    (shown = strip text → '\\' ∉ text → Piece.char '[' ∉ pieces text →
      (∀ (place : Nat) (before : State) (inserted : String),
        ((resolve place).run before).1 = .splice inserted → '[' ∉ inserted.toList) →
      ¬OpensTag emissions) := by
  intro emissions display line count stripped
  have isDisplay : display = Display.ofEmissions emissions := by
    simp only [display, Display.ofText_eq]
    rfl
  have displayed : line.text.toList = emissions.flatMap Emission.displayed := by
    simp only [line, Line.new, isDisplay, Display.ofEmissions, String.toList_ofList]
  have visible : display.visible = (emissions.flatMap Emission.counted).length := by
    rw [isDisplay, Display.ofEmissions]
  have reached : ∀ event ∈ line.events, event.index ≤ display.visible := by
    have ordered := Display.isOrdered_ofEmissions emissions
    rw [← isDisplay] at ordered
    exact ordered.reached
  refine ⟨fun event member => ?_, fun never => ?_, ?_⟩
  · have inText := reached event member
    have total := length_strip_displayed emissions
    simp only [count, stripped, displayed]
    omega
  · have kept := length_counted_le (fun _ => isGroup_of_mem) never
    rw [← visible, ← displayed] at kept
    have due : ∀ event ∈ line.events, event.index ≤ count :=
      fun event member => Nat.le_trans (reached event member) kept
    refine ⟨due, ?_⟩
    have pending : line.pending = line.events := List.drop_zero
    rw [Line.takeDue, pending]
    exact List.takeWhile_eq_self_iff.2 fun event member => decide_eq_true (due event member)
  · rintro rfl unescaped closed splices
    exact not_opensTag_of_closed splices unescaped closed state

/-- The line made of a text in which numbers stand for nothing. -/
def Line.ofRaw (text : List Char) : Line :=
  let resolve : Nat → StateM Unit Resolution := fun _ => pure .unresolved
  Line.new 0 [] ((Display.ofText text (strip text) resolve).run ()).1 ⟨.line, 1⟩

theorem takeDue_shown_greeting :
    '\\' ∉ greeting ∧ Piece.char '[' ∉ pieces greeting ∧
      (strip (Line.ofRaw greeting).text.toList).length = 6 ∧
      ((Line.ofRaw greeting).takeDue 6).1 = [⟨3, .speed 2⟩] := by
  have unescaped : '\\' ∉ greeting := by decide +kernel
  have closed : Piece.char '[' ∉ pieces greeting := by decide +kernel
  have count : (strip (Line.ofRaw greeting).text.toList).length = 6 := by decide +kernel
  obtain ⟨-, due, opens⟩ := Line.takeDue_shown greeting (strip greeting)
    (fun _ => (pure .unresolved : StateM Unit _)) () 0 [] ⟨.line, 1⟩
  have never := opens rfl unescaped closed (by rintro _ _ _ ⟨⟩)
  have taken : ((Line.ofRaw greeting).takeDue
      (strip (Line.ofRaw greeting).text.toList).length).1 = (Line.ofRaw greeting).events :=
    (due never).2
  rw [count] at taken
  exact ⟨unescaped, closed, count, taken.trans (by decide +kernel)⟩

/-! ### Escaped brackets -/

/-- The escaped brackets are displayed without their backslashes. -/
def escapedTag : List Char := "\\[b\\][speed=2]".toList

/-- The renderer takes the three displayed characters for a style tag and shows nothing, so that the
event, which comes after them, is never due. -/
theorem not_forall_events_due :
    ((Line.ofRaw escapedTag).text = "[b]" ∧ strip "[b]".toList = [] ∧
      (Line.ofRaw escapedTag).events = [⟨3, .speed 2⟩] ∧
      ((Line.ofRaw escapedTag).takeDue 0).1 = []) ∧
    ¬ ∀ text : List Char, ∀ event ∈ (Line.ofRaw text).events,
        event.index ≤ (strip (Line.ofRaw text).text.toList).length := by
  have events : (Line.ofRaw escapedTag).events = [⟨3, .speed 2⟩] := by decide +kernel
  refine ⟨⟨by decide +kernel, by decide +kernel, events, by decide +kernel⟩, fun due => ?_⟩
  have shown : (strip (Line.ofRaw escapedTag).text.toList).length = 0 := by decide +kernel
  have first := due escapedTag ⟨3, .speed 2⟩ (by rw [events]; exact List.mem_cons_self)
  rw [shown] at first
  exact absurd first (by decide)

end Roleplay
