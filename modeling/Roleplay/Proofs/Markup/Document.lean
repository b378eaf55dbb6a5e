import Roleplay.Proofs.Markup.Emission

/-! # Documents

Lines as their authors mean them: literal text, event tags and style tags, one after the other.
Written down, the brackets of literal text are escaped.

* `Document` is a list of such items, and `Document.source` the text that is written for it;
* `Document.IsClear` says that no tag stands right behind a backslash, which would escape it;
* `Document.IsClear.isCut` says that the renderer reads a clear document item by item;
* `Document.ofText_source` is the round trip: the displayed text and the events of what was written
  are those of the document, whatever the numbered tags turn into.
-/

namespace Roleplay.Markup

open Roleplay.Text

/-! ## Event tags are no style tags -/

theorem dropKeyword?_inversion {keyword text rest : List Char}
    (found : dropKeyword? keyword text = some rest) :
    ∃ word, text = word ++ rest ∧ word.map lowercase = keyword.map lowercase := by
  induction keyword generalizing text with
  | nil =>
    cases found
    exact ⟨[], rfl, rfl⟩
  | cons k keyword inductionHypothesis =>
    cases text with
    | nil => cases found
    | cons c text =>
      rw [dropKeyword?] at found
      split at found
      next same =>
        obtain ⟨word, rfl, sameWord⟩ := inductionHypothesis found
        exact ⟨c :: word, rfl, by rw [List.map_cons, List.map_cons, same, sameWord]⟩
      next => cases found

theorem isNameChar_of_lowercase {c : Char} (lower : (lowercase c).isLower = true) :
    isNameChar c = true := by
  have letter : c.isAlpha = true := by
    change (c.isUpper || c.isLower) = true
    unfold lowercase Char.toLower at lower
    split at lower
    next upper =>
      have isUpper : c.isUpper = true := decide_eq_true upper
      rw [isUpper, Bool.true_or]
    next => rw [lower, Bool.or_true]
  simp [isNameChar, Char.isAlphanum, letter]

theorem lowercase_of_isDigit {c : Char} (digit : c.isDigit = true) : lowercase c = c := by
  unfold lowercase Char.toLower
  refine dif_neg fun upper => ?_
  simp only [Char.isDigit, Bool.and_eq_true, decide_eq_true_eq] at digit
  exact absurd (UInt32.le_trans upper.1 digit.2) (by decide)

/-- A word that the name of no style tag begins with, in whatever case. -/
def IsForeign (word : List Char) : Prop :=
  word ≠ [] ∧ (∀ c ∈ word, isNameChar c = true) ∧
    ∀ known ∈ knownTags, ¬ word.map lowercase <+: known.toList.map lowercase

theorem isForeign_of_isDigit {digit : Char} (isDigit : digit.isDigit = true) :
    IsForeign [digit] := by
  have letters : ∀ known ∈ knownTags,
      (known.toList.map lowercase).head?.any Char.isDigit = false := by
    decide +kernel
  refine ⟨List.cons_ne_nil _ _, ?_, fun known member begins => ?_⟩
  · simp [isNameChar, Char.isAlphanum, isDigit]
  · rw [List.map_singleton, lowercase_of_isDigit isDigit] at begins
    obtain ⟨others, joined⟩ := begins
    have first := letters known member
    rw [← joined, List.singleton_append, List.head?_cons, Option.any_some, isDigit] at first
    cases first

/-- The words that event tags begin with. -/
def eventWords : List String := ["speed", "pause", "auto", "br"]

theorem isForeign_of_mem_eventWords {keyword : String} (isWord : keyword ∈ eventWords)
    {word : List Char} (same : word.map lowercase = keyword.toList.map lowercase) :
    IsForeign word := by
  have lower : ∀ keyword ∈ eventWords,
      (keyword.toList.map lowercase).all Char.isLower = true := by
    decide +kernel
  have nonempty : ∀ keyword ∈ eventWords, keyword.toList.map lowercase ≠ [] := by decide +kernel
  have foreign : ∀ keyword ∈ eventWords, ∀ known ∈ knownTags,
      ¬ keyword.toList.map lowercase <+: known.toList.map lowercase := by
    decide +kernel
  refine ⟨?_, fun c member => ?_, ?_⟩
  · rintro rfl
    exact nonempty keyword isWord same.symm
  · refine isNameChar_of_lowercase (List.all_eq_true.1 (lower keyword isWord) _ ?_)
    rw [← same]
    exact List.mem_map_of_mem member
  · rw [same]
    exact foreign keyword isWord

theorem takePlace?_inversion {text rest : List Char} {tag : EventTag}
    (found : takePlace? text = some (tag, rest)) :
    ∃ digit others, text = digit :: others ∧ digit.isDigit = true := by
  cases text with
  | nil => simp [takePlace?, takeDigits] at found
  | cons c others =>
    refine ⟨c, others, rfl, ?_⟩
    by_contra notDigit
    simp [takePlace?, takeDigits, notDigit] at found

theorem exists_isForeign_of_dropKeyword? {keyword : String} (isWord : keyword ∈ eventWords)
    {text rest : List Char} (found : dropKeyword? keyword.toList text = some rest) :
    ∃ word others, text = word ++ others ∧ IsForeign word := by
  obtain ⟨word, rfl, same⟩ := dropKeyword?_inversion found
  exact ⟨word, rest, rfl, isForeign_of_mem_eventWords isWord same⟩

/-- Every event tag begins with a digit or with one of the words. -/
theorem exists_isForeign_of_takeTag? {text rest : List Char} {tag : EventTag}
    (found : takeTag? text = some (tag, rest)) :
    ∃ word others, text = word ++ others ∧ IsForeign word := by
  simp only [takeTag?, Option.orElse_eq_orElse, Option.orElse_eq_or, Option.or_eq_some_iff]
    at found
  rcases found with place | ⟨-, speed | ⟨-, pause | ⟨-, auto | ⟨-, newLine⟩⟩⟩⟩
  · obtain ⟨digit, others, rfl, isDigit⟩ := takePlace?_inversion place
    exact ⟨[digit], others, rfl, isForeign_of_isDigit isDigit⟩
  · obtain ⟨_, word, -⟩ := Option.bind_eq_some_iff.1 speed
    exact exists_isForeign_of_dropKeyword? (by decide) word
  · obtain ⟨_, word, -⟩ := Option.bind_eq_some_iff.1 pause
    exact exists_isForeign_of_dropKeyword? (by decide) word
  · obtain ⟨_, word, -⟩ := Option.map_eq_some_iff.1 auto
    exact exists_isForeign_of_dropKeyword? (by decide) word
  · obtain ⟨_, word, -⟩ := Option.map_eq_some_iff.1 newLine
    exact exists_isForeign_of_dropKeyword? (by decide) word

theorem IsForeign.not_isKnownTag {word : List Char} (foreign : IsForeign word)
    (others : List Char) : isKnownTag ((word ++ others).takeWhile isNameChar) = false := by
  obtain ⟨-, named, notPrefix⟩ := foreign
  rw [List.takeWhile_append_of_pos named]
  simp only [isKnownTag, sameIgnoringCase, List.any_eq_false, beq_iff_eq, List.map_append]
  intro known member same
  exact notPrefix known member ⟨_, same.symm⟩

/-- The name of a style tag cannot be found where an event tag is read. -/
theorem not_isKnownTag_of_read? {content : List Char} {tag : EventTag}
    (read : EventTag.read? content = some tag) :
    isKnownTag ((splitSlash content).2.takeWhile isNameChar) = false := by
  unfold EventTag.read? at read
  split at read
  next rest found =>
    obtain ⟨word, others, joined, foreign⟩ := exists_isForeign_of_takeTag? found
    obtain ⟨first, word, rfl⟩ := List.exists_cons_of_ne_nil foreign.1
    cases content with
    | nil => cases joined
    | cons c content =>
      cases blank : isSpace c with
      | true =>
        -- a blank cannot stand in a name
        have blankChar : c = ' ' ∨ c = '\t' := by simpa [isSpace] using blank
        rcases blankChar with rfl | rfl <;> rfl
      | false =>
        rw [skipSpace, List.dropWhile_cons_of_neg (by simp [blank])] at joined
        have named : isNameChar c = true := by
          rw [(List.cons.inj joined).1]
          exact foreign.2.1 first List.mem_cons_self
        have noSlash : splitSlash (c :: content) = ([], c :: content) := by
          unfold splitSlash
          split
          next same =>
            rw [(List.cons.inj same).1] at named
            exact absurd named (by decide)
          next => rfl
        rw [noSlash, joined]
        exact foreign.not_isKnownTag others
  next => cases read

theorem styleTag?_of_read? {content : List Char} {tag : EventTag}
    (read : EventTag.read? content = some tag) (after : List Char) :
    styleTag? ('[' :: (content ++ ']' :: after)) = none := by
  have name : isNameChar ']' = false := by decide
  simp only [styleTag?, splitSlash_closed, takeWhile_closed name, not_isKnownTag_of_read? read,
    Bool.and_false, Bool.false_eq_true, if_false]

/-! ## Documents -/

def isBracket (c : Char) : Bool := c = '[' || c = ']'

/-- A bracket group that is read as an event tag. -/
structure EventGroup where
  content : List Char
  tag : EventTag
  plain : content.any isBracket = false
  read : EventTag.read? content = some tag

/-- A bracket group that is read in full as a style tag. -/
structure StyleGroup where
  text : List Char
  whole : styleTag? text = some (text, [])

/-- A part of a line as its author means it. -/
inductive Item where
  | literal (text : List Char)
  | event (group : EventGroup)
  | style (group : StyleGroup)

namespace EventGroup

def source (group : EventGroup) : List Char := '[' :: (group.content ++ [']'])

theorem splitGroup?_content (group : EventGroup) (after : List Char) :
    splitGroup? '[' (group.content ++ ']' :: after) = some (group.content, after) := by
  refine splitGroup?_of_plain (fun c member => ?_) _ _
  have plain := List.any_eq_false.1 group.plain c member
  simpa [isBracket, not_or] using plain

end EventGroup

/-- How a character of literal text is written. -/
def writeChar (c : Char) : List Char := if isBracket c then ['\\', c] else [c]

namespace Item

def source : Item → List Char
  | literal text => text.flatMap writeChar
  | event group => group.source
  | style group => group.text

def isTag : Item → Bool
  | literal _ => false
  | _ => true

/-- The pieces that the renderer is to find. -/
def pieces : Item → List Piece
  | literal text => text.map fun c => if isBracket c then .escape c else .char c
  | event group => [.group group.content]
  | style group => [.style group.text]

end Item

abbrev Document := List Item

namespace Document

/-- The text that is written for a document. -/
def source (document : Document) : List Char := document.flatMap Item.source

def pieces (document : Document) : List Piece := document.flatMap Item.pieces

/-- No tag stands right behind a backslash. -/
def IsClear (document : Document) : Prop :=
  ∀ before tag after, document = before ++ tag :: after → tag.isTag = true →
    (source before).getLast? ≠ some '\\'

@[simp] theorem source_cons (item : Item) (document : Document) :
    source (item :: document) = item.source ++ document.source := rfl

@[simp] theorem pieces_cons (item : Item) (document : Document) :
    pieces (item :: document) = item.pieces ++ document.pieces := rfl

/-! ## The renderer reads a document item by item -/

theorem IsClear.tail {item : Item} {document : Document} (clear : IsClear (item :: document)) :
    document.IsClear := by
  rintro before tag after rfl isTag escaped
  refine clear (item :: before) tag after rfl isTag ?_
  rw [source_cons, List.getLast?_append, escaped]
  rfl

end Document

theorem Item.exists_source_of_isTag {item : Item} (isTag : item.isTag = true) :
    ∃ inside, item.source = '[' :: inside := by
  cases item with
  | literal => cases isTag
  | event group => exact ⟨_, rfl⟩
  | style group =>
    obtain ⟨content, same, -⟩ := styleTag?_inversion group.whole
    exact ⟨_, same⟩

theorem writeChar_cons_ne {c opening : Char} (isOpening : isBracket opening = true)
    (rest inside : List Char) : writeChar c ++ rest ≠ opening :: inside := by
  unfold writeChar
  split
  next =>
    rintro same
    rw [← (List.cons.inj same).1] at isOpening
    cases isOpening
  next notBracket =>
    rintro same
    exact notBracket ((List.cons.inj same).1 ▸ isOpening)

/-- What is written for a document begins with a bracket only if that opens a tag. -/
theorem Document.exists_tag_of_source {document : Document} {bracket : Char}
    {inside : List Char} (isOpening : isBracket bracket = true)
    (begins : document.source = bracket :: inside) :
    bracket = '[' ∧ ∃ before tag after,
      document = before ++ tag :: after ∧ source before = [] ∧ tag.isTag = true := by
  induction document with
  | nil => cases begins
  | cons item document inductionHypothesis =>
    cases isTag : item.isTag with
    | true =>
      obtain ⟨group, source⟩ := Item.exists_source_of_isTag isTag
      rw [source_cons, source] at begins
      exact ⟨(List.cons.inj begins).1.symm, [], item, document, rfl, rfl, isTag⟩
    | false =>
      cases item with
      | literal text =>
        cases text with
        | nil =>
          obtain ⟨opening, before, tag, after, rfl, empty, isTag⟩ := inductionHypothesis begins
          exact ⟨opening, .literal [] :: before, tag, after, rfl, empty, isTag⟩
        | cons c text =>
          rw [source_cons, Item.source, List.flatMap_cons, List.append_assoc] at begins
          exact absurd begins (writeChar_cons_ne isOpening _ _)
      | event | style => cases isTag

/-- Literal text is read character by character, unless its last backslash escapes what follows. -/
theorem IsCut.literal {text rest : List Char} {cut : List Piece} (isCut : IsCut rest cut)
    (clear : ∀ bracket inside, isBracket bracket = true → rest = bracket :: inside →
      (text.flatMap writeChar).getLast? ≠ some '\\') :
    IsCut ((Item.literal text).source ++ rest) ((Item.literal text).pieces ++ cut) := by
  induction text with
  | nil => exact isCut
  | cons c text inductionHypothesis =>
    have others := inductionHypothesis fun bracket inside isOpening same escaped => by
      refine clear bracket inside isOpening same ?_
      rw [List.flatMap_cons, List.getLast?_append, escaped]
      rfl
    simp only [Item.source, Item.pieces, List.flatMap_cons, List.map_cons, writeChar,
      List.append_assoc, List.cons_append] at others ⊢
    cases bracket : isBracket c with
    | true => exact .escape (by simpa [isBracket] using bracket) others
    | false =>
      have notEscaping (opening : Char) (isOpening : isBracket opening = true) :
          ∀ inside, c = '\\' → text.flatMap writeChar ++ rest = opening :: inside → False := by
        rintro inside rfl same
        cases text with
        | nil => exact clear opening inside isOpening same rfl
        | cons next text =>
          rw [List.flatMap_cons, List.append_assoc] at same
          exact writeChar_cons_ne isOpening _ _ same
      refine .char ?_ (notEscaping '[' rfl) (notEscaping ']' rfl) others
      rintro rfl
      cases bracket

theorem Document.IsClear.isCut {document : Document} (clear : document.IsClear) :
    IsCut document.source document.pieces := by
  induction document with
  | nil => exact .nil
  | cons item document inductionHypothesis =>
    have others := inductionHypothesis clear.tail
    rw [source_cons, pieces_cons]
    cases item with
    | literal text =>
      refine others.literal fun bracket inside isOpening begins escaped => ?_
      obtain ⟨-, before, tag, after, rfl, empty, isTag⟩ := exists_tag_of_source isOpening begins
      refine clear (.literal text :: before) tag after rfl isTag ?_
      rw [source_cons, empty, List.append_nil]
      exact escaped
    | event group =>
      have whole : group.source ++ source document =
          '[' :: (group.content ++ ']' :: source document) := by
        simp [EventGroup.source]
      rw [Item.source, whole]
      exact .group (styleTag?_of_read? group.read _) (group.splitGroup?_content _) others
    | style group =>
      obtain ⟨content, same, -⟩ := styleTag?_inversion group.whole
      refine .style ?_ others
      have taken := group.whole
      rw [same] at taken
      have read := styleTag?_closed taken (source document)
      simpa [Item.source, same] using read

theorem Document.opening_notMem_pieces (document : Document) :
    Piece.char '[' ∉ document.pieces := by
  intro member
  obtain ⟨item, -, inItem⟩ := List.mem_flatMap.1 member
  cases item with
  | literal text =>
    obtain ⟨c, -, same⟩ := List.mem_map.1 inItem
    split at same
    next => cases same
    next notBracket =>
      cases same
      exact notBracket rfl
  | event | style => simp [Item.pieces] at inItem

/-- The walk finds the items of a clear document. -/
theorem Document.IsClear.segments_eq {document : Document} (clear : document.IsClear) :
    segments document.source (strip document.source) = document.pieces.map Piece.segment :=
  clear.isCut.segments_iff.2 (clear.isCut.not_isMimicked_of_closed document.opening_notMem_pieces)

/-! ## What a document displays -/

/-- The event of a tag that does not refer to an instruction. -/
def EventTag.kind? : EventTag → Option EventKind
  | instruction _ => none
  | speed factor => some (.speed factor)
  | pause seconds => some (.pause seconds)
  | auto on => some (.auto on)
  | newLine => some .newLine

def EventTag.place? : EventTag → Option Nat
  | instruction place => some place
  | _ => none

/-- What a numbered tag contributes once it is resolved. -/
def Resolution.emission (group : List Char) : Resolution → Emission
  | event instruction => .event (.instruction instruction)
  | splice text => .visible text.toList
  | unresolved => .visible group

namespace Document

/-- The places that the numbered tags refer to, in the order of the document. -/
def places (document : Document) : List Nat :=
  document.filterMap fun
    | .event group => group.tag.place?
    | _ => none

/-- What the items of a document contribute, given what its numbered tags turn into in turn. -/
def emissions : Document → List Resolution → List Emission
  | [], _ => []
  | .literal text :: document, resolutions => .visible text :: emissions document resolutions
  | .style group :: document, resolutions => .hidden group.text :: emissions document resolutions
  | .event group :: document, resolutions =>
    match group.tag.kind?, resolutions with
    | some kind, resolutions => .event kind :: emissions document resolutions
    | none, resolution :: resolutions =>
      resolution.emission group.source :: emissions document resolutions
    | none, [] => emissions document []

end Document

section Display

variable {m : Type → Type} [Monad m] [LawfulMonad m] (resolve : Nat → m Resolution)

theorem assemble_literal (display : Display) (text : List Char) (rest : List Segment) :
    assemble resolve display ((Item.literal text).pieces.map Piece.segment ++ rest) =
      assemble resolve (display.reveal text) rest := by
  induction text generalizing display with
  | nil => simp [Item.pieces, Display.reveal]
  | cons c text inductionHypothesis =>
    have first : Piece.segment (if isBracket c then .escape c else .char c) = .char c := by
      split <;> rfl
    have revealed : (display.reveal [c]).reveal text = display.reveal (c :: text) := by
      simp [Display.reveal, Nat.add_assoc, Nat.add_comm 1]
    rw [← revealed, ← inductionHypothesis]
    simp [Item.pieces, first, assemble, addSegment]

theorem Document.assemble_eq (display : Display) (document : Document) :
    assemble resolve display (document.pieces.map Piece.segment) =
      (do let resolutions ← document.places.mapM resolve
          pure ((document.emissions resolutions).foldl Display.add display)) := by
  induction document generalizing display with
  | nil => simp [pieces, places, emissions, assemble]
  | cons item document inductionHypothesis =>
    rw [pieces_cons, List.map_append]
    cases item with
    | literal text =>
      rw [assemble_literal, inductionHypothesis]
      rfl
    | style group =>
      simp only [Item.pieces, List.map_singleton, List.singleton_append, assemble, Piece.segment,
        addSegment, pure_bind, inductionHypothesis]
      rfl
    | event group =>
      have segment : (Piece.group group.content).segment = .tag group.tag group.source := by
        rw [Piece.segment, group.read]
        rfl
      simp only [Item.pieces, List.map_singleton, List.singleton_append, assemble, segment]
      cases isTag : group.tag with
      | instruction place =>
        have numbered : places (.event group :: document) = place :: places document := by
          simp [places, isTag, EventTag.place?]
        rw [numbered, List.mapM_cons, addSegment]
        simp only [bind_assoc, pure_bind]
        refine bind_congr fun resolution => ?_
        cases resolution <;>
          simp [inductionHypothesis, emissions, isTag, EventTag.kind?, Resolution.emission,
            Display.add]
      | _ =>
        have unnumbered : places (.event group :: document) = places document := by
          simp [places, isTag, EventTag.place?]
        simp [unnumbered, addSegment, inductionHypothesis, emissions, isTag, EventTag.kind?,
          Display.add]

/-- The round trip.  What is displayed of a clear document is its literal text and its style tags as
they are, with each numbered tag replaced by what it turns into.  The events are those of its event
tags, in their order, each with the number of visible characters before it.  The resolver is asked
for the numbered tags, in their order, and for nothing else. -/
theorem Document.ofText_source {document : Document} (clear : document.IsClear) :
    Display.ofText document.source (strip document.source) resolve =
      (do let resolutions ← document.places.mapM resolve
          pure (Display.ofEmissions (document.emissions resolutions))) := by
  simp only [Display.ofText, clear.segments_eq, assemble_eq, Display.foldl_add]

end Display

namespace Document

instance : DecidablePred IsClear := fun document =>
  decidable_of_iff (∀ place : Fin document.length, (document.get place).isTag = true →
      (source (document.take place)).getLast? ≠ some '\\') <| by
    constructor
    · rintro clear before tag after rfl isTag
      have inside : before.length < (before ++ tag :: after).length := by simp
      simpa using clear ⟨before.length, inside⟩ (by simpa using isTag)
    · intro clear place isTag
      refine clear _ _ (document.drop (place + 1)) ?_ isTag
      rw [List.get_eq_getElem, List.getElem_cons_drop, List.take_append_drop]

/-- A price with a bracket and a backslash in its text. -/
def price : Document :=
  [.literal "a\\]".toList, .style ⟨"[b]".toList, by decide +kernel⟩,
    .event ⟨" 0 ".toList, .instruction 0, by decide +kernel, by decide +kernel⟩,
    .event ⟨"speed=2".toList, .speed 2, by decide +kernel, by decide +kernel⟩,
    .literal "[0]".toList, .style ⟨"[/b]".toList, by decide +kernel⟩,
    .event ⟨"1".toList, .instruction 1, by decide +kernel, by decide +kernel⟩,
    .event ⟨"2".toList, .instruction 2, by decide +kernel, by decide +kernel⟩]

/-- Splices the first number of a line, runs the second and leaves all others, with a record of
what it was asked for. -/
def resolveAndRecord (place : Nat) : StateM (List Nat) Resolution := do
  modify (· ++ [place])
  match place with
  | 0 => pure (.splice "12")
  | 1 => pure (.event 7)
  | _ => pure .unresolved

theorem ofText_source_price :
    price.IsClear ∧
      let (display, asked) :=
        ((Display.ofText (source price) (strip (source price)) resolveAndRecord).run []).run
      source price = "a\\\\][b][ 0 ][speed=2]\\[0\\][/b][1][2]".toList ∧
        display.text = "a\\][b]12[0][/b][2]".toList ∧
        display.events = [⟨5, .speed 2⟩, ⟨8, .instruction 7⟩] ∧ asked = [0, 1, 2] := by
  have clear : price.IsClear := by decide +kernel
  refine ⟨clear, ?_⟩
  rw [ofText_source resolveAndRecord clear]
  decide +kernel

end Document

end Roleplay.Markup
