import Mathlib.Data.List.Basic
import Mathlib.Data.List.Induction
import Roleplay.Proofs.Markup.Walk

/-! # What the segments of a line emit

The displayed text and the events of a line in terms of what each of its segments contributes.

* `Segment.emit` is the contribution of one segment: visible text, markup, or an event;
* `Display.ofEmissions` is the display that a list of contributions makes, each event with the
  number of visible characters before it;
* `Display.ofText_eq` says that a line's display is made of the contributions of its segments, with
  the resolver asked in the order of the segments;
* `ofText_strip_iff` says what of this is true of the renderer's own pieces, and exactly when.
-/

namespace Roleplay.Markup

/-! ## Contributions -/

inductive Emission where
  | visible (text : List Char)
  /-- Markup, which is displayed but not counted. -/
  | hidden (group : List Char)
  | event (kind : EventKind)
deriving DecidableEq

namespace Emission

/-- What is displayed, counted or not. -/
def displayed : Emission → List Char
  | visible text => text
  | hidden group => group
  | event _ => []

def counted : Emission → List Char
  | visible text => text
  | _ => []

def kind? : Emission → Option EventKind
  | event kind => some kind
  | _ => none

end Emission

variable {m : Type → Type} [Monad m]

/-- What a segment contributes; only numbered tags ask the resolver. -/
def Segment.emit (resolve : Nat → m Resolution) : Segment → m Emission
  | .char c => pure (.visible [c])
  | .markup group => pure (.hidden group)
  | .text group => pure (.visible group)
  | .tag (.speed factor) _ => pure (.event (.speed factor))
  | .tag (.pause seconds) _ => pure (.event (.pause seconds))
  | .tag (.auto on) _ => pure (.event (.auto on))
  | .tag .newLine _ => pure (.event .newLine)
  | .tag (.instruction place) group => do
    match ← resolve place with
    | .event instruction => pure (.event (.instruction instruction))
    | .splice inserted => pure (.visible inserted.toList)
    | .unresolved => pure (.visible group)

namespace Display

/-- The events among the contributions, each with the number of visible characters before it. -/
def eventsOf (emissions : List Emission) : List TextEvent :=
  emissions.zipIdx.filterMap fun (emission, place) =>
    emission.kind?.map fun kind =>
      ⟨((emissions.take place).flatMap Emission.counted).length, kind⟩

def ofEmissions (emissions : List Emission) : Display where
  text := emissions.flatMap Emission.displayed
  visible := (emissions.flatMap Emission.counted).length
  events := eventsOf emissions

def add (display : Display) : Emission → Display
  | .visible text => display.reveal text
  | .hidden group => display.conceal group
  | .event kind => display.fire kind

/-! ## Adding one after the other -/

theorem eventsOf_append_singleton (emissions : List Emission) (last : Emission) :
    eventsOf (emissions ++ [last]) = eventsOf emissions ++
      (last.kind?.map fun kind =>
        (⟨(emissions.flatMap Emission.counted).length, kind⟩ : TextEvent)).toList := by
  have before : ∀ entry ∈ emissions.zipIdx,
      (emissions ++ [last]).take entry.2 = emissions.take entry.2 := by
    intro entry member
    have inside := List.snd_lt_of_mem_zipIdx member
    exact List.take_append_of_le_length (by omega)
  rw [eventsOf, List.zipIdx_append, List.filterMap_append]
  congr 1
  · refine List.filterMap_congr fun entry member => ?_
    simp only [before entry member]
  · cases isEvent : last.kind? <;> simp [isEvent]

theorem ofEmissions_append_singleton (emissions : List Emission) (last : Emission) :
    ofEmissions (emissions ++ [last]) = (ofEmissions emissions).add last := by
  rw [ofEmissions, eventsOf_append_singleton]
  cases last <;> simp [ofEmissions, add, reveal, conceal, fire, Emission.displayed,
    Emission.counted, Emission.kind?]

theorem foldl_add (emissions : List Emission) :
    emissions.foldl add empty = ofEmissions emissions := by
  induction emissions using List.reverseRecOn with
  | nil => rfl
  | append_singleton emissions last inductionHypothesis =>
    rw [List.foldl_append, inductionHypothesis, ofEmissions_append_singleton]
    rfl

variable [LawfulMonad m] (resolve : Nat → m Resolution)

theorem addSegment_eq (display : Display) (segment : Segment) :
    addSegment resolve display segment =
      (do let emission ← segment.emit resolve
          pure (display.add emission)) := by
  cases segment with
  | tag tag group =>
    cases tag with
    | instruction place =>
      simp only [addSegment, Segment.emit, bind_assoc]
      refine bind_congr fun resolution => ?_
      cases resolution <;> rw [pure_bind] <;> rfl
    | _ => simp [addSegment, Segment.emit, add]
  | _ => simp [addSegment, Segment.emit, add]

theorem assemble_eq (display : Display) (segments : List Segment) :
    assemble resolve display segments =
      (do let emissions ← segments.mapM (Segment.emit resolve)
          pure (emissions.foldl add display)) := by
  induction segments generalizing display with
  | nil => simp [assemble]
  | cons segment segments inductionHypothesis =>
    simp [assemble, addSegment_eq, inductionHypothesis]

/-- A line's display is made of the contributions of its segments, in their order. -/
theorem ofText_eq (text shown : List Char) :
    ofText text shown resolve =
      (do let emissions ← (segments text shown).mapM (Segment.emit resolve)
          pure (ofEmissions emissions)) := by
  simp only [ofText, assemble_eq, foldl_add]

end Display

/-! ## The renderer's pieces -/

/-- The pieces that the renderer cuts a text into make up the text, and stripping takes out exactly
the style tags among them.  The walk along the stripped text gives each piece its right segment if
and only if no style tag is mimicked.  If none is, the display is made of the contributions of the
pieces: the resolver is asked for every numbered group that is kept, in the order of the text, and
the index of an event counts the visible characters before it. -/
theorem ofText_strip_iff (text : List Char) :
    ((pieces text).flatMap Piece.source = text ∧ (pieces text).flatMap Piece.shown = strip text) ∧
    (segments text (strip text) = (pieces text).map Piece.segment ↔ ¬ IsMimicked (pieces text)) ∧
    (¬ IsMimicked (pieces text) → ∀ (State : Type) (resolve : Nat → StateM State Resolution),
      Display.ofText text (strip text) resolve =
        (do let emissions ← (pieces text).mapM fun piece => piece.segment.emit resolve
            pure (Display.ofEmissions emissions))) := by
  have isCut := isCut_pieces text
  refine ⟨⟨isCut.flatMap_source, isCut.flatMap_shown⟩, isCut.segments_iff, ?_⟩
  intro plain State resolve
  rw [Display.ofText_eq, isCut.segments_iff.2 plain, List.mapM_map]
  rfl

/-- A bold greeting with a change of speed. -/
def greeting : List Char := "[b]Hi[/b] [speed=2]you".toList

theorem ofText_strip_greeting :
    ¬ IsMimicked (pieces greeting) ∧
      segments greeting (strip greeting) = (pieces greeting).map Piece.segment ∧
      ((Display.ofText greeting (strip greeting) fun _ => (pure .unresolved : StateM Unit _)).run
        ()).1.events = [⟨3, .speed 2⟩] := by
  have plain : ¬ IsMimicked (pieces greeting) := by decide +kernel
  have agrees := ofText_strip_iff greeting
  refine ⟨plain, agrees.2.1.2 plain, ?_⟩
  rw [agrees.2.2 plain Unit]
  decide +kernel

/-! ### A tag inside a tag -/

/-- Behind the first tag a bracket is left open, and what is shown after it reads like the tag. -/
def nestedTags : List Char := "[b][[b]b][speed=2]".toList

/-- The walk takes the first tag for a group that is shown and loses the change of speed, which the
stripped text still holds. -/
theorem not_forall_segments_strip :
    (strip nestedTags = "[b][speed=2]".toList ∧
      ((Display.ofText nestedTags (strip nestedTags) fun _ =>
        (pure .unresolved : StateM Unit _)).run ()).1.events = [] ∧
      Piece.group "speed=2".toList ∈ pieces nestedTags) ∧
    ¬ ∀ text : List Char, segments text (strip text) = (pieces text).map Piece.segment := by
  refine ⟨⟨by decide +kernel, by decide +kernel, by decide +kernel⟩, fun agrees => ?_⟩
  have mimicked : IsMimicked (pieces nestedTags) := by decide +kernel
  exact (isCut_pieces nestedTags).segments_iff.1 (agrees nestedTags) mimicked

end Roleplay.Markup
