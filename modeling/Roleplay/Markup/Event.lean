import Roleplay.Markup.StyleTag
import Roleplay.Markup.Tag

/-! # Events of a line

Authored text carries bracket groups.  Some are presentational markup that the renderer takes out,
the others mark events.  They are told apart by walking the text together with what the renderer
shows of it: a group is genuine only if the shown text still holds it verbatim.

* `segments` cuts a text into the parts that the walk distinguishes;
* `assemble` turns the parts into the text to display and its events, asking a resolver what each
  numbered tag stands for;
* `Display.ofText` does both.
-/

namespace Roleplay.Markup

/-- What happens when the displayed text reaches an event. -/
inductive EventKind where
  | speed (factor : Float32)
  | pause (seconds : Float32)
  | auto (on : Bool)
  | newLine
  /-- Runs an instruction of the script. -/
  | instruction (index : Nat)
deriving DecidableEq

structure TextEvent where
  /-- The number of visible characters displayed before the event. -/
  index : Nat
  kind : EventKind
deriving DecidableEq

/-- What a numbered tag turns into. -/
inductive Resolution where
  | event (instruction : Nat)
  | splice (text : String)
  | unresolved
deriving DecidableEq

/-- A part of an authored text. -/
inductive Segment where
  /-- A visible character, an escaped bracket among them. -/
  | char (c : Char)
  /-- A bracket group that the renderer takes out. -/
  | markup (group : List Char)
  /-- A genuine group that is no event tag. -/
  | text (group : List Char)
  | tag (tag : EventTag) (group : List Char)
deriving DecidableEq

/-! ## Walking the text -/

/-- The content of a bracket group after its opening bracket, and what follows its closing one.
An opening bracket found first, unless a backslash stands before it, leaves the group open. -/
def splitGroup? (previous : Char) : List Char → Option (List Char × List Char)
  | [] => none
  | ']' :: rest => some ([], rest)
  | c :: rest =>
    if c = '[' ∧ previous ≠ '\\' then none
    else (splitGroup? c rest).map fun (content, after) => (c :: content, after)

theorem length_lt_of_splitGroup?_eq_some {previous : Char} {text content after : List Char}
    (found : splitGroup? previous text = some (content, after)) :
    after.length < text.length := by
  induction text generalizing previous content after with
  | nil => simp [splitGroup?] at found
  | cons c rest inductionHypothesis =>
    unfold splitGroup? at found
    split at found
    · simp at found
    · rename_i bracket
      simp only [List.cons.injEq] at bracket
      simp only [Option.some.injEq, Prod.mk.injEq] at found
      rw [← found.2, ← bracket.2]
      simp
    · rename_i cons
      obtain ⟨rfl, rfl⟩ := List.cons.inj cons
      split at found
      · simp at found
      · obtain ⟨⟨inner, tail⟩, innerFound, innerEq⟩ := Option.map_eq_some_iff.1 found
        simp only [Prod.mk.injEq] at innerEq
        have shorter := inductionHypothesis innerFound
        rw [← innerEq.2, List.length_cons]
        omega

/-- Drops a character from the shown text if it stands there. -/
def dropShown (c : Char) : List Char → List Char
  | d :: shown => if d = c then shown else d :: shown
  | [] => []

/-- Drops an escaped bracket from the shown text, with or without its backslash. -/
def dropShownEscape (bracket : Char) (shown : List Char) : List Char :=
  match shown with
  | '\\' :: c :: rest => if c = bracket then rest else dropShown bracket shown
  | _ => dropShown bracket shown

/-- Cuts the text into segments, walking along the shown text. -/
def segments (text shown : List Char) : List Segment :=
  match text with
  | [] => []
  | '\\' :: '[' :: rest => .char '[' :: segments rest (dropShownEscape '[' shown)
  | '\\' :: ']' :: rest => .char ']' :: segments rest (dropShownEscape ']' shown)
  | c :: rest =>
    if c = '[' then
      match _found : splitGroup? '[' rest with
      | none => .char c :: segments rest (dropShown c shown)
      | some (content, after) =>
        let group := '[' :: (content ++ [']'])
        -- the renderer takes out what it knows, so only a group still shown can be an event
        if shown.take group.length = group then
          let segment :=
            match EventTag.read? content with
            | some tag => Segment.tag tag group
            | none => Segment.text group
          segment :: segments after (shown.drop group.length)
        else .markup group :: segments after shown
    else .char c :: segments rest (dropShown c shown)
termination_by text.length
decreasing_by
  all_goals first
    | (have shorter := length_lt_of_splitGroup?_eq_some _found
       simp only [List.length_cons]; omega)
    | (simp only [List.length_cons]; omega)

/-! ## Displayed text and events -/

/-- A displayed text under construction. -/
structure Display where
  text : List Char
  /-- The visible characters so far. -/
  visible : Nat
  events : List TextEvent

namespace Display

def empty : Display := ⟨[], 0, []⟩

def reveal (display : Display) (text : List Char) : Display :=
  { display with text := display.text ++ text, visible := display.visible + text.length }

def conceal (display : Display) (text : List Char) : Display :=
  { display with text := display.text ++ text }

def fire (display : Display) (kind : EventKind) : Display :=
  { display with events := display.events ++ [⟨display.visible, kind⟩] }

end Display

variable {m : Type → Type} [Monad m]

/-- Adds one segment; only numbered tags ask the resolver. -/
def addSegment (resolve : Nat → m Resolution) (display : Display) : Segment → m Display
  | .char c => pure (display.reveal [c])
  | .markup group => pure (display.conceal group)
  | .text group => pure (display.reveal group)
  | .tag (.speed factor) _ => pure (display.fire (.speed factor))
  | .tag (.pause seconds) _ => pure (display.fire (.pause seconds))
  | .tag (.auto on) _ => pure (display.fire (.auto on))
  | .tag .newLine _ => pure (display.fire .newLine)
  | .tag (.instruction place) group => do
    match ← resolve place with
    | .event instruction => pure (display.fire (.instruction instruction))
    | .splice text => pure (display.reveal text.toList)
    | .unresolved => pure (display.reveal group)

def assemble (resolve : Nat → m Resolution) : Display → List Segment → m Display
  | display, [] => pure display
  | display, segment :: rest => do
    let display ← addSegment resolve display segment
    assemble resolve display rest

/-- The displayed text of a line and its events, given what the renderer shows of the line. -/
def Display.ofText (text shown : List Char) (resolve : Nat → m Resolution) : m Display :=
  assemble resolve .empty (segments text shown)

end Roleplay.Markup
