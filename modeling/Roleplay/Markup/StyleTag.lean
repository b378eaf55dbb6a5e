import Roleplay.Text.Ascii

/-! # Presentational markup

Bracket tags that only change how a text looks, such as `[color=red]` or `[/b]`, and the text that
is left when they are taken out.

* `styleTag?` reads a tag at the front of a text;
* `strip` deletes the tags of a text, leaving escaped brackets and all other groups as they are.
-/

namespace Roleplay.Markup

open Roleplay.Text

def knownTags : List String :=
  ["b", "i", "u", "s", "code", "p", "center", "left", "right", "fill", "indent", "url", "img",
    "font", "font_size", "color", "bgcolor", "fgcolor", "outline_size", "outline_color", "table",
    "cell", "ul", "ol", "lang", "hint", "dropcap", "wave", "tornado", "shake", "fade", "rainbow"]

def isNameChar (c : Char) : Bool := c.isAlphanum || c = '_'

def isKnownTag (name : List Char) : Bool :=
  knownTags.any fun known => sameIgnoringCase known.toList name

/-- The character between a name and its parameter. -/
def isSeparator (c : Char) : Bool := c = ' ' || c = '='

/-- A parameter runs up to a bracket or the end of the line. -/
def isParameterChar (c : Char) : Bool := c ≠ ']' && c ≠ '[' && c ≠ '\n'

/-- An optional parameter: separators, then any characters that may stand in one. -/
def splitParameter (text : List Char) : List Char × List Char :=
  let separators := text.takeWhile isSeparator
  let rest := text.dropWhile isSeparator
  if separators.isEmpty then ([], text)
  else (separators ++ rest.takeWhile isParameterChar, rest.dropWhile isParameterChar)

def splitSlash : List Char → List Char × List Char
  | '/' :: rest => (['/'], rest)
  | text => ([], text)

/-- A presentational tag at the front of a text, brackets included, and the rest. -/
def styleTag? : List Char → Option (List Char × List Char)
  | '[' :: text =>
    let (slash, afterSlash) := splitSlash text
    let name := afterSlash.takeWhile isNameChar
    let (parameter, afterParameter) := splitParameter (afterSlash.dropWhile isNameChar)
    if !name.isEmpty && isKnownTag name then
      match afterParameter with
      | ']' :: rest => some ('[' :: (slash ++ name ++ parameter ++ [']']), rest)
      | _ => none
    else none
  | _ => none

theorem splitSlash_append {text : List Char} :
    (splitSlash text).1 ++ (splitSlash text).2 = text := by
  unfold splitSlash
  split <;> simp

theorem splitParameter_append {text : List Char} :
    (splitParameter text).1 ++ (splitParameter text).2 = text := by
  unfold splitParameter
  dsimp only
  split
  · simp
  · simp [List.append_assoc, List.takeWhile_append_dropWhile]

theorem append_of_styleTag?_eq_some {text tag rest : List Char}
    (found : styleTag? text = some (tag, rest)) : tag ++ rest = text := by
  unfold styleTag? at found
  split at found
  · rename_i text
    dsimp only at found
    split at found
    · split at found
      · rename_i after afterEq
        simp only [Option.some.injEq, Prod.mk.injEq] at found
        obtain ⟨tagEq, restEq⟩ := found
        subst tagEq restEq
        have slashSplit : (splitSlash text).1 ++ (splitSlash text).2 = text := splitSlash_append
        have parameterSplit : _ = (splitSlash text).2.dropWhile isNameChar := splitParameter_append
        rw [afterEq] at parameterSplit
        have nameSplit :=
          List.takeWhile_append_dropWhile (p := isNameChar) (l := (splitSlash text).2)
        simp only [List.cons_append, List.append_assoc, List.nil_append, List.cons.injEq, true_and]
        rw [parameterSplit, nameSplit, slashSplit]
      · simp at found
    · simp at found
  · simp at found

theorem length_lt_of_styleTag?_eq_some {text tag rest : List Char}
    (found : styleTag? text = some (tag, rest)) : rest.length < text.length := by
  have split := append_of_styleTag?_eq_some found
  unfold styleTag? at found
  split at found
  · dsimp only at found
    split at found
    · split at found
      · simp only [Option.some.injEq, Prod.mk.injEq] at found
        rw [← split, ← found.1]
        simp
        omega
      · simp at found
    · simp at found
  · simp at found

/-- Deletes the presentational tags of a text, from left to right.  A backslash keeps the bracket
after it from opening a tag. -/
def strip (text : List Char) : List Char :=
  match text with
  | [] => []
  | '\\' :: '[' :: rest => '\\' :: '[' :: strip rest
  | '\\' :: ']' :: rest => '\\' :: ']' :: strip rest
  | c :: rest =>
    match _found : styleTag? (c :: rest) with
    | some (_, after) => strip after
    | none => c :: strip rest
termination_by text.length
decreasing_by
  all_goals first
    | exact length_lt_of_styleTag?_eq_some _found
    | simp only [List.length_cons]; omega

def stripText (text : String) : String := String.ofList (strip text.toList)

end Roleplay.Markup
