/-! # ASCII letters and digits

Case-insensitive comparison over the ASCII letters only, and runs of ASCII digits.

* `sameIgnoringCase` compares two texts up to ASCII case;
* `dropKeyword?` removes a keyword, in any case, from the front of a text;
* `takeDigits` splits a text after its leading digits.
-/

namespace Roleplay.Text

def lowercase (c : Char) : Char := c.toLower

def sameIgnoringCase (first second : List Char) : Bool :=
  first.map lowercase == second.map lowercase

/-- What follows a keyword written in any case. -/
def dropKeyword? : List Char → List Char → Option (List Char)
  | [], text => some text
  | k :: keyword, c :: text => if lowercase k = lowercase c then dropKeyword? keyword text else none
  | _ :: _, [] => none

def takeDigits (text : List Char) : List Char × List Char :=
  (text.takeWhile Char.isDigit, text.dropWhile Char.isDigit)

def digitsValue (digits : List Char) : Nat :=
  digits.foldl (fun value c => 10 * value + (c.toNat - 48)) 0

theorem takeDigits_append {text : List Char} :
    (takeDigits text).1 ++ (takeDigits text).2 = text :=
  List.takeWhile_append_dropWhile

end Roleplay.Text
