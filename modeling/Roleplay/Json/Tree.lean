import Roleplay.Decimal.Style

/-! # Writing JSON

Trees that are written to files: compact, members in the given order, characters outside ASCII
unescaped.  A number that is not finite is written `null`.
-/

namespace Roleplay.Json

open Roleplay.Decimal

inductive Tree where
  | null
  | bool (truth : Bool)
  | integer (n : Int)
  | single (number : Float32)
  | string (text : String)
  | array (items : List Tree)
  | object (members : List (String × Tree))
deriving Inhabited

/-! ## Strings -/

def hexChar (n : Nat) : Char := if n < 10 then Char.ofNat (48 + n) else Char.ofNat (87 + n)

/-- The written form of a character inside quotes. -/
def escapeChar (c : Char) : List Char :=
  if c = '"' then ['\\', '"']
  else if c = '\\' then ['\\', '\\']
  else if c = '\n' then ['\\', 'n']
  else if c = '\r' then ['\\', 'r']
  else if c = '\t' then ['\\', 't']
  else if c.toNat = 8 then ['\\', 'b']
  else if c.toNat = 12 then ['\\', 'f']
  else if c.toNat < 0x20 then
    ['\\', 'u', '0', '0', hexChar (c.toNat / 16), hexChar (c.toNat % 16)]
  else [c]

def quote (text : List Char) : List Char := '"' :: (text.flatMap escapeChar ++ ['"'])

/-! ## Trees -/

def numberText (number : Float32) : List Char :=
  if Single.isFinite number then (Style.data.write number).toList else ['n', 'u', 'l', 'l']

mutual

def Tree.chars : Tree → List Char
  | .null => ['n', 'u', 'l', 'l']
  | .bool true => ['t', 'r', 'u', 'e']
  | .bool false => ['f', 'a', 'l', 's', 'e']
  | .integer n => (toString n).toList
  | .single number => numberText number
  | .string text => quote text.toList
  | .array items => '[' :: itemChars items ++ [']']
  | .object members => '\x7b' :: memberChars members ++ ['\x7d']

def itemChars : List Tree → List Char
  | [] => []
  | [item] => item.chars
  | item :: items => item.chars ++ ',' :: itemChars items

def memberChars : List (String × Tree) → List Char
  | [] => []
  | [(key, value)] => quote key.toList ++ ':' :: value.chars
  | (key, value) :: members =>
    quote key.toList ++ ':' :: (value.chars ++ ',' :: memberChars members)

end

def Tree.text (tree : Tree) : String := String.ofList tree.chars

/-- A member that is left out when it has no value. -/
def optionalMember (key : String) (value : Option Tree) : List (String × Tree) :=
  match value with
  | some tree => [(key, tree)]
  | none => []

end Roleplay.Json
