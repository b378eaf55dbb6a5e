import Roleplay.Decimal.Numeral
import Roleplay.Decimal.Style
import Roleplay.Text.Blank

/-! # Values

What an expression of a script evaluates to, and how values turn into one another.

* `VarType` names the four kinds of values;
* `Value.toFloat`, `Value.toBool` and `Value.toText` are total conversions;
* `Value.coerce` converts into a declared type; `type_coerce` says that it succeeds.
-/

namespace Roleplay

/-- The kind of a value; also the declared type of host variables, parameters and results. -/
inductive VarType where
  | void
  | float
  | bool
  | string
deriving Repr, DecidableEq, Inhabited

inductive Value where
  | void
  | float (number : Float32)
  | bool (truth : Bool)
  | string (text : String)
deriving DecidableEq, Inhabited

namespace VarType

def all : List VarType := [void, float, bool, string]

def name : VarType → String
  | void => "void"
  | float => "float"
  | bool => "bool"
  | string => "string"

def ofName? (name : String) : Option VarType := all.find? fun type => type.name = name

end VarType

namespace Value

def type : Value → VarType
  | void => .void
  | float _ => .float
  | bool _ => .bool
  | string _ => .string

def isVoid : Value → Bool
  | void => true
  | _ => false

def number? : Value → Option Float32
  | float number => some number
  | _ => none

def truth? : Value → Option Bool
  | bool truth => some truth
  | _ => none

def text? : Value → Option String
  | string text => some text
  | _ => none

/-- The number a text stands for once its blank ends are dropped, zero if it stands for none. -/
def numberOfText (text : String) : Float32 :=
  (Decimal.readSingle? (Text.trim text.toList)).getD 0

def toFloat : Value → Float32
  | void => 0
  | float number => number
  | bool truth => if truth then 1 else 0
  | string text => numberOfText text

/-- Every number but zero is true, and so is every text but the empty one. -/
def toBool : Value → Bool
  | void => false
  | float number => number != 0
  | bool truth => truth
  | string text => !text.isEmpty

def toText : Value → String
  | void => ""
  | float number => Decimal.Style.plain.write number
  | bool truth => if truth then "true" else "false"
  | string text => text

/-- Converts into a type; the void type discards the value. -/
def coerce (value : Value) : VarType → Value
  | .void => void
  | .float => float value.toFloat
  | .bool => bool value.toBool
  | .string => string value.toText

def default : VarType → Value
  | .void => void
  | .float => float 0
  | .bool => bool false
  | .string => string ""

/-- Equality as scripts see it: numbers compare as numbers, so not-a-number differs from itself
and the two zeros are equal. -/
def same : Value → Value → Bool
  | void, void => true
  | float first, float second => first == second
  | bool first, bool second => first == second
  | string first, string second => first == second
  | _, _ => false

@[simp] theorem type_coerce {value : Value} {type : VarType} : (value.coerce type).type = type := by
  cases type <;> rfl

@[simp] theorem type_default {type : VarType} : (default type).type = type := by
  cases type <;> rfl

end Value

end Roleplay
