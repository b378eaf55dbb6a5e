import Roleplay.Json.Record
import Roleplay.Json.Tree
import Roleplay.Value

/-! # Values in saved files

A value is written as the JSON value it looks like, void as `null`.  Numbers that are not finite
are written `null` as well, so they come back void.
-/

namespace Roleplay.Value

open Roleplay.Json

def toTree : Value → Tree
  | void => .null
  | float number => .single number
  | bool truth => .bool truth
  | string text => .string text

def reader : Reader Value
  | _, .null => some void
  | _, .bool truth => some (bool truth)
  | _, .number number => number.single?.map float
  | _, .string pieces => (decodeText pieces).map string
  | _, _ => none

end Roleplay.Value
