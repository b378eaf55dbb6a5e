import Roleplay.Value

/-! # Operations of instructions

An instruction is a stream of 16-bit slots.  An expression begins with the code of its operation;
literal slots and nested expressions follow as the operation's layout says.

* `OpCode.all` lists the operations in the order of their codes;
* `OpCode.ofCode?` and `OpCode.code` convert between them, `ofCode?_code` says that they agree;
* `OpCode.layout` gives the operands, `OpCode.resultType?` the type known in advance.
-/

namespace Roleplay

inductive Arithmetic where
  | mult
  | div
  | add
  | sub
deriving Repr, DecidableEq

inductive OrderTest where
  | less
  | greater
  | lessEquals
  | greaterEquals
deriving Repr, DecidableEq

/-- What an instruction may change of a speaker. -/
inductive SpeakerField where
  | name
  | portrait
  | mood
  | globalMood
deriving Repr, DecidableEq

inductive OpCode where
  | undefined
  | float
  | string
  | bool
  | var
  | func
  | arithmetic (operator : Arithmetic)
  | order (test : OrderTest)
  | equals
  | notEquals
  | and
  | or
  | not
  | assign
  /-- Combines the variable's value with the operand. -/
  | update (operator : Arithmetic)
  | goto
  | choice
  | setSpeaker (field : SpeakerField)
  | auto
  | newLine
  | speed
  | pause
deriving Repr, DecidableEq

/-- The operands of an operation. -/
inductive Layout where
  /-- So many literal slots, then so many nested expressions. -/
  | fixed (slots expressions : Nat)
  /-- A name, the number of arguments, and the arguments. -/
  | call
deriving Repr, DecidableEq

namespace Arithmetic

def apply : Arithmetic → Float32 → Float32 → Float32
  | mult, left, right => left * right
  | div, left, right => left / right
  | add, left, right => left + right
  | sub, left, right => left - right

end Arithmetic

namespace OrderTest

def holds : OrderTest → Float32 → Float32 → Bool
  | less, left, right => left < right
  | greater, left, right => right < left
  | lessEquals, left, right => left ≤ right
  | greaterEquals, left, right => right ≤ left

end OrderTest

namespace OpCode

/-! ## Codes -/

def all : List OpCode :=
  [undefined, float, string, bool, var, func, arithmetic .mult, arithmetic .div, arithmetic .add,
    arithmetic .sub, order .less, order .greater, order .lessEquals, order .greaterEquals, equals,
    notEquals, and, or, not, assign, update .mult, update .div, update .add, update .sub, goto,
    choice, setSpeaker .name, setSpeaker .portrait, setSpeaker .mood, setSpeaker .globalMood, auto,
    newLine, speed, pause]

def ofCode? (code : UInt16) : Option OpCode := all[code.toNat]?

def code (op : OpCode) : UInt16 := UInt16.ofNat (all.idxOf op)

theorem ofCode?_code (op : OpCode) : ofCode? op.code = some op := by
  cases op with
  | arithmetic operator => cases operator <;> rfl
  | order test => cases test <;> rfl
  | update operator => cases operator <;> rfl
  | setSpeaker field => cases field <;> rfl
  | _ => rfl

def name : OpCode → String
  | undefined => "Undefined"
  | float => "Float"
  | string => "String"
  | bool => "Bool"
  | var => "Var"
  | func => "Func"
  | arithmetic .mult => "Mult"
  | arithmetic .div => "Div"
  | arithmetic .add => "Add"
  | arithmetic .sub => "Sub"
  | order .less => "Less"
  | order .greater => "Greater"
  | order .lessEquals => "LessEquals"
  | order .greaterEquals => "GreaterEquals"
  | equals => "Equals"
  | notEquals => "NotEquals"
  | and => "And"
  | or => "Or"
  | not => "Not"
  | assign => "Assign"
  | update .mult => "MultAssign"
  | update .div => "DivAssign"
  | update .add => "AddAssign"
  | update .sub => "SubAssign"
  | goto => "Goto"
  | choice => "Choice"
  | setSpeaker .name => "SpeakerSetName"
  | setSpeaker .portrait => "SpeakerSetPortrait"
  | setSpeaker .mood => "SpeakerSetMood"
  | setSpeaker .globalMood => "SpeakerSetGlobalMood"
  | auto => "Auto"
  | newLine => "NewLine"
  | speed => "Speed"
  | pause => "Pause"

/-! ## Operands and results -/

def layout : OpCode → Layout
  | undefined | newLine => .fixed 0 0
  | float | string | bool | var | choice | auto => .fixed 1 0
  | func => .call
  | arithmetic _ | order _ | equals | notEquals | and | or => .fixed 0 2
  | not | speed | pause => .fixed 0 1
  | assign | update _ | setSpeaker _ => .fixed 1 1
  | goto => .fixed 2 0

/-- The type of the result, unless a variable or a method decides it. -/
def resultType? : OpCode → Option VarType
  | float | arithmetic _ => some .float
  | string => some .string
  | bool | order _ | equals | notEquals | and | or | not => some .bool
  | var | func => none
  | _ => some .void

def assignsVariable : OpCode → Bool
  | assign | update _ => true
  | _ => false

def changesSpeaker : OpCode → Bool
  | setSpeaker _ => true
  | _ => false

def isDirective : OpCode → Bool
  | auto | newLine | speed | pause => true
  | _ => false

/-- Whether an instruction in a line's text runs when the text reaches it, and is not spliced into
the text beforehand. -/
def runsInText (op : OpCode) : Bool :=
  op.assignsVariable || op.changesSpeaker || op.isDirective

end OpCode

end Roleplay
