import Roleplay.Dictionary
import Roleplay.Text.Printable
import Roleplay.Value

/-! # The bridge to the host

What the host of a dialog offers to its scripts: typed properties that read and write the host's
state, and typed methods that act on it.

* `Property` and `Method` wrap functions on the host's state; `Property.get`, `Property.set` and
  `Method.call` convert every value that crosses the bridge into its declared type;
* `Bridge` is the table of both by name; registering a name again replaces what it named.
-/

namespace Roleplay

open Roleplay.Text

/-- A variable of the host, read-only if it has no setter. -/
structure Property (Host : Type) where
  type : VarType
  getter : Host → Value × Host
  setter : Option (Value → Host → Host)

structure Method (Host : Type) where
  parameters : List VarType
  result : VarType
  body : List Value → Host → Value × Host

structure Bridge (Host : Type) where
  properties : Dictionary (Property Host)
  methods : Dictionary (Method Host)

variable {Host : Type}

namespace Property

def isReadOnly (property : Property Host) : Bool := property.setter.isNone

/-- Reads the property; the result has its declared type. -/
def get (property : Property Host) (host : Host) : Value × Host :=
  let (value, host) := property.getter host
  (value.coerce property.type, host)

/-- Writes the property, converting the value first.  Tells whether it could be written. -/
def set (property : Property Host) (value : Value) (host : Host) : Bool × Host :=
  match property.setter with
  | some setter => (true, setter (value.coerce property.type) host)
  | none => (false, host)

@[simp] theorem type_get {property : Property Host} {host : Host} :
    (property.get host).1.type = property.type :=
  Value.type_coerce

end Property

namespace Method

/-- Calls the method; the result has its declared type. -/
def call (method : Method Host) (arguments : List Value) (host : Host) : Value × Host :=
  let (value, host) := method.body arguments host
  (value.coerce method.result, host)

@[simp] theorem type_call {method : Method Host} {arguments : List Value} {host : Host} :
    (method.call arguments host).1.type = method.result :=
  Value.type_coerce

end Method

namespace Bridge

def empty : Bridge Host := ⟨Dictionary.empty, Dictionary.empty⟩

instance : Inhabited (Bridge Host) := ⟨empty⟩

def property? (bridge : Bridge Host) (name : String) : Option (Property Host) :=
  bridge.properties.get? name

def method? (bridge : Bridge Host) (name : String) : Option (Method Host) :=
  bridge.methods.get? name

/-! ## Registration -/

def insertProperty (bridge : Bridge Host) (name : String) (property : Property Host) :
    Bridge Host :=
  { bridge with properties := bridge.properties.insert name property }

def insertMethod (bridge : Bridge Host) (name : String) (method : Method Host) : Bridge Host :=
  { bridge with methods := bridge.methods.insert name method }

/-- A property over a number of the host. -/
def insertFloat (bridge : Bridge Host) (name : String) (get : Host → Float32 × Host)
    (set : Float32 → Host → Host) : Bridge Host :=
  bridge.insertProperty name
    ⟨.float, fun host => let (number, host) := get host; (.float number, host),
      some fun value => set value.toFloat⟩

/-- A property over a truth value of the host. -/
def insertBool (bridge : Bridge Host) (name : String) (get : Host → Bool × Host)
    (set : Bool → Host → Host) : Bridge Host :=
  bridge.insertProperty name
    ⟨.bool, fun host => let (truth, host) := get host; (.bool truth, host),
      some fun value => set value.toBool⟩

/-- A property over a text of the host. -/
def insertText (bridge : Bridge Host) (name : String) (get : Host → String × Host)
    (set : String → Host → Host) : Bridge Host :=
  bridge.insertProperty name
    ⟨.string, fun host => let (text, host) := get host; (.string text, host),
      some fun value => set value.toText⟩

/-- Removes the property and the method of a name.  Tells whether there was one. -/
def erase (bridge : Bridge Host) (name : String) : Bool × Bridge Host :=
  (bridge.properties.contains name || bridge.methods.contains name,
    ⟨bridge.properties.erase name, bridge.methods.erase name⟩)

/-- Removes whatever the names stand for. -/
def eraseAll (bridge : Bridge Host) (names : List String) : Bridge Host :=
  names.foldl (fun bridge name => (bridge.erase name).2) bridge

/-! ## Description -/

/-- The written form of a character inside a description's quotes; characters without a form of
their own are given by their code points. -/
def describeChar (c : Char) : List Char :=
  if c = '"' then ['\\', '"']
  else if c = '\\' then ['\\', '\\']
  else if c = '\n' then ['\\', 'n']
  else if c = '\r' then ['\\', 'r']
  else if c = '\t' then ['\\', 't']
  else if c.toNat = 0 then ['\\', '0']
  else if isExtender c || isUnprintable c then ['\\', 'u', '\x7b'] ++ Nat.toDigits 16 c.toNat ++ ['\x7d']
  else [c]

def describeName (name : String) : String :=
  String.ofList ('"' :: (name.toList.flatMap describeChar ++ ['"']))

def describeNames (names : List String) : String :=
  "[" ++ ", ".intercalate (names.map describeName) ++ "]"

/-- The names of the table, properties before methods, each in the order of names. -/
def description (bridge : Bridge Host) : String :=
  "Bridge \x7b properties: " ++ describeNames bridge.properties.keys ++ ", methods: " ++
    describeNames bridge.methods.keys ++ " \x7d"

end Bridge

end Roleplay
