import Roleplay.Markup.Event
import Roleplay.Script.Basic
import Roleplay.Speaker

/-! # Lines ready to be presented

A line as the presenter receives it: its text, its events and its speakers.  The presenter takes
the events as the text is displayed; each is handed out once.

* `Line.takeDue` takes the events that a number of visible characters has reached;
* `Line.takeAll` takes them at several numbers of visible characters in turn;
* `Line.takeRest` takes all events that are left.
-/

namespace Roleplay

open Roleplay.Markup

structure Line where
  index : Nat
  /-- The speakers as they were when the line was built. -/
  speakers : List Speaker
  text : String
  events : List TextEvent
  next : Jump
  /-- The number of events handed out so far. -/
  taken : Nat
deriving DecidableEq

namespace Line

def new (index : Nat) (speakers : List Speaker) (display : Display) (next : Jump) : Line :=
  ⟨index, speakers, String.ofList display.text, display.events, next, 0⟩

def pending (line : Line) : List TextEvent := line.events.drop line.taken

def hasPending (line : Line) : Bool := line.taken < line.events.length

/-- Takes the events that are due once so many characters are visible. -/
def takeDue (line : Line) (visible : Nat) : List TextEvent × Line :=
  let due := line.pending.takeWhile fun event => event.index ≤ visible
  (due, { line with taken := line.taken + due.length })

def takeRest (line : Line) : List TextEvent × Line :=
  (line.pending, { line with taken := line.events.length })

/-- Takes the events that are due at each of several counts in turn. -/
def takeAll (line : Line) : List Nat → List TextEvent × Line
  | [] => ([], line)
  | visible :: counts =>
    let (due, line) := line.takeDue visible
    let (later, line) := takeAll line counts
    (due ++ later, line)

end Line

end Roleplay
