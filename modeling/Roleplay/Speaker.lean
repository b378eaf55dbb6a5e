/-! # Speakers

The characters that take part in a dialog, as they are in one session.
-/

namespace Roleplay

structure Speaker where
  speakerId : String
  displayName : String
  portrait : String
  /-- The mood of the line being displayed. -/
  mood : String
  /-- The mood that every line starts with. -/
  globalMood : String
deriving Repr, DecidableEq, Inhabited

namespace Speaker

/-- A speaker is called by its id until an instruction names it. -/
def ofId (speakerId : String) : Speaker := ⟨speakerId, speakerId, "", "", ""⟩

def resetMood (speaker : Speaker) : Speaker := { speaker with mood := speaker.globalMood }

end Speaker

end Roleplay
