import Roleplay.Json.Value
import Roleplay.Script.File
import Roleplay.Session.Basic

/-! # Saved sessions

Snapshots of sessions, and their configuration, as JSON.
-/

namespace Roleplay

open Roleplay.Json

namespace Speaker

def toTree (speaker : Speaker) : Tree :=
  .object [("speakerId", .string speaker.speakerId), ("displayName", .string speaker.displayName),
    ("portrait", .string speaker.portrait), ("mood", .string speaker.mood),
    ("globalMood", .string speaker.globalMood)]

def reader : Reader Speaker := fun room raw => do
  let record ←
    Record.ofRaw? ["speakerId", "displayName", "portrait", "mood", "globalMood"] room raw
  let speakerId ← record.required "speakerId" Reader.string
  let displayName ← record.required "displayName" Reader.string
  let portrait ← record.required "portrait" Reader.string
  let mood ← record.required "mood" Reader.string
  let globalMood ← record.required "globalMood" Reader.string
  some ⟨speakerId, displayName, portrait, mood, globalMood⟩

end Speaker

namespace Storage

def toTree (storage : Storage) : Tree :=
  .object (storage.entries.map fun entry => (entry.1, entry.2.toTree))

def reader : Reader Storage := Reader.dictionary Value.reader

end Storage

namespace SessionSnapshot

def toTree (snapshot : SessionSnapshot) : Tree :=
  .object [("current", (snapshot.current.map Jump.toTree).getD .null),
    ("storage", Storage.toTree snapshot.storage),
    ("speakers", .array (snapshot.speakers.map Speaker.toTree))]

def reader : Reader SessionSnapshot := fun room raw => do
  let record ← Record.ofRaw? ["current", "storage", "speakers"] room raw
  let current ← record.optional "current" Jump.reader
  let storage ← record.required "storage" Storage.reader
  let speakers ← record.required "speakers" (Reader.list Speaker.reader)
  some ⟨current, storage, speakers⟩

end SessionSnapshot

namespace SessionConfig

def toTree (config : SessionConfig) : Tree :=
  .object [("maxStepsWithoutInput", .integer config.maxQuietSteps)]

def reader : Reader SessionConfig := fun room raw => do
  let record ← Record.ofRaw? ["maxStepsWithoutInput"] room raw
  let limit ← record.withDefault "maxStepsWithoutInput" Reader.index default.maxQuietSteps
  some ⟨limit⟩

end SessionConfig

end Roleplay
