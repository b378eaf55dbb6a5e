import Roleplay.Stats.Engine

/-! # Parties

Several actors, each under a name of its own, that share one pair of pools.

* `Party.join` adds an actor;
* `Party.run` runs a computation on one actor; `get?_run_of_ne` says that the others keep their
  state.
-/

namespace Roleplay

structure Party where
  members : Dictionary World
  /-- The pools that the next computation finds, whichever actor it runs on. -/
  pools : Pools

namespace Party

def empty : Party := ⟨Dictionary.empty, Pools.initial⟩

/-- Adds a new actor, replacing the one of the same name. -/
def join (party : Party) (name : String) (catalog : EffectCatalog) : Party :=
  { party with members := party.members.insert name (World.new catalog party.pools) }

/-- Runs a computation on the actor of a name; absent if there is none or fuel runs out. -/
def run {α : Type} (party : Party) (name : String) (engine : Engine α) : Option (α × Party) := do
  let world ← party.members.get? name
  let (result, world) ← StateT.run engine { world with pools := party.pools }
  some (result, ⟨party.members.insert name world, world.pools⟩)

theorem get?_run_of_ne {α : Type} {party after : Party} {name other : String} {engine : Engine α}
    {result : α} (ran : party.run name engine = some (result, after)) (different : name ≠ other) :
    after.members.get? other = party.members.get? other := by
  unfold run at ran
  simp only [Option.bind_eq_bind, Option.bind_eq_some_iff, Option.some.injEq, Prod.mk.injEq] at ran
  obtain ⟨world, _, ⟨_, changed⟩, _, _, rfl⟩ := ran
  simp [Dictionary.get?_insert, different]

end Party

end Roleplay
