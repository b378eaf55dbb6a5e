import Roleplay.Text.Ascii

/-! # Stats

The numbers of an actor that modifiers act on, and tables with one optional entry per stat.

* `Stat.all` lists the stats in their fixed order, `Stat.index` gives the place of one;
* `StatTable` is a partial map from stats; `get?_set` and `get?_erase` describe its operations.
-/

namespace Roleplay

inductive Stat where
  | maxHp
  | maxMp
  | attack
  | defense
  | magicAttack
  | magicDefense
  | speed
  | moveSpeed
  | evade
  | critChance
  | critDamage
  /-- Multiplies incoming damage. -/
  | damageTaken
deriving Repr, DecidableEq, Inhabited

namespace Stat

def all : List Stat :=
  [maxHp, maxMp, attack, defense, magicAttack, magicDefense, speed, moveSpeed, evade, critChance,
    critDamage, damageTaken]

/-- The place of a stat in the fixed order. -/
def index : Stat → Fin 12
  | maxHp => 0
  | maxMp => 1
  | attack => 2
  | defense => 3
  | magicAttack => 4
  | magicDefense => 5
  | speed => 6
  | moveSpeed => 7
  | evade => 8
  | critChance => 9
  | critDamage => 10
  | damageTaken => 11

def name : Stat → String
  | maxHp => "max_hp"
  | maxMp => "max_mp"
  | attack => "attack"
  | defense => "defense"
  | magicAttack => "magic_attack"
  | magicDefense => "magic_defense"
  | speed => "speed"
  | moveSpeed => "move_speed"
  | evade => "evade"
  | critChance => "crit_chance"
  | critDamage => "crit_damage"
  | damageTaken => "damage_taken"

/-- The stat of a name written in any ASCII case. -/
def ofName? (name : String) : Option Stat :=
  all.find? fun stat => Text.sameIgnoringCase stat.name.toList name.toList

theorem mem_all (stat : Stat) : stat ∈ all := by
  cases stat <;> decide

theorem index_injective {first second : Stat} (same : first.index = second.index) :
    first = second := by
  cases first <;> cases second <;> first | rfl | exact absurd same (by decide)

end Stat

structure StatTable (α : Type) where
  slots : Vector (Option α) 12

namespace StatTable

variable {α : Type}

def empty : StatTable α := ⟨Vector.replicate 12 none⟩

instance : Inhabited (StatTable α) := ⟨empty⟩

def get? (table : StatTable α) (stat : Stat) : Option α := table.slots[stat.index]

def set (table : StatTable α) (stat : Stat) (entry : α) : StatTable α :=
  ⟨table.slots.set stat.index (some entry)⟩

def erase (table : StatTable α) (stat : Stat) : StatTable α :=
  ⟨table.slots.set stat.index none⟩

def toList (table : StatTable α) : List (Stat × α) :=
  Stat.all.filterMap fun stat => (table.get? stat).map fun entry => (stat, entry)

def ofList (entries : List (Stat × α)) : StatTable α :=
  entries.foldl (fun table entry => table.set entry.1 entry.2) empty

@[simp] theorem get?_empty {stat : Stat} : (empty : StatTable α).get? stat = none := by
  simp [get?, empty]

theorem get?_set {table : StatTable α} {stat other : Stat} {entry : α} :
    (table.set stat entry).get? other = if stat = other then some entry else table.get? other := by
  by_cases same : stat = other
  · subst same
    simp [get?, set]
  · have different : (stat.index : Nat) ≠ other.index := fun eq =>
      same (Stat.index_injective (Fin.ext eq))
    simp [get?, set, same, Vector.getElem_set_ne, different]

theorem get?_erase {table : StatTable α} {stat other : Stat} :
    (table.erase stat).get? other = if stat = other then none else table.get? other := by
  by_cases same : stat = other
  · subst same
    simp [get?, erase]
  · have different : (stat.index : Nat) ≠ other.index := fun eq =>
      same (Stat.index_injective (Fin.ext eq))
    simp [get?, erase, same, Vector.getElem_set_ne, different]

end StatTable

end Roleplay
