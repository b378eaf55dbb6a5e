import Roleplay.Stats.Modifier

/-! # Object pools

Free lists of objects that are handed out again.  An object is cleared when it is released, so
what a pool hands out is never stale; objects beyond the pool's capacity are dropped.

* `Pool.take` hands out an object, `Pool.release` takes one back; `fst_take` says that what is
  handed out is as good as new;
* `Pools` holds the two pools that the actors of a program share.
-/

namespace Roleplay

class Recyclable (α : Type) where
  fresh : α
  clear : α → α
  clear_eq_fresh (object : α) : clear object = fresh

instance : Recyclable Modifier := ⟨Modifier.default, fun _ => Modifier.default, fun _ => rfl⟩

instance {α : Type} : Recyclable (List α) := ⟨[], fun _ => [], fun _ => rfl⟩

structure Pool (α : Type) [Recyclable α] where
  free : List α
  capacity : Nat
  /-- The number of objects handed out so far. -/
  taken : Nat
  /-- The number of objects taken back so far, dropped ones among them. -/
  released : Nat
  clean : ∀ object ∈ free, object = Recyclable.fresh
  within : free.length ≤ capacity

namespace Pool

variable {α : Type} [Recyclable α]

def empty (capacity : Nat) : Pool α := ⟨[], capacity, 0, 0, by simp, Nat.zero_le _⟩

/-- Hands out the object released last, or a new one. -/
def take (pool : Pool α) : α × Pool α :=
  match pool with
  | ⟨object :: free, capacity, taken, released, clean, within⟩ =>
    (object, ⟨free, capacity, taken + 1, released, fun other member => clean other (.tail _ member),
      Nat.le_of_succ_le within⟩)
  | ⟨[], capacity, taken, released, clean, within⟩ =>
    (Recyclable.fresh, ⟨[], capacity, taken + 1, released, clean, within⟩)

/-- Clears an object and keeps it if there is room. -/
def release (pool : Pool α) (object : α) : Pool α :=
  if room : pool.free.length < pool.capacity then
    { pool with
      free := Recyclable.clear object :: pool.free
      released := pool.released + 1
      clean := by
        intro other member
        rcases List.mem_cons.1 member with rfl | earlier
        · exact Recyclable.clear_eq_fresh object
        · exact pool.clean other earlier
      within := room }
  else { pool with released := pool.released + 1 }

def releaseAll (pool : Pool α) (objects : List α) : Pool α := objects.foldl release pool

def size (pool : Pool α) : Nat := pool.free.length

/-- Whatever a pool hands out is new or as good as new. -/
@[simp] theorem fst_take {pool : Pool α} : pool.take.1 = Recyclable.fresh := by
  obtain ⟨_ | ⟨object, free⟩, capacity, taken, released, clean, within⟩ := pool
  · rfl
  · exact clean object (by simp)

end Pool

structure Pools where
  modifiers : Pool Modifier
  lists : Pool (List Modifier)
  /-- The number of modifiers that actors were offered so far, rejected ones among them. -/
  offered : Nat

def Pools.initial : Pools := ⟨.empty 256, .empty 32, 0⟩

end Roleplay
