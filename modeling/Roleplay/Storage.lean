import Roleplay.Dictionary
import Roleplay.Value

/-! # Stored variables

The variables of a dialog session that the host does not provide.  A void value is no value: storing
one changes nothing.
-/

namespace Roleplay

abbrev Storage := Dictionary Value

namespace Storage

/-- Stores a value unless it is void. -/
def store (storage : Storage) (name : String) (value : Value) : Storage :=
  if value.isVoid then storage else storage.insert name value

def ofList (entries : List (String × Value)) : Storage :=
  entries.foldl (fun storage entry => storage.store entry.1 entry.2) Dictionary.empty

theorem get?_store {storage : Storage} {name other : String} {value : Value} :
    (storage.store name value).get? other =
      if name = other ∧ value.isVoid = false then some value else storage.get? other := by
  unfold store
  split
  · simp_all
  · simp_all [Dictionary.get?_insert]

end Storage

end Roleplay
