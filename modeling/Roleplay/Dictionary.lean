/-! # Dictionaries keyed by text

Finite maps from names to values, used for variables, custom values, registered properties and
applied effects.  The entries are kept in strictly increasing order of their keys, compared by
code point, so walking a dictionary always visits the keys in that order and two dictionaries
with the same look-ups are equal.

* `Dictionary.get?`, `Dictionary.insert`, `Dictionary.erase` are the operations;
* `get?_insert` and `get?_erase` say what they do to every look-up;
* `ext_get?` says that the look-ups determine the dictionary.
-/

namespace Roleplay

/-- Entries in strictly increasing order of their keys. -/
structure Dictionary (α : Type) where
  entries : List (String × α)
  sorted : entries.Pairwise (fun first second => first.1 < second.1)

namespace Dictionary

variable {α : Type}

/-! ## Operations on sorted entries -/

/-- The value of the first entry with the given key. -/
def lookup (key : String) : List (String × α) → Option α
  | [] => none
  | (name, value) :: rest => if name = key then some value else lookup key rest

/-- Puts an entry at its place, replacing the entry of the same key. -/
def place (key : String) (value : α) : List (String × α) → List (String × α)
  | [] => [(key, value)]
  | (name, old) :: rest =>
    if key < name then (key, value) :: (name, old) :: rest
    else if name = key then (key, value) :: rest
    else (name, old) :: place key value rest

def remove (key : String) : List (String × α) → List (String × α)
  | [] => []
  | (name, value) :: rest =>
    if name = key then rest else (name, value) :: remove key rest

theorem fst_mem_of_mem_place {key : String} {value : α} {entries : List (String × α)}
    {entry : String × α} (member : entry ∈ place key value entries) :
    entry = (key, value) ∨ entry ∈ entries := by
  induction entries with
  | nil => simpa [place] using member
  | cons head rest inductionHypothesis =>
    obtain ⟨name, old⟩ := head
    simp only [place] at member
    split at member
    · simpa using member
    · split at member
      · rcases List.mem_cons.1 member with same | inRest
        · exact Or.inl same
        · exact Or.inr (List.mem_cons_of_mem _ inRest)
      · rcases List.mem_cons.1 member with same | inRest
        · exact Or.inr (by simp [same])
        · rcases inductionHypothesis inRest with new | earlier
          · exact Or.inl new
          · exact Or.inr (List.mem_cons_of_mem _ earlier)

theorem mem_of_mem_remove {key : String} {entries : List (String × α)} {entry : String × α}
    (member : entry ∈ remove key entries) : entry ∈ entries := by
  induction entries with
  | nil => simp [remove] at member
  | cons head rest inductionHypothesis =>
    obtain ⟨name, value⟩ := head
    simp only [remove] at member
    split at member
    · exact List.mem_cons_of_mem _ member
    · rcases List.mem_cons.1 member with same | inRest
      · simp [same]
      · exact List.mem_cons_of_mem _ (inductionHypothesis inRest)

theorem lt_of_not_lt_of_ne {first second : String} (notLess : ¬ first < second)
    (different : ¬ second = first) : second < first := by
  rcases String.le_total first second with le | le
  · exact absurd (String.le_antisymm (String.not_lt.1 notLess) le) different
  · exact Classical.byContradiction fun notGreater =>
      different (String.le_antisymm le (String.not_lt.1 notGreater))

theorem sorted_place {key : String} {value : α} {entries : List (String × α)}
    (sorted : entries.Pairwise (fun first second => first.1 < second.1)) :
    (place key value entries).Pairwise (fun first second => first.1 < second.1) := by
  induction entries with
  | nil => simp [place]
  | cons head rest inductionHypothesis =>
    obtain ⟨name, old⟩ := head
    obtain ⟨headFirst, restSorted⟩ := List.pairwise_cons.1 sorted
    simp only [place]
    split
    · rename_i less
      refine List.pairwise_cons.2 ⟨fun entry member => ?_, sorted⟩
      rcases List.mem_cons.1 member with same | inRest
      · simpa [same] using less
      · exact String.lt_trans less (headFirst entry inRest)
    · rename_i notLess
      split
      · rename_i same
        exact List.pairwise_cons.2 ⟨fun entry member => same ▸ headFirst entry member, restSorted⟩
      · rename_i different
        refine List.pairwise_cons.2 ⟨fun entry member => ?_, inductionHypothesis restSorted⟩
        rcases fst_mem_of_mem_place member with new | earlier
        · simpa [new] using lt_of_not_lt_of_ne notLess different
        · exact headFirst entry earlier

theorem sorted_remove {key : String} {entries : List (String × α)}
    (sorted : entries.Pairwise (fun first second => first.1 < second.1)) :
    (remove key entries).Pairwise (fun first second => first.1 < second.1) := by
  induction entries with
  | nil => simp [remove]
  | cons head rest inductionHypothesis =>
    obtain ⟨headFirst, restSorted⟩ := List.pairwise_cons.1 sorted
    simp only [remove]
    split
    · exact restSorted
    · exact List.pairwise_cons.2
        ⟨fun entry member => headFirst entry (mem_of_mem_remove member),
          inductionHypothesis restSorted⟩

/-! ## Operations on dictionaries -/

def empty : Dictionary α := ⟨[], List.Pairwise.nil⟩

instance : Inhabited (Dictionary α) := ⟨empty⟩

def get? (dictionary : Dictionary α) (key : String) : Option α :=
  lookup key dictionary.entries

def contains (dictionary : Dictionary α) (key : String) : Bool :=
  (dictionary.get? key).isSome

def insert (dictionary : Dictionary α) (key : String) (value : α) : Dictionary α :=
  ⟨place key value dictionary.entries, sorted_place dictionary.sorted⟩

def erase (dictionary : Dictionary α) (key : String) : Dictionary α :=
  ⟨remove key dictionary.entries, sorted_remove dictionary.sorted⟩

def size (dictionary : Dictionary α) : Nat := dictionary.entries.length

def keys (dictionary : Dictionary α) : List String := dictionary.entries.map (·.1)

def values (dictionary : Dictionary α) : List α := dictionary.entries.map (·.2)

/-- Inserts the entries from left to right, so a later entry of the same key wins. -/
def ofList (entries : List (String × α)) : Dictionary α :=
  entries.foldl (fun dictionary entry => dictionary.insert entry.1 entry.2) empty

def mapValues {β : Type} (f : String → α → β) (dictionary : Dictionary α) : Dictionary β :=
  ⟨dictionary.entries.map fun entry => (entry.1, f entry.1 entry.2),
    List.pairwise_map.2 dictionary.sorted⟩

/-! ## Look-ups -/

theorem lookup_place {key other : String} {value : α} {entries : List (String × α)} :
    lookup other (place key value entries) =
      if key = other then some value else lookup other entries := by
  induction entries with
  | nil => simp [place, lookup]
  | cons head rest inductionHypothesis =>
    obtain ⟨name, old⟩ := head
    simp only [place]
    split
    · simp [lookup]
    · split
      · rename_i same
        subst same
        simp only [lookup]
        split <;> rfl
      · rename_i different
        simp only [lookup, inductionHypothesis]
        split
        · rename_i same
          subst same
          simp [Ne.symm different]
        · rfl

theorem lookup_eq_none_of_forall_ne {key : String} {entries : List (String × α)}
    (absent : ∀ entry ∈ entries, entry.1 ≠ key) : lookup key entries = none := by
  induction entries with
  | nil => rfl
  | cons head rest inductionHypothesis =>
    obtain ⟨name, value⟩ := head
    have different : name ≠ key := absent (name, value) (by simp)
    simp only [lookup, if_neg different]
    exact inductionHypothesis fun entry member => absent entry (List.mem_cons_of_mem _ member)

theorem ne_key_of_sorted {name : String} {value : α} {rest : List (String × α)}
    (sorted : ((name, value) :: rest).Pairwise (fun first second => first.1 < second.1)) :
    ∀ entry ∈ rest, entry.1 ≠ name := by
  intro entry member same
  have less := (List.pairwise_cons.1 sorted).1 entry member
  exact String.lt_irrefl name (same ▸ less)

theorem lookup_remove {key other : String} {entries : List (String × α)}
    (sorted : entries.Pairwise (fun first second => first.1 < second.1)) :
    lookup other (remove key entries) = if key = other then none else lookup other entries := by
  induction entries with
  | nil => simp [remove, lookup]
  | cons head rest inductionHypothesis =>
    obtain ⟨name, value⟩ := head
    simp only [remove]
    split
    · rename_i same
      subst same
      split
      · rename_i same
        exact same ▸ lookup_eq_none_of_forall_ne (ne_key_of_sorted sorted)
      · rename_i different
        simp [lookup, different]
    · rename_i different
      simp only [lookup, inductionHypothesis (List.pairwise_cons.1 sorted).2]
      split
      · rename_i same
        subst same
        simp [Ne.symm different]
      · rfl

@[simp] theorem get?_empty {key : String} : (empty : Dictionary α).get? key = none := rfl

theorem get?_insert {dictionary : Dictionary α} {key other : String} {value : α} :
    (dictionary.insert key value).get? other =
      if key = other then some value else dictionary.get? other :=
  lookup_place

@[simp] theorem get?_insert_self {dictionary : Dictionary α} {key : String} {value : α} :
    (dictionary.insert key value).get? key = some value := by
  simp [get?_insert]

theorem get?_erase {dictionary : Dictionary α} {key other : String} :
    (dictionary.erase key).get? other =
      if key = other then none else dictionary.get? other :=
  lookup_remove dictionary.sorted

theorem lookup_map {β : Type} {f : String → α → β} {key : String} {entries : List (String × α)} :
    lookup key (entries.map fun entry => (entry.1, f entry.1 entry.2)) =
      (lookup key entries).map (f key) := by
  induction entries with
  | nil => rfl
  | cons head rest inductionHypothesis =>
    obtain ⟨name, value⟩ := head
    simp only [List.map_cons, lookup, inductionHypothesis]
    split
    · rename_i same
      subst same
      rfl
    · rfl

theorem get?_mapValues {β : Type} {f : String → α → β} {dictionary : Dictionary α} {key : String} :
    (dictionary.mapValues f).get? key = (dictionary.get? key).map (f key) :=
  lookup_map

theorem lookup_eq_some_iff_mem {key : String} {value : α} {entries : List (String × α)}
    (sorted : entries.Pairwise (fun first second => first.1 < second.1)) :
    lookup key entries = some value ↔ (key, value) ∈ entries := by
  induction entries with
  | nil => simp [lookup]
  | cons head rest inductionHypothesis =>
    obtain ⟨name, old⟩ := head
    simp only [lookup]
    split
    · rename_i same
      subst same
      constructor
      · intro found
        simp_all
      · intro member
        rcases List.mem_cons.1 member with same | inRest
        · simp_all
        · exact absurd rfl (ne_key_of_sorted sorted _ inRest)
    · rename_i different
      rw [inductionHypothesis (List.pairwise_cons.1 sorted).2]
      constructor
      · exact List.mem_cons_of_mem _
      · intro member
        rcases List.mem_cons.1 member with same | inRest
        · exact absurd (congrArg Prod.fst same).symm different
        · exact inRest

theorem filter_map_snd {key : String} {f : α → String} {entries : List (String × α)}
    (sorted : entries.Pairwise (fun first second => first.1 < second.1))
    (named : ∀ entry ∈ entries, f entry.2 = entry.1) :
    (entries.map (·.2)).filter (fun value => f value = key) = (lookup key entries).toList := by
  induction entries with
  | nil => rfl
  | cons head rest inductionHypothesis =>
    obtain ⟨name, value⟩ := head
    have headNamed : f value = name := named (name, value) (by simp)
    have later := inductionHypothesis (List.pairwise_cons.1 sorted).2
      fun entry member => named entry (List.mem_cons_of_mem _ member)
    simp only [List.map_cons, List.filter_cons, later, headNamed, lookup]
    by_cases same : name = key
    · subst same
      simp [lookup_eq_none_of_forall_ne (ne_key_of_sorted sorted)]
    · simp [same]

/-- Where the values know their keys, those that name a key are the one at it. -/
theorem filter_values {dictionary : Dictionary α} {key : String} {f : α → String}
    (named : ∀ entry ∈ dictionary.entries, f entry.2 = entry.1) :
    dictionary.values.filter (fun value => f value = key) = (dictionary.get? key).toList :=
  filter_map_snd dictionary.sorted named

theorem get?_eq_some_iff_mem {dictionary : Dictionary α} {key : String} {value : α} :
    dictionary.get? key = some value ↔ (key, value) ∈ dictionary.entries :=
  lookup_eq_some_iff_mem dictionary.sorted

theorem mem_of_get?_ofList {entries : List (String × α)} {key : String} {value : α}
    (found : (ofList entries).get? key = some value) : (key, value) ∈ entries := by
  have inserted (earlier : Dictionary α) (entries : List (String × α))
      (found : (entries.foldl (fun dictionary entry => dictionary.insert entry.1 entry.2)
        earlier).get? key = some value) :
      (key, value) ∈ entries ∨ earlier.get? key = some value := by
    induction entries generalizing earlier with
    | nil => exact Or.inr found
    | cons entry rest inductionHypothesis =>
      rcases inductionHypothesis _ found with inRest | before
      · exact Or.inl (.tail _ inRest)
      · rw [get?_insert] at before
        split at before
        · rename_i same
          obtain rfl := Option.some.inj before
          subst same
          exact Or.inl (by simp)
        · exact Or.inr before
  exact (inserted empty entries found).resolve_right (by simp)

theorem get?_foldl_insert {entries : List (String × α)} {key : String}
    (sorted : entries.Pairwise (fun first second => first.1 < second.1)) (earlier : Dictionary α) :
    (entries.foldl (fun dictionary entry => dictionary.insert entry.1 entry.2) earlier).get? key =
      (lookup key entries).or (earlier.get? key) := by
  induction entries generalizing earlier with
  | nil => rfl
  | cons head rest inductionHypothesis =>
    obtain ⟨name, value⟩ := head
    rw [List.foldl_cons, inductionHypothesis (List.pairwise_cons.1 sorted).2, get?_insert, lookup]
    split
    · rename_i same
      subst same
      rw [lookup_eq_none_of_forall_ne (ne_key_of_sorted sorted)]
      rfl
    · rfl

/-- Sorted entries are determined by the set of their members. -/
theorem entries_eq_of_mem_iff {first second : List (String × α)}
    (firstSorted : first.Pairwise (fun a b => a.1 < b.1))
    (secondSorted : second.Pairwise (fun a b => a.1 < b.1))
    (same : ∀ entry, entry ∈ first ↔ entry ∈ second) : first = second := by
  induction first generalizing second with
  | nil =>
    cases second with
    | nil => rfl
    | cons head rest => exact absurd ((same head).2 (by simp)) (by simp)
  | cons head rest inductionHypothesis =>
    cases second with
    | nil => exact absurd ((same head).1 (by simp)) (by simp)
    | cons other others =>
      obtain ⟨headFirst, restSorted⟩ := List.pairwise_cons.1 firstSorted
      obtain ⟨otherFirst, othersSorted⟩ := List.pairwise_cons.1 secondSorted
      have headEq : head = other := by
        rcases List.mem_cons.1 ((same head).1 (by simp)) with eq | inOthers
        · exact eq
        · rcases List.mem_cons.1 ((same other).2 (by simp)) with eq | inRest
          · exact eq.symm
          · exact absurd (otherFirst head inOthers) (String.lt_asymm (headFirst other inRest))
      subst headEq
      refine congrArg (head :: ·) (inductionHypothesis restSorted othersSorted fun entry => ?_)
      constructor
      · intro inRest
        rcases List.mem_cons.1 ((same entry).1 (List.mem_cons_of_mem _ inRest)) with eq | found
        · subst eq
          exact absurd (headFirst entry inRest) (String.lt_irrefl _)
        · exact found
      · intro inOthers
        rcases List.mem_cons.1 ((same entry).2 (List.mem_cons_of_mem _ inOthers)) with eq | found
        · subst eq
          exact absurd (otherFirst entry inOthers) (String.lt_irrefl _)
        · exact found

@[ext] theorem ext_get? {first second : Dictionary α}
    (same : ∀ key, first.get? key = second.get? key) : first = second := by
  obtain ⟨firstEntries, firstSorted⟩ := first
  obtain ⟨secondEntries, secondSorted⟩ := second
  have entriesEq : firstEntries = secondEntries := by
    refine entries_eq_of_mem_iff firstSorted secondSorted fun entry => ?_
    obtain ⟨key, value⟩ := entry
    have sameKey : lookup key firstEntries = lookup key secondEntries := same key
    rw [← lookup_eq_some_iff_mem firstSorted, ← lookup_eq_some_iff_mem secondSorted, sameKey]
  subst entriesEq
  rfl

theorem ofList_entries {dictionary : Dictionary α} : ofList dictionary.entries = dictionary := by
  apply ext_get?
  intro key
  rw [ofList, get?_foldl_insert dictionary.sorted, get?_empty, Option.or_none]
  rfl

end Dictionary

end Roleplay
