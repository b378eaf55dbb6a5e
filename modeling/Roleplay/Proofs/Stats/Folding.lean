import Mathlib.Data.List.Basic
import Roleplay.Stats.Modifier

/-! # The formula of a stat

What the fold of sorted modifiers computes, stage by stage: every operation has a stage of its own,
in which its values are applied in the order of the list.

* `stagedTotal` is the formula, given the values of each operation;
* `flatMap_filter_of_sorted` cuts a sorted list into the groups of its operations;
* `foldEntries_eq_stagedTotal` says that the fold of a sorted list is the formula.
-/

namespace Roleplay

/-- The total of the values of each operation, stage by stage. -/
def stagedTotal (values : ModifierOp → List Float32) : Float32 :=
  let base := (values .baseAdd).foldl (· + ·) 0
  let scaled :=
    if (values .percentAdd).isEmpty then base
    else base * (1 + (values .percentAdd).foldl (· + ·) 0)
  let increased := (values .add).foldl (· + ·) scaled
  let multiplied := (values .percentMult).foldl (fun total value => total * (1 + value)) increased
  let negated := (values .negate).foldl (fun total _ => -total) multiplied
  let raised := (values .min).foldl Single.maximum negated
  let capped := (values .max).foldl Single.minimum raised
  let replaced := (values .replace).getLast?.getD capped
  let cleared := if (values .zero).isEmpty then replaced else 0
  if (values .one).isEmpty then cleared else 1

/-! ## Groups of a sorted list -/

namespace ModifierOp

theorem mem_all (op : ModifierOp) : op ∈ all := by
  cases op <;> decide

theorem rank_injective {first second : ModifierOp} (same : first.rank = second.rank) :
    first = second := by
  cases first <;> cases second <;> first | rfl | cases same

theorem increasing_all : all.Pairwise fun first second => first.rank < second.rank := by
  decide

end ModifierOp

section Groups

variable {α : Type} {op : α → ModifierOp} {list : List α}

/-- The elements of the least operation stand in front. -/
theorem filter_append_filter_of_sorted
    (sorted : list.Pairwise fun first second => (op first).rank ≤ (op second).rank)
    {least : ModifierOp} (isLeast : ∀ element ∈ list, least.rank ≤ (op element).rank) :
    (list.filter fun element => op element = least) ++
      (list.filter fun element => op element ≠ least) = list := by
  induction list with
  | nil => rfl
  | cons element rest inductionHypothesis =>
    obtain ⟨smallest, sortedRest⟩ := List.pairwise_cons.1 sorted
    obtain ⟨-, leastRest⟩ := List.forall_mem_cons.1 isLeast
    by_cases same : op element = least
    · rw [List.filter_cons_of_pos (by simpa using same),
        List.filter_cons_of_neg (by simpa using same), List.cons_append,
        inductionHypothesis sortedRest leastRest]
    · -- nothing of the least operation comes after a larger one
      have larger : ∀ other ∈ element :: rest, op other ≠ least := by
        rintro other member rfl
        cases List.mem_cons.1 member with
        | inl first => exact same (first ▸ rfl)
        | inr later =>
          have between := isLeast element List.mem_cons_self
          exact same (ModifierOp.rank_injective (Nat.le_antisymm (smallest other later) between))
      rw [List.filter_eq_nil_iff.2 fun other member => by simpa using larger other member,
        List.filter_eq_self.2 fun other member => by simpa using larger other member,
        List.nil_append]

/-- A sorted list is made of the groups of its operations, one after the other. -/
theorem flatMap_filter_of_sorted
    (sorted : list.Pairwise fun first second => (op first).rank ≤ (op second).rank)
    {ops : List ModifierOp}
    (increasing : ops.Pairwise fun first second => first.rank < second.rank)
    (covered : ∀ element ∈ list, op element ∈ ops) :
    (ops.flatMap fun group => list.filter fun element => op element = group) = list := by
  induction ops generalizing list with
  | nil =>
    have empty : list = [] := List.eq_nil_iff_forall_not_mem.2 fun element member => by
      simpa using covered element member
    rw [empty]
    rfl
  | cons least ops inductionHypothesis =>
    obtain ⟨smaller, increasingRest⟩ := List.pairwise_cons.1 increasing
    have isLeast : ∀ element ∈ list, least.rank ≤ (op element).rank := by
      intro element member
      cases List.mem_cons.1 (covered element member) with
      | inl same => exact Nat.le_of_eq (congrArg ModifierOp.rank same.symm)
      | inr other => exact Nat.le_of_lt (smaller _ other)
    -- the other groups do not miss what the least operation takes
    have others : ∀ group ∈ ops, (list.filter fun element => op element = group) =
        (list.filter fun element => op element ≠ least).filter
          fun element => op element = group := by
      intro group member
      rw [List.filter_filter]
      refine List.filter_congr fun element _ => ?_
      have different : group ≠ least := fun same => Nat.lt_irrefl _ (same ▸ smaller group member)
      by_cases same : op element = group <;> simp [same, different]
    have coveredRest : ∀ element ∈ list.filter (fun element => op element ≠ least),
        op element ∈ ops := by
      intro element member
      obtain ⟨inList, different⟩ := List.mem_filter.1 member
      exact (List.mem_cons.1 (covered element inList)).resolve_left (by simpa using different)
    have rest := inductionHypothesis (sorted.sublist List.filter_sublist) increasingRest coveredRest
    rw [List.flatMap_cons, List.flatMap_congr others, rest,
      filter_append_filter_of_sorted sorted isLeast]

end Groups

/-! ## Folding a group -/

section Folding

variable {group : List (ModifierOp × Float32)} {op : ModifierOp}

theorem foldl_add_baseAdd (same : ∀ entry ∈ group, entry.1 = .baseAdd) (total : Float32) :
    group.foldl Tally.add ⟨total, none⟩ = ⟨(group.map (·.2)).foldl (· + ·) total, none⟩ := by
  induction group generalizing total with
  | nil => rfl
  | cons entry group inductionHypothesis =>
    obtain ⟨first, others⟩ := List.forall_mem_cons.1 same
    have added : Tally.add ⟨total, none⟩ entry = ⟨total + entry.2, none⟩ := by
      simp [Tally.add, first, Tally.flush, ModifierOp.apply]
    rw [List.foldl_cons, added, inductionHypothesis others, List.map_cons, List.foldl_cons]

/-- Percentages are summed and left to be applied. -/
theorem foldl_add_percentAdd (same : ∀ entry ∈ group, entry.1 = .percentAdd) (total sum : Float32) :
    group.foldl Tally.add ⟨total, some sum⟩ =
      ⟨total, some ((group.map (·.2)).foldl (· + ·) sum)⟩ := by
  induction group generalizing sum with
  | nil => rfl
  | cons entry group inductionHypothesis =>
    obtain ⟨first, others⟩ := List.forall_mem_cons.1 same
    have added : Tally.add ⟨total, some sum⟩ entry = ⟨total, some (sum + entry.2)⟩ := by
      simp [Tally.add, first]
    rw [List.foldl_cons, added, inductionHypothesis others, List.map_cons, List.foldl_cons]

theorem flush_foldl_add_percentAdd (same : ∀ entry ∈ group, entry.1 = .percentAdd)
    (total : Float32) :
    (group.foldl Tally.add ⟨total, none⟩).flush =
      if (group.map (·.2)).isEmpty then total
      else total * (1 + (group.map (·.2)).foldl (· + ·) 0) := by
  cases group with
  | nil => rfl
  | cons entry group =>
    obtain ⟨first, others⟩ := List.forall_mem_cons.1 same
    have added : Tally.add ⟨total, none⟩ entry = ⟨total, some (0 + entry.2)⟩ := by
      simp [Tally.add, first]
    rw [List.foldl_cons, added, foldl_add_percentAdd others]
    rfl

/-- Any other operation first applies the percentages that are left. -/
theorem flush_foldl_add (same : ∀ entry ∈ group, entry.1 = op) (notPercent : op ≠ .percentAdd)
    (tally : Tally) :
    (group.foldl Tally.add tally).flush = (group.map (·.2)).foldl op.apply tally.flush := by
  induction group generalizing tally with
  | nil => rfl
  | cons entry group inductionHypothesis =>
    obtain ⟨first, others⟩ := List.forall_mem_cons.1 same
    have added : tally.add entry = ⟨op.apply tally.flush entry.2, none⟩ := by
      rw [Tally.add, first, if_neg notPercent]
    rw [List.foldl_cons, added, inductionHypothesis others, List.map_cons, List.foldl_cons]
    rfl

theorem flush_foldl_flatMap {groups : ModifierOp → List (ModifierOp × Float32)}
    (same : ∀ op, ∀ entry ∈ groups op, entry.1 = op) {ops : List ModifierOp}
    (notPercent : .percentAdd ∉ ops) (tally : Tally) :
    ((ops.flatMap groups).foldl Tally.add tally).flush =
      ops.foldl (fun total op => ((groups op).map (·.2)).foldl op.apply total) tally.flush := by
  induction ops generalizing tally with
  | nil => rfl
  | cons op ops inductionHypothesis =>
    rw [List.mem_cons, not_or] at notPercent
    rw [List.flatMap_cons, List.foldl_append, inductionHypothesis notPercent.2,
      flush_foldl_add (same op) (Ne.symm notPercent.1), List.foldl_cons]

end Folding

theorem foldl_replace (values : List Float32) (total : Float32) :
    values.foldl (ModifierOp.apply .replace) total = values.getLast?.getD total := by
  induction values generalizing total with
  | nil => rfl
  | cons value values inductionHypothesis =>
    rw [List.foldl_cons, inductionHypothesis, List.getLast?_cons]
    rfl

/-- An operation that makes the same of every total. -/
theorem foldl_const (op : ModifierOp) {result : Float32}
    (same : ∀ total value, op.apply total value = result) (values : List Float32)
    (total : Float32) : values.foldl op.apply total = if values.isEmpty then total else result := by
  induction values generalizing total with
  | nil => rfl
  | cons value values inductionHypothesis =>
    rw [List.foldl_cons, inductionHypothesis, same]
    cases values <;> rfl

/-- The fold of a sorted list is the formula of the values of each operation. -/
theorem foldEntries_eq_stagedTotal {entries : List (ModifierOp × Float32)}
    (sorted : entries.Pairwise fun first second => first.1.rank ≤ second.1.rank) :
    foldEntries 0 entries =
      stagedTotal fun op => (entries.filter fun entry => entry.1 = op).map (·.2) := by
  have same (op : ModifierOp) : ∀ entry ∈ entries.filter fun entry => entry.1 = op,
      entry.1 = op := fun entry member => by simpa using (List.mem_filter.1 member).2
  have grouped := flatMap_filter_of_sorted sorted ModifierOp.increasing_all
    fun entry _ => ModifierOp.mem_all entry.1
  -- the list in groups: the first two by hand, as percentages wait to be applied, then all others
  rw [foldEntries]
  nth_rewrite 1 [← grouped]
  rw [ModifierOp.all, List.flatMap_cons, List.flatMap_cons, List.foldl_append, List.foldl_append,
    foldl_add_baseAdd (same _), flush_foldl_flatMap same (by decide),
    flush_foldl_add_percentAdd (same _)]
  simp only [List.foldl_cons, List.foldl_nil, foldl_replace,
    foldl_const .zero fun _ _ => rfl, foldl_const .one fun _ _ => rfl]
  rfl

end Roleplay
