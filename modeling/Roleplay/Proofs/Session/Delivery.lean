import Mathlib.Data.List.TakeWhile
import Roleplay.Proofs.Markup.Emission
import Roleplay.Session.Line

/-! # Handing out the events of a line

The presenter asks for the events of a line as more and more of its text is visible.  Each call
looks at the first event that is left and stops at one that is not due yet, which is enough because
the events stand in the order of their indices.

* `Display.IsOrdered` says so of a display, and that no index lies behind the text;
  `IsOrdered.add` says that every contribution to a display keeps it;
* `TextEvent.isDueBy` tells whether the largest of some counts has come to an event;
* `Line.takeAll_eq` says that any sequence of calls hands out the events that are due by its counts
  and leaves the others pending; `Line.takeAll_append_pending` that it loses none;
* `Line.takeAll_ofText` is the statement for the line made of any text.
-/

namespace Roleplay

open Roleplay.Markup

/-! ## Displays -/

namespace Markup.Display

/-- The events stand in the order of their indices, each no later than what is visible so far, and
no more is visible than the text has characters. -/
structure IsOrdered (display : Display) : Prop where
  sorted : display.events.Pairwise fun earlier later => earlier.index ≤ later.index
  reached : ∀ event ∈ display.events, event.index ≤ display.visible
  shown : display.visible ≤ display.text.length

theorem isOrdered_empty : empty.IsOrdered :=
  ⟨List.Pairwise.nil, by simp [empty], Nat.le_refl 0⟩

theorem IsOrdered.add {display : Display} (ordered : display.IsOrdered) (emission : Emission) :
    (display.add emission).IsOrdered := by
  have shown := ordered.shown
  cases emission with
  | visible text =>
    refine ⟨ordered.sorted, fun event member => ?_, ?_⟩
    · exact Nat.le_trans (ordered.reached event member) (Nat.le_add_right _ _)
    · simp only [Display.add, reveal, List.length_append]
      omega
  | hidden group =>
    -- markup makes the text longer than what is visible
    refine ⟨ordered.sorted, ordered.reached, ?_⟩
    simp only [Display.add, conceal, List.length_append]
    omega
  | event kind =>
    refine ⟨?_, fun event member => ?_, shown⟩
    · -- the new event comes last, and what was visible before it has only grown
      refine List.pairwise_append.2 ⟨ordered.sorted, List.pairwise_singleton _ _, ?_⟩
      intro earlier member later last
      rw [List.mem_singleton.1 last]
      exact ordered.reached earlier member
    · rcases List.mem_append.1 member with old | new
      · exact ordered.reached event old
      · exact Nat.le_of_eq (congrArg TextEvent.index (List.mem_singleton.1 new))

theorem IsOrdered.foldl_add {display : Display} (ordered : display.IsOrdered)
    (emissions : List Emission) : (emissions.foldl Display.add display).IsOrdered := by
  induction emissions generalizing display with
  | nil => exact ordered
  | cons emission emissions inductionHypothesis => exact inductionHypothesis (ordered.add emission)

theorem isOrdered_ofEmissions (emissions : List Emission) : (ofEmissions emissions).IsOrdered :=
  foldl_add emissions ▸ isOrdered_empty.foldl_add emissions

theorem isOrdered_ofText {State : Type} (text shown : List Char)
    (resolve : Nat → StateM State Resolution) (state : State) :
    ((ofText text shown resolve).run state).1.IsOrdered := by
  rw [ofText_eq]
  exact isOrdered_ofEmissions _

end Markup.Display

/-! ## Lists in order -/

section Closed

variable {α : Type} {holds : α → Bool} {items : List α}
  (closed : items.Pairwise fun earlier later => holds later = true → holds earlier = true)

include closed

/-- On a list where nothing holds behind the first failure, the front is all that holds. -/
theorem takeWhile_dropWhile_eq_filter :
    items.takeWhile holds = items.filter holds ∧
      items.dropWhile holds = items.filter fun item => !holds item := by
  induction items with
  | nil => exact ⟨rfl, rfl⟩
  | cons item items inductionHypothesis =>
    obtain ⟨first, others⟩ := List.pairwise_cons.1 closed
    by_cases now : holds item = true
    · rw [List.takeWhile_cons_of_pos now, List.dropWhile_cons_of_pos now,
        List.filter_cons_of_pos now, List.filter_cons_of_neg (by simp [now])]
      obtain ⟨front, back⟩ := inductionHypothesis others
      exact ⟨congrArg (item :: ·) front, back⟩
    · have never : ∀ later ∈ item :: items, ¬holds later = true :=
        List.forall_mem_cons.2 ⟨now, fun later member held => now (first later member held)⟩
      rw [List.takeWhile_cons_of_neg now, List.dropWhile_cons_of_neg now,
        List.filter_eq_nil_iff.2 never, List.filter_eq_self.2 fun later member => by
          simp [never later member]]
      exact ⟨rfl, rfl⟩

/-- What holds now comes before what holds only later. -/
theorem filter_append_filter (later : α → Bool) :
    items.filter holds ++ (items.filter fun item => !holds item).filter later =
      items.filter fun item => holds item || later item := by
  obtain ⟨front, back⟩ := takeWhile_dropWhile_eq_filter closed
  have now : (items.filter holds).filter (fun item => holds item || later item) =
      items.filter holds := by
    rw [List.filter_filter]
    exact List.filter_congr fun item _ => by cases holds item <;> simp
  have afterwards :
      (items.filter fun item => !holds item).filter (fun item => holds item || later item) =
        (items.filter fun item => !holds item).filter later := by
    rw [List.filter_filter, List.filter_filter]
    exact List.filter_congr fun item _ => by cases holds item <;> simp
  rw [← now, ← afterwards, ← List.filter_append, ← front, ← back, List.takeWhile_append_dropWhile]

end Closed

/-! ## Lines -/

/-- Whether the largest of some counts of visible characters has come to an event. -/
def Markup.TextEvent.isDueBy (event : TextEvent) (counts : List Nat) : Bool :=
  counts.max?.any fun largest => event.index ≤ largest

theorem isDueBy_cons {event : TextEvent} {visible : Nat} {counts : List Nat} :
    event.isDueBy (visible :: counts) =
      (decide (event.index ≤ visible) || event.isDueBy counts) := by
  rw [TextEvent.isDueBy, TextEvent.isDueBy, List.max?_cons]
  cases counts.max? with
  | none => simp
  | some largest =>
    simp only [Option.elim_some, Option.any_some, ← Bool.decide_or]
    exact decide_eq_decide.2 (by omega)

namespace Line

variable {line : Line}

theorem pending_takeDue {visible : Nat} :
    (line.takeDue visible).2.pending =
      line.pending.dropWhile fun event => event.index ≤ visible := by
  let due := line.pending.takeWhile fun event => event.index ≤ visible
  let left := line.pending.dropWhile fun event => event.index ≤ visible
  have split : line.pending = due ++ left := List.takeWhile_append_dropWhile.symm
  calc (line.takeDue visible).2.pending
      = line.pending.drop due.length := List.drop_drop.symm
    _ = (due ++ left).drop due.length := congrArg (List.drop due.length) split
    _ = left := List.drop_left

/-- Calls move events from what is pending to what is handed out, and lose none. -/
theorem takeAll_append_pending (counts : List Nat) :
    (line.takeAll counts).1 ++ (line.takeAll counts).2.pending = line.pending := by
  induction counts generalizing line with
  | nil => rfl
  | cons visible counts inductionHypothesis =>
    simp only [takeAll, List.append_assoc, inductionHypothesis]
    rw [pending_takeDue]
    exact List.takeWhile_append_dropWhile

/-- Any sequence of calls hands out the pending events that are due by its counts, in order, and
leaves the others. -/
theorem takeAll_eq
    (sorted : line.pending.Pairwise fun earlier later => earlier.index ≤ later.index)
    (counts : List Nat) :
    (line.takeAll counts).1 = line.pending.filter (fun event => event.isDueBy counts) ∧
      (line.takeAll counts).2.pending =
        line.pending.filter fun event => !event.isDueBy counts := by
  induction counts generalizing line with
  | nil =>
    have none : ∀ event : TextEvent, event.isDueBy [] = false := fun _ => rfl
    simp [takeAll, none]
  | cons visible counts inductionHypothesis =>
    have closed : line.pending.Pairwise fun earlier later =>
        decide (later.index ≤ visible) = true → decide (earlier.index ≤ visible) = true :=
      sorted.imp fun inOrder due => by
        simp only [decide_eq_true_eq] at due ⊢
        exact Nat.le_trans inOrder due
    obtain ⟨front, back⟩ := takeWhile_dropWhile_eq_filter closed
    have left : (line.takeDue visible).2.pending =
        line.pending.filter fun event => !decide (event.index ≤ visible) :=
      pending_takeDue.trans back
    obtain ⟨taken, rest⟩ := @inductionHypothesis (line.takeDue visible).2 (left ▸ sorted.filter _)
    refine ⟨?_, ?_⟩
    · simp only [takeAll, isDueBy_cons]
      rw [taken, left, ← filter_append_filter closed, ← front]
      rfl
    · simp only [takeAll, isDueBy_cons, rest, left, List.filter_filter, Bool.not_or]
      exact List.filter_congr fun event _ => Bool.and_comm _ _

/-- A line made of any text, with any text shown of it and any resolver: the events stand in the
order of their indices, none behind the end of the displayed text.  After any sequence of calls, and
so at every point of one, just the events are handed out that the largest count so far has reached,
in order, and asking for the rest gives all the others, so that each event is handed out once. -/
theorem takeAll_ofText {State : Type} (text shown : List Char)
    (resolve : Nat → StateM State Resolution) (state : State) (index : Nat)
    (speakers : List Speaker) (next : Jump) :
    let display := ((Display.ofText text shown resolve).run state).1
    let line := Line.new index speakers display next
    (display.events.Pairwise fun earlier later => earlier.index ≤ later.index) ∧
      (∀ event ∈ display.events, event.index ≤ display.text.length) ∧
      ∀ counts : List Nat,
        (line.takeAll counts).1 = display.events.filter (fun event => event.isDueBy counts) ∧
        (line.takeAll counts).2.takeRest.1 =
          display.events.filter (fun event => !event.isDueBy counts) ∧
        (line.takeAll counts).1 ++ (line.takeAll counts).2.takeRest.1 = display.events := by
  intro display line
  have ordered : display.IsOrdered := Display.isOrdered_ofText text shown resolve state
  refine ⟨ordered.sorted, fun event member => ?_, fun counts => ?_⟩
  · exact Nat.le_trans (ordered.reached event member) ordered.shown
  · have pending : line.pending = display.events := List.drop_zero
    obtain ⟨taken, left⟩ := takeAll_eq (pending ▸ ordered.sorted) counts
    have whole := line.takeAll_append_pending counts
    rw [pending] at taken left whole
    exact ⟨taken, left, whole⟩

end Line

end Roleplay
