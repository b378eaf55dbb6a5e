import Roleplay.Proofs.Decimal.Value
import Roleplay.Proofs.Stats.Ticks

/-! # Timers

A tick condition that is a single timer fires once for every period of time that is over, and keeps
what is left.  Only a trigger that fires as many intervals as one trigger may throws the rest away.

* `Timer.Splits` takes whole periods off a time, `Timer.Frames` goes through the lengths of several
  frames and sums up what is thrown away;
* `Timer.Splits.floor_add` and `Timer.Frames.lost_le` are the arithmetic of it;
* `AppliedEffect.receiveTick_timed` is what a tick condition does with the length of a frame.
-/

namespace Roleplay

namespace Timer

open Single

variable {period elapsed delta time rest : Float32} {count : Nat} {deltas : List Float32} {lost : ℚ}

/-- So many periods fit into a time, and this rest is left of it.  No difference is rounded. -/
def Splits (period : Float32) : Nat → Float32 → Float32 → Prop
  | 0, time, rest => ¬period ≤ time ∧ rest = time
  | count + 1, time, rest =>
    period ≤ time ∧ SubtractsExactly time period ∧
      Splits period count (positivePart (time - period)) rest

instance decidableSplits : ∀ count time rest, Decidable (Splits period count time rest)
  | 0, _, _ => inferInstanceAs (Decidable (_ ∧ _))
  | count + 1, time, rest =>
    have := decidableSplits count (positivePart (time - period)) rest
    inferInstanceAs (Decidable (_ ∧ _ ∧ _))

/-- Frames of these lengths go by, beginning with some time elapsed.  No sum or difference is
rounded, and no frame makes more intervals due than one trigger fires.  What is left of a frame goes
into the next one, but is lost if the frame makes just as many intervals due. -/
inductive Frames (period : Float32) : Float32 → List Float32 → ℚ → Prop
  | nil {elapsed : Float32} : Frames period elapsed [] 0
  | carry {elapsed delta rest : Float32} {deltas : List Float32} {count : Nat} {lost : ℚ}
      (sum : AddsExactly elapsed delta) (splits : Splits period count (elapsed + delta) rest)
      (few : count < maxIntervals) (frames : Frames period rest deltas lost) :
      Frames period elapsed (delta :: deltas) lost
  | cut {elapsed delta rest : Float32} {deltas : List Float32} {lost : ℚ}
      (sum : AddsExactly elapsed delta)
      (splits : Splits period maxIntervals (elapsed + delta) rest)
      (frames : Frames period 0 deltas lost) :
      Frames period elapsed (delta :: deltas) (value rest + lost)

/-! ## Whole periods -/

namespace Splits

theorem short (splits : Splits period count time rest) : ¬period ≤ rest := by
  induction count generalizing time with
  | zero =>
    obtain ⟨short, rfl⟩ := splits
    exact short
  | succ count inductionHypothesis => exact inductionHypothesis splits.2.2

theorem value_eq (splits : Splits period count time rest) :
    value time = count * value period + value rest := by
  induction count generalizing time with
  | zero =>
    obtain ⟨_, rfl⟩ := splits
    simp
  | succ count inductionHypothesis =>
    obtain ⟨due, exact, further⟩ := splits
    have left := inductionHypothesis further
    rw [(exact.value_positivePart due).1] at left
    push_cast
    linarith

theorem value_nonneg (splits : Splits period count time rest) (nonneg : 0 ≤ value time) :
    0 ≤ value rest := by
  induction count generalizing time with
  | zero =>
    obtain ⟨_, rfl⟩ := splits
    exact nonneg
  | succ count inductionHypothesis =>
    obtain ⟨due, exact, further⟩ := splits
    obtain ⟨same, nonneg⟩ := exact.value_positivePart due
    exact inductionHypothesis further (same ▸ nonneg)

/-- A time in which a period is over is not negative. -/
theorem time_nonneg (positive : 0 < period) (splits : Splits period count time rest)
    (fires : 0 < count) : 0 ≤ value time := by
  obtain ⟨count, rfl⟩ := Nat.exists_eq_add_of_lt fires
  obtain ⟨due, _⟩ := splits
  exact Single.value_nonneg (le_trans (le_of_lt positive) due)

/-- Whole periods add to the number of intervals, whatever else goes by. -/
theorem floor_add {more : ℚ} (positive : 0 < period) (splits : Splits period count time rest)
    (nonneg : 0 < count → 0 ≤ more) :
    ⌊(count * value period + more) / value period⌋₊ = count + ⌊more / value period⌋₊ := by
  cases count with
  | zero => simp
  | succ count =>
    -- a period that was taken off is finite, so its value can be divided by
    obtain ⟨_, exact, _⟩ := splits
    have unit : 0 < value period := value_lt isFinite_zero exact.finite' positive
    rw [add_div, mul_div_cancel_right₀ _ unit.ne', add_comm,
      Nat.floor_add_natCast (div_nonneg (nonneg count.succ_pos) unit.le), add_comm]

end Splits

/-- No interval is due while a period is not over. -/
theorem floor_eq_zero (positive : 0 < period) (short : ¬period ≤ elapsed) :
    ⌊value elapsed / value period⌋₊ = 0 := by
  rw [Nat.floor_eq_zero]
  have nonneg := Single.value_nonneg (le_of_lt positive)
  -- an infinite period has the value zero, and division by it gives zero
  rcases nonneg.eq_or_lt with infinite | unit
  · rw [← infinite, div_zero]
    exact one_pos
  · rw [div_lt_one unit]
    by_contra enough
    have enough := not_lt.1 enough
    have finite := isFinite_of_value_ne_zero unit.ne'
    have finite' := isFinite_of_value_ne_zero (unit.trans_le enough).ne'
    exact short ((value_le_iff finite finite').1 enough)

namespace Frames

theorem forward_of_cons {delta : Float32} {deltas : List Float32}
    (forward : ∀ d ∈ delta :: deltas, 0 ≤ d) : 0 ≤ value delta ∧ ∀ d ∈ deltas, 0 ≤ d :=
  ⟨Single.value_nonneg (forward delta (.head _)), fun d member => forward d (.tail _ member)⟩

variable (positive : 0 < period)

include positive

/-- No more is lost than goes by. -/
theorem lost_le (frames : Frames period elapsed deltas lost) (forward : ∀ delta ∈ deltas, 0 ≤ delta)
    (nonneg : 0 ≤ value elapsed) : lost ≤ value elapsed + (deltas.map value).sum := by
  have unit : 0 ≤ value period := Single.value_nonneg (le_of_lt positive)
  induction frames with
  | nil => simpa using nonneg
  | @carry elapsed delta rest deltas count lost sum splits few frames inductionHypothesis =>
    obtain ⟨here, forward⟩ := forward_of_cons forward
    have time : 0 ≤ value (elapsed + delta) := sum.value_add ▸ add_nonneg nonneg here
    have left := inductionHypothesis forward (splits.value_nonneg time)
    have fired : 0 ≤ count * value period := mul_nonneg count.cast_nonneg unit
    have whole := sum.value_add.symm.trans splits.value_eq
    rw [List.map_cons, List.sum_cons]
    linarith
  | @cut elapsed delta rest deltas lost sum splits frames inductionHypothesis =>
    obtain ⟨here, forward⟩ := forward_of_cons forward
    have left := inductionHypothesis forward value_zero.ge
    have fired : 0 ≤ maxIntervals * value period := mul_nonneg maxIntervals.cast_nonneg unit
    have whole := sum.value_add.symm.trans splits.value_eq
    rw [value_zero] at left
    rw [List.map_cons, List.sum_cons]
    linarith

section Fire

variable {delta rest : Float32} {count : Nat} (sum : AddsExactly elapsed delta)
  (forward : ∀ delta ∈ deltas, 0 ≤ delta)

include sum forward

/-- A frame fires the intervals that are due, and leaves the others to later frames. -/
theorem floor_carry (splits : Splits period count (elapsed + delta) rest)
    (frames : Frames period rest deltas lost) :
    ⌊(value elapsed + (value delta + (deltas.map value).sum) - lost) / value period⌋₊ =
      count + ⌊(value rest + (deltas.map value).sum - lost) / value period⌋₊ := by
  have whole := sum.value_add.symm.trans splits.value_eq
  have apart : value elapsed + (value delta + (deltas.map value).sum) - lost =
      count * value period + (value rest + (deltas.map value).sum - lost) := by
    linarith
  rw [apart]
  refine splits.floor_add positive fun fires => sub_nonneg.2 ?_
  exact frames.lost_le positive forward (splits.value_nonneg (splits.time_nonneg positive fires))

/-- A frame fires as many intervals as it may, and what is left of it is lost. -/
theorem floor_cut (splits : Splits period maxIntervals (elapsed + delta) rest)
    (frames : Frames period 0 deltas lost) :
    ⌊(value elapsed + (value delta + (deltas.map value).sum) - (value rest + lost)) /
        value period⌋₊ =
      maxIntervals + ⌊(value 0 + (deltas.map value).sum - lost) / value period⌋₊ := by
  have whole := sum.value_add.symm.trans splits.value_eq
  have apart : value elapsed + (value delta + (deltas.map value).sum) - (value rest + lost) =
      maxIntervals * value period + (value 0 + (deltas.map value).sum - lost) := by
    rw [value_zero]
    linarith
  rw [apart]
  exact splits.floor_add positive fun _ =>
    sub_nonneg.2 (frames.lost_le positive forward value_zero.ge)

end Fire

end Frames

end Timer

/-! ## Tick conditions -/

namespace Timer

/-- Takes periods off a time, at most so many.  Gives how many there were, and what is left. -/
def take (period : Float32) : Nat → Float32 → Nat × Float32
  | 0, time => (0, time)
  | limit + 1, time =>
    if period ≤ time then
      ((take period limit (Single.positivePart (time - period))).1 + 1,
        (take period limit (Single.positivePart (time - period))).2)
    else (0, time)

/-- What a timer goes on with after periods have been taken off: what is left, unless there were as
many as one trigger may fire. -/
def carried (taken : Nat × Float32) : Float32 := if taken.1 = maxIntervals then 0 else taken.2

variable {period time rest : Float32} {limit count : Nat}

theorem take_of_short (short : ¬period ≤ time) : take period limit time = (0, time) := by
  cases limit with
  | zero => rfl
  | succ limit => rw [take, if_neg short]

theorem fst_take_le : (take period limit time).1 ≤ limit := by
  induction limit generalizing time with
  | zero => exact Nat.le_refl 0
  | succ limit inductionHypothesis =>
    rw [take]
    split
    · exact Nat.succ_le_succ inductionHypothesis
    · exact Nat.zero_le _

/-- Periods are taken off as long as there is one, unless there are too many. -/
theorem take_short (few : (take period limit time).1 < limit) :
    ¬period ≤ (take period limit time).2 := by
  induction limit generalizing time with
  | zero => exact absurd few (Nat.not_lt_zero _)
  | succ limit inductionHypothesis =>
    rw [take] at few ⊢
    split
    next due =>
      rw [if_pos due] at few
      exact inductionHypothesis (Nat.lt_of_succ_lt_succ few)
    next short => exact short

theorem carried_short (positive : 0 < period) :
    ¬period ≤ carried (take period maxIntervals time) := by
  rw [carried]
  split
  · exact Single.not_le_of_lt positive
  next few => exact take_short (Nat.lt_of_le_of_ne fst_take_le few)

theorem Splits.take_eq (splits : Splits period count time rest) (few : count ≤ limit) :
    take period limit time = (count, rest) := by
  induction limit generalizing count time with
  | zero =>
    obtain rfl := Nat.le_zero.1 few
    obtain ⟨_, rfl⟩ := splits
    rfl
  | succ limit inductionHypothesis =>
    cases count with
    | zero =>
      obtain ⟨short, rfl⟩ := splits
      exact take_of_short short
    | succ count =>
      obtain ⟨due, _, further⟩ := splits
      rw [take, if_pos due, inductionHypothesis further (Nat.le_of_succ_le_succ few)]

end Timer

/-- A node that is a timer, looked at when some time has elapsed. -/
def ConditionNode.timed (node : ConditionNode) (seconds elapsed : Float32) : ConditionNode :=
  { node with predicate := .timed seconds elapsed, isMet := seconds ≤ elapsed }

namespace AppliedEffect

open Timer

variable {node : ConditionNode} {seconds elapsed delta time : Float32} {snapshot : StatSnapshot}

theorem countIntervals_timed {limit : Nat} :
    countIntervals snapshot limit ⟨node.timed seconds time, []⟩ =
      ((take seconds limit time).1, ⟨node.timed seconds (take seconds limit time).2, []⟩) := by
  induction limit generalizing time with
  | zero => rfl
  | succ limit inductionHypothesis =>
    have holds : (⟨node.timed seconds time, []⟩ : Condition).holds = decide (seconds ≤ time) := rfl
    have rewound : (⟨node.timed seconds time, []⟩ : Condition).rewind snapshot =
        ⟨node.timed seconds (Single.positivePart (time - seconds)), []⟩ := rfl
    rw [countIntervals, take, holds, rewound, inductionHypothesis]
    by_cases due : seconds ≤ time
    · rw [decide_eq_true due, if_pos rfl, if_pos due]
    · rw [decide_eq_false due, if_neg Bool.false_ne_true, if_neg due]

theorem reset_timed (positive : 0 < seconds) :
    (⟨node.timed seconds time, []⟩ : Condition).reset = ⟨node.timed seconds 0, []⟩ := by
  simp [Condition.reset, ConditionNode.reset, ConditionNode.timed, Predicate.reset,
    Single.not_le_of_lt positive]

/-- The flag of a timer that waits turns when the time is over. -/
theorem notify_timed (waits : ¬seconds ≤ elapsed) :
    Condition.notify (.tick delta) snapshot ⟨node.timed seconds elapsed, []⟩ =
      (decide (seconds ≤ elapsed + delta), ⟨node.timed seconds (elapsed + delta), []⟩) := by
  simp [Condition.notify, Condition.changeAll, ConditionNode.notify, ConditionNode.refresh,
    ConditionNode.timed, Predicate.subscribes, Trigger.kind, Predicate.observe, Predicate.holds,
    waits]

/-- A timer that waits fires the periods that are over.  If these are as many as one trigger may
fire, it starts over, and keeps what is left otherwise. -/
theorem receiveTick_timed (positive : 0 < seconds) (waits : ¬seconds ≤ elapsed) :
    receiveTick (.tick delta) snapshot ⟨node.timed seconds elapsed, []⟩ =
      ((take seconds maxIntervals (elapsed + delta)).1,
        ⟨node.timed seconds (carried (take seconds maxIntervals (elapsed + delta))), []⟩) := by
  have holds : (⟨node.timed seconds (elapsed + delta), []⟩ : Condition).holds =
      decide (seconds ≤ elapsed + delta) := rfl
  rw [receiveTick, notify_timed waits]
  dsimp only
  rw [holds, Bool.and_self]
  by_cases due : seconds ≤ elapsed + delta
  · rw [decide_eq_true due, if_pos rfl, countIntervals_timed, carried]
    dsimp only
    split
    · rw [reset_timed positive]
    · rfl
  · rw [decide_eq_false due, if_neg Bool.false_ne_true, take_of_short due]
    rfl

/-- Timers hear of nothing but time. -/
theorem receiveTick_timed_of_ne {trigger : Trigger} (timeless : trigger.kind ≠ .time) :
    receiveTick trigger snapshot ⟨node.timed seconds elapsed, []⟩ =
      (0, ⟨node.timed seconds elapsed, []⟩) := by
  cases trigger with
  | tick => exact absurd rfl timeless
  | statsChanged | damage => rfl

end AppliedEffect

/-! ## Waiting -/

namespace Predicate

/-- The seconds of a timer. -/
def seconds? : Predicate → Option Float32
  | timed seconds _ => some seconds
  | _ => none

variable {predicate : Predicate} {trigger : Trigger}

theorem seconds?_observe : (predicate.observe trigger).seconds? = predicate.seconds? := by
  cases predicate <;> cases trigger <;> rfl

theorem seconds?_reset : predicate.reset.seconds? = predicate.seconds? := by
  cases predicate <;> rfl

theorem seconds?_rewind : predicate.rewind.seconds? = predicate.seconds? := by
  cases predicate <;> rfl

end Predicate

namespace Condition

/-- The seconds of a condition that is a single timer. -/
def seconds? (condition : Condition) : Option Float32 :=
  if condition.tail.isEmpty then condition.head.predicate.seconds? else none

variable {condition : Condition} {trigger : Trigger} {snapshot : StatSnapshot}

theorem seconds?_notify : (condition.notify trigger snapshot).2.seconds? = condition.seconds? := by
  have head : (condition.head.notify trigger snapshot).2.predicate.seconds? =
      condition.head.predicate.seconds? := by
    rw [ConditionNode.notify]
    split
    · exact Predicate.seconds?_observe
    · rfl
  simp [notify, changeAll, seconds?, head]

theorem seconds?_rewind : (condition.rewind snapshot).seconds? = condition.seconds? := by
  simp [rewind, seconds?, ConditionNode.rewind, Predicate.seconds?_rewind]

theorem seconds?_reset : condition.reset.seconds? = condition.seconds? := by
  simp [reset, seconds?, ConditionNode.reset, Predicate.seconds?_reset]

theorem seconds?_countIntervals {limit : Nat} :
    (AppliedEffect.countIntervals snapshot limit condition).2.seconds? = condition.seconds? := by
  induction limit generalizing condition with
  | zero => rfl
  | succ limit inductionHypothesis =>
    rw [AppliedEffect.countIntervals]
    split
    · exact inductionHypothesis.trans seconds?_rewind
    · rfl

theorem seconds?_receiveTick :
    (AppliedEffect.receiveTick trigger snapshot condition).2.seconds? = condition.seconds? := by
  simp only [AppliedEffect.receiveTick]
  split
  · split
    · rw [seconds?_reset, seconds?_countIntervals, seconds?_notify]
    · rw [seconds?_countIntervals, seconds?_notify]
  · exact seconds?_notify

/-- A condition that is a single timer waits for time to pass. -/
def Waits (condition : Condition) : Prop :=
  ∀ seconds ∈ condition.seconds?, 0 < seconds →
    ∃ node elapsed, condition = ⟨ConditionNode.timed node seconds elapsed, []⟩ ∧ ¬seconds ≤ elapsed

theorem waits_start : (condition.reset.refresh snapshot).2.Waits := by
  obtain ⟨⟨predicate, outcome, junction, isMet⟩, tail⟩ := condition
  intro seconds single positive
  cases tail with
  | cons => cases single
  | nil =>
    cases predicate with
    | timed =>
      obtain rfl := Option.some.inj single
      exact ⟨⟨.timed 0 0, outcome, junction, isMet⟩, 0, rfl, Single.not_le_of_lt positive⟩
    | statValue | hpRatio | damageCount => cases single

theorem Waits.receiveTick (waits : condition.Waits) :
    (AppliedEffect.receiveTick trigger snapshot condition).2.Waits := by
  intro seconds single positive
  rw [seconds?_receiveTick] at single
  obtain ⟨node, elapsed, rfl, short⟩ := waits seconds single positive
  cases trigger with
  | tick delta =>
    rw [AppliedEffect.receiveTick_timed positive short]
    exact ⟨node, _, rfl, Timer.carried_short positive⟩
  | statsChanged | damage => exact ⟨node, elapsed, rfl, short⟩

end Condition

end Roleplay
