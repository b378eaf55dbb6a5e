import Roleplay.Session.Basic

/-! # Histories of sessions

Which records a session may have, and what follows for the calls of the presenter.

* `SessionEvent.phaseAfter` reads the phase off a history;
* `Session.IsLawful` says that a history agrees with the phase, that lines and choices appear only
  in a running session, and that closing and the closing call come in pairs;
* `IsLawful.started`, `IsLawful.restored`, `IsLawful.shown` and `IsLawful.closed` are the ways in
  which a history grows;
* `IsLawful.reopened`: between two closing calls lies a start or a restore.
-/

namespace Roleplay

namespace SessionEvent

def next (phase : Phase) : SessionEvent → Phase
  | started => .running
  | restored phase => phase
  | closed => .closed
  | called _ _ => phase

/-- The phase of a new session with a history. -/
def phaseAfter (history : List SessionEvent) : Phase := history.foldl next .idle

@[simp] theorem phaseAfter_append {history : List SessionEvent} {event : SessionEvent} :
    phaseAfter (history ++ [event]) = next (phaseAfter history) event := by
  simp [phaseAfter]

/-- Whether an event opens a session, possibly without letting it run. -/
def IsOpening (event : SessionEvent) : Prop :=
  event = .started ∨ ∃ phase, event = .restored phase

theorem foldl_next_closed {events : List SessionEvent}
    (unopened : ∀ event ∈ events, ¬event.IsOpening) :
    events.foldl next .closed = .closed := by
  induction events with
  | nil => rfl
  | cons event rest inductionHypothesis =>
    -- only an opening leads out of the closed phase
    have stays : next .closed event = .closed := by
      cases event with
      | started => exact absurd (Or.inl rfl) (unopened .started (by simp))
      | restored phase => exact absurd (Or.inr ⟨phase, rfl⟩) (unopened (.restored phase) (by simp))
      | closed => rfl
      | called phase call => rfl
    rw [List.foldl_cons, stays]
    exact inductionHypothesis fun event member => unopened event (.tail _ member)

end SessionEvent

open SessionEvent

/-! ## Lawful histories -/

/-- What holds of an event between the events before and after it. -/
def SessionEvent.Fits (before : List SessionEvent) (after : List SessionEvent) :
    SessionEvent → Prop
  | started => phaseAfter before ≠ .running
  | restored phase => phase ≠ .closed
  | closed => phaseAfter before ≠ .closed ∧ ∃ later, after = .called .closed .close :: later
  | called phase .close => phase = .closed ∧ ∃ earlier, before = earlier ++ [.closed]
  | called phase _ => phase = .running ∧ phaseAfter before = .running

structure Session.IsLawful {Host : Type} (session : Session Host) : Prop where
  phase : session.phase = phaseAfter session.history
  running_iff : session.phase = .running ↔ session.current.isSome = true
  fits : ∀ before event after, session.history = before ++ event :: after →
    event.Fits before after

theorem eq_or_of_append_singleton_eq {α : Type} {before after list : List α} {event last : α}
    (same : list ++ [last] = before ++ event :: after) :
    (after = [] ∧ list = before ∧ last = event) ∨
      ∃ rest, after = rest ++ [last] ∧ list = before ++ event :: rest := by
  rcases List.eq_nil_or_concat after with rfl | ⟨rest, final, rfl⟩
  · exact Or.inl (by simpa using same)
  · have shape : list ++ [last] = (before ++ event :: rest) ++ [final] := by simpa using same
    obtain ⟨earlier, ends⟩ := List.append_inj' shape rfl
    obtain rfl := List.singleton_inj.1 ends
    exact Or.inr ⟨rest, by simp, earlier⟩

/-- Only the event that closes a session looks at the events after it. -/
theorem SessionEvent.Fits.append {before after later : List SessionEvent} {event : SessionEvent}
    (fits : event.Fits before after) : event.Fits before (after ++ later) := by
  cases event with
  | started => exact fits
  | restored phase => exact fits
  | closed =>
    obtain ⟨unclosed, rest, rfl⟩ := fits
    exact ⟨unclosed, rest ++ later, rfl⟩
  | called phase call => cases call <;> exact fits

namespace Session.IsLawful

variable {Host : Type} {session session' : Session Host}

theorem new {stage : Stage Host} : IsLawful (Session.new stage) :=
  ⟨rfl, by simp [Session.new], fun before event after same => by simp [Session.new] at same⟩

theorem fits_append_singleton (lawful : session.IsLawful) {last : SessionEvent}
    (fits : last.Fits session.history []) :
    ∀ before event after, session.history ++ [last] = before ++ event :: after →
      event.Fits before after := by
  intro before event after same
  cases eq_or_of_append_singleton_eq same with
  | inl latest =>
    obtain ⟨rfl, rfl, rfl⟩ := latest
    exact fits
  | inr older =>
    obtain ⟨rest, rfl, earlier⟩ := older
    exact (lawful.fits before event rest earlier).append

theorem opened (lawful : session.IsLawful) {event : SessionEvent}
    (fits : event.Fits session.history []) (phase : session'.phase = next session.phase event)
    (current : session'.phase = .running ↔ session'.current.isSome = true)
    (history : session'.history = session.history ++ [event]) : session'.IsLawful := by
  refine ⟨?_, current, ?_⟩
  · rw [phase, history, phaseAfter_append, lawful.phase]
  · rw [history]
    exact lawful.fits_append_singleton fits

theorem shown (lawful : session.IsLawful) {calls : List PresenterCall}
    (running : session.phase = .running) (noClose : .close ∉ calls)
    (phase : session'.phase = .running) (current : session'.current.isSome = true)
    (history : session'.history = session.history ++ calls.map (.called .running)) :
    session'.IsLawful := by
  -- on the calls, each of which leaves the session running for the next one
  induction calls generalizing session with
  | nil =>
    have same : session'.history = session.history := by simpa using history
    refine ⟨?_, by simp [phase, current], ?_⟩
    · rw [phase, same, ← lawful.phase, running]
    · rw [same]
      exact lawful.fits
  | cons call calls inductionHypothesis =>
    have fits : Fits session.history [] (.called .running call) := by
      have shows : phaseAfter session.history = .running := lawful.phase ▸ running
      cases call with
      | line line => exact ⟨rfl, shows⟩
      | choices choices => exact ⟨rfl, shows⟩
      | close => exact absurd (by simp) noClose
    have first : IsLawful { session with
        history := session.history ++ [.called .running call] } :=
      lawful.opened fits (by simp [next]) lawful.running_iff rfl
    exact inductionHypothesis first running (fun member => noClose (.tail _ member))
      (by simpa using history)

theorem closed (lawful : session.IsLawful) (unclosed : session.phase ≠ .closed)
    (phase : session'.phase = .closed) (current : session'.current = none)
    (history : session'.history = session.history ++ [.closed, .called .closed .close]) :
    session'.IsLawful := by
  have shape : session'.history = (session.history ++ [.closed]) ++ [.called .closed .close] := by
    simpa using history
  refine ⟨?_, by simp [phase, current], fun before event after same => ?_⟩
  · rw [phase, shape, phaseAfter_append, phaseAfter_append]
    rfl
  · rw [shape] at same
    cases eq_or_of_append_singleton_eq same with
    | inl latest =>
      obtain ⟨rfl, rfl, rfl⟩ := latest
      exact ⟨rfl, session.history, rfl⟩
    | inr older =>
      obtain ⟨rest, rfl, inner⟩ := older
      rcases eq_or_of_append_singleton_eq inner with ⟨rfl, rfl, rfl⟩ | ⟨others, rfl, prior⟩
      · exact ⟨lawful.phase ▸ unclosed, [], rfl⟩
      · exact (lawful.fits before event others prior).append.append

/-- Between two closing calls the session was opened again. -/
theorem reopened (lawful : session.IsLawful) {first between last : List SessionEvent}
    {phase phase' : Phase}
    (history : session.history =
      first ++ .called phase .close :: (between ++ .called phase' .close :: last)) :
    ∃ event ∈ between, event.IsOpening := by
  refine Classical.byContradiction fun unopened => ?_
  -- each of the two calls follows a closing, and the session was open before the second one
  obtain ⟨_, earlier, rfl⟩ := lawful.fits _ _ _ history
  obtain ⟨_, earlier', same⟩ := lawful.fits
    (earlier ++ [.closed] ++ .called phase .close :: between) (.called phase' .close) last
    (by simp [history])
  cases eq_or_of_append_singleton_eq same.symm with
  | inl latest =>
    obtain ⟨_, _, impossible⟩ := latest
    exact absurd impossible (by simp)
  | inr older =>
    obtain ⟨rest, rfl, prior⟩ := older
    obtain ⟨unclosed, _⟩ := lawful.fits earlier' .closed (.called phase' .close :: last)
      (by simp [history, prior])
    refine unclosed ?_
    rw [prior, phaseAfter]
    simp only [List.foldl_append, List.foldl_cons, List.foldl_nil, next]
    -- but it was closed after the first call, and nothing opened it since
    exact foldl_next_closed fun event member opening =>
      unopened ⟨event, by simp [member], opening⟩

end Session.IsLawful

end Roleplay
