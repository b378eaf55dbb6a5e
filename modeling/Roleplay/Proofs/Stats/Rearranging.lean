import Roleplay.Proofs.Stats.Provenance
import Roleplay.Proofs.Stats.Visits

/-! # Orders of walks do not matter

An operation returns the same and leaves the same actor behind, in whatever orders the table of
modifiers is walked.  What is reported differs in no more than the arrangement of the events of
different stats that one walk reports.

* `Notice.read` gives the events of a report for given orders of walks;
* `Program.IsBlind` holds of the programs of hooks that do not look at the arrangement, as those of
  the given behaviors do;
* `World.Alike` relates two runs with different orders, and `Engine.likeness_alike` says that the
  engine keeps it;
* `World.perform_rearranged` is the statement for all operations, `World.Reachable.isBlind` says which
  actors it is about, and `World.Reachable.not_forall_rearranged` that others do depend on the order.
-/

namespace Roleplay

/-! ## Reports -/

/-- A part of a report, for all orders of walks at once. -/
inductive Notice where
  | single (event : Event)
  /-- What a walk reports of each stat. -/
  | visit (events : Stat → List Event)
      (concerns : ∀ stat, ∀ event ∈ events stat, event.stat? = some stat)

namespace Notice

/-- The events of a report.  Walks are counted, and each is made in the order of its number. -/
def read (orders : Nat → VisitOrder) : Nat → List Notice → List Event
  | _, [] => []
  | walk, .single event :: notices => event :: read orders walk notices
  | walk, .visit events _ :: notices =>
    (orders walk).stats.flatMap events ++ read orders (walk + 1) notices

def walks : List Notice → Nat
  | [] => 0
  | .single _ :: notices => walks notices
  | .visit _ _ :: notices => walks notices + 1

variable {orders : Nat → VisitOrder} {walk : Nat} {notices later : List Notice}

theorem read_append :
    read orders walk (notices ++ later) =
      read orders walk notices ++ read orders (walk + walks notices) later := by
  induction notices generalizing walk with
  | nil => rfl
  | cons notice notices inductionHypothesis =>
    cases notice with
    | single event => exact congrArg (event :: ·) inductionHypothesis
    | visit events concerns =>
      rw [List.cons_append, read, inductionHypothesis, read, walks, List.append_assoc,
        Nat.add_right_comm, Nat.add_assoc]

theorem walks_append : walks (notices ++ later) = walks notices + walks later := by
  induction notices with
  | nil => simp [walks]
  | cons notice notices inductionHypothesis =>
    cases notice with
    | single event => exact inductionHypothesis
    | visit events concerns =>
      rw [List.cons_append, walks, walks, inductionHypothesis, Nat.add_right_comm]

theorem read_events {events : List Event} : read orders walk (events.map .single) = events := by
  induction events with
  | nil => rfl
  | cons event events inductionHypothesis => exact congrArg (event :: ·) inductionHypothesis

theorem walks_events {events : List Event} : walks (events.map .single) = 0 := by
  induction events with
  | nil => rfl
  | cons event events inductionHypothesis => exact inductionHypothesis

end Notice

/-- Both lists of events are the same report, which begins at a walk and lasts until another, read
behind the same events. -/
structure Event.Recounts (orders orders' : Nat → VisitOrder) (base : List Event) (start walks : Nat)
    (events events' : List Event) (notices : List Notice) : Prop where
  walks : walks = start + Notice.walks notices
  events : events = base ++ Notice.read orders start notices
  events' : events' = base ++ Notice.read orders' start notices

/-- The events are the same but for the arrangement of those that one walk reports. -/
def Event.Rearranged (events events' : List Event) : Prop :=
  ∃ orders orders' base start walks notices,
    Event.Recounts orders orders' base start walks events events' notices

namespace Event.Recounts

variable {orders orders' : Nat → VisitOrder} {base : List Event} {start walks : Nat}
  {events events' : List Event} {notices : List Notice}

theorem told (recounts : Recounts orders orders' base start walks events events' notices)
    (more : List Event) :
    Recounts orders orders' base start walks (events ++ more) (events' ++ more)
      (notices ++ more.map .single) := by
  refine ⟨?_, ?_, ?_⟩
  · rw [Notice.walks_append, Notice.walks_events, recounts.walks, Nat.add_zero]
  · rw [Notice.read_append, Notice.read_events, recounts.events, List.append_assoc]
  · rw [Notice.read_append, Notice.read_events, recounts.events', List.append_assoc]

theorem visited (recounts : Recounts orders orders' base start walks events events' notices)
    {more : Stat → List Event} (concerns : ∀ stat, ∀ event ∈ more stat, event.stat? = some stat) :
    Recounts orders orders' base start (walks + 1)
      (events ++ (orders walks).stats.flatMap more) (events' ++ (orders' walks).stats.flatMap more)
      (notices ++ [.visit more concerns]) := by
  obtain ⟨rfl, rfl, rfl⟩ := recounts
  refine ⟨?_, ?_, ?_⟩
  · rw [Notice.walks_append]
    rfl
  · rw [Notice.read_append, Notice.read, Notice.read, List.append_nil, List.append_assoc]
  · rw [Notice.read_append, Notice.read, Notice.read, List.append_nil, List.append_assoc]

end Event.Recounts

/-! ## Hooks that do not look -/

/-- What the program does after it has taken the events does not depend on their arrangement. -/
inductive Program.IsBlind : Program → Prop where
  | done : IsBlind .done
  | step (operation : Operation) (next : Response → Program)
      (blind : operation = .takeEvents → ∀ events events', Event.Rearranged events events' →
        next (.events events) = next (.events events'))
      (later : ∀ response, IsBlind (next response)) : IsBlind (.step operation next)

theorem Program.isBlind_ofList {operations : List Operation} :
    (Program.ofList operations).IsBlind := by
  induction operations with
  | nil => exact .done
  | cons operation operations inductionHypothesis =>
    exact .step operation _ (fun _ _ _ _ => rfl) fun _ => inductionHypothesis

def Behavior.IsBlind (behavior : Behavior) : Prop :=
  ∀ kind spec earlier, (behavior.program kind spec earlier).IsBlind

namespace Behavior

theorem isBlind_standard : standard.IsBlind := by
  intro kind spec earlier
  cases kind with
  | enter | exit => exact Program.isBlind_ofList
  | interval => exact .done

theorem isBlind_damageOverTime {amount : Float32} : (damageOverTime amount).IsBlind := by
  intro kind spec earlier
  cases kind with
  | enter => exact isBlind_standard .enter spec earlier
  | exit => exact isBlind_standard .exit spec earlier
  | interval => exact Program.isBlind_ofList

theorem isBlind_extending {enter exit interval : List Operation} :
    (extending enter exit interval).IsBlind := by
  intro kind spec earlier
  cases kind <;> exact Program.isBlind_ofList

end Behavior

/-- The hooks of all effects that are applied or may be applied are blind. -/
structure World.IsBlind (world : World) : Prop where
  catalog : ∀ id, ∀ definition ∈ world.actor.catalog.get? id, definition.behavior.IsBlind
  effects : ∀ id, ∀ effect ∈ world.actor.effects.get? id, effect.definition.behavior.IsBlind

/-! ## Two runs -/

/-- What two runs have told since a walk, each in its own orders of walks: the same report, of which
the end waits for the owner, behind what waited before unless that was taken. -/
def Event.Tells (orders orders' : Nat → VisitOrder) (reports waiting : List Event) (start : Nat)
    (telling telling' : Telling) : Prop :=
  ∃ base taken notices, (base = waiting ∧ taken = [] ∨ base = []) ∧
    Event.Recounts orders orders' reports start telling.walks telling.reports telling'.reports
      (taken ++ notices) ∧
    Event.Recounts orders orders' base (start + Notice.walks taken) telling.walks telling.events
      telling'.events notices

structure Telling.Alike (orders orders' : Nat → VisitOrder) (reports waiting : List Event)
    (start : Nat) (telling telling' : Telling) : Prop where
  ordered : telling.orders = orders
  ordered' : telling'.orders = orders'
  walks : telling'.walks = telling.walks
  tells : Event.Tells orders orders' reports waiting start telling telling'

structure World.Alike (orders orders' : Nat → VisitOrder) (reports waiting : List Event)
    (start : Nat) (world world' : World) : Prop where
  same : world' = world.retold world'.telling
  tellings : world.telling.Alike orders orders' reports waiting start world'.telling
  blind : world.IsBlind

variable {orders orders' : Nat → VisitOrder} {reports waiting : List Event} {start : Nat}

theorem Telling.Alike.told {telling telling' : Telling}
    (alike : telling.Alike orders orders' reports waiting start telling') (events : List Event) :
    (telling.told events).Alike orders orders' reports waiting start (telling'.told events) := by
  obtain ⟨base, taken, notices, untaken, reported, waits⟩ := alike.tells
  refine ⟨alike.ordered, alike.ordered', alike.walks, base, taken, _, untaken, ?_,
    waits.told events⟩
  rw [← List.append_assoc]
  exact reported.told events

theorem Telling.Alike.visited {telling telling' : Telling}
    (alike : telling.Alike orders orders' reports waiting start telling')
    {events : Stat → List Event}
    (concerns : ∀ stat, ∀ event ∈ events stat, event.stat? = some stat) :
    (telling.visited events).Alike orders orders' reports waiting start
      (telling'.visited events) := by
  obtain ⟨rfl, rfl, walks, base, taken, notices, untaken, reported, waits⟩ := alike
  have sameWalk : telling'.visited events =
      { telling'.told ((telling'.orders telling.walks).stats.flatMap events) with
        walks := telling.walks + 1 } := by rw [visited, walks]
  rw [sameWalk]
  refine ⟨rfl, rfl, rfl, base, taken, _, untaken, ?_, waits.visited concerns⟩
  rw [← List.append_assoc]
  exact reported.visited concerns

/-- The owner, or a hook, takes the events that wait. -/
theorem Telling.Alike.emptied {telling telling' : Telling}
    (alike : telling.Alike orders orders' reports waiting start telling') :
    Telling.Alike orders orders' reports waiting start { telling with events := [] }
      { telling' with events := [] } := by
  obtain ⟨ordered, ordered', walks, base, taken, notices, untaken, reported, waits⟩ := alike
  refine ⟨ordered, ordered', walks, [], taken ++ notices, [], .inr rfl, ?_, reported.walks, rfl,
    rfl⟩
  rw [List.append_nil]
  exact reported

/-- Worlds that are told differently are alike if the tellings are. -/
theorem World.Alike.of_telling {world : World} {telling telling' : Telling}
    (tellings : telling.Alike orders orders' reports waiting start telling')
    (blind : world.IsBlind) :
    (world.retold telling).Alike orders orders' reports waiting start (world.retold telling') :=
  ⟨rfl, tellings, blind.catalog, blind.effects⟩

theorem World.IsBlind.spared {world : World} {change : World → World} (blind : world.IsBlind)
    (spares : World.Spares change) : (change world).IsBlind := by
  have catalog : (change world).actor.catalog = world.actor.catalog :=
    congrArg Course.catalog (spares.course world)
  have effects : (change world).actor.effects = world.actor.effects :=
    congrArg Course.effects (spares.course world)
  refine ⟨?_, ?_⟩
  · rw [catalog]
    exact blind.catalog
  · rw [effects]
    exact blind.effects

namespace Engine

variable {α : Type}

/-- A walk is made alike, each in its own order. -/
theorem IsVisit.alike {engine : Engine α} {result : World → α} {change : World → World}
    {events : World → Stat → List Event} (visit : IsVisit engine result change events) :
    Matches (World.Alike orders orders' reports waiting start) engine engine := by
  intro world world' value after alike returned
  obtain ⟨rfl, rfl⟩ := Prod.mk.inj (Option.some.inj ((visit.run world).symm.trans returned))
  have ran := visit.run (world.retold world'.telling)
  rw [visit.result_retold, visit.events_retold, visit.spares.retold] at ran
  rw [alike.same]
  exact ⟨_, ran, .of_telling (alike.tellings.visited (visit.concerns world))
    (alike.blind.spared visit.spares)⟩

/-- A change that neither looks at what is told nor tells anything is made alike. -/
theorem modifyGet_alike (change : World → α × World)
    (retold : ∀ world telling, change (world.retold telling) =
      ((change world).1, (change world).2.retold telling))
    (blind : ∀ world, world.IsBlind → (change world).2.IsBlind) :
    Matches (World.Alike orders orders' reports waiting start) (modifyGet change : Engine α)
      (modifyGet change) := by
  intro world world' value after alike returned
  obtain ⟨rfl, rfl⟩ := Prod.mk.inj (Option.some.inj returned)
  have ran := retold world world'.telling
  refine ⟨(change world).2.retold world'.telling, ?_, rfl, ?_, blind world alike.blind⟩
  · rw [alike.same]
    exact congrArg some ran
  · -- retold what it has been told, the world is the same, and so is what it tells afterwards
    have same : (change world).2.telling = world.telling :=
      congrArg (fun ran => ran.2.telling) (retold world world.telling)
    rw [same]
    exact alike.tellings

theorem likeness_alike :
    Likeness (World.Alike orders orders' reports waiting start) (·.behavior.IsBlind) where
  actor world world' alike := congrArg World.actor alike.same
  catalog world world' alike := alike.blind.catalog
  effects world world' alike := alike.blind.effects
  modifyGet change isLocal := by
    refine modifyGet_alike change isLocal.retold fun world blind => ?_
    refine ⟨?_, isLocal.effects world blind.effects⟩
    rw [isLocal.catalog]
    exact blind.catalog
  report events := by
    intro world world' value after alike returned
    obtain ⟨rfl, rfl⟩ := Prod.mk.inj (Option.some.inj returned)
    rw [alike.same]
    exact ⟨_, rfl, .of_telling (alike.tellings.told events) alike.blind⟩
  sweepModifiers _ _ := isVisit_sweepModifiers.alike
  withdrawSource _ := isVisit_withdrawSource.alike
  replaceCustomValue _ _ := isVisit_replaceCustomValue.alike

theorem takesHealth_alike : TakesHealth (World.Alike orders orders' reports waiting start) := by
  intro change blind
  refine modifyGet_alike (fun world => ((), { world with actor := { world.actor with
    hp := (change world.actor).1, damage := (change world.actor).2 } }))
    (fun world telling => ?_) fun world blind => ⟨blind.catalog, blind.effects⟩
  exact congrArg (fun health : Float32 × List Damage => ((), { world.retold telling with
    actor := { (world.retold telling).actor with hp := health.1, damage := health.2 } }))
    (blind world.actor telling.events)

/-! ## Operations -/

/-- Events are taken alike, but what the owner gets may be arranged differently. -/
def TakesAlike (relation : World → World → Prop) (perform : Performer) : Prop :=
  ∀ world world' response after, relation world world' →
    (perform .takeEvents).run world = some (response, after) →
    ∃ events events' after', response = .events events ∧ Event.Rearranged events events' ∧
      (perform .takeEvents).run world' = some (.events events', after') ∧ relation after after'

theorem matches_of_isBlind {relation : World → World → Prop} {perform : Performer}
    (matching : ∀ operation, operation ≠ .takeEvents →
      Matches relation (perform operation) (perform operation))
    (takes : TakesAlike relation perform) {program : Program} (blind : program.IsBlind) :
    Matches relation (runProgram perform program) (runProgram perform program) := by
  induction blind with
  | done => exact matches_pure
  | step operation next blind later inductionHypothesis =>
    by_cases taken : operation = .takeEvents
    · subst taken
      intro world world' result after related returned
      obtain ⟨response, between, performed, rest⟩ := run_bind_eq_some.1 returned
      obtain ⟨events, events', between', rfl, rearranged, performed', stillRelated⟩ :=
        takes world world' response between related performed
      obtain ⟨after', rest', ends⟩ :=
        inductionHypothesis (.events events) between between' result after stillRelated rest
      rw [blind rfl events events' rearranged] at rest'
      exact ⟨after', run_bind_eq_some.2 ⟨_, between', performed', rest'⟩, ends⟩
    · exact (matching operation taken).bind inductionHypothesis

theorem takesAlike_act {perform : Performer} {fuel : Nat} :
    TakesAlike (World.Alike orders orders' reports waiting start) (act perform fuel) := by
  intro world world' response after alike returned
  obtain ⟨rfl, rfl⟩ := Prod.mk.inj (Option.some.inj returned)
  obtain ⟨base, taken, notices, -, -, waits⟩ := alike.tellings.tells
  refine ⟨_, world'.actor.events, world.retold { world'.telling with events := [] }, rfl,
    ⟨orders, orders', base, _, _, notices, waits⟩, ?_, rfl, alike.tellings.emptied,
    alike.blind.catalog, alike.blind.effects⟩
  rw [alike.same]
  rfl

theorem perform_alike (fuel : Nat) :
    (∀ operation, operation ≠ .takeEvents →
      Matches (World.Alike orders orders' reports waiting start)
      (Engine.perform fuel operation) (Engine.perform fuel operation)) ∧
    TakesAlike (World.Alike orders orders' reports waiting start) (Engine.perform fuel) := by
  induction fuel with
  | zero =>
    exact ⟨fun _ _ => matches_exhausted, fun _ _ _ _ _ returned => absurd returned
      (by simp [Engine.perform, exhausted, StateT.run])⟩
  | succ fuel inductionHypothesis =>
    obtain ⟨matching, takes⟩ := inductionHypothesis
    refine ⟨fun operation blind => likeness_alike.act (fun kind definition allowed => ?_) blind
      fun _ => takesHealth_alike, takesAlike_act⟩
    exact likeness_alike.callHook fun earlier =>
      matches_of_isBlind matching takes (allowed kind definition.toEffectSpec earlier)

end Engine

/-- What becomes of a world in its own orders of walks and in others: everything is the same but
what is told, and that is the same report. -/
structure World.Rearranges (world : World) (orders : Nat → VisitOrder) (after after' : World) :
    Prop where
  same : after' = after.retold after'.telling
  ordered : after'.orders = orders
  walks : after'.walks = after.walks
  tells : Event.Tells world.orders orders world.reports world.actor.events world.walks after.telling
    after'.telling

theorem World.rearranges_of_perform {world : World} (blind : world.IsBlind) {operation : Operation}
    {fuel : Nat} {response : Response} {after : World} (orders : Nat → VisitOrder)
    (returned : (Engine.perform fuel operation).run world = some (response, after)) :
    ∃ after', (Engine.perform fuel operation).run { world with orders := orders } =
      some (response, after') ∧ world.Rearranges orders after after' := by
  -- nothing has been told yet, and all that waits was waiting before
  have begun : Event.Tells world.orders orders world.reports world.actor.events world.walks
      world.telling { world.telling with orders := orders } :=
    ⟨_, [], [], .inl ⟨rfl, rfl⟩, ⟨rfl, (List.append_nil _).symm, (List.append_nil _).symm⟩,
      ⟨rfl, (List.append_nil _).symm, (List.append_nil _).symm⟩⟩
  have alike : World.Alike world.orders orders world.reports world.actor.events world.walks world
      { world with orders := orders } := ⟨rfl, ⟨rfl, rfl, rfl, begun⟩, blind⟩
  suffices performed : ∃ after',
      (Engine.perform fuel operation).run { world with orders := orders } =
      some (response, after') ∧ World.Alike world.orders orders world.reports world.actor.events
        world.walks after after' by
    obtain ⟨after', performed, same, tellings, -⟩ := performed
    exact ⟨after', performed, same, tellings.ordered', tellings.walks, tellings.tells⟩
  by_cases taken : operation = .takeEvents
  · subst taken
    cases fuel with
    | zero => exact absurd returned (by simp [Engine.perform, Engine.exhausted, StateT.run])
    | succ fuel =>
      obtain ⟨rfl, rfl⟩ := Prod.mk.inj (Option.some.inj returned)
      exact ⟨_, rfl, rfl, alike.tellings.emptied, alike.blind.catalog, alike.blind.effects⟩
  · exact (Engine.perform_alike fuel).1 operation taken _ _ _ _ alike returned

/-- Whatever an operation does, and whatever its hooks do that do not look at the arrangement of the
events themselves: in other orders of walks it returns the same, and leaves the same modifiers,
effects, health, damage, custom values and pools behind.  Only the events of different stats that
one walk reports are arranged differently. -/
theorem World.perform_rearranged {world : World} (blind : world.IsBlind) (operation : Operation)
    (fuel : Nat) (orders : Nat → VisitOrder) :
    (∀ response after, (Engine.perform fuel operation).run world = some (response, after) →
      ∃ after', (Engine.perform fuel operation).run { world with orders := orders } =
        some (response, after') ∧ world.Rearranges orders after after') ∧
    ((Engine.perform fuel operation).run world = none →
      (Engine.perform fuel operation).run { world with orders := orders } = none) := by
  refine ⟨fun response after returned => rearranges_of_perform blind orders returned,
    fun stuck => ?_⟩
  cases ran : (Engine.perform fuel operation).run { world with orders := orders } with
  | none => rfl
  | some result =>
    -- otherwise it would return in the world's own orders as well
    have blind' : World.IsBlind { world with orders := orders } := ⟨blind.catalog, blind.effects⟩
    obtain ⟨after, returned, -⟩ := rearranges_of_perform blind' world.orders ran
    exact absurd (stuck.symm.trans returned) (by simp)

/-- An actor is blind if its catalog is, whatever it has been through. -/
theorem World.Reachable.isBlind {catalog : EffectCatalog} {permits : World → Operation → Nat → Prop}
    {world : World} (blind : ∀ id, ∀ definition ∈ catalog.get? id, definition.behavior.IsBlind)
    (reachable : World.Reachable catalog permits world) : world.IsBlind := by
  have known := reachable.isKnown
  have same : world.actor.catalog = catalog := known.catalog
  refine ⟨fun id definition defined => ?_, fun id effect applied => ?_⟩
  · rw [same] at defined
    exact blind id definition defined
  · obtain ⟨name, defined⟩ := known.applied id effect applied
    exact blind name effect.definition defined

/-! ## Two stats in one walk -/

def VisitOrder.reversed : VisitOrder := ⟨Stat.all.reverse, List.reverse_perm _⟩

/-- Two modifiers that end after a second, and an effect. -/
def Operation.twilight (effect : String) : List Operation :=
  let lasting (stat : Stat) : Modifier :=
    { Modifier.new stat .add 1 with condition := some (.timed 1) }
  [.addModifier (lasting .attack) none, .addModifier (lasting .speed) none, .addEffect effect,
    .takeEvents]

/-- An effect that deals damage every second. -/
def EffectDefinition.chill : EffectDefinition :=
  ⟨⟨"chill", none, some (.timed 1), []⟩, .damageOverTime 5⟩

/-- The stats are reported in the order of the walk, and the damage behind them in both orders. -/
theorem World.perform_rearranged_twilight :
    ∃ world after after', World.Reachable (.ofList [.chill]) (fun _ _ _ => True) world ∧
      (Engine.perform 3 (.process 1)).run world = some (.done, after) ∧
      (Engine.perform 3 (.process 1)).run { world with orders := fun _ => .reversed } =
        some (.done, after') ∧
      after' = after.retold after'.telling ∧
      after.actor.events = [.modifiersChanged .attack, .statChanged .attack,
        .modifiersChanged .speed, .statChanged .speed, .damaged 5 0 (some "effect:chill")] ∧
      after'.actor.events = [.modifiersChanged .speed, .statChanged .speed,
        .modifiersChanged .attack, .statChanged .attack, .damaged 5 0 (some "effect:chill")] := by
  have run : ((Engine.performAll 3 (Operation.twilight "chill")).run
      (World.new (.ofList [.chill]) .initial)).any (fun first =>
        ((Engine.perform 3 (.process 1)).run first.2).any (fun second =>
          second.1 matches .done && second.2.actor.events = [.modifiersChanged .attack,
            .statChanged .attack, .modifiersChanged .speed, .statChanged .speed,
            .damaged 5 0 (some "effect:chill")]) ∧
        ((Engine.perform 3 (.process 1)).run { first.2 with orders := fun _ => .reversed }).any
          fun second => second.2.actor.events = [.modifiersChanged .speed, .statChanged .speed,
            .modifiersChanged .attack, .statChanged .attack,
            .damaged 5 0 (some "effect:chill")]) = true := by
    decide +kernel
  obtain ⟨first, prepared, facts⟩ := (Option.any_eq_true _ _).1 run
  obtain ⟨declared, reversed⟩ := of_decide_eq_true facts
  obtain ⟨⟨response, after⟩, returned, tells⟩ := (Option.any_eq_true _ _).1 declared
  obtain ⟨isDone, events⟩ := Bool.and_eq_true_iff.1 tells
  have reachable : World.Reachable (.ofList [.chill]) (fun _ _ _ => True) first.2 :=
    World.Reachable.performAll (fun _ _ _ => trivial) (.new .initial fun _ => .declared) prepared
  have blind : first.2.IsBlind := by
    refine reachable.isBlind fun id definition known => ?_
    obtain rfl := List.mem_singleton.1 (EffectCatalog.mem_of_get?_ofList known)
    exact Behavior.isBlind_damageOverTime
  obtain ⟨after', returned', rearranges⟩ :=
    (World.perform_rearranged blind (.process 1) 3 fun _ => .reversed).1 response after returned
  rw [returned'] at reversed
  cases response with
  | done => exact ⟨first.2, after, after', reachable, returned, returned', rearranges.same,
      of_decide_eq_true events, of_decide_eq_true reversed⟩
  | _ => cases isDone

/-- An effect whose hook takes the events that wait, and keeps as a custom value whether the first
of them concerns attack. -/
def EffectDefinition.gossip : EffectDefinition :=
  { id := "gossip", duration := none, tick := some (.timed 1), modifiers := []
    behavior := ⟨fun kind _ _ =>
      match kind with
      | .enter | .exit => .done
      | .interval => .step .takeEvents fun
        | .events (event :: _) =>
          .step (.setCustomValue "news" (if event.stat? = some .attack then 1 else 2)) fun _ => .done
        | _ => .done⟩ }

/-- The order of a walk does matter to a hook that looks at the arrangement of the events: one walk
reports two stats, and whichever comes first decides over a custom value. -/
theorem World.Reachable.not_forall_rearranged :
    ¬∀ (catalog : EffectCatalog) (world : World),
      World.Reachable catalog (fun _ _ _ => True) world →
      ∀ (operation : Operation) (fuel : Nat) (orders : Nat → VisitOrder) (response : Response)
        (after : World), (Engine.perform fuel operation).run world = some (response, after) →
        ∃ after', (Engine.perform fuel operation).run { world with orders := orders } =
          some (response, after') ∧ after'.actor.customValues = after.actor.customValues := by
  intro rearranged
  have run : ((Engine.performAll 3 (Operation.twilight "gossip")).run
      (World.new (.ofList [.gossip]) .initial)).any (fun first =>
        ((Engine.perform 3 (.process 1)).run first.2).any (fun second =>
          second.2.actor.customValues.get? "news" = some 1) ∧
        ((Engine.perform 3 (.process 1)).run { first.2 with orders := fun _ => .reversed }).any
          fun second => second.2.actor.customValues.get? "news" = some 2) = true := by
    decide +kernel
  obtain ⟨first, prepared, facts⟩ := (Option.any_eq_true _ _).1 run
  obtain ⟨declared, reversed⟩ := of_decide_eq_true facts
  obtain ⟨second, returned, attack⟩ := (Option.any_eq_true _ _).1 declared
  obtain ⟨second', returned', speed⟩ := (Option.any_eq_true _ _).1 reversed
  have reachable : World.Reachable (.ofList [.gossip]) (fun _ _ _ => True) first.2 :=
    World.Reachable.performAll (fun _ _ _ => trivial) (.new .initial fun _ => .declared) prepared
  obtain ⟨after', performed, same⟩ := rearranged _ first.2 reachable (.process 1) 3
    (fun _ => .reversed) second.1 second.2 returned
  obtain ⟨-, rfl⟩ := Prod.mk.inj (Option.some.inj (performed.symm.trans returned'))
  rw [same, of_decide_eq_true attack] at speed
  exact absurd speed (by decide)

end Roleplay
