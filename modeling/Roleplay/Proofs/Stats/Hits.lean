import Roleplay.Proofs.Stats.Reporting
import Roleplay.Proofs.Stats.Unfolding
import Roleplay.Proofs.Stats.Vitality

/-! # Damage is taken in full

Damage comes into the queue from the owner and from hooks.  It is taken in the order in which it was
queued, each time with its whole amount.  `Stat.damageTaken` is a stat like any other: modifiers of
it have no part in what a hit does.

* `World.Befell` says how the incidents between two worlds account for health, for the queue and for
  the hits that are reported; `Engine.Step.befell` is one step, `Engine.Unfolds.befell` a run;
* `Incident.IsMitigated` says of a hit that it is multiplied by the damage taken;
* `World.hits_in_full` is the statement for runs, and says when the multiplier is missed;
  `World.Reachable.not_forall_spared` is an actor that ought to take no damage.
-/

namespace Roleplay

/-! ## Incidents -/

namespace Incident

def queued? : Incident → Option Damage
  | queue damage => some damage
  | _ => none

def taken? : Incident → Option Damage
  | hit _ damage _ => some damage
  | _ => none

/-- What is reported of a hit. -/
def event? : Incident → Option Event
  | hit _ damage after => some (.damaged damage.amount after.hp damage.source)
  | _ => none

/-- Health is written within the range that the maximum has at that moment.  A hit takes the whole
amount off, whatever the damage taken is. -/
def IsFull : Incident → Prop
  | queue _ => True
  | hit before damage after =>
    after.hp = Single.clamp (before.hp - damage.amount) 0 before.hpLimit
  | set before hp after => after.hp = Single.clamp hp 0 before.hpLimit

/-- A hit takes off its amount times the damage taken. -/
def IsMitigated : Incident → Prop
  | hit before damage after =>
    after.hp = Single.clamp (before.hp - damage.amount * before.get .damageTaken) 0 before.hpLimit
  | _ => True

/-- At a hit, the damage taken makes no difference. -/
def IsIndifferent : Incident → Prop
  | hit before damage _ =>
    Single.clamp (before.hp - damage.amount * before.get .damageTaken) 0 before.hpLimit =
      Single.clamp (before.hp - damage.amount) 0 before.hpLimit
  | _ => True

theorem IsFull.isMitigated_iff {incident : Incident} (full : incident.IsFull) :
    incident.IsMitigated ↔ incident.IsIndifferent := by
  cases incident with
  | queue damage => exact Iff.rfl
  | set before hp after => exact Iff.rfl
  | hit before damage after =>
    rw [IsFull] at full
    rw [IsMitigated, IsIndifferent, full, eq_comm]

/-- The incidents lead from one health to another, which rests in between. -/
def Trail : Float32 → List Incident → Float32 → Prop
  | hp, [], last => last = hp
  | hp, queue _ :: rest, last => Trail hp rest last
  | hp, hit before _ after :: rest, last => before.hp = hp ∧ Trail after.hp rest last
  | hp, set before _ after :: rest, last => before.hp = hp ∧ Trail after.hp rest last

theorem Trail.append {first second : List Incident} {start middle last : Float32}
    (earlier : Trail start first middle) (later : Trail middle second last) :
    Trail start (first ++ second) last := by
  induction first generalizing start with
  | nil =>
    obtain rfl := earlier
    exact later
  | cons incident rest inductionHypothesis =>
    cases incident with
    | queue damage => exact inductionHypothesis earlier
    | hit before damage after => exact ⟨earlier.1, inductionHypothesis earlier.2⟩
    | set before hp after => exact ⟨earlier.1, inductionHypothesis earlier.2⟩

/-- Hits alone leave health as it is just if each of them would by itself. -/
theorem Trail.spared_iff {incidents : List Incident} {start last limit : Float32}
    (trail : Trail start incidents last) (full : ∀ incident ∈ incidents, incident.IsFull)
    (unset : ∀ before hp after, set before hp after ∉ incidents)
    (limited : ∀ before damage after, hit before damage after ∈ incidents →
      before.hpLimit = limit) :
    (∀ before damage after, hit before damage after ∈ incidents → after.hp = start) ↔
      ∀ damage ∈ incidents.filterMap taken?,
        Single.clamp (start - damage.amount) 0 limit = start := by
  induction incidents with
  | nil => simp
  | cons incident rest inductionHypothesis =>
    have others (trail : Trail start rest last) := inductionHypothesis trail
      (fun other member => full other (.tail _ member))
      (fun before hp after member => unset before hp after (.tail _ member))
      fun before damage after member => limited before damage after (.tail _ member)
    cases incident with
    | queue damage =>
      have same := others trail
      simpa [taken?] using same
    | set before hp after => exact absurd (.head _) (unset before hp after)
    | hit before damage after =>
      obtain ⟨begins, continues⟩ := trail
      have limit := limited before damage after (.head _)
      have taken : after.hp = Single.clamp (before.hp - damage.amount) 0 before.hpLimit :=
        full _ (.head _)
      rw [begins, limit] at taken
      have takes : (hit before damage after :: rest).filterMap taken? =
          damage :: rest.filterMap taken? := rfl
      rw [takes, List.forall_mem_cons, ← taken]
      -- once a hit has left health as it was, the others start from there
      constructor
      · intro spared
        have first := spared before damage after (.head _)
        rw [first] at continues
        exact ⟨first, (others continues).1 fun before damage after member =>
          spared before damage after (.tail _ member)⟩
      · rintro ⟨first, later⟩ other damage' left member
        rw [first] at continues
        rcases List.mem_cons.1 member with same | member
        · obtain ⟨rfl, rfl, rfl⟩ := Incident.hit.inj same
          exact first
        · exact (others continues).2 later other damage' left member

end Incident

/-! ## What befalls a world -/

/-- The incidents between two worlds account for health, for the queue of damage, which is taken
from the front, and for the hits that are reported. -/
structure World.Befell (world world' : World) (incidents : List Incident) : Prop where
  trail : Incident.Trail world.actor.hp incidents world'.actor.hp
  full : ∀ incident ∈ incidents, incident.IsFull
  queue : incidents.filterMap Incident.taken? ++ world'.actor.damage =
    world.actor.damage ++ incidents.filterMap Incident.queued?
  reports : world'.reports.filter Event.isHit =
    world.reports.filter Event.isHit ++ incidents.filterMap Incident.event?

namespace World.Befell

variable {world between world' : World} {first second : List Incident}

theorem refl (world : World) : world.Befell world [] :=
  ⟨rfl, by simp, by simp, by simp⟩

theorem trans (earlier : world.Befell between first) (later : between.Befell world' second) :
    world.Befell world' (first ++ second) := by
  refine ⟨earlier.trail.append later.trail, ?_, ?_, ?_⟩
  · simpa [or_imp, forall_and] using ⟨earlier.full, later.full⟩
  · rw [List.filterMap_append, List.append_assoc, later.queue, ← List.append_assoc, earlier.queue,
      List.append_assoc, List.filterMap_append]
  · rw [later.reports, earlier.reports, List.append_assoc, List.filterMap_append]

/-- What leaves health alone and reports no hits is no incident. -/
theorem of_calm {view : View} {events : List Event} (seen : world'.view = view)
    (hp : view.hp = world.actor.hp) (damage : view.damage = world.actor.damage)
    (reported : world.Reported world' events) (calm : ∀ event ∈ events, event.isHit = false) :
    world.Befell world' [] := by
  subst seen
  have hits : events.filter Event.isHit = [] := List.filter_eq_nil_iff.2 (by simpa using calm)
  exact ⟨hp, by simp, (List.nil_append _).trans (damage.trans (List.append_nil _).symm),
    by simp [reported.reports, hits]⟩

end World.Befell

namespace Engine

variable {world world' : World}

theorem isHit_of_mem_changesOf {stat : Stat} : ∀ event ∈ changesOf stat, event.isHit = false := by
  intro event member
  rcases List.mem_pair.1 member with rfl | rfl
  · rfl
  · rfl

theorem isHit_of_mem_flatMap {changed : List Stat} :
    ∀ event ∈ changed.flatMap changesOf, event.isHit = false := by
  intro event member
  obtain ⟨stat, -, member⟩ := List.mem_flatMap.1 member
  exact isHit_of_mem_changesOf event member

theorem recordOffer_silent : IsSilent recordOffer := modify_silent (fun _ => rfl) fun _ => rfl

theorem takeModifier_silent : IsSilent takeModifier := modifyGet_silent (fun _ => rfl) fun _ => rfl

/-- Every step comes with the incidents that it makes. -/
theorem Step.befell {made : List Incident} (step : Step made world world') :
    world.Befell world' made := by
  cases step with
  | still still =>
    obtain ⟨hp, damage⟩ := Prod.mk.inj still.health
    exact ⟨hp, by simp, by simpa using damage, by simpa using still.hits⟩
  | take returned =>
    exact .of_calm (takeModifier_quiet _ _ _ returned) rfl rfl (takeModifier_silent _ _ _ returned)
      (by simp)
  | reject returned =>
    have same := (recordOffer_quiet.bind fun _ => releaseModifiers_quiet) _ _ _ returned
    exact .of_calm same rfl rfl
      ((recordOffer_silent.bind fun _ => releaseModifiers_silent) _ _ _ returned) (by simp)
  | accept returned =>
    have does := (recordOffer_quiet.bind fun _ => register_does) _ _ _ returned
    exact .of_calm does rfl rfl
      ((recordOffer_silent.bind fun _ => register_reports) _ _ _ returned) isHit_of_mem_changesOf
  | unregister found returned =>
    exact .of_calm (unregister_does _ _ _ returned) rfl rfl (unregister_reports _ _ _ returned)
      isHit_of_mem_changesOf
  | withdraw returned =>
    obtain ⟨changed, reported, -⟩ := withdrawSource_reports returned
    exact .of_calm (withdrawSource_ensures _ _ _ rfl returned).2 rfl rfl reported
      isHit_of_mem_flatMap
  | sweep returned =>
    obtain ⟨changed, reported, -⟩ := sweepModifiers_reports returned
    exact .of_calm (sweepModifiers_does _ _ _ returned) rfl rfl reported isHit_of_mem_flatMap
  | queue returned =>
    obtain ⟨-, rfl⟩ := Prod.mk.inj (Option.some.inj returned)
    exact ⟨rfl, by simp [Incident.IsFull], rfl, (List.append_nil _).symm⟩
  | hit queued returned =>
    obtain ⟨-, rfl⟩ := Prod.mk.inj (Option.some.inj returned)
    refine ⟨⟨rfl, rfl⟩, by simp [Incident.IsFull], ?_, ?_⟩
    · rw [queued]
      exact (List.append_nil _).symm
    · rw [List.filter_append]
      rfl
  | set returned =>
    obtain ⟨-, rfl⟩ := Prod.mk.inj (Option.some.inj returned)
    exact ⟨⟨rfl, rfl⟩, by simp [Incident.IsFull], (List.append_nil _).symm,
      (List.append_nil _).symm⟩

theorem Unfolds.befell {incidents : List Incident} (unfolds : Unfolds world incidents world') :
    world.Befell world' incidents := by
  induction unfolds with
  | refl => exact .refl world
  | tail unfolded step inductionHypothesis => exact inductionHypothesis.trans step.befell

/-! ## Runs -/

/-- Processing leaves no damage queued. -/
theorem damage_of_process {fuel : Nat} {delta : Float32} {response : Response}
    (returned : (perform fuel (.process delta)).run world = some (response, world')) :
    world'.actor.damage = [] := by
  cases fuel with
  | zero => cases returned
  | succ fuel =>
    obtain ⟨_, _, processes, ends⟩ := run_bind_eq_some.1 returned
    obtain ⟨-, rfl⟩ := Prod.mk.inj (Option.some.inj ends)
    obtain ⟨_, _, -, drains⟩ := run_bind_eq_some.1 processes
    exact (drainDamage_inversion drains).1

theorem damage_of_performAll {fuel : Nat} {delta : Float32} {operations : List Operation}
    {response : Response} (processes : operations.getLast? = some (.process delta))
    (returned : (performAll fuel operations).run world = some (response, world')) :
    world'.actor.damage = [] := by
  induction operations generalizing world with
  | nil => cases processes
  | cons operation operations inductionHypothesis =>
    cases operations with
    | nil =>
      obtain rfl := Option.some.inj processes
      exact damage_of_process returned
    | cons next rest =>
      obtain ⟨_, _, -, continues⟩ := run_bind_eq_some.1 returned
      exact inductionHypothesis (by simpa using processes) continues

end Engine

/-- Every run, of any operations and with any hooks, has a course of incidents that accounts for all
that happens to health.  Damage is taken in the order in which it was queued, whether by the owner or
by hooks, and none is left over when the run ends with processing.  Each hit takes its whole amount
off the health of that moment, within the clamp, and is reported with what it leaves; the damage
taken has no part in it.  So hits are mitigated by the damage taken just if it makes no difference at
any of them; and as long as health is not set and its maximum stays, hits leave health as it was just
if each damage alone would. -/
theorem World.hits_in_full {fuel : Nat} {operations : List Operation} {response : Response}
    {world world' : World}
    (returned : (Engine.performAll fuel operations).run world = some (response, world')) :
    ∃ incidents, Engine.Unfolds world incidents world' ∧ world.Befell world' incidents ∧
      (∀ delta, operations.getLast? = some (.process delta) → world'.actor.damage = []) ∧
      ((∀ incident ∈ incidents, incident.IsMitigated) ↔
        ∀ incident ∈ incidents, incident.IsIndifferent) ∧
      ((∀ before hp after, .set before hp after ∉ incidents) →
        (∀ before damage after, .hit before damage after ∈ incidents →
          before.hpLimit = world.actor.hpLimit) →
        ((∀ before damage after, .hit before damage after ∈ incidents →
            after.hp = world.actor.hp) ↔
          ∀ damage ∈ incidents.filterMap Incident.taken?,
            Single.clamp (world.actor.hp - damage.amount) 0 world.actor.hpLimit =
              world.actor.hp)) := by
  obtain ⟨incidents, unfolds⟩ :=
    Engine.performAll_unfolds _ _ _ ⟨[], .refl⟩ returned
  have befell := unfolds.befell
  refine ⟨incidents, unfolds, befell, fun delta processes =>
    Engine.damage_of_performAll processes returned, ?_, befell.trail.spared_iff befell.full⟩
  exact forall₂_congr fun incident member => (befell.full incident member).isMitigated_iff

/-- An actor whose damage taken is zero is hit by the owner and by its poison, in full. -/
theorem World.hits_in_full_immune :
    ∃ world world' response, World.Reachable (.ofList [.venom]) (fun _ _ _ => True) world ∧
      (Engine.performAll 4 [.queueDamage ⟨10, none⟩, .process 1]).run world =
        some (response, world') ∧
      world.actor.get .damageTaken = 0 ∧ world.actor.hp = 100 ∧ world'.actor.hp = 85 ∧
      ∃ incidents, world.Befell world' incidents ∧
        incidents.filterMap Incident.taken? = incidents.filterMap Incident.queued? := by
  have run : ((Engine.performAll 4 [.addBase .maxHp 100, .addBase .damageTaken 0, .setHp 100,
      .addEffect "venom"]).run (World.new (.ofList [.venom]) .initial)).any (fun first =>
        first.2.actor.get .damageTaken = 0 ∧ first.2.actor.hp = 100 ∧ first.2.actor.damage = [] ∧
        ((Engine.performAll 4 [.queueDamage ⟨10, none⟩, .process 1]).run first.2).any
          fun second => second.2.actor.hp = 85) = true := by
    decide +kernel
  obtain ⟨first, prepared, facts⟩ := (Option.any_eq_true _ _).1 run
  obtain ⟨immune, healthy, unhurt, continues⟩ := of_decide_eq_true facts
  obtain ⟨second, returned, wounded⟩ := (Option.any_eq_true _ _).1 continues
  have reachable : World.Reachable (.ofList [.venom]) (fun _ _ _ => True) first.2 :=
    World.Reachable.performAll (fun _ _ _ => trivial) (.new .initial fun _ => .declared) prepared
  obtain ⟨incidents, -, befell, empties, -, -⟩ := World.hits_in_full returned
  refine ⟨first.2, second.2, second.1, reachable, returned, immune, healthy,
    of_decide_eq_true wounded, incidents, befell, ?_⟩
  have queue := befell.queue
  rw [unhurt, empties 1 rfl] at queue
  simpa using queue

/-- Damage is taken although the damage taken is zero before and after, in an actor without effects
whose modifiers have no conditions, so that nothing else is set off by it. -/
theorem World.Reachable.not_forall_spared :
    ¬∀ world : World, World.Reachable .empty (fun _ _ _ => True) world →
      (∀ stat, ∀ modifier ∈ world.actor.modifiersOf stat, modifier.condition = none) →
      (∃ modifier ∈ world.actor.modifiersOf .damageTaken, modifier.isActive = true) →
      world.actor.get .damageTaken = 0 →
      0 ≤ world.actor.hp → world.actor.hp ≤ world.actor.hpLimit →
      ∀ operations : List Operation, (∀ operation ∈ operations,
        (∃ damage, operation = .queueDamage damage) ∨ ∃ delta, operation = .process delta) →
      ∀ fuel response world',
        (Engine.performAll fuel operations).run world = some (response, world') →
        world'.actor.get .damageTaken = 0 → world'.actor.hpLimit = world.actor.hpLimit →
        world'.actor.hp = world.actor.hp := by
  intro spared
  have run : ((Engine.performAll 4 [.addBase .maxHp 100, .addBase .damageTaken 0,
      .setHp 100]).run (World.new .empty .initial)).any (fun first =>
        (∀ stat ∈ Stat.all, ∀ modifier ∈ first.2.actor.modifiersOf stat,
          modifier.condition.isNone) ∧
        ((first.2.actor.modifiersOf .damageTaken).any fun modifier => modifier.isActive) ∧
        first.2.actor.get .damageTaken = 0 ∧ 0 ≤ first.2.actor.hp ∧
        first.2.actor.hp ≤ first.2.actor.hpLimit ∧
        ((Engine.performAll 4 [.queueDamage ⟨30, none⟩, .process 0]).run first.2).any
          fun second => second.2.actor.get .damageTaken = 0 ∧
            second.2.actor.hpLimit = first.2.actor.hpLimit ∧
            second.2.actor.hp ≠ first.2.actor.hp) = true := by
    decide +kernel
  obtain ⟨first, prepared, facts⟩ := (Option.any_eq_true _ _).1 run
  obtain ⟨conditions, active, immune, nonneg, limited, continues⟩ := of_decide_eq_true facts
  obtain ⟨second, returned, facts⟩ := (Option.any_eq_true _ _).1 continues
  obtain ⟨stays, limit, wounded⟩ := of_decide_eq_true facts
  have reachable : World.Reachable .empty (fun _ _ _ => True) first.2 :=
    World.Reachable.performAll (fun _ _ _ => trivial) (.new .initial fun _ => .declared) prepared
  have unconditional : ∀ stat, ∀ modifier ∈ first.2.actor.modifiersOf stat,
      modifier.condition = none := fun stat modifier member =>
    Option.isNone_iff_eq_none.1 (conditions stat (Stat.mem_all stat) modifier member)
  exact wounded (spared first.2 reachable unconditional (by simpa using active) immune nonneg
    limited [.queueDamage ⟨30, none⟩, .process 0] (by simp) 4 second.1 second.2 returned stays limit)

end Roleplay
