import Mathlib.Logic.Function.Basic
import Roleplay.Proofs.Stats.Ensures

/-! # What matters of a world

Reports, pools, the record of registrations and orders of walks have no influence on what becomes of
an actor, and neither has the difference between a stat without list and one whose list is empty.
The view of a world leaves them out, so that a move of the engine is a change of its view.

* `World.view` is the view, and `View.Shows` relates it to the snapshots that conditions look at;
* `Engine.Does` says which change of the view a computation makes; there is one such statement for
  every move.
-/

namespace Roleplay

structure View where
  catalog : EffectCatalog
  lists : Stat → List Modifier
  effects : Dictionary AppliedEffect
  damage : List Damage
  customValues : Dictionary Float32
  hp : Float32
  isNotifying : Bool
  isDirty : Bool
  calls : List HookCall
  cutOffs : Nat

def World.view (world : World) : View where
  catalog := world.actor.catalog
  lists := world.actor.modifiersOf
  effects := world.actor.effects
  damage := world.actor.damage
  customValues := world.actor.customValues
  hp := world.actor.hp
  isNotifying := world.actor.isNotifying
  isDirty := world.actor.isDirty
  calls := world.calls
  cutOffs := world.cutOffs

namespace View

def value (view : View) (stat : Stat) : Float32 :=
  foldEntries 0 (((view.lists stat).filter fun modifier => modifier.isActive).map
    fun modifier => (modifier.op, modifier.currentValue view.customValues))

/-- The operations and values of the modifiers that count. -/
def countedEntries (view : View) (stat : Stat) (ignoreHidden : Bool) :
    List (ModifierOp × Float32) :=
  ((view.lists stat).filter fun modifier =>
    modifier.isActive && !(ignoreHidden && modifier.isHidden)).map
      fun modifier => (modifier.op, modifier.currentValue view.customValues)

/-- Whether a snapshot is one of the state that is viewed. -/
def Shows (view : View) (snapshot : StatSnapshot) : Prop :=
  (∀ stat, snapshot.get stat = view.value stat) ∧ snapshot.hp = view.hp

def withList (view : View) (stat : Stat) (list : List Modifier) : View :=
  { view with lists := Function.update view.lists stat list }

theorem lists_withList {view : View} {stat other : Stat} {list : List Modifier} :
    (view.withList stat list).lists other = if other = stat then list else view.lists other := by
  simp [withList, Function.update_apply]

end View

/-! ## Snapshots -/

theorem StatTable.get?_foldl_set {α : Type} {f : Stat → α} {stats : List Stat} {stat : Stat}
    {table : StatTable α} :
    ((stats.map fun stat => (stat, f stat)).foldl (fun table entry => table.set entry.1 entry.2)
      table).get? stat = if stat ∈ stats then some (f stat) else table.get? stat := by
  induction stats generalizing table with
  | nil => rfl
  | cons first rest inductionHypothesis =>
    simp only [List.map_cons, List.foldl_cons, inductionHypothesis, get?_set, List.mem_cons]
    by_cases inRest : stat ∈ rest
    · simp [inRest]
    · by_cases same : first = stat
      · simp [same]
      · simp [inRest, same, Ne.symm same]

theorem StatTable.map_toList {α β : Type} {table : StatTable α} {f : Stat → β} :
    (table.toList.map fun entry => (entry.1, f entry.1)) =
      (Stat.all.filter fun stat => (table.get? stat).isSome).map fun stat => (stat, f stat) := by
  rw [toList, List.map_filterMap, ← List.filterMap_eq_map, List.filterMap_filter]
  congr 1
  funext stat
  cases table.get? stat <;> rfl

theorem Actor.get_snapshot {actor : Actor} {stat : Stat} :
    actor.snapshot.get stat = actor.get stat := by
  simp only [StatSnapshot.get, snapshot, StatTable.map_toList, StatTable.ofList,
    StatTable.get?_foldl_set, List.mem_filter, Stat.mem_all, true_and, StatTable.get?_empty]
  -- a stat without list is left out of the snapshot, and its value is zero
  cases found : actor.modifiers.get? stat with
  | some list => rfl
  | none =>
    have none : actor.modifiersOf stat = [] := by simp [modifiersOf, found]
    simp [get, calculate, countedEntries, none, foldEntries, Tally.flush]

theorem World.value_view {world : World} {stat : Stat} :
    world.view.value stat = world.actor.get stat := by
  simp [View.value, World.view, Actor.get, Actor.calculate, Actor.countedEntries]

theorem World.countedEntries_view {world : World} {stat : Stat} {ignoreHidden : Bool} :
    world.view.countedEntries stat ignoreHidden = world.actor.countedEntries stat ignoreHidden :=
  rfl

theorem World.shows_snapshot {world : World} : world.view.Shows world.actor.snapshot :=
  ⟨fun _ => Actor.get_snapshot.trans World.value_view.symm, rfl⟩

/-! ## Tables of modifiers -/

theorem Actor.modifiersOf_set {actor : Actor} {stat : Stat} {list : List Modifier} :
    Actor.modifiersOf { actor with modifiers := actor.modifiers.set stat list } =
      Function.update actor.modifiersOf stat list := by
  funext other
  simp only [Actor.modifiersOf, StatTable.get?_set, Function.update_apply, eq_comm]
  split <;> rfl

theorem Actor.modifiersOf_erase {actor : Actor} {stat : Stat}
    (empty : actor.modifiersOf stat = []) :
    Actor.modifiersOf { actor with modifiers := actor.modifiers.erase stat } =
      actor.modifiersOf := by
  funext other
  by_cases same : stat = other
  · subst same
    rw [empty]
    simp [Actor.modifiersOf, StatTable.get?_erase]
  · simp [Actor.modifiersOf, StatTable.get?_erase, same]

namespace Engine

variable {α β : Type}

/-- The change that a computation makes to the view, whatever it returns. -/
def Does (engine : Engine α) (change : View → View) : Prop :=
  ∀ world result world', engine.run world = some (result, world') →
    world'.view = change world.view

abbrev IsQuiet (engine : Engine α) : Prop := Does engine id

/-! ## Rules -/

theorem Does.ensures {engine : Engine α} {change : View → View} {before after : View → Prop}
    (does : Does engine change) (holds : ∀ view, before view → after (change view)) :
    Ensures (fun world => before world.view) engine fun _ world => after world.view := by
  intro world result world' start returned
  rw [does world result world' returned]
  exact holds _ start

theorem IsQuiet.keeps {engine : Engine α} {condition : View → Prop} (quiet : IsQuiet engine) :
    Keeps (fun world => condition world.view) engine :=
  quiet.ensures fun _ start => start

theorem does_pure {result : α} : IsQuiet (pure result : Engine α) :=
  fun _ _ _ returned => by rw [← (Prod.mk.inj (Option.some.inj returned)).2]; rfl

theorem Does.bind {engine : Engine α} {next : α → Engine β} {first second : View → View}
    (does : Does engine first) (continues : ∀ value, Does (next value) second) :
    Does (engine >>= next) fun view => second (first view) := by
  intro world result world' returned
  obtain ⟨value, between, ran, rest⟩ := run_bind_eq_some.1 returned
  rw [continues value between result world' rest, does world value between ran]

theorem does_modify {change : World → World} {seen : View → View}
    (same : ∀ world, (change world).view = seen world.view) : Does (modify change) seen :=
  fun world _ _ returned => by rw [← (Prod.mk.inj (Option.some.inj returned)).2]; exact same world

theorem does_modifyGet {change : World → α × World} {seen : View → View}
    (same : ∀ world, (change world).2.view = seen world.view) :
    Does (modifyGet change : Engine α) seen :=
  fun world _ _ returned => by rw [← (Prod.mk.inj (Option.some.inj returned)).2]; exact same world

/-- A computation that begins by reading the actor, for any actor that it may find. -/
theorem does_actor_bind {next : Actor → Engine β} {change : View → View}
    (continues : ∀ world result world', (next world.actor).run world = some (result, world') →
      world'.view = change world.view) : Does (Engine.actor >>= next) change := by
  intro world result world' returned
  have rest := run_actor_bind.symm.trans returned
  exact continues world result world' rest

/-! ## Quiet moves -/

theorem report_quiet {events : List Event} : IsQuiet (report events) := does_modify fun _ => rfl

theorem nextOrder_quiet : IsQuiet nextOrder := does_modifyGet fun _ => rfl

theorem takeModifier_quiet : IsQuiet takeModifier := does_modifyGet fun _ => rfl

theorem takeList_quiet : IsQuiet takeList := does_modifyGet fun _ => rfl

theorem releaseModifiers_quiet {modifiers : List Modifier} :
    IsQuiet (releaseModifiers modifiers) := does_modify fun _ => rfl

theorem recordOffer_quiet : IsQuiet recordOffer := does_modify fun _ => rfl

theorem releaseList_quiet {list : List Modifier} : IsQuiet (releaseList list) :=
  does_modify fun _ => rfl

theorem reportModifiers_quiet {stat : Stat} : IsQuiet (reportModifiers stat) := report_quiet

theorem prune_quiet {stat : Stat} : IsQuiet (prune stat) := by
  refine does_actor_bind fun world result world' returned => ?_
  split at returned
  · rename_i found
    -- a list without modifiers counts as no list
    have empty : world.actor.modifiersOf stat = [] := by simp [Actor.modifiersOf, found]
    obtain ⟨_, between, erased, released⟩ := run_bind_eq_some.1 returned
    obtain ⟨_, rfl⟩ := Prod.mk.inj (Option.some.inj erased)
    rw [releaseList_quiet _ _ _ released]
    simp [World.view, Actor.modifiersOf_erase empty]
  · exact does_pure _ _ _ returned

theorem settleStats_quiet {stats : List Stat} : IsQuiet (settleStats stats) := by
  induction stats with
  | nil => exact does_pure
  | cons stat stats inductionHypothesis =>
    exact prune_quiet.bind fun _ => reportModifiers_quiet.bind fun _ => inductionHypothesis

/-! ## Moves that change the view -/

theorem setModifiers_does {stat : Stat} {list : List Modifier} :
    Does (setModifiers stat list) (·.withList stat list) :=
  does_modify fun world => by simp [World.view, View.withList, Actor.modifiersOf_set]

theorem markDirty_does : Does markDirty ({ · with isDirty := true }) := does_modify fun _ => rfl

theorem setNotifying_does {isNotifying : Bool} :
    Does (setNotifying isNotifying) ({ · with isNotifying := isNotifying }) :=
  does_modify fun _ => rfl

theorem countCutOff_does : Does countCutOff fun view => { view with cutOffs := view.cutOffs + 1 } :=
  does_modify fun _ => rfl

theorem recordCall_does {kind : HookKind} {id : String} :
    Does (recordCall kind id) fun view => { view with calls := view.calls ++ [⟨id, kind⟩] } :=
  does_modifyGet fun _ => rfl

theorem placeEffect_does {id : String} {effect : AppliedEffect} :
    Does (placeEffect id effect) fun view =>
      { view with effects := view.effects.insert id effect } :=
  does_modify fun _ => rfl

theorem dropEffect_does {id : String} :
    Does (dropEffect id) fun view => { view with effects := view.effects.erase id } :=
  does_modify fun _ => rfl

theorem takeDirty_ensures (before : View → Prop) :
    Ensures (fun world => before world.view) takeDirty fun dirty world =>
      world.actor.isDirty = false ∧ before { world.view with isDirty := dirty } :=
  ensures_modifyGet fun _ start => ⟨rfl, start⟩

theorem sufferDamage_does {damage : Damage} {rest : List Damage} :
    Does (sufferDamage damage rest) fun view =>
      { view with
        damage := rest
        hp := Single.clamp (view.hp - damage.amount) 0
          (Single.positivePart (view.value .maxHp)) } := by
  refine does_actor_bind fun world result world' returned => ?_
  have suffers : Does (modifyActor fun actor => { actor with
      damage := rest
      hp := Single.clamp (world.actor.hp - damage.amount) 0 world.actor.hpLimit }) fun view =>
      { view with
        damage := rest
        hp := Single.clamp (world.actor.hp - damage.amount) 0 world.actor.hpLimit } :=
    does_modify fun _ => rfl
  rw [(suffers.bind fun _ => report_quiet) _ _ _ returned, World.value_view]
  rfl

/-! ## Registering -/

theorem insertModifier_perm {modifier : Modifier} {list : List Modifier} :
    (insertModifier modifier list).Perm (modifier :: list) := by
  induction list with
  | nil => exact .refl _
  | cons first rest inductionHypothesis =>
    rw [insertModifier]
    split
    · exact (inductionHypothesis.cons first).trans (.swap _ _ _)
    · exact .refl _

theorem listOf_ensures {view : View} {stat : Stat} :
    Ensures (fun world => world.view = view) (listOf stat) fun list world =>
      list = view.lists stat ∧ world.view = view := by
  refine ensures_actor_bind fun actor => ?_
  split
  · rename_i list found
    refine ensures_pure fun world start => ⟨?_, start.1⟩
    obtain ⟨rfl, rfl⟩ := start
    simp [World.view, Actor.modifiersOf, found]
  · rename_i found
    refine ensures_modifyGet fun world start => ?_
    obtain ⟨rfl, rfl⟩ := start
    -- lists from the pool are empty
    have handedOut : world.pools.lists.take.1 = [] := Pool.fst_take
    refine ⟨?_, rfl⟩
    simpa [World.view, Actor.modifiersOf, found] using handedOut

theorem recordRegistration_quiet {modifier : Modifier} : IsQuiet (recordRegistration modifier) :=
  does_modify fun _ => rfl

theorem register_does {modifier : Modifier} :
    Does (register modifier) fun view =>
      view.withList modifier.stat (insertModifier modifier (view.lists modifier.stat)) := by
  intro world result world' returned
  obtain ⟨list, between, listed, rest⟩ := run_bind_eq_some.1 returned
  obtain ⟨rfl, same⟩ := listOf_ensures world list between rfl listed
  have registered := (setModifiers_does.bind fun _ => recordRegistration_quiet.bind fun _ =>
    reportModifiers_quiet) _ _ _ rest
  rw [registered, same]
  rfl

theorem unregister_does {stat : Stat} {modifier : Modifier} {others : List Modifier} :
    Does (unregister stat modifier others) (·.withList stat others) :=
  releaseModifiers_quiet.bind fun _ => setModifiers_does.bind fun _ => prune_quiet.bind fun _ =>
    reportModifiers_quiet

end Engine

end Roleplay
