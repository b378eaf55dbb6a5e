import Roleplay.Proofs.Stats.Folding
import Roleplay.Proofs.Stats.Register
import Roleplay.Proofs.Stats.Returning

/-! # Stats built up from modifiers

What the stats of a new actor are that is given modifiers without conditions, and custom values.

* `Operation.IsPlain` are the operations that add such a modifier or set a custom value;
* `View.IsStill` says that a view has nothing to react with, so that a notification changes nothing
  (`Engine.notify_returns_of_still`);
* `View.after` is what a plain operation makes of a view, and `Engine.performAll_returns` says that
  plain operations return and do that;
* `World.calculate_additions` is the value of a stat after them, by the formula of its modifiers.
-/

namespace Roleplay

namespace Operation

/-- Whether an operation adds a modifier without condition or sets a custom value. -/
def IsPlain : Operation → Prop
  | addBase _ _ => True
  | addModifier modifier _ => modifier.condition = none
  | setCustomValue _ _ => True
  | _ => False

def added? : Operation → Option Modifier
  | addBase stat value => some (.new stat .baseAdd value)
  | addModifier modifier _ => some modifier
  | _ => none

def source? : Operation → Option String
  | addBase _ _ => some "base"
  | addModifier _ source => source
  | _ => none

/-- The modifier that is registered for an operation. -/
def registered? (operation : Operation) : Option Modifier :=
  operation.added?.map fun modifier => (modifier.withSource operation.source?).enlist

end Operation

/-- The modifiers that operations add, in their order. -/
def additions (operations : List Operation) : List Modifier :=
  operations.filterMap Operation.added?

def Operation.setValue (values : Dictionary Float32) : Operation → Dictionary Float32
  | setCustomValue id value => values.insert id value
  | _ => values

/-- The custom values that are set in the end. -/
def customValuesAfter (operations : List Operation) : Dictionary Float32 :=
  operations.foldl Operation.setValue .empty

/-- The values of each operation that count for a stat, in the order in which the modifiers were
added. -/
def countedValues (operations : List Operation) (stat : Stat) (ignoreHidden : Bool)
    (op : ModifierOp) : List Float32 :=
  ((additions operations).filter fun modifier =>
    modifier.op = op && modifier.stat = stat && !(ignoreHidden && modifier.isHidden)).map
      (Modifier.currentValue (customValuesAfter operations))

/-! ## Nothing reacts -/

namespace View

structure IsStill (view : View) : Prop where
  effects : view.effects = .empty
  isClean : view.isDirty = false
  unconditional : ∀ stat, ∀ modifier ∈ view.lists stat, modifier.condition = none

end View

namespace Engine

variable {view : View} {trigger : Trigger} {snapshot : StatSnapshot}

theorem sweep_of_unconditional {list : List Modifier}
    (unconditional : ∀ modifier ∈ list, modifier.condition = none) :
    sweep trigger snapshot list = ⟨list, [], false⟩ := by
  induction list with
  | nil => rfl
  | cons modifier list inductionHypothesis =>
    obtain ⟨first, others⟩ := List.forall_mem_cons.1 unconditional
    simp [sweep, first, inductionHypothesis others]

theorem swept_of_still (still : view.IsStill) : swept trigger snapshot view = view := by
  have swept (stat : Stat) : sweep trigger snapshot (view.lists stat) =
      ⟨view.lists stat, [], false⟩ := sweep_of_unconditional (still.unconditional stat)
  have unchanged : Stat.all.any (fun _ => false) = false := rfl
  simp only [Engine.swept, swept, unchanged, Bool.or_false]

/-- A computation without hooks that makes one view of another. -/
theorem IsTotal.returns_does {α : Type} {engine : Engine α} {change : View → View}
    (total : IsTotal engine) (does : Does engine change) :
    Returns (fun world => world.view = view) (fun _ => engine)
      fun _ world => world.view = change view :=
  total.returns fun world result world' start returned => start ▸ does world result world' returned

/-- A computation is as good as given the actor if its view is all that matters. -/
theorem returns_view_bind {α : Type} {next : Actor → Nat → Engine α} {after : α → World → Prop}
    (continues : ∀ world : World, world.view = view →
      Returns (fun world => world.view = view) (next world.actor) after) :
    Returns (fun world => world.view = view)
      (fun fuel => Engine.actor >>= fun actor => next actor fuel) after :=
  returns_world_bind fun world seen =>
    (continues world seen).strengthen fun _ same => same ▸ seen

variable {performs : Nat → Performer}

theorem pass_returns_of_still (still : view.IsStill) :
    Returns (fun world => world.view = view) (fun fuel => pass (performs fuel) trigger)
      fun _ world => world.view = view := by
  apply returns_view_bind
  intro world seen
  have sweeps : Returns (fun world => world.view = view)
      (fun _ => sweepModifiers trigger world.actor.snapshot)
      fun _ after => after.view = swept trigger world.actor.snapshot view :=
    isTotal_sweepModifiers.returns_does sweepModifiers_does
  rw [swept_of_still still] at sweeps
  apply sweeps.bind
  intro _
  have receives : Returns (fun world => world.view = view)
      (fun _ => receiveEffects trigger world.actor.snapshot) fun reactions world =>
        reactions = .empty ∧ world.view = view := by
    apply isTotal_receiveEffects.returns
    intro between reactions received start returned
    obtain ⟨rfl, same⟩ := receiveEffects_ensures _ _ _ start returned
    have none : { view with effects := .empty } = view := by rw [← still.effects]
    rw [same, still.effects]
    exact ⟨rfl, none⟩
  apply receives.bind
  rintro reactions world' ⟨rfl, same⟩
  exact returns_pure world' same

theorem settle_returns_of_still {passes : Nat} (still : view.IsStill) :
    Returns (fun world => world.view = view) (fun fuel => settle (performs fuel) passes)
      fun _ world => world.view = view := by
  have takes : Returns (fun world => world.view = view) (fun _ => takeDirty)
      fun isDirty world => isDirty = false ∧ world.view = view := by
    apply isTotal_modifyGet.returns
    apply ensures_modifyGet
    rintro world rfl
    have clean : { world.view with isDirty := false } = world.view := by rw [← still.isClean]
    exact ⟨still.isClean, clean⟩
  cases passes with
  | zero =>
    apply takes.bind
    rintro isDirty world' ⟨rfl, same⟩
    exact returns_pure world' same
  | succ passes =>
    apply takes.bind
    rintro isDirty world' ⟨rfl, same⟩
    exact returns_pure world' same

/-- A notification of a view that has nothing to react with. -/
theorem notify_returns_of_still (still : view.IsStill) (idle : view.isNotifying = false) :
    Returns (fun world => world.view = view) (fun fuel => notify (performs fuel) trigger)
      fun _ world => world.view = view := by
  have busy : View.IsStill { view with isNotifying := true } :=
    ⟨still.effects, still.isClean, still.unconditional⟩
  have ends : { view with isNotifying := false } = view := by rw [← idle]
  apply returns_view_bind
  intro world seen
  have isIdle : world.actor.isNotifying = false := by
    rw [← idle, ← seen]
    rfl
  simp only [isIdle, Bool.false_eq_true, if_false]
  have closes : Returns (fun world => world.view = { view with isNotifying := true })
      (fun _ => setNotifying false)
      fun _ world => world.view = { view with isNotifying := false } :=
    isTotal_modify.returns_does setNotifying_does
  rw [ends] at closes
  exact (isTotal_modify.returns_does setNotifying_does).bind fun _ =>
    (pass_returns_of_still busy).bind fun _ => (settle_returns_of_still busy).bind fun _ => closes

end Engine

/-! ## Plain operations -/

namespace View

def registering (view : View) (modifier : Modifier) : View :=
  view.withList modifier.stat (Engine.insertModifier modifier (view.lists modifier.stat))

/-- What a plain operation makes of a view. -/
def after (view : View) (operation : Operation) : View :=
  match operation with
  | .setCustomValue id value => { view with customValues := view.customValues.insert id value }
  | operation => operation.registered?.elim view view.registering

theorem IsStill.registering {view : View} {modifier : Modifier} (still : view.IsStill)
    (unconditional : modifier.condition = none) : (view.registering modifier).IsStill := by
  refine ⟨still.effects, still.isClean, fun stat other member => ?_⟩
  rw [View.registering, lists_withList] at member
  split at member
  next =>
    cases List.mem_cons.1 (Engine.insertModifier_perm.mem_iff.1 member) with
    | inl same => rw [same, unconditional]
    | inr earlier => exact still.unconditional _ other earlier
  next => exact still.unconditional stat other member

theorem IsStill.after {view : View} {operation : Operation} (still : view.IsStill)
    (plain : operation.IsPlain) : (view.after operation).IsStill := by
  cases operation with
  | addBase => exact still.registering rfl
  | addModifier => exact still.registering plain
  | setCustomValue => exact ⟨still.effects, still.isClean, still.unconditional⟩
  | _ => cases plain

theorem isNotifying_after {view : View} {operation : Operation} :
    (view.after operation).isNotifying = view.isNotifying := by
  cases operation <;> rfl

end View

namespace Engine

variable {view : View} {performs : Nat → Performer}

theorem addModifier_returns_of_still (still : view.IsStill) (idle : view.isNotifying = false)
    {modifier : Modifier} (unconditional : modifier.condition = none) (source : Option String) :
    Returns (fun world => world.view = view)
      (fun fuel => addModifier (performs fuel) modifier source)
      fun _ world => world.view = view.registering (modifier.withSource source).enlist := by
  refine (isTotal_modify.returns_does recordOffer_quiet).bind fun _ => returns_view_bind ?_
  intro world seen
  have refreshed : (modifier.withSource source).refresh world.actor.snapshot =
      modifier.withSource source := Modifier.refresh_of_unconditional unconditional
  have accepted : (modifier.withSource source).callsForRemoval = false := by
    simp [Modifier.callsForRemoval, Modifier.withSource, unconditional]
  simp only [refreshed, accepted, Bool.and_false, Bool.false_eq_true, if_false]
  have registered : (view.registering (modifier.withSource source).enlist).IsStill :=
    still.registering unconditional
  have registers : Returns (fun world => world.view = view)
      (fun _ => register (modifier.withSource source).enlist)
      fun _ world => world.view = view.registering (modifier.withSource source).enlist :=
    isTotal_register.returns_does register_does
  exact registers.bind fun _ => (notify_returns_of_still registered idle).bind fun _ => returns_pure

theorem setCustomValue_returns_of_still (still : view.IsStill) (idle : view.isNotifying = false)
    {id : String} {value : Float32} :
    Returns (fun world => world.view = view) (fun fuel => setCustomValue (performs fuel) id value)
      fun _ world =>
        world.view = { view with customValues := view.customValues.insert id value } := by
  apply returns_view_bind
  intro world seen
  have sets : Does (modifyActor fun actor =>
      { actor with customValues := actor.customValues.insert id value }) fun view =>
      { view with customValues := view.customValues.insert id value } := does_modify fun _ => rfl
  have set : View.IsStill { view with customValues := view.customValues.insert id value } :=
    ⟨still.effects, still.isClean, still.unconditional⟩
  exact (isTotal_modifyGet.returns_does nextOrder_quiet).bind fun _ =>
    (isTotal_modify.returns_does sets).bind fun _ =>
      (isTotal_modify.returns_does report_quiet).bind fun _ => notify_returns_of_still set idle

theorem perform_returns_of_plain (still : view.IsStill) (idle : view.isNotifying = false)
    {operation : Operation} (plain : operation.IsPlain) :
    Returns (fun world => world.view = view) (fun fuel => perform (fuel + 1) operation)
      fun _ world => world.view = view.after operation := by
  cases operation with
  | addBase stat value =>
    exact (isTotal_modifyGet.returns_does takeModifier_quiet).bind fun _ =>
      (addModifier_returns_of_still still idle rfl (some "base")).bind fun _ => returns_pure
  | addModifier modifier source =>
    exact (addModifier_returns_of_still still idle plain source).bind fun _ => returns_pure
  | setCustomValue id value =>
    exact (setCustomValue_returns_of_still still idle).bind fun _ => returns_pure
  | _ => cases plain

/-- Plain operations return, and each makes of the view what it is to make of it. -/
theorem performAll_returns {operations : List Operation}
    (plain : ∀ operation ∈ operations, operation.IsPlain) (still : view.IsStill)
    (idle : view.isNotifying = false) :
    Returns (fun world => world.view = view) (fun fuel => performAll (fuel + 1) operations)
      fun _ world => world.view = operations.foldl View.after view := by
  induction operations generalizing view with
  | nil => exact returns_pure
  | cons operation operations inductionHypothesis =>
    -- what a plain operation notifies performs nothing, so each has enough of the same fuel
    obtain ⟨first, others⟩ := List.forall_mem_cons.1 plain
    have performs := perform_returns_of_plain still idle first
    cases operations with
    | nil => exact performs
    | cons next rest =>
      exact performs.bind fun _ => inductionHypothesis others (still.after first)
        (View.isNotifying_after.trans idle)

end Engine

/-! ## What is registered -/

section Registered

variable {operations : List Operation}

theorem customValues_foldl_after (view : View) :
    (operations.foldl View.after view).customValues =
      operations.foldl Operation.setValue view.customValues := by
  induction operations generalizing view with
  | nil => rfl
  | cons operation operations inductionHypothesis =>
    have first : (view.after operation).customValues = operation.setValue view.customValues := by
      cases operation <;> rfl
    rw [List.foldl_cons, inductionHypothesis, first, List.foldl_cons]

theorem lists_foldl_after (view : View) (stat : Stat) :
    (operations.foldl View.after view).lists stat =
      ((operations.filterMap Operation.registered?).filter fun modifier =>
        modifier.stat = stat).foldl (fun list modifier => Engine.insertModifier modifier list)
          (view.lists stat) := by
  induction operations generalizing view with
  | nil => rfl
  | cons operation operations inductionHypothesis =>
    rw [List.foldl_cons, inductionHypothesis]
    cases registered : operation.registered? with
    | none =>
      have same : (view.after operation).lists = view.lists := by
        cases operation with
        | addBase | addModifier => cases registered
        | _ => rfl
      rw [List.filterMap_cons_none registered, same]
    | some modifier =>
      have after : view.after operation = view.registering modifier := by
        cases operation with
        | addBase | addModifier => rw [View.after, registered] <;> simp
        | _ => cases registered
      rw [List.filterMap_cons_some registered, after, List.filter_cons, View.registering,
        View.lists_withList]
      by_cases same : modifier.stat = stat
      · simp [same]
      · simp [same, Ne.symm same]

theorem pairwise_foldl_insertModifier {list : List Modifier}
    (sorted : list.Pairwise fun first second => first.op.rank ≤ second.op.rank)
    (modifiers : List Modifier) :
    (modifiers.foldl (fun list modifier => Engine.insertModifier modifier list) list).Pairwise
      fun first second => first.op.rank ≤ second.op.rank := by
  induction modifiers generalizing list with
  | nil => exact sorted
  | cons modifier modifiers inductionHypothesis =>
    exact inductionHypothesis (IsRegister.pairwise_insertModifier sorted)

/-- The modifiers of one operation stand in the order in which they were registered. -/
theorem filter_foldl_insertModifier {list : List Modifier}
    (sorted : list.Pairwise fun first second => first.op.rank ≤ second.op.rank)
    (modifiers : List Modifier) (op : ModifierOp) :
    (modifiers.foldl (fun list modifier => Engine.insertModifier modifier list) list).filter
      (fun modifier => modifier.op = op) =
        list.filter (fun modifier => modifier.op = op) ++
          modifiers.filter fun modifier => modifier.op = op := by
  induction modifiers generalizing list with
  | nil => simp
  | cons modifier modifiers inductionHypothesis =>
    rw [List.foldl_cons, inductionHypothesis (IsRegister.pairwise_insertModifier sorted),
      IsRegister.filter_insertModifier sorted, List.append_assoc, ← List.filter_append,
      List.singleton_append]

theorem Operation.IsPlain.unconditional {operation : Operation} (plain : operation.IsPlain)
    {modifier : Modifier} (added : operation.added? = some modifier) :
    modifier.condition = none := by
  cases operation with
  | addBase =>
    cases added
    rfl
  | addModifier =>
    cases added
    exact plain
  | _ => cases added

/-- Registering leaves of a modifier what its source and its state have no part in. -/
theorem map_filter_registered {α : Type} {registers adds : Modifier → Bool} {f : Modifier → α}
    (plain : ∀ operation ∈ operations, operation.IsPlain)
    (sameTest : ∀ modifier source, modifier.condition = none →
      registers (modifier.withSource source).enlist = adds modifier)
    (same : ∀ modifier source, f (modifier.withSource source).enlist = f modifier) :
    ((operations.filterMap Operation.registered?).filter registers).map f =
      ((additions operations).filter adds).map f := by
  induction operations with
  | nil => rfl
  | cons operation operations inductionHypothesis =>
    obtain ⟨first, others⟩ := List.forall_mem_cons.1 plain
    rw [additions]
    cases added : operation.added? with
    | none =>
      have registered : operation.registered? = none := by simp [Operation.registered?, added]
      rw [List.filterMap_cons_none added, List.filterMap_cons_none registered]
      exact inductionHypothesis others
    | some modifier =>
      have registered : operation.registered? =
          some (modifier.withSource operation.source?).enlist := by
        simp [Operation.registered?, added]
      have test := sameTest modifier operation.source? (first.unconditional added)
      rw [List.filterMap_cons_some added, List.filterMap_cons_some registered, List.filter_cons,
        List.filter_cons, test, ← additions]
      split
      next => rw [List.map_cons, List.map_cons, same, inductionHypothesis others]
      next => exact inductionHypothesis others

end Registered

/-! ## The value of a stat -/

/-- The stats of a view that starts without modifiers. -/
theorem foldEntries_foldl_after {operations : List Operation}
    (plain : ∀ operation ∈ operations, operation.IsPlain) {view : View}
    (empty : ∀ stat, view.lists stat = []) (noValues : view.customValues = .empty) (stat : Stat)
    (ignoreHidden : Bool) :
    foldEntries 0 ((operations.foldl View.after view).countedEntries stat ignoreHidden) =
      stagedTotal (countedValues operations stat ignoreHidden) := by
  let counts (modifier : Modifier) : Bool :=
    modifier.isActive && !(ignoreHidden && modifier.isHidden)
  let registered := (operations.filterMap Operation.registered?).filter fun modifier =>
    modifier.stat = stat
  have sorted := pairwise_foldl_insertModifier List.Pairwise.nil registered
  have inOrder := filter_foldl_insertModifier List.Pairwise.nil registered
  rw [View.countedEntries, lists_foldl_after, customValues_foldl_after, empty, noValues,
    foldEntries_eq_stagedTotal
      ((sorted.sublist List.filter_sublist).map _ fun _ _ before => before)]
  congr 1
  funext op
  rw [List.filter_map, List.map_map]
  calc ((((registered.foldl (fun list modifier => Engine.insertModifier modifier list) []).filter
          counts).filter fun modifier => modifier.op = op).map
            (Modifier.currentValue (customValuesAfter operations)))
      = ((registered.filter fun modifier => modifier.op = op).filter counts).map
          (Modifier.currentValue (customValuesAfter operations)) := by
        rw [List.filter_comm, inOrder, List.filter_nil, List.nil_append]
    _ = ((operations.filterMap Operation.registered?).filter fun modifier =>
          counts modifier && (modifier.op = op && modifier.stat = stat)).map
            (Modifier.currentValue (customValuesAfter operations)) := by
        rw [List.filter_filter, List.filter_filter]
        simp only [Bool.and_assoc]
    _ = countedValues operations stat ignoreHidden op := by
        refine map_filter_registered plain (fun modifier source unconditional => ?_)
          fun _ _ => rfl
        -- what has no condition is active
        have active : (modifier.withSource source).enlist.isActive = true := by
          simp [Modifier.enlist, Modifier.withSource, Modifier.callsForSuspension, unconditional]
        simp only [counts, active, Bool.true_and]
        exact Bool.and_comm ..

/-- The operations return from a world, and lead to another one. -/
def Engine.LeadsTo (operations : List Operation) (world world' : World) : Prop :=
  ∃ response, ∀ fuel, (performAll (fuel + 1) operations).run world = some (response, world')

theorem World.isStill_new (catalog : EffectCatalog) (pools : Pools) (orders : Nat → VisitOrder) :
    { World.new catalog pools with orders := orders }.view.IsStill :=
  ⟨rfl, rfl, fun stat modifier member => by
    simp [World.view, World.new, Actor.new, Actor.modifiersOf] at member⟩

theorem Engine.leadsTo_of_plain {operations : List Operation}
    (plain : ∀ operation ∈ operations, operation.IsPlain) (catalog : EffectCatalog)
    (pools : Pools) (orders : Nat → VisitOrder) (stat : Stat) (ignoreHidden : Bool) :
    ∃ world, LeadsTo operations { World.new catalog pools with orders := orders } world ∧
      world.actor.calculate stat ignoreHidden =
        stagedTotal (countedValues operations stat ignoreHidden) := by
  obtain ⟨response, world, returned, seen⟩ :=
    performAll_returns plain (World.isStill_new catalog pools orders) rfl _ rfl
  refine ⟨world, ⟨response, returned⟩, ?_⟩
  have empty (stat : Stat) :
      { World.new catalog pools with orders := orders }.view.lists stat = [] := by
    simp [World.view, World.new, Actor.new, Actor.modifiersOf]
  rw [Actor.calculate, ← World.countedEntries_view, seen, foldEntries_foldl_after plain empty rfl]

/-- The value of a stat of a new actor, after modifiers without conditions were added and custom
values set, is the formula of the modifiers that count for it, those of each operation in the order
in which they were added.  So the order of modifiers of different operations does not matter, to
the last bit. -/
theorem World.calculate_additions {operations : List Operation}
    (plain : ∀ operation ∈ operations, operation.IsPlain) (catalog : EffectCatalog)
    (pools : Pools) (orders : Nat → VisitOrder) (stat : Stat) (ignoreHidden : Bool) :
    ∃ world, Engine.LeadsTo operations { World.new catalog pools with orders := orders } world ∧
      world.actor.calculate stat ignoreHidden =
        stagedTotal (countedValues operations stat ignoreHidden) ∧
      ∀ others : List Operation, (∀ operation ∈ others, operation.IsPlain) →
        (∀ op, (additions others).filter (fun modifier => modifier.op = op) =
          (additions operations).filter fun modifier => modifier.op = op) →
        customValuesAfter others = customValuesAfter operations →
        ∃ world', Engine.LeadsTo others { World.new catalog pools with orders := orders } world' ∧
          world'.actor.calculate stat ignoreHidden = world.actor.calculate stat ignoreHidden := by
  obtain ⟨world, leads, value⟩ := Engine.leadsTo_of_plain plain catalog pools orders stat
    ignoreHidden
  refine ⟨world, leads, value, fun others plainOthers sameOrder sameValues => ?_⟩
  obtain ⟨world', leads', value'⟩ := Engine.leadsTo_of_plain plainOthers catalog pools orders stat
    ignoreHidden
  have same : countedValues others stat ignoreHidden =
      countedValues operations stat ignoreHidden := by
    funext op
    have grouped (operations : List Operation) :
        ((additions operations).filter fun modifier =>
          modifier.op = op && modifier.stat = stat && !(ignoreHidden && modifier.isHidden)) =
        ((additions operations).filter fun modifier => modifier.op = op).filter fun modifier =>
          modifier.stat = stat && !(ignoreHidden && modifier.isHidden) := by
      rw [List.filter_filter]
      refine List.filter_congr fun modifier _ => ?_
      rw [Bool.and_assoc, Bool.and_comm]
    rw [countedValues, countedValues, grouped, grouped, sameOrder, sameValues]
  exact ⟨world', leads', by rw [value', value, same]⟩

/-- Two percentages, a hidden bonus and one that takes its value from a custom value. -/
def attackBonuses : List Operation :=
  [.addModifier (.new .attack .percentAdd 0.5) none,
    .addModifier { Modifier.new .attack .add 100 with isHidden := true } (some "ring"),
    .addBase .attack 10,
    .addModifier (.new .attack .percentAdd 0.25) none,
    .addModifier { Modifier.new .attack .add 0 with customValueId := some "rage" } none,
    .setCustomValue "rage" 3]

/-- The same with the order of the operations changed, but not within one kind of modifiers. -/
def attackBonusesReordered : List Operation :=
  [.setCustomValue "rage" 3,
    .addModifier { Modifier.new .attack .add 100 with isHidden := true } (some "ring"),
    .addModifier { Modifier.new .attack .add 0 with customValueId := some "rage" } none,
    .addModifier (.new .attack .percentAdd 0.5) none,
    .addModifier (.new .attack .percentAdd 0.25) none,
    .addBase .attack 10]

theorem World.calculate_attackBonuses :
    (∀ operation ∈ attackBonuses, operation.IsPlain) ∧
      ∃ world, Engine.LeadsTo attackBonuses (World.new .empty .initial) world ∧
        world.actor.calculate .attack true = 20.5 ∧
        ∃ world', Engine.LeadsTo attackBonusesReordered (World.new .empty .initial) world' ∧
          world'.actor.calculate .attack true = 20.5 := by
  have plain : ∀ operation ∈ attackBonuses, operation.IsPlain := by
    simp [attackBonuses, Operation.IsPlain, Modifier.new, Modifier.default]
  have plainReordered : ∀ operation ∈ attackBonusesReordered, operation.IsPlain := by
    simp [attackBonusesReordered, Operation.IsPlain, Modifier.new, Modifier.default]
  obtain ⟨world, leads, value, reorder⟩ :=
    calculate_additions plain .empty .initial (fun _ => .declared) .attack true
  have formula : stagedTotal (countedValues attackBonuses .attack true) = 20.5 := by
    decide +kernel
  obtain ⟨world', leads', same⟩ := reorder attackBonusesReordered plainReordered
    (fun op => by cases op <;> decide +kernel) rfl
  exact ⟨plain, world, leads, value.trans formula, world', leads',
    same.trans (value.trans formula)⟩

end Roleplay
