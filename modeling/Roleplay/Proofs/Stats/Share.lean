import Mathlib.Algebra.Group.Pi.Basic
import Mathlib.Algebra.Order.Group.Multiset
import Roleplay.Proofs.Stats.Orderly

/-! # What one effect has to do with an actor

The share of an effect in a view: whether it is in force, which modifiers are registered under its
source, and how often its exit hook has run.

* `Share.Evolves` is what a notification may do to a share, `Share.IsEntering` the state of a share
  while an enter hook attaches one modifier after another;
* `Share.IsEntering.isIntact_iff` says when such a hook ends with the whole bundle attached;
* `View.share` computes the share, and the lemmas on it say which changes of a view touch it.
-/

namespace Roleplay

structure Share where
  isOn : Bool
  /-- The modifiers under the source of the effect, stat by stat. -/
  attached : Stat → Multiset Modifier
  exits : Nat

namespace Share

variable {bundle : Stat → Multiset Modifier} {first second third : Share}

/-- The modifiers that have to be attached. -/
def due (bundle : Stat → Multiset Modifier) (share : Share) : Stat → Multiset Modifier :=
  if share.isOn then bundle else 0

def IsIntact (bundle : Stat → Multiset Modifier) (share : Share) : Prop :=
  share.attached = share.due bundle

/-- Either no exit hook ran, and the bundle was attached if the effect came into force, or whatever
was attached is gone. -/
inductive Evolves (bundle : Stat → Multiset Modifier) (before after : Share) : Prop where
  | kept (exits : after.exits = before.exits) (on : before.isOn = true → after.isOn = true)
      (attached : after.attached =
        before.attached + if before.isOn then 0 else after.due bundle)
  | cleared (exits : before.exits < after.exits) (attached : after.IsIntact bundle)

theorem Evolves.refl (share : Share) : share.Evolves bundle share := by
  refine .kept rfl id ?_
  cases on : share.isOn <;> simp [due, on]

theorem Evolves.trans (evolves : first.Evolves bundle second)
    (continues : second.Evolves bundle third) : first.Evolves bundle third := by
  -- a share that was cleared stays right, and one that is kept is so throughout
  cases continues with
  | cleared exits attached =>
    cases evolves with
    | kept same on earlier => exact .cleared (same ▸ exits) attached
    | cleared fewer earlier => exact .cleared (Nat.lt_trans fewer exits) attached
  | kept exits on attached =>
    cases evolves with
    | kept same wasOn earlier =>
      refine .kept (exits.trans same) (fun started => on (wasOn started)) ?_
      rw [attached, earlier, add_assoc]
      congr 1
      cases started : first.isOn with
      | true => simp [wasOn started]
      | false =>
        cases between : second.isOn with
        | true => simp [due, between, on between]
        | false => simp [due, between]
    | cleared fewer earlier =>
      refine .cleared (exits ▸ fewer) ?_
      rw [IsIntact, attached, earlier]
      cases between : second.isOn with
      | true => simp [due, between, on between]
      | false => simp [due, between]

theorem IsIntact.evolves (intact : first.IsIntact bundle) (evolves : first.Evolves bundle second) :
    second.IsIntact bundle := by
  cases evolves with
  | cleared exits attached => exact attached
  | kept exits on attached =>
    rw [IsIntact, attached, intact]
    cases started : first.isOn with
    | true => simp [due, started, on started]
    | false => simp [due, started]

/-! ## Entering -/

def withMore (more : Stat → Multiset Modifier) (share : Share) : Share :=
  { share with attached := share.attached + more }

/-- Either no exit hook has run since the start, and just the modifiers done so far are attached, or
one has, and those attached after it are too many. -/
def IsEntering (bundle done : Stat → Multiset Modifier) (share start : Share) : Prop :=
  (share.exits = start.exits ∧ share.isOn = true ∧ share.attached = done) ∨
    start.exits < share.exits ∧ ∃ extra, share.attached = share.due bundle + extra

variable {start : Share} {done one : Stat → Multiset Modifier}

theorem attached_of_kept {extra : Stat → Multiset Modifier}
    (attached : first.attached = first.due bundle + extra)
    (stays : first.isOn = true → second.isOn = true)
    (kept : second.attached = (first.withMore one).attached +
      if first.isOn then 0 else second.due bundle) :
    second.attached = second.due bundle + (extra + one) := by
  rw [kept, withMore, attached]
  cases between : first.isOn with
  | true => simp [between, stays between, due, add_assoc]
  | false => simp [between, due, add_comm]

theorem IsEntering.next (entering : first.IsEntering bundle done start)
    (evolves : (first.withMore one).Evolves bundle second) :
    second.IsEntering bundle (done + one) start := by
  -- an exit hook clears what is attached, the surplus included
  cases evolves with
  | kept exits stays more =>
    cases entering with
    | inl steady =>
      obtain ⟨same, on, attached⟩ := steady
      refine Or.inl ⟨exits.trans same, stays on, ?_⟩
      rw [more]
      simp [withMore, on, attached]
    | inr left =>
      obtain ⟨fewer, extra, attached⟩ := left
      exact Or.inr ⟨exits ▸ fewer, extra + one, attached_of_kept attached stays more⟩
  | cleared exits intact =>
    have fewer : start.exits ≤ first.exits := by
      cases entering with
      | inl steady =>
        obtain ⟨same, _⟩ := steady
        exact Nat.le_of_eq same.symm
      | inr left =>
        obtain ⟨fewer, _⟩ := left
        exact Nat.le_of_lt fewer
    exact Or.inr ⟨Nat.lt_of_le_of_lt fewer exits, 0, by rw [intact, add_zero]⟩

/-- The bundle is whole in the end unless an exit hook ran before the last modifier was attached,
and none with it. -/
theorem IsEntering.isIntact_iff (entering : first.IsEntering (done + one) done start)
    (more : one ≠ 0) (evolves : (first.withMore one).Evolves (done + one) second) :
    second.IsIntact (done + one) ↔
      ¬(start.exits < first.exits ∧ second.exits = first.exits) := by
  cases evolves with
  | cleared exits intact =>
    exact iff_of_true intact fun broken => absurd broken.2 (Nat.ne_of_gt exits)
  | kept exits stays attached =>
    cases entering with
    | inl steady =>
      obtain ⟨same, on, earlier⟩ := steady
      refine iff_of_true ?_ fun broken => absurd same (Nat.ne_of_gt broken.1)
      rw [IsIntact, attached]
      simp [withMore, due, on, stays on, earlier]
    | inr left =>
      obtain ⟨fewer, extra, earlier⟩ := left
      refine iff_of_false (fun intact => more ?_) fun whole => whole ⟨fewer, exits⟩
      -- the last modifier is in surplus, and nothing took it away
      have total := attached_of_kept earlier stays attached
      have none : extra + one = 0 := left_eq_add.1 (intact.symm.trans total)
      funext stat
      have empty : (extra stat).card + (one stat).card = 0 := by
        rw [← Multiset.card_add]
        exact Multiset.card_eq_zero.2 (congrFun none stat)
      exact Multiset.card_eq_zero.1 (by omega)

end Share

/-! ## Bundles -/

namespace EffectSpec

/-- The modifier that is registered for one without condition. -/
def attached (spec : EffectSpec) (modifier : Modifier) : Modifier :=
  (modifier.copy.withSource (some spec.source)).enlist

/-- What some of the effect's modifiers bring, stat by stat. -/
def bundleOf (spec : EffectSpec) (modifiers : List Modifier) (stat : Stat) : Multiset Modifier :=
  ((modifiers.map spec.attached).filter fun modifier => modifier.stat = stat : List Modifier)

theorem bundleOf_nil {spec : EffectSpec} : spec.bundleOf [] = 0 := rfl

theorem bundleOf_append {spec : EffectSpec} {first second : List Modifier} :
    spec.bundleOf (first ++ second) = spec.bundleOf first + spec.bundleOf second := by
  funext stat
  simp [bundleOf]

theorem bundleOf_cons {spec : EffectSpec} {modifier : Modifier} {rest : List Modifier} :
    spec.bundleOf (modifier :: rest) = spec.bundleOf [modifier] + spec.bundleOf rest := by
  rw [← bundleOf_append, List.singleton_append]

theorem bundleOf_singleton {spec : EffectSpec} {modifier : Modifier} :
    spec.bundleOf [modifier] = Pi.single modifier.stat {spec.attached modifier} := by
  funext stat
  by_cases same : stat = modifier.stat
  · subst same
    simp [bundleOf, attached, Modifier.copy, Modifier.withSource, Modifier.enlist]
  · simp [bundleOf, attached, Modifier.copy, Modifier.withSource, Modifier.enlist, same,
      Ne.symm same]

end EffectSpec

/-- Whether an effect brings unconditional modifiers and otherwise at most queues damage. -/
def EffectDefinition.IsPlain (definition : EffectDefinition) : Prop :=
  (∀ modifier ∈ definition.modifiers, modifier.condition = none) ∧
    (definition.behavior = .standard ∨ ∃ amount, definition.behavior = .damageOverTime amount)

theorem effectSource_injective {first second : String}
    (same : effectSource first = effectSource second) : first = second := by
  have lists := congrArg String.toList same
  simp only [effectSource, String.toList_append, List.append_cancel_left_eq] at lists
  exact String.toList_inj.1 lists

/-! ## Shares of a view -/

namespace View

/-- The modifiers that the effect of an id has to bring. -/
def bundle (view : View) (id : String) : Stat → Multiset Modifier :=
  match view.catalog.get? id with
  | some definition => definition.bundleOf definition.modifiers
  | none => 0

def share (view : View) (id : String) : Share where
  isOn := (view.effects.get? id).any AppliedEffect.isActive
  attached := fun stat =>
    ((view.lists stat).filter (Modifier.isFrom (effectSource id)) : List Modifier)
  exits := view.calls.count ⟨id, .exit⟩

variable {view : View} {id other : String} {stat : Stat} {list : List Modifier}

theorem bundle_congr {after : View} (catalog : after.catalog = view.catalog) :
    after.bundle id = view.bundle id := by
  rw [bundle, bundle, catalog]

theorem share_withList {more : Multiset Modifier}
    (adds : ((list.filter (Modifier.isFrom (effectSource id)) : List Modifier) : Multiset Modifier) =
      ((view.lists stat).filter (Modifier.isFrom (effectSource id)) : List Modifier) + more) :
    (view.withList stat list).share id = (view.share id).withMore (Pi.single stat more) := by
  simp only [share, Share.withMore, Share.mk.injEq]
  refine ⟨rfl, ?_, rfl⟩
  funext other
  by_cases same : other = stat
  · subst same
    simp [lists_withList, adds]
  · simp [lists_withList, same]

theorem share_withList_of_perm
    (same : (list.filter (Modifier.isFrom (effectSource id))).Perm
      ((view.lists stat).filter (Modifier.isFrom (effectSource id)))) :
    (view.withList stat list).share id = view.share id := by
  rw [share_withList (by rw [Multiset.coe_eq_coe.2 same, add_zero])]
  simp [Share.withMore]

/-! ### Modifiers -/

theorem share_insertModifier {modifier : Modifier}
    (own : modifier.isFrom (effectSource id) = true) :
    (view.withList modifier.stat (Engine.insertModifier modifier
      (view.lists modifier.stat))).share id =
      (view.share id).withMore (Pi.single modifier.stat {modifier}) := by
  refine share_withList ?_
  have placed : (Engine.insertModifier modifier (view.lists modifier.stat)).Perm
      (modifier :: view.lists modifier.stat) := Engine.insertModifier_perm
  rw [Multiset.coe_eq_coe.2 (placed.filter _), List.filter_cons_of_pos own, ← Multiset.cons_coe,
    add_comm, Multiset.singleton_add]

theorem share_insertModifier_of_foreign {modifier : Modifier}
    (foreign : modifier.isFrom (effectSource id) = false) :
    (view.withList modifier.stat (Engine.insertModifier modifier
      (view.lists modifier.stat))).share id = view.share id := by
  refine share_withList_of_perm ?_
  have placed : (Engine.insertModifier modifier (view.lists modifier.stat)).Perm
      (modifier :: view.lists modifier.stat) := Engine.insertModifier_perm
  refine (placed.filter _).trans ?_
  rw [List.filter_cons_of_neg (by simp [foreign])]

theorem filter_eraseP {α : Type} {gone kept : α → Bool} {list : List α}
    (apart : ∀ entry, gone entry = true → kept entry = false) :
    (list.eraseP gone).filter kept = list.filter kept := by
  rcases List.exists_or_eq_self_of_eraseP gone list with
    same | ⟨entry, before, after, _, matches_, shape, erased⟩
  · rw [same]
  · rw [erased, shape, List.filter_append, List.filter_append,
      List.filter_cons_of_neg (by simp [apart entry matches_])]

def without (view : View) (source : String) : View :=
  { view with lists := fun stat => Engine.withoutSource source (view.lists stat) }

theorem share_without : (view.without (effectSource id)).share id =
    { view.share id with attached := 0 } := by
  simp only [share, without, Share.mk.injEq, true_and, and_true]
  funext stat
  simp [Engine.withoutSource, List.filter_filter]

theorem share_without_of_ne {source : String} (other : source ≠ effectSource id) :
    (view.without source).share id = view.share id := by
  simp only [share, without, Share.mk.injEq, true_and, and_true]
  funext stat
  congr 1
  rw [Engine.withoutSource, List.filter_filter]
  refine List.filter_congr fun modifier _ => ?_
  -- a modifier has one source
  by_cases own : modifier.source = some (effectSource id)
  · simp [Modifier.isFrom, own, Ne.symm other]
  · simp [Modifier.isFrom, own]

/-! ### Effects -/

theorem isOn_share_of_applied {effect : AppliedEffect}
    (applied : view.effects.get? id = some effect) : (view.share id).isOn = effect.isActive := by
  simp [share, applied]

theorem isOn_share_of_missing (missing : view.effects.get? id = none) :
    (view.share id).isOn = false := by
  simp [share, missing]

theorem share_insertEffect {effect : AppliedEffect} :
    View.share { view with effects := view.effects.insert id effect } id =
      { view.share id with isOn := effect.isActive } := by
  simp [share]

theorem share_insertEffect_of_ne {effect : AppliedEffect} (ne : other ≠ id) :
    View.share { view with effects := view.effects.insert other effect } id = view.share id := by
  simp [share, Dictionary.get?_insert, ne]

theorem share_eraseEffect :
    View.share { view with effects := view.effects.erase id } id =
      { view.share id with isOn := false } := by
  simp [share, Dictionary.get?_erase]

theorem share_eraseEffect_of_ne (ne : other ≠ id) :
    View.share { view with effects := view.effects.erase other } id = view.share id := by
  simp [share, Dictionary.get?_erase, ne]

theorem share_calls {call : HookCall} (ne : call ≠ ⟨id, .exit⟩) :
    View.share { view with calls := view.calls ++ [call] } id = view.share id := by
  simp [share, List.count_append, ne]

theorem share_calls_exit :
    View.share { view with calls := view.calls ++ [⟨id, .exit⟩] } id =
      { view.share id with exits := (view.share id).exits + 1 } := by
  simp [share, List.count_append]

/-! ### Passes -/

theorem filter_kept_sweep {trigger : Trigger} {snapshot : StatSnapshot} {source : String}
    (unconditional : ∀ modifier ∈ list, modifier.isFrom source = true →
      modifier.condition = none) :
    (Engine.sweep trigger snapshot list).kept.filter (Modifier.isFrom source) =
      list.filter (Modifier.isFrom source) := by
  induction list with
  | nil => rfl
  | cons first rest inductionHypothesis =>
    have later := inductionHypothesis fun modifier member => unconditional modifier (.tail _ member)
    cases conditional : first.condition with
    | none => simp only [Engine.sweep, conditional, List.filter_cons, later]
    | some condition =>
      -- a modifier with a condition belongs to nobody here
      have foreign : ¬first.isFrom source = true := fun own =>
        absurd (unconditional first (by simp) own) (by simp [conditional])
      have changed (condition : Option Condition) (isActive : Bool) :
          ¬Modifier.isFrom source
            { first with condition := condition, isActive := isActive } = true := foreign
      simp only [Engine.sweep, conditional]
      split
      · rw [List.filter_cons_of_neg (changed _ _), List.filter_cons_of_neg foreign, later]
      · split
        · rw [List.filter_cons_of_neg foreign, later]
        · rw [List.filter_cons_of_neg (changed _ _), List.filter_cons_of_neg foreign, later]

/-! ## Plain views -/

/-- Effects are as the catalog says, all of them plain, and modifiers under their sources are
unconditional. -/
structure IsPlain (view : View) : Prop where
  catalog : ∀ id, ∀ definition ∈ view.catalog.get? id, definition.id = id ∧ definition.IsPlain
  applied : ∀ id, ∀ effect ∈ view.effects.get? id, view.catalog.get? id = some effect.definition
  unconditional : ∀ stat, ∀ modifier ∈ view.lists stat, ∀ id,
    modifier.isFrom (effectSource id) = true → modifier.condition = none

theorem IsPlain.withList (plain : view.IsPlain)
    (fits : ∀ modifier ∈ list, modifier ∈ view.lists stat ∨
      ∀ id, modifier.isFrom (effectSource id) = true → modifier.condition = none) :
    (view.withList stat list).IsPlain := by
  refine ⟨plain.catalog, plain.applied, fun other modifier member id own => ?_⟩
  rw [lists_withList] at member
  split at member
  · rename_i same
    subst same
    cases fits modifier member with
    | inl earlier =>
      exact plain.unconditional other modifier earlier id own
    | inr new =>
      exact new id own
  · exact plain.unconditional other modifier member id own

theorem IsPlain.without (plain : view.IsPlain) {source : String} :
    (view.without source).IsPlain :=
  ⟨plain.catalog, plain.applied, fun stat modifier member =>
    plain.unconditional stat modifier (List.mem_filter.1 member).1⟩

theorem IsPlain.insertEffect (plain : view.IsPlain) {effect : AppliedEffect}
    (known : view.catalog.get? id = some effect.definition) :
    IsPlain { view with effects := view.effects.insert id effect } := by
  refine ⟨plain.catalog, fun other applied found => ?_, plain.unconditional⟩
  simp only [Dictionary.get?_insert] at found
  split at found
  · rename_i same
    subst same
    obtain rfl := Option.some.inj found
    exact known
  · exact plain.applied other applied found

theorem IsPlain.eraseEffect (plain : view.IsPlain) :
    IsPlain { view with effects := view.effects.erase id } := by
  refine ⟨plain.catalog, fun other applied found => ?_, plain.unconditional⟩
  simp only [Dictionary.get?_erase] at found
  split at found
  · exact absurd found (by simp)
  · exact plain.applied other applied found

theorem IsPlain.filter_kept_sweep (plain : view.IsPlain) {trigger : Trigger}
    {snapshot : StatSnapshot} :
    (Engine.sweep trigger snapshot (view.lists stat)).kept.filter
        (Modifier.isFrom (effectSource id)) =
      (view.lists stat).filter (Modifier.isFrom (effectSource id)) :=
  View.filter_kept_sweep fun modifier member => plain.unconditional stat modifier member id

theorem IsPlain.received (plain : view.IsPlain) {trigger : Trigger} {snapshot : StatSnapshot} :
    (view.received trigger snapshot).IsPlain := by
  refine ⟨plain.catalog, fun id applied found => ?_, fun stat modifier member id own => ?_⟩
  · simp only [View.received, Dictionary.get?_mapValues] at found
    obtain ⟨earlier, wasApplied, rfl⟩ := Option.map_eq_some_iff.1 found
    rw [AppliedEffect.definition_receive]
    exact plain.applied id earlier wasApplied
  · have inFilter : modifier ∈ (view.lists stat).filter (Modifier.isFrom (effectSource id)) := by
      rw [← plain.filter_kept_sweep]
      exact List.mem_filter.2 ⟨member, own⟩
    exact plain.unconditional stat modifier (List.mem_filter.1 inFilter).1 id own

theorem IsPlain.share_received (plain : view.IsPlain) {trigger : Trigger}
    {snapshot : StatSnapshot} : (view.received trigger snapshot).share id =
      { view.share id with
        isOn := (view.effects.get? id).any fun effect =>
          (effect.receive trigger snapshot).effect.isActive } := by
  simp only [share, View.received, Engine.swept, plain.filter_kept_sweep,
    Dictionary.get?_mapValues, Option.any_map]

/-! ## Evolving views -/

/-- What a notification may do to a view, seen by all effects. -/
structure Evolves (before after : View) : Prop where
  catalog : after.catalog = before.catalog
  notifying : after.isNotifying = before.isNotifying
  plain : after.IsPlain
  share : ∀ id, (before.share id).Evolves (before.bundle id) (after.share id)

theorem Evolves.bundle {after : View} (evolves : view.Evolves after) :
    after.bundle id = view.bundle id := bundle_congr evolves.catalog

theorem Evolves.refl (plain : view.IsPlain) : view.Evolves view :=
  ⟨rfl, rfl, plain, fun _ => .refl _⟩

/-- Nothing that effects care for has changed. -/
theorem Evolves.of_same {after : View} (plain : after.IsPlain)
    (catalog : after.catalog = view.catalog) (notifying : after.isNotifying = view.isNotifying)
    (share : ∀ id, after.share id = view.share id) : view.Evolves after :=
  ⟨catalog, notifying, plain, fun id => share id ▸ .refl _⟩

/-- Neither modifiers nor effects have changed. -/
theorem Evolves.of_untouched {after : View} (plain : view.IsPlain)
    (catalog : after.catalog = view.catalog) (notifying : after.isNotifying = view.isNotifying)
    (lists : after.lists = view.lists) (effects : after.effects = view.effects)
    (calls : after.calls = view.calls) : view.Evolves after := by
  refine .of_same ?_ catalog notifying fun id => by
    rw [View.share, View.share, lists, effects, calls]
  exact ⟨catalog ▸ plain.catalog, catalog ▸ effects ▸ plain.applied,
    lists ▸ plain.unconditional⟩

theorem Evolves.trans {second third : View} (evolves : view.Evolves second)
    (continues : second.Evolves third) : view.Evolves third :=
  ⟨continues.catalog.trans evolves.catalog, continues.notifying.trans evolves.notifying,
    continues.plain, fun id => by
      have continued := continues.share id
      rw [evolves.bundle] at continued
      exact (evolves.share id).trans continued⟩

theorem Evolves.insertEffect {effect : AppliedEffect} (plain : view.IsPlain)
    (known : view.catalog.get? id = some effect.definition)
    (same : effect.isActive = (view.share id).isOn) :
    view.Evolves { view with effects := view.effects.insert id effect } := by
  refine .of_same (plain.insertEffect known) rfl rfl fun other => ?_
  by_cases own : id = other
  · subst own
    rw [share_insertEffect, same]
  · exact share_insertEffect_of_ne own

end View

end Roleplay
