import Roleplay.Proofs.Stats.Currency
import Roleplay.Proofs.Stats.Moves
import Roleplay.Proofs.Stats.Walk

/-! # Where effects come from

An actor never has an effect that its catalog does not define.

* `View.IsKnown` says so of an actor, and `Engine.Move.isKnown` that every move keeps it;
* `World.Reachable.isKnown` is the statement for runs.
-/

namespace Roleplay

/-- The applied effects are among those of a catalog. -/
structure View.IsKnown (definitions : EffectCatalog) (view : View) : Prop where
  catalog : view.catalog = definitions
  applied : ∀ id, ∀ effect ∈ view.effects.get? id,
    ∃ name, definitions.get? name = some effect.definition

theorem View.IsKnown.insertEffect {definitions : EffectCatalog} {view : View} {id : String}
    {effect : AppliedEffect} (known : view.IsKnown definitions)
    (defined : ∃ name, definitions.get? name = some effect.definition) :
    View.IsKnown definitions { view with effects := view.effects.insert id effect } := by
  refine ⟨known.catalog, fun other applied found => ?_⟩
  simp only [Dictionary.get?_insert] at found
  split at found
  · obtain rfl := Option.some.inj found
    exact defined
  · exact known.applied other applied found

theorem Engine.Move.isKnown {definitions : EffectCatalog} {world world' : World}
    (move : Engine.Move world world') (known : world.view.IsKnown definitions) :
    world'.view.IsKnown definitions := by
  cases move with
  | aside aside =>
    refine ⟨aside.catalog.trans known.catalog, fun id effect applied => ?_⟩
    have wasApplied : world.actor.effects.get? id = some effect := by
      rw [← aside.effects]
      exact applied
    exact known.applied id effect wasApplied
  | report returned | clear returned | setValue returned =>
    obtain ⟨_, rfl⟩ := Prod.mk.inj (Option.some.inj returned)
    exact ⟨known.catalog, known.applied⟩
  | register accepted returned =>
    rw [Engine.register_does _ _ _ returned]
    exact ⟨known.catalog, known.applied⟩
  | unregister returned =>
    rw [Engine.unregister_does _ _ _ returned]
    exact ⟨known.catalog, known.applied⟩
  | withdraw returned =>
    rw [(Engine.withdrawSource_ensures _ _ _ rfl returned).2]
    exact ⟨known.catalog, known.applied⟩
  | sweep returned =>
    rw [Engine.sweepModifiers_does _ _ _ returned]
    exact ⟨known.catalog, known.applied⟩
  | receive returned =>
    obtain ⟨rfl, same⟩ := Engine.receiveEffects_ensures _ _ _ rfl returned
    rw [same]
    refine ⟨known.catalog, fun id effect applied => ?_⟩
    simp only [Dictionary.get?_mapValues, Option.map_map] at applied
    obtain ⟨earlier, wasApplied, rfl⟩ := Option.map_eq_some_iff.1 applied
    obtain ⟨name, defined⟩ := known.applied id earlier wasApplied
    refine ⟨name, defined.trans (congrArg some ?_)⟩
    exact AppliedEffect.definition_receive.symm
  | start found returned =>
    rw [Engine.placeEffect_does _ _ _ returned]
    have defined := (congrArg (Dictionary.get? · _) known.catalog).symm.trans found
    exact known.insertEffect ⟨_, defined⟩
  | @refresh id effect snapshot applied returned =>
    rw [Engine.placeEffect_does _ _ _ returned]
    have defined := known.applied id effect applied
    exact known.insertEffect defined
  | drop returned =>
    rw [Engine.dropEffect_does _ _ _ returned]
    refine ⟨known.catalog, fun id effect applied => ?_⟩
    simp only [Dictionary.get?_erase] at applied
    split at applied
    · cases applied
    · exact known.applied id effect applied

theorem World.Reachable.isKnown {catalog : EffectCatalog}
    {permits : World → Operation → Nat → Prop} {world : World}
    (reachable : World.Reachable catalog permits world) : world.view.IsKnown catalog := by
  apply reachable.of_moves
  · intro pools orders
    refine ⟨rfl, fun id effect applied => ?_⟩
    cases applied
  · intro world world' move known
    exact move.isKnown known

end Roleplay
