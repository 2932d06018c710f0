import Sc2Api.Events

/-!
# What goes wrong with the ability table

A refresh of the ability table records dropped remaps and no other errors, and so does an
observation, however often it asks for the table.
-/

namespace Sc2Api

open Lib

/-! ## The table -/

/-- Dropped remaps are the only errors. -/
def OnlyRemaps (errors : List ClientError) : Prop :=
  ∀ error ∈ errors, error = .invalidAbilityRemap

theorem onlyRemaps_nil : OnlyRemaps [] := fun _ h => absurd h List.not_mem_nil

theorem OnlyRemaps.append {errors errors' : List ClientError} (h : OnlyRemaps errors)
    (h' : OnlyRemaps errors') : OnlyRemaps (errors ++ errors') := by
  intro error herror
  rcases List.mem_append.1 herror with hold | hnew
  · exact h error hold
  · exact h' error hnew

theorem onlyRemaps_foldl (indices : List Nat) {acc : Abilities × List ClientError}
    (h : OnlyRemaps acc.2) : OnlyRemaps (indices.foldl remapAbility acc).2 := by
  induction indices generalizing acc with
  | nil => exact h
  | cons i indices ih =>
    rw [List.foldl_cons]
    apply ih
    unfold remapAbility
    split
    · exact h
    · split
      · exact h
      · split
        · exact h.append fun _ hnew => List.mem_singleton.1 hnew
        · exact h

namespace AbilityTable

variable {t : AbilityTable}

theorem onlyRemaps_getAbilityData (h : OnlyRemaps t.errors) (forceRefresh : Bool) :
    OnlyRemaps ((getAbilityData forceRefresh).run t).2.errors := by
  obtain ⟨abilities, abilitiesCached, answers, errors⟩ := t
  unfold getAbilityData
  simp only [StateT.run_bind, StateT.run_get, pure_bind]
  split
  · exact h
  · split
    · exact h.append (onlyRemaps_foldl _ onlyRemaps_nil)
    · exact h

theorem onlyRemaps_getGeneralizedAbilityID (h : OnlyRemaps t.errors) (abilityId : UInt32) :
    OnlyRemaps ((getGeneralizedAbilityID abilityId).run t).2.errors := by
  have hasked := onlyRemaps_getAbilityData h false
  unfold getGeneralizedAbilityID
  split
  · exact h
  · rw [StateT.run_bind]
    generalize StateT.run (getAbilityData false) t = asked at hasked ⊢
    obtain ⟨abilities, t'⟩ := asked
    dsimp only [bind] at hasked ⊢
    split
    · exact hasked
    · split
      · exact hasked
      · exact hasked

/-- So does what generalizes one id of a record. -/
theorem onlyRemaps_bind {α : Type} (h : OnlyRemaps t.errors) (abilityId : UInt32)
    (k : AbilityID → α) :
    OnlyRemaps ((getGeneralizedAbilityID abilityId >>= fun id => pure (k id)).run t).2.errors :=
  onlyRemaps_getGeneralizedAbilityID h abilityId

end AbilityTable

/-! ## The observation -/

namespace ObservationImp

open AbilityTable

variable {s : ObservationImp}

theorem onlyRemaps_updateActions (h : OnlyRemaps s.abilityTable.errors)
    (r : Proto.ResponseObservation) (isNewFrame : Bool) :
    OnlyRemaps (s.updateActions r isNewFrame).abilityTable.errors := by
  have hraw (action : ActionRaw) (t : AbilityTable) (h : OnlyRemaps t.errors) :
      OnlyRemaps ((remapRawAction action).run t).2.errors :=
    onlyRemaps_bind h action.abilityId fun abilityId => { action with abilityId }
  have hspatial (action : SpatialUnitCommand) (t : AbilityTable) (h : OnlyRemaps t.errors) :
      OnlyRemaps ((remapSpatialAction action).run t).2.errors :=
    onlyRemaps_bind h action.abilityId fun abilityId => { action with abilityId }
  exact invariant_mapM_run hspatial _ (invariant_mapM_run hspatial _ (invariant_mapM_run hraw _ h))

theorem onlyRemaps_foldl_remapUnit (units : List PoolIndex) {acc : UnitPool × AbilityTable}
    (h : OnlyRemaps acc.2.errors) : OnlyRemaps (units.foldl remapUnit acc).2.errors := by
  have horder (order : UnitOrder) (t : AbilityTable) (h : OnlyRemaps t.errors) :
      OnlyRemaps ((remapOrder order).run t).2.errors :=
    onlyRemaps_bind h order.abilityId fun abilityId => { order with abilityId }
  induction units generalizing acc with
  | nil => exact h
  | cons unit units ih =>
    rw [List.foldl_cons]
    apply ih
    exact invariant_mapM_run horder _ h

theorem onlyRemaps_remapOrders (h : OnlyRemaps s.abilityTable.errors) (order : UnitPool.Order) :
    OnlyRemaps (s.remapOrders order).abilityTable.errors := by
  unfold remapOrders
  split
  · exact onlyRemaps_foldl_remapUnit _ h
  · exact h

theorem onlyRemaps_updateObservation (h : OnlyRemaps s.abilityTable.errors)
    (orders : UpdateOrders) (o : Proto.Observation) (r : Proto.ResponseObservation) :
    OnlyRemaps (s.updateObservation orders o r).2.abilityTable.errors := by
  unfold updateObservation
  dsimp only
  split
  · exact h
  · generalize hbefore : updateChat _ r = before
    have hactions : OnlyRemaps before.abilityTable.errors := by
      rw [← hbefore]
      exact onlyRemaps_updateActions h r _
    split
    · exact hactions
    · have hunits (raw : Proto.ObservationRaw) :
          OnlyRemaps (before.updateUnits orders raw).abilityTable.errors := by
        unfold updateUnits
        apply onlyRemaps_remapOrders
        exact hactions
      repeat' split
      all_goals exact hunits _

end ObservationImp

theorem ControlImp.onlyRemaps_getObservation {c : ControlImp}
    (h : OnlyRemaps c.observationImp.abilityTable.errors) (orders : UpdateOrders)
    (answer : Option Proto.Response) :
    OnlyRemaps (c.getObservation orders answer).2.observationImp.abilityTable.errors := by
  unfold ControlImp.getObservation
  split
  · exact h
  · split
    · exact h
    · split
      · split
        · exact h
        · exact ObservationImp.onlyRemaps_updateObservation h orders _ _
      · exact h

end Sc2Api
