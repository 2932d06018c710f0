import Sc2Api.AbilityIds
import Sc2Api.Verify.Fetching
import Sc2Api.Verify.ReportedActions

/-!
# What an observation makes of ability ids

A client that is served an ability table generalizes by it. The orders of units become what
the setting promises; the ids in the lists of actions are all generalized, whatever the
setting, those included that the lists keep from before.
-/

namespace Sc2Api

open Lib

/-! ## The ability table -/

/-- The table that an answer of the game makes. -/
def loadAbilities (messages : List Proto.AbilityData) : Abilities :=
  let entries := messages.mapIdx fun i data =>
    AbilityData.readFromProto { abilityId := UInt32.ofNat i } data
  ((List.range entries.length).foldl remapAbility (entries, [])).1

theorem length_foldl_remapAbility (indices : List Nat) (acc : Abilities × List ClientError) :
    (indices.foldl remapAbility acc).1.length = acc.1.length := by
  induction indices generalizing acc with
  | nil => rfl
  | cons i indices ih =>
    rw [List.foldl_cons, ih]
    unfold remapAbility
    split
    · rfl
    · split
      · rfl
      · split <;> simp

theorem length_loadAbilities (messages : List Proto.AbilityData) :
    (loadAbilities messages).length = messages.length := by
  unfold loadAbilities
  dsimp only
  rw [length_foldl_remapAbility, List.length_mapIdx]

namespace AbilityTable

/-- The table is at hand. -/
def Loaded (t : AbilityTable) : Prop := t.abilitiesCached = true ∧ t.abilities ≠ []

/-- Whoever asks for the table gets these abilities: they are at hand, the first request
brings them, or no request brings any. -/
inductive Serves (abilities : Abilities) (t : AbilityTable) : Prop
  | loaded (loaded : t.Loaded) (table : t.abilities = abilities)
  | loads (notLoaded : ¬t.Loaded) (messages : List Proto.AbilityData)
      (rest : List (Option (List Proto.AbilityData)))
      (answers : t.answers = some messages :: rest) (filled : messages ≠ [])
      (table : loadAbilities messages = abilities)
  | absent (notLoaded : ¬t.Loaded)
      (unanswered : ∀ answer ∈ t.answers, answer = none ∨ answer = some [])
      (table : abilities = [])

variable {abilities : Abilities} {t : AbilityTable}

theorem getAbilityData_of_loaded (h : t.Loaded) : getAbilityData.run t = (t.abilities, t) := by
  obtain ⟨abilities, abilitiesCached, answers, errors⟩ := t
  obtain ⟨rfl, hfilled⟩ : abilitiesCached = true ∧ abilities ≠ [] := h
  cases abilities with
  | nil => exact absurd rfl hfilled
  | cons => rfl

theorem getAbilityData_of_answer (h : ¬t.Loaded) {messages : List Proto.AbilityData}
    {rest : List (Option (List Proto.AbilityData))} (hfilled : messages ≠ [])
    (hanswers : t.answers = some messages :: rest) :
    ∃ errors, getAbilityData.run t = (loadAbilities messages,
      ⟨loadAbilities messages, true, rest, errors⟩) := by
  obtain ⟨abilities, abilitiesCached, answers, errors⟩ := t
  obtain rfl : answers = some messages :: rest := hanswers
  cases messages with
  | nil => exact absurd rfl hfilled
  | cons message messages =>
    cases abilities with
    | nil => cases abilitiesCached <;> exact ⟨_, rfl⟩
    | cons ability abilities =>
      cases abilitiesCached with
      | true => exact absurd ⟨rfl, List.cons_ne_nil ability abilities⟩ h
      | false => exact ⟨_, rfl⟩

theorem getAbilityData_of_absent (h : ¬t.Loaded)
    (hunanswered : ∀ answer ∈ t.answers, answer = none ∨ answer = some []) :
    getAbilityData.run t = ([], ⟨[], false, t.answers.tail, t.errors⟩) := by
  obtain ⟨abilities, abilitiesCached, answers, errors⟩ := t
  have hcases : answers = [] ∨ ∃ rest, answers = none :: rest ∨ answers = some [] :: rest := by
    cases answers with
    | nil => exact .inl rfl
    | cons answer rest =>
      rcases hunanswered answer List.mem_cons_self with rfl | rfl
      · exact .inr ⟨rest, .inl rfl⟩
      · exact .inr ⟨rest, .inr rfl⟩
  cases abilities with
  | nil => rcases hcases with rfl | ⟨rest, rfl | rfl⟩ <;> cases abilitiesCached <;> rfl
  | cons ability abilities =>
    cases abilitiesCached with
    | true => exact absurd ⟨rfl, List.cons_ne_nil ability abilities⟩ h
    | false => rcases hcases with rfl | ⟨rest, rfl | rfl⟩ <;> rfl

theorem Serves.getAbilityData (h : t.Serves abilities) :
    ∃ t', Sc2Api.getAbilityData.run t = (abilities, t') ∧ t'.Serves abilities := by
  cases h with
  | loaded loaded table =>
    subst table
    exact ⟨t, getAbilityData_of_loaded loaded, .loaded loaded rfl⟩
  | loads notLoaded messages rest answers filled table =>
    obtain ⟨errors, hrun⟩ := getAbilityData_of_answer notLoaded filled answers
    subst table
    have hloaded : loadAbilities messages ≠ [] := by
      rwa [← List.length_pos_iff, length_loadAbilities, List.length_pos_iff]
    exact ⟨_, hrun, .loaded ⟨rfl, hloaded⟩ rfl⟩
  | absent notLoaded unanswered table =>
    subst table
    refine ⟨_, getAbilityData_of_absent notLoaded unanswered, .absent (by simp [Loaded]) ?_ rfl⟩
    exact fun answer hanswer => unanswered answer (List.mem_of_mem_tail hanswer)

/-- An id other than 0 is generalized by the table that comes. -/
theorem getGeneralizedAbilityID_of_ne {abilityId : UInt32} (h : abilityId ≠ 0) :
    (getGeneralizedAbilityID abilityId).run t =
      (generalizedAbilityID (Sc2Api.getAbilityData.run t).1 abilityId,
        (Sc2Api.getAbilityData.run t).2) := by
  unfold getGeneralizedAbilityID generalizedAbilityID
  rw [if_neg h, if_neg h, StateT.run_bind]
  generalize Sc2Api.getAbilityData.run t = result
  obtain ⟨abilities, t'⟩ := result
  show StateT.run _ t' = _
  dsimp only
  cases abilities[abilityId.toNat]? with
  | none => rfl
  | some ability =>
    dsimp only
    split <;> rfl

/-- An id is generalized by the table that is served. -/
theorem Serves.generalized (h : t.Serves abilities) (abilityId : UInt32) :
    ∃ t', (getGeneralizedAbilityID abilityId).run t =
      (generalizedAbilityID abilities abilityId, t') ∧ t'.Serves abilities := by
  by_cases hzero : abilityId = 0
  · subst hzero
    exact ⟨t, rfl, h⟩
  · obtain ⟨t', hrun, hserves⟩ := h.getAbilityData
    refine ⟨t', ?_, hserves⟩
    rw [getGeneralizedAbilityID_of_ne hzero, hrun]

theorem Serves.generalized_bind {β : Type} (h : t.Serves abilities) (abilityId : UInt32)
    (k : AbilityID → β) :
    ∃ t', (getGeneralizedAbilityID abilityId >>= fun id => pure (k id)).run t =
      (k (generalizedAbilityID abilities abilityId), t') ∧ t'.Serves abilities := by
  obtain ⟨t', hrun, hserves⟩ := h.generalized abilityId
  refine ⟨t', ?_, hserves⟩
  have hbind : (getGeneralizedAbilityID abilityId >>= fun id => pure (k id)).run t =
      (k ((getGeneralizedAbilityID abilityId).run t).1,
        ((getGeneralizedAbilityID abilityId).run t).2) := rfl
  rw [hbind, hrun]

/-- So is a list, entry by entry. -/
theorem Serves.mapM {α β : Type} {f : α → StateM AbilityTable β} {φ : α → β}
    (hf : ∀ x t, Serves abilities t → ∃ t', (f x).run t = (φ x, t') ∧ t'.Serves abilities)
    (h : t.Serves abilities) (l : List α) :
    ∃ t', (l.mapM f).run t = (l.map φ, t') ∧ t'.Serves abilities := by
  induction l generalizing t with
  | nil => exact ⟨t, rfl, h⟩
  | cons x l ih =>
    obtain ⟨t₁, hhead, h₁⟩ := hf x t h
    obtain ⟨t₂, htail, h₂⟩ := ih h₁
    refine ⟨t₂, ?_, h₂⟩
    rw [run_mapM_cons, hhead, htail]
    rfl

end AbilityTable

/-! ## The lists of actions -/

namespace ObservationImp

variable {abilities : Abilities} {s : ObservationImp}

theorem unitCommands_foldl (actions : SpatialActions) (l : List Proto.ActionSpatial) :
    (l.foldl convertSpatialAction actions).unitCommands =
      actions.unitCommands ++ (l.foldl convertSpatialAction {}).unitCommands := by
  induction l generalizing actions with
  | nil => simp
  | cons action l ih =>
    rw [List.foldl_cons, List.foldl_cons, ih, ih (convertSpatialAction {} action),
      convertSpatialAction_append, List.append_assoc]

/-- The lists after an observation: what is kept and what is new, all of it generalized. -/
theorem updateActions_shown (h : s.abilityTable.Serves abilities) (f : Fetch)
    (isNewFrame : Bool) :
    let after := s.updateActions f.response isNewFrame
    let kept : ShownActions := if isNewFrame then {} else s.shownActions
    after.abilityTable.Serves abilities ∧
      after.shownActions =
        (kept.append f.reported).mapIds (generalizedAbilityID abilities) := by
  dsimp only
  let g := generalizedAbilityID abilities
  have hraw (action : ActionRaw) (t : AbilityTable) (h : t.Serves abilities) :
      ∃ t', (remapRawAction action).run t = (action.mapId g, t') ∧ t'.Serves abilities :=
    h.generalized_bind action.abilityId fun abilityId => ({ action with abilityId } : ActionRaw)
  have hspatial (command : SpatialUnitCommand) (t : AbilityTable) (h : t.Serves abilities) :
      ∃ t', (remapSpatialAction command).run t = (command.mapId g, t') ∧
        t'.Serves abilities :=
    h.generalized_bind command.abilityId fun abilityId =>
      ({ command with abilityId } : SpatialUnitCommand)
  obtain ⟨t₁, hrun₁, h₁⟩ := h.mapM hraw
    (convertRawActions f.response (if isNewFrame then [] else s.rawActions))
  obtain ⟨t₂, hrun₂, h₂⟩ := h₁.mapM hspatial (convertFeatureLayerActions f.response
    (if isNewFrame then {} else s.featureLayerActions)).unitCommands
  obtain ⟨t₃, hrun₃, h₃⟩ := h₂.mapM hspatial (convertRenderedActions f.response
    (if isNewFrame then {} else s.renderedActions)).unitCommands
  unfold updateActions
  dsimp only
  rw [hrun₁]
  dsimp only
  rw [hrun₂]
  dsimp only
  rw [hrun₃]
  refine ⟨h₃, ?_⟩
  unfold shownActions ShownActions.mapIds ShownActions.append Fetch.reported convertRawActions
    convertFeatureLayerActions convertRenderedActions
  dsimp only
  rw [unitCommands_foldl (if isNewFrame then {} else s.featureLayerActions),
    unitCommands_foldl (if isNewFrame then {} else s.renderedActions)]
  cases isNewFrame <;> rfl

/-! ## The orders of units -/

section Orders

open UnitPool

variable {p : UnitPool} {t : AbilityTable}

theorem remapUnit_serves (h : t.Serves abilities) (i : PoolIndex) :
    ∃ t', t'.Serves abilities ∧ remapUnit (p, t) i =
      (p.write i fun u => { u with
        orders := (p.deref i).orders.map (·.mapId (generalizedAbilityID abilities)) }, t') := by
  obtain ⟨t', hrun, hserves⟩ := h.mapM (φ := (·.mapId (generalizedAbilityID abilities)))
    (fun order t h => h.generalized_bind order.abilityId fun abilityId =>
      ({ order with abilityId } : UnitOrder)) (p.deref i).orders
  have hremap : ((p.deref i).orders.mapM remapOrder).run t = _ := hrun
  refine ⟨t', hserves, ?_⟩
  unfold remapUnit
  dsimp only
  rw [hremap]

/-- Remapping the orders of one existing unit. -/
theorem existingUnit_remapUnit (htag : p.Tagged) (h : t.Serves abilities) {i : PoolIndex}
    {tagᵢ : Tag} (hi : p.getExistingUnit tagᵢ = some i) (tag : Tag) :
    (remapUnit (p, t) i).1.existingUnit tag = (p.existingUnit tag).map fun u =>
      if tag = tagᵢ then
        { u with orders := u.orders.map (·.mapId (generalizedAbilityID abilities)) }
      else u := by
  obtain ⟨t', -, hstep⟩ := remapUnit_serves (p := p) h i
  rw [hstep]
  dsimp only
  by_cases hne : tag = tagᵢ
  · subst hne
    rw [existing_write_self hi]
    refine Option.map_congr fun u hu => ?_
    rw [existingUnit, hi, Option.bind_some] at hu
    rw [deref, hu, Option.getD_some, if_pos rfl]
  · rw [htag.existing_write_ne (htag.existing hi) hne]
    simp [hne]

/-- A walk over units remaps the orders of those that it meets. -/
theorem foldl_remapUnit_serves {units : List PoolIndex} (hnodup : units.Nodup)
    (hunits : ∀ i ∈ units, ∃ tag, p.getExistingUnit tag = some i) (htag : p.Tagged)
    (h : t.Serves abilities) :
    (units.foldl remapUnit (p, t)).2.Serves abilities ∧
      ∀ tag i, p.getExistingUnit tag = some i →
        (units.foldl remapUnit (p, t)).1.existingUnit tag = (p.existingUnit tag).map fun u =>
          if i ∈ units then
            { u with orders := u.orders.map (·.mapId (generalizedAbilityID abilities)) }
          else u := by
  induction units generalizing p t with
  | nil => exact ⟨h, fun tag i _ => by simp⟩
  | cons i units ih =>
    obtain ⟨hi, hnodup⟩ := List.nodup_cons.1 hnodup
    obtain ⟨tagᵢ, htagᵢ⟩ := hunits i List.mem_cons_self
    have hnext : (remapUnit (p, t) i).2.Serves abilities := by
      obtain ⟨t', h', hstep⟩ := remapUnit_serves (p := p) h i
      rw [hstep]
      exact h'
    obtain ⟨hserves, hexisting⟩ := ih (p := (remapUnit (p, t) i).1) hnodup
      (fun j hj => hunits j (List.mem_cons_of_mem _ hj)) (htag.remapUnit t htagᵢ) hnext
    refine ⟨hserves, fun tag j hj => (hexisting tag j hj).trans ?_⟩
    rw [existingUnit_remapUnit htag h htagᵢ, Option.map_map]
    by_cases hne : tag = tagᵢ
    · subst hne
      obtain rfl : i = j := Option.some.inj (htagᵢ.symm.trans hj)
      simp [hi, Function.comp_def]
    · have hij : j ≠ i := by
        rintro rfl
        exact hne ((htag.deref_tag (htag.existing hj)).symm.trans
          (htag.deref_tag (htag.existing htagᵢ)))
      simp [hne, hij, Function.comp_def]

/-- The orders of all existing units become what the setting wants. -/
theorem remapOrders_serves {s : ObservationImp} (htag : s.unitPool.Tagged)
    (h : s.abilityTable.Serves abilities) (order : UnitPool.Order) :
    (s.remapOrders order).abilityTable.Serves abilities ∧
      ∀ tag, (s.remapOrders order).shownOrders tag =
        (s.shownOrders tag).map (·.mapId (promisedID abilities s.useGeneralizedAbility)) := by
  unfold remapOrders
  cases s.useGeneralizedAbility with
  | false => exact ⟨h, fun tag => by simp [UnitOrder.mapId, promisedID]⟩
  | true =>
    have hnodup : (s.unitPool.existingUnits order).Nodup := by
      have htags := existingTags_nodup s.unitPool order
      rw [← htag.map_tag_existingUnits] at htags
      exact htags.of_map _
    obtain ⟨hserves, hexisting⟩ := foldl_remapUnit_serves hnodup
      (fun i hi => mem_existingUnits hi) htag h
    simp only [if_true]
    refine ⟨hserves, fun tag => ?_⟩
    have hsame := (foldl_remapUnit s.abilityTable htag
      fun i (hi : i ∈ s.unitPool.existingUnits order) => mem_existingUnits hi).2
    unfold shownOrders
    dsimp only
    cases hi : s.unitPool.getExistingUnit tag with
    | none =>
      have hnone {p : UnitPool} (hp : p.getExistingUnit tag = none) :
          p.existingUnit tag = none := by
        rw [existingUnit, hp]
        rfl
      rw [hnone hi, hnone ((hsame.getExistingUnit tag).trans hi)]
      rfl
    | some i =>
      have hmem : i ∈ s.unitPool.existingUnits order := by
        rw [existingUnits_eq]
        exact List.mem_map.2 ⟨tag, mem_existingTags_iff.2 (by rw [hi]; rfl), by rw [hi]; rfl⟩
      rw [hexisting tag i hi]
      simp only [hmem, if_true, Option.map_map]
      cases s.unitPool.existingUnit tag <;> rfl

/-- The orders after an observation are those of its units. -/
theorem updateUnits_serves {s : ObservationImp} (htag : s.unitPool.Tagged)
    (h : s.abilityTable.Serves abilities) (orders : UpdateOrders) (raw : Proto.ObservationRaw) :
    (s.updateUnits orders raw).abilityTable.Serves abilities ∧
      ∀ tag, (s.updateUnits orders raw).shownOrders tag =
        (((Proto.lastWith tag raw.units).map (·.orders.map convertOrder)).getD []).map
          (·.mapId (promisedID abilities s.useGeneralizedAbility)) := by
  obtain ⟨htag', -, hunits⟩ := convertUnits_spec htag s.currentGameLoop raw
  unfold updateUnits
  dsimp only
  generalize hconverted : ({ s with
    unitsPreviousMap := previousMap orders.previous s.unitPool
    unitPool := convertUnits raw s.unitPool.clearExisting s.currentGameLoop } :
      ObservationImp) = s₁
  have hpool : s₁.unitPool = convertUnits raw s.unitPool.clearExisting s.currentGameLoop := by
    rw [← hconverted]
  have hsetting : s₁.useGeneralizedAbility = s.useGeneralizedAbility := by
    rw [← hconverted]
  have htable : s₁.abilityTable = s.abilityTable := by
    rw [← hconverted]
  rw [← hpool] at htag' hunits
  rw [← htable] at h
  obtain ⟨hserves, horders⟩ := remapOrders_serves htag' h orders.remap
  refine ⟨hserves, fun tag => ?_⟩
  have hsent : s₁.shownOrders tag =
      ((Proto.lastWith tag raw.units).map (·.orders.map convertOrder)).getD [] := by
    unfold shownOrders
    rw [hunits, Option.map_map]
    rfl
  rw [horders, hsent, hsetting]

end Orders

variable {f : Fetch}

/-- What an observation lets a bot see. -/
theorem updateObservation_shown (htag : s.unitPool.Tagged)
    (h : s.abilityTable.Serves abilities) (hcomplete : f.observation.Complete) :
    let after := (s.updateObservation f.orders f.observation f.response).2
    after.abilityTable.Serves abilities ∧
      after.useGeneralizedAbility = s.useGeneralizedAbility ∧
      after.shownActions =
        (s.updateActions f.response (f.loop != s.currentGameLoop)).shownActions ∧
      ∀ tag, after.shownOrders tag =
        (f.sentOrders tag).map (·.mapId (promisedID abilities s.useGeneralizedAbility)) := by
  obtain ⟨score, hscore⟩ := Option.isSome_iff_exists.1 hcomplete.1
  obtain ⟨ids, hids⟩ := Option.isSome_iff_exists.1 hcomplete.2
  obtain ⟨raw, hraw, player, hplayer, camera, hcamera⟩ :
      ∃ raw, f.observation.rawData = some raw ∧ ∃ player, raw.player = some player ∧
        ∃ camera, player.camera = some camera := by
    obtain ⟨raw, hraw, hrest⟩ := Option.bind_eq_some_iff.1 hids
    obtain ⟨player, hplayer, hrest⟩ := Option.bind_eq_some_iff.1 hrest
    obtain ⟨camera, hcamera, -⟩ := Option.map_eq_some_iff.1 hrest
    exact ⟨raw, hraw, player, hplayer, camera, hcamera⟩
  unfold updateObservation convertScore
  simp only [hscore, hraw, hplayer, hcamera, Bool.not_true, Bool.false_eq_true, if_false]
  generalize hbefore : updateChat _ f.response = before
  have htable : before.abilityTable.Serves abilities := by
    rw [← hbefore]
    exact (updateActions_shown h f _).1
  have hpool : before.unitPool.Tagged := by
    rw [← hbefore]
    exact htag
  have hsetting : before.useGeneralizedAbility = s.useGeneralizedAbility := by
    rw [← hbefore]
    rfl
  have hactions : before.shownActions =
      (s.updateActions f.response (f.loop != s.currentGameLoop)).shownActions := by
    rw [← hbefore]
    rfl
  obtain ⟨hserves, horders⟩ := updateUnits_serves hpool htable f.orders raw
  obtain ⟨pool, previous, table, hunits⟩ := before.updateUnits_eq f.orders raw
  rw [hunits] at hserves horders ⊢
  refine ⟨hserves, hsetting, hactions, fun tag => (horders tag).trans ?_⟩
  rw [hsetting, Fetch.sentOrders, Proto.Observation.units, hraw]
  rfl

end ObservationImp

/-! ## Queries -/

namespace AbilityTable

variable {abilities : Abilities} {t : AbilityTable}

theorem Serves.convertAvailableAbilities (h : t.Serves abilities)
    (sent : Proto.ResponseQueryAvailableAbilities) :
    ∃ t', (QueryImp.convertAvailableAbilities sent).run t =
      ({ abilities := sent.abilities.map fun ability => {
          abilityId := generalizedAbilityID abilities (ability.abilityId.getD 0).toUInt32
          requiresPoint := ability.requiresPoint.getD false }
         unitTag := sent.unitTag.getD 0
         unitTypeId := sent.unitTypeId.getD 0 }, t') ∧ t'.Serves abilities := by
  obtain ⟨t', hrun, hserves⟩ := h.mapM (f := QueryImp.convertAvailableAbility)
    (φ := fun ability => {
      abilityId := generalizedAbilityID abilities (ability.abilityId.getD 0).toUInt32
      requiresPoint := ability.requiresPoint.getD false })
    (fun ability t h => h.generalized_bind (ability.abilityId.getD 0).toUInt32
      fun abilityId => (⟨abilityId, ability.requiresPoint.getD false⟩ : AvailableAbility))
    sent.abilities
  refine ⟨t', ?_, hserves⟩
  have hbind : (QueryImp.convertAvailableAbilities sent).run t =
      (⟨((sent.abilities.mapM QueryImp.convertAvailableAbility).run t).1,
        sent.unitTag.getD 0, sent.unitTypeId.getD 0⟩,
        ((sent.abilities.mapM QueryImp.convertAvailableAbility).run t).2) := rfl
  rw [hbind, hrun]

/-- The answer to a query is generalized whatever the setting. -/
theorem Serves.getAbilitiesForUnits (h : t.Serves abilities) (q : AbilityQuery) :
    ∃ t' errors, (QueryImp.getAbilitiesForUnits q.units q.answer).run t =
      ((q.expected (generalizedAbilityID abilities), errors), t') ∧ t'.Serves abilities := by
  obtain ⟨units, answer⟩ := q
  unfold QueryImp.getAbilitiesForUnits
  cases units with
  | nil => exact ⟨t, [], rfl, h⟩
  | cons unit units =>
    cases answer with
    | notSent => exact ⟨t, [], rfl, h⟩
    | noResponse => exact ⟨t, [], rfl, h⟩
    | otherResponse => exact ⟨t, [.invalidResponse], rfl, h⟩
    | response query =>
      obtain ⟨t', hrun, hserves⟩ := h.mapM
        (fun sent t h => Serves.convertAvailableAbilities h sent) query.abilities
      refine ⟨t', QueryImp.mismatches (unit :: units) query, ?_, hserves⟩
      rw [if_neg (List.cons_ne_nil unit units)]
      exact congrArg (fun p => ((p.1, QueryImp.mismatches (unit :: units) query), p.2)) hrun

end AbilityTable

/-! ## Fetching -/

theorem Control.imp_useGeneralizedAbility (c : Control) (value : Bool) :
    (c.useGeneralizedAbility value).imp = c.imp.useGeneralizedAbility value := rfl

/-- A client in order that is served a table. -/
structure ControlImp.Serving (c : ControlImp) (abilities : Abilities) : Prop extends
    c.Ready where
  serves : c.observationImp.abilityTable.Serves abilities

namespace ControlImp.Serving

variable {abilities : Abilities} {c : ControlImp} {f : Fetch}

theorem fetch (h : c.Serving abilities) (hcomplete : f.observation.Complete) :
    (fetches.step c f).1.Serving abilities ∧
      (fetches.step c f).1.observationImp.currentGameLoop = f.loop ∧
      (fetches.step c f).1.observationImp.useGeneralizedAbility =
        c.observationImp.useGeneralizedAbility ∧
      (fetches.step c f).1.observationImp.shownActions =
        ((if f.loop != c.observationImp.currentGameLoop then {}
          else c.observationImp.shownActions).append f.reported).mapIds
            (generalizedAbilityID abilities) ∧
      ∀ tag, (fetches.step c f).1.observationImp.shownOrders tag = (f.sentOrders tag).map
        (·.mapId (promisedID abilities c.observationImp.useGeneralizedAbility)) := by
  have hafter : (fetches.step c f).1.observationImp =
      (c.observationImp.updateObservation f.orders f.observation
        { f.response with observation := some f.observation }).2 := by
    show (c.getObservation f.orders
      (some (.ofObservation f.observation f.response))).2.observationImp = _
    unfold ControlImp.getObservation
    rw [if_neg (not_not.2 h.appState)]
    rfl
  have htaken := ObservationImp.updateObservation_takenIn (s := c.observationImp) hcomplete.1
    f.orders { f.response with observation := some f.observation }
  obtain ⟨hserves, hsetting, hactions, horders⟩ := ObservationImp.updateObservation_shown
    (f := { f with response := { f.response with observation := some f.observation } })
    h.tagged h.serves hcomplete
  rw [← hafter] at htaken hserves hsetting hactions horders
  exact ⟨⟨h.toReady.step f.op, hserves⟩, htaken.currentGameLoop, hsetting,
    hactions.trans (ObservationImp.updateActions_shown h.serves f _).2, horders⟩

/-- A query changes nothing but the ability table. -/
theorem query (h : c.Serving abilities) (q : AbilityQuery) :
    (c.queryAbilities q).1 = q.expected (generalizedAbilityID abilities) ∧
      (c.queryAbilities q).2.Serving abilities ∧
      ∃ table, (c.queryAbilities q).2 =
        { c with observationImp := { c.observationImp with abilityTable := table } } := by
  obtain ⟨t', errors, hrun, hserves⟩ := h.serves.getAbilitiesForUnits q
  unfold queryAbilities
  rw [hrun]
  exact ⟨rfl, ⟨⟨h.appState, h.tagged⟩, hserves⟩, t', rfl⟩

theorem useGeneralizedAbility (h : c.Serving abilities) (value : Bool) :
    (c.useGeneralizedAbility value).Serving abilities :=
  ⟨⟨h.appState, h.tagged⟩, h.serves⟩

/-- What the lists of actions will be depends on the last game loop and on what is kept. -/
theorem outputs_congr {c c' : ControlImp} {fs : List Fetch} (h : c.Serving abilities)
    (h' : c'.Serving abilities) (hcomplete : ∀ f ∈ fs, f.observation.Complete)
    (hloop : c.observationImp.currentGameLoop = c'.observationImp.currentGameLoop)
    (hshown : c.observationImp.shownActions = c'.observationImp.shownActions) :
    fetches.outputs c fs = fetches.outputs c' fs := by
  induction fs generalizing c c' with
  | nil => rfl
  | cons f fs ih =>
    obtain ⟨hhead, htail⟩ := List.forall_mem_cons.1 hcomplete
    obtain ⟨hnext, hnextLoop, -, hnextShown, -⟩ := h.fetch hhead
    obtain ⟨hnext', hnextLoop', -, hnextShown', -⟩ := h'.fetch hhead
    rw [hloop, hshown, ← hnextShown'] at hnextShown
    rw [Machine.outputs_cons, Machine.outputs_cons,
      ih hnext hnext' htail (hnextLoop.trans hnextLoop'.symm) hnextShown]
    exact congrArg (· :: _) hnextShown

end ControlImp.Serving

end Sc2Api
