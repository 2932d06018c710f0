import Sc2Api.Lib.Remapping
import Sc2Api.Verify.AbilityIds

/-!
# Ability ids that are generalized again, and those that should not be at all

Every observation generalizes the whole lists of actions, and so once more what they keep
of its game loop. The setting of `UseGeneralizedAbility` reaches the orders of units only.
-/

namespace Sc2Api

open Lib

/-! ## The three lists of actions -/

/-- One of the lists of actions, with what depends on the ability ids in it. -/
structure ActionList (α : Type) where
  list : ShownActions → List α
  abilityId : α → AbilityID
  mapId : (AbilityID → AbilityID) → α → α
  list_empty : list {} = []
  list_append : ∀ a b, list (a.append b) = list a ++ list b
  list_mapIds : ∀ h a, list (a.mapIds h) = (list a).map (mapId h)
  list_allReported : ∀ fs, list (Fetch.allReported fs) = fs.flatMap fun f => list f.reported
  mapId_eq_iff : ∀ h h' x, mapId h x = mapId h' x ↔ h (abilityId x) = h' (abilityId x)
  mapId_mapId : ∀ g h x, mapId g (mapId h x) = mapId (g ∘ h) x

namespace ActionList

def raw : ActionList ActionRaw where
  list := ShownActions.rawActions
  abilityId := ActionRaw.abilityId
  mapId := ActionRaw.mapId
  list_empty := rfl
  list_append _ _ := rfl
  list_mapIds _ _ := rfl
  list_allReported _ := rfl
  mapId_eq_iff h h' x := by simp [ActionRaw.mapId]
  mapId_mapId _ _ _ := rfl

/-- A list of unit commands. -/
def unitCommands (list : ShownActions → List SpatialUnitCommand) (list_empty : list {} = [])
    (list_append : ∀ a b, list (a.append b) = list a ++ list b)
    (list_mapIds : ∀ h a, list (a.mapIds h) = (list a).map (·.mapId h))
    (list_allReported : ∀ fs,
      list (Fetch.allReported fs) = fs.flatMap fun f => list f.reported) :
    ActionList SpatialUnitCommand where
  list := list
  abilityId := SpatialUnitCommand.abilityId
  mapId := SpatialUnitCommand.mapId
  list_empty := list_empty
  list_append := list_append
  list_mapIds := list_mapIds
  list_allReported := list_allReported
  mapId_eq_iff h h' x := by simp [SpatialUnitCommand.mapId]
  mapId_mapId _ _ _ := rfl

def featureLayer : ActionList SpatialUnitCommand :=
  unitCommands ShownActions.featureLayer rfl (fun _ _ => rfl) (fun _ _ => rfl) fun _ => rfl

def rendered : ActionList SpatialUnitCommand :=
  unitCommands ShownActions.rendered rfl (fun _ _ => rfl) (fun _ _ => rfl) fun _ => rfl

end ActionList

theorem ShownActions.forall_mem_ids {P : AbilityID → Prop} {a : ShownActions} :
    (∀ id ∈ a.ids, P id) ↔
      (∀ x ∈ ActionList.raw.list a, P (ActionList.raw.abilityId x)) ∧
      (∀ x ∈ ActionList.featureLayer.list a, P (ActionList.featureLayer.abilityId x)) ∧
      ∀ x ∈ ActionList.rendered.list a, P (ActionList.rendered.abilityId x) := by
  unfold ids
  rw [List.forall_mem_append, List.forall_mem_append, List.forall_mem_map, List.forall_mem_map,
    List.forall_mem_map, and_assoc]
  rfl

theorem ShownActions.lists_eq_iff {as bs : List ShownActions} :
    as = bs ↔ as.map ActionList.raw.list = bs.map ActionList.raw.list ∧
      as.map ActionList.featureLayer.list = bs.map ActionList.featureLayer.list ∧
      as.map ActionList.rendered.list = bs.map ActionList.rendered.list := by
  refine ⟨by rintro rfl; exact ⟨rfl, rfl, rfl⟩, ?_⟩
  induction as generalizing bs with
  | nil => simp
  | cons a as ih =>
    cases bs with
    | nil => simp
    | cons b bs =>
      simp only [List.map_cons, List.cons.injEq]
      rintro ⟨⟨hraw, hraws⟩, ⟨hfeature, hfeatures⟩, hrendered, hrendereds⟩
      obtain ⟨rawActions, featureLayer, rendered⟩ := a
      obtain rfl : rawActions = b.rawActions := hraw
      obtain rfl : featureLayer = b.featureLayer := hfeature
      obtain rfl : rendered = b.rendered := hrendered
      exact ⟨rfl, ih ⟨hraws, hfeatures, hrendereds⟩⟩

/-- The first of the observations begins a game loop, or no action is kept before it. -/
def ControlImp.Begins (c : ControlImp) (fs : List Fetch) : Prop :=
  c.observationImp.shownActions = {} ∨
    ∀ f ∈ fs.head?, f.loop ≠ c.observationImp.currentGameLoop

/-! ## Lists of actions as batches -/

/-- An observation, with what a bot should then see of a reported ability id. -/
abbrev Labelled : Type := (AbilityID → AbilityID) × Fetch

/-- What the lists should be after each of the observations: the actions that were reported
in its game loop, in their order and each of them once. -/
def shouldShow (obs : List Labelled) : List ShownActions :=
  obs.mapIdx fun k o => (Fetch.reportedInFrame (obs.map (·.2)) k).mapIds o.1

namespace ActionList

variable {α : Type} (l : ActionList α) {abilities : Abilities} {c : ControlImp}
  {obs : List Labelled}

/-- What the observations add to the list. -/
def batches : GameLoop → List Labelled → List (Batch α)
  | _, [] => []
  | loop, (h, f) :: obs =>
    ⟨f.loop != loop, l.list f.reported, l.mapId h⟩ :: batches f.loop obs

/-- The list follows the remapper of its batches. -/
theorem outputs_map (hserving : c.Serving abilities)
    (hcomplete : ∀ o ∈ obs, o.2.observation.Complete) :
    (fetches.outputs c (obs.map (·.2))).map l.list =
      (remapper (l.mapId (generalizedAbilityID abilities))).outputs
        (l.list c.observationImp.shownActions)
        (l.batches c.observationImp.currentGameLoop obs) := by
  induction obs generalizing c with
  | nil => rfl
  | cons o obs ih =>
    obtain ⟨h, f⟩ := o
    obtain ⟨hhead, htail⟩ := List.forall_mem_cons.1 hcomplete
    obtain ⟨hserving', hloop, -, hshown, -⟩ := hserving.fetch hhead
    have hlist : l.list (fetches.step c f).1.observationImp.shownActions =
        (Batch.onto (l.list c.observationImp.shownActions)
          ⟨f.loop != c.observationImp.currentGameLoop, l.list f.reported, l.mapId h⟩).map
            (l.mapId (generalizedAbilityID abilities)) := by
      rw [hshown, l.list_mapIds, l.list_append]
      unfold Batch.onto
      cases f.loop != c.observationImp.currentGameLoop with
      | true => rw [if_pos rfl, if_pos rfl, l.list_empty]
      | false => rfl
    have hrest := ih hserving' htail
    rw [hloop, hlist] at hrest
    rw [List.map_cons, Machine.outputs_cons, List.map_cons, hrest]
    exact congrArg (· :: _) hlist

theorem take_batches (loop : GameLoop) (k : Nat) :
    (l.batches loop obs).take k = l.batches loop (obs.take k) := by
  induction obs generalizing loop k with
  | nil => simp [batches]
  | cons o obs ih => cases k <;> simp [batches, ih]

theorem foldl_batches (obs : List Labelled) {loop : GameLoop} {frame : List Fetch}
    (hframe : ∀ f, frame.getLast? = some f → f.loop = loop) :
    (l.batches loop obs).foldl Batch.onto (l.list (Fetch.allReported frame)) =
      l.list (Fetch.allReported ((obs.map (·.2)).foldl Fetch.joinFrame frame)) := by
  induction obs generalizing loop frame with
  | nil => rfl
  | cons o obs ih =>
    obtain ⟨h, f⟩ := o
    have honto : Batch.onto (l.list (Fetch.allReported frame))
        ⟨f.loop != loop, l.list f.reported, l.mapId h⟩ =
          l.list (Fetch.allReported (Fetch.joinFrame frame f)) := by
      unfold Batch.onto Fetch.joinFrame
      rw [l.list_allReported, l.list_allReported, List.flatMap_append, List.flatMap_singleton]
      congr 1
      cases hlast : frame.getLast? with
      | none => simp [List.getLast?_eq_none_iff.1 hlast]
      | some last =>
        rw [Option.map_some, hframe last hlast]
        by_cases hloop : f.loop = loop
        · simp [hloop]
        · simp [hloop, Ne.symm hloop]
    show (l.batches f.loop obs).foldl Batch.onto (Batch.onto _ _) = _
    rw [honto]
    refine ih fun last hlast => ?_
    rw [Fetch.joinFrame, List.getLast?_concat, Option.some.injEq] at hlast
    rw [← hlast]

/-- What is there with an observation is what was reported in its frame. -/
theorem current_batches (loop : GameLoop) (k : Nat) :
    Batch.current ((l.batches loop obs).take (k + 1)) =
      l.list (Fetch.reportedInFrame (obs.map (·.2)) k) := by
  have hnone : ∀ f : Fetch, ([] : List Fetch).getLast? = some f → f.loop = loop := by simp
  have hfold := l.foldl_batches (obs.take (k + 1)) hnone
  rw [l.list_allReported, List.flatMap_nil] at hfold
  rw [take_batches, Batch.current, hfold, List.map_take]
  rfl

theorem forall_batches {P : (α → α) → List α → Prop} {loop : GameLoop} :
    (∀ b ∈ l.batches loop obs, P b.goal b.items) ↔
      ∀ o ∈ obs, P (l.mapId o.1) (l.list o.2.reported) := by
  induction obs generalizing loop with
  | nil => simp [batches]
  | cons o obs ih => simp [batches, ih]

/-- Two batches in a row are two observations in a row. -/
theorem forall_batches_succ {P : Nat → (α → α) → List α → (α → α) → Prop} {loop : GameLoop} :
    (∀ k b, (l.batches loop obs)[k]? = some b → ∀ b', (l.batches loop obs)[k + 1]? = some b' →
      b'.fresh = false → P k b.goal b.items b'.goal) ↔
    ∀ k o, obs[k]? = some o → ∀ o', obs[k + 1]? = some o' → o'.2.loop = o.2.loop →
      P k (l.mapId o.1) (l.list o.2.reported) (l.mapId o'.1) := by
  induction obs generalizing loop P with
  | nil => simp [batches]
  | cons o obs ih =>
    rw [forall_getElem?_cons]
    unfold batches
    rw [forall_getElem?_cons]
    simp only [List.getElem?_cons_succ]
    refine and_congr ?_ (ih (P := fun k => P (k + 1)))
    cases obs with
    | nil => simp [batches]
    | cons o' obs => simp [batches]

theorem map_goal_batches (loop : GameLoop) :
    (l.batches loop obs).map (·.goal) = obs.map fun o => l.mapId o.1 := by
  induction obs generalizing loop with
  | nil => rfl
  | cons o obs ih => exact congrArg (_ :: ·) (ih _)

theorem getElem?_shouldShow (k : Nat) :
    ((shouldShow obs).map l.list)[k]? = obs[k]?.map fun o =>
      (l.list (Fetch.reportedInFrame (obs.map (·.2)) k)).map (l.mapId o.1) := by
  rw [List.getElem?_map, shouldShow, List.getElem?_mapIdx, Option.map_map]
  simp only [Function.comp_def, l.list_mapIds]

/-- To reach the goals is to be what the list should be after every observation. -/
theorem reaches_batches (loop : GameLoop) {lists : List (List α)}
    (hlength : lists.length = obs.length) :
    Batch.Reaches (l.batches loop obs) [] lists ↔ lists = (shouldShow obs).map l.list := by
  have hgoal (k : Nat) :
      (l.batches loop obs)[k]?.map (·.goal) = obs[k]?.map fun o => l.mapId o.1 := by
    rw [← List.getElem?_map, map_goal_batches, List.getElem?_map]
  rw [List.ext_getElem?_iff]
  simp only [l.getElem?_shouldShow]
  constructor
  · intro hreaches k
    have hk := hgoal k
    cases ho : obs[k]? with
    | none =>
      rw [Option.map_none, List.getElem?_eq_none_iff, hlength]
      exact List.getElem?_eq_none_iff.1 ho
    | some o =>
      rw [ho, Option.map_some, Option.map_eq_some_iff] at hk
      obtain ⟨b, hb, hbgoal⟩ := hk
      have hlist := hreaches k b hb
      rw [hbgoal] at hlist
      rw [hlist, ← l.current_batches loop k]
      rfl
  · intro hlists k b hb
    have hk := hgoal k
    rw [hb, Option.map_some, eq_comm, Option.map_eq_some_iff] at hk
    obtain ⟨o, ho, hbgoal⟩ := hk
    rw [hlists k, ho, Option.map_some, ← hbgoal, ← l.current_batches loop k]
    rfl

/-! ## What the lists show -/

section Shown

variable (hserving : c.Serving abilities) (hcomplete : ∀ o ∈ obs, o.2.observation.Complete)
  (hbegins : c.Begins (obs.map (·.2)))

include hserving hcomplete hbegins

/-- The list is what it should be after every observation exactly when the remapper reaches
its goals. -/
theorem shows_iff_reaches :
    (fetches.outputs c (obs.map (·.2))).map l.list = (shouldShow obs).map l.list ↔
      Batch.Reaches (l.batches c.observationImp.currentGameLoop obs) []
        ((remapper (l.mapId (generalizedAbilityID abilities))).outputs []
          (l.batches c.observationImp.currentGameLoop obs)) := by
  have houtputs := l.outputs_map hserving hcomplete
  have hstart : (remapper (l.mapId (generalizedAbilityID abilities))).outputs
      (l.list c.observationImp.shownActions)
        (l.batches c.observationImp.currentGameLoop obs) =
      (remapper (l.mapId (generalizedAbilityID abilities))).outputs []
        (l.batches c.observationImp.currentGameLoop obs) := by
    rcases hbegins with hempty | hloop
    · rw [hempty, l.list_empty]
    · refine remapper_outputs_of_fresh ?_
      cases obs with
      | nil => simp [batches]
      | cons o obs => simpa [batches] using hloop
  rw [hstart] at houtputs
  rw [← l.reaches_batches c.observationImp.currentGameLoop
    (by rw [List.length_map, Machine.length_outputs, List.length_map]), houtputs]

theorem shows_iff :
    (fetches.outputs c (obs.map (·.2))).map l.list = (shouldShow obs).map l.list ↔
      (∀ o ∈ obs, ∀ x ∈ l.list o.2.reported,
        generalizedAbilityID abilities (l.abilityId x) = o.1 (l.abilityId x)) ∧
      ∀ k o, obs[k]? = some o → ∀ o', obs[k + 1]? = some o' → o'.2.loop = o.2.loop →
        ∀ x ∈ l.list (Fetch.reportedInFrame (obs.map (·.2)) k),
          generalizedAbilityID abilities (o.1 (l.abilityId x)) = o'.1 (l.abilityId x) := by
  rw [l.shows_iff_reaches hserving hcomplete hbegins, remapper_outputs_iff]
  refine and_congr ?_ ?_
  · rw [l.forall_batches (P := fun h items =>
      ∀ x ∈ items, l.mapId (generalizedAbilityID abilities) x = h x)]
    simp only [l.mapId_eq_iff]
  · simp only [l.current_batches]
    rw [l.forall_batches_succ (P := fun k h _ h' =>
      ∀ x ∈ l.list (Fetch.reportedInFrame (obs.map (·.2)) k),
        l.mapId (generalizedAbilityID abilities) (h x) = h' x)]
    simp only [l.mapId_mapId, l.mapId_eq_iff, Function.comp_apply]

/-- With one function throughout, the observations whose actions stay matter. -/
theorem shows_const_iff {h : AbilityID → AbilityID} (hconst : ∀ o ∈ obs, o.1 = h) :
    (fetches.outputs c (obs.map (·.2))).map l.list = (shouldShow obs).map l.list ↔
      (∀ o ∈ obs, ∀ x ∈ l.list o.2.reported,
        generalizedAbilityID abilities (l.abilityId x) = h (l.abilityId x)) ∧
      ∀ k o, obs[k]? = some o → ∀ o', obs[k + 1]? = some o' → o'.2.loop = o.2.loop →
        ∀ x ∈ l.list o.2.reported,
          generalizedAbilityID abilities (h (l.abilityId x)) = h (l.abilityId x) := by
  have hgoal : ∀ b ∈ l.batches c.observationImp.currentGameLoop obs, b.goal = l.mapId h := by
    rw [l.forall_batches (P := fun goal _ => goal = l.mapId h)]
    intro o ho
    rw [hconst o ho]
  rw [l.shows_iff_reaches hserving hcomplete hbegins, remapper_outputs_const_iff hgoal]
  refine and_congr ?_ ?_
  · rw [l.forall_batches (P := fun _ items =>
      ∀ x ∈ items, l.mapId (generalizedAbilityID abilities) x = l.mapId h x)]
    simp only [l.mapId_eq_iff]
  · rw [l.forall_batches_succ (P := fun _ _ items _ =>
      ∀ x ∈ items, l.mapId (generalizedAbilityID abilities) (l.mapId h x) = l.mapId h x)]
    simp only [l.mapId_mapId, l.mapId_eq_iff, Function.comp_apply]

end Shown

end ActionList

namespace ControlImp

variable {abilities : Abilities} {c : ControlImp} {obs : List Labelled} {fs : List Fetch}

/-- The lists are what they should be exactly when generalizing takes the ids of new actions
to what they should be, and what is shown of the others from one observation to the next. -/
theorem shows_iff (hserving : c.Serving abilities)
    (hcomplete : ∀ o ∈ obs, o.2.observation.Complete) (hbegins : c.Begins (obs.map (·.2))) :
    fetches.outputs c (obs.map (·.2)) = shouldShow obs ↔
      (∀ o ∈ obs, ∀ id ∈ o.2.reported.ids, generalizedAbilityID abilities id = o.1 id) ∧
      ∀ k o, obs[k]? = some o → ∀ o', obs[k + 1]? = some o' → o'.2.loop = o.2.loop →
        ∀ id ∈ (Fetch.reportedInFrame (obs.map (·.2)) k).ids,
          generalizedAbilityID abilities (o.1 id) = o'.1 id := by
  rw [ShownActions.lists_eq_iff, ActionList.raw.shows_iff hserving hcomplete hbegins,
    ActionList.featureLayer.shows_iff hserving hcomplete hbegins,
    ActionList.rendered.shows_iff hserving hcomplete hbegins]
  simp only [ShownActions.forall_mem_ids, forall_and]
  tauto

theorem shows_const_iff (hserving : c.Serving abilities)
    (hcomplete : ∀ o ∈ obs, o.2.observation.Complete) (hbegins : c.Begins (obs.map (·.2)))
    {h : AbilityID → AbilityID} (hconst : ∀ o ∈ obs, o.1 = h) :
    fetches.outputs c (obs.map (·.2)) = shouldShow obs ↔
      (∀ o ∈ obs, ∀ id ∈ o.2.reported.ids, generalizedAbilityID abilities id = h id) ∧
      ∀ k o, obs[k]? = some o → ∀ o', obs[k + 1]? = some o' → o'.2.loop = o.2.loop →
        ∀ id ∈ o.2.reported.ids, generalizedAbilityID abilities (h id) = h id := by
  rw [ShownActions.lists_eq_iff, ActionList.raw.shows_const_iff hserving hcomplete hbegins hconst,
    ActionList.featureLayer.shows_const_iff hserving hcomplete hbegins hconst,
    ActionList.rendered.shows_const_iff hserving hcomplete hbegins hconst]
  simp only [ShownActions.forall_mem_ids, forall_and]
  tauto

/-- After every observation the lists hold what the game reported in its game loop, each
action once and its ability id generalized once, exactly when the ids of the actions that
another observation of the same loop follows stay as they are when generalized again. -/
theorem generalized_once_iff (hserving : c.Serving abilities)
    (hcomplete : ∀ f ∈ fs, f.observation.Complete) (hbegins : c.Begins fs) :
    fetches.outputs c fs = shouldShow (fs.map (generalizedAbilityID abilities, ·)) ↔
      ∀ k f, fs[k]? = some f → ∀ f', fs[k + 1]? = some f' → f'.loop = f.loop →
        ∀ id ∈ f.reported.ids, generalizedAbilityID abilities
          (generalizedAbilityID abilities id) = generalizedAbilityID abilities id := by
  let g := generalizedAbilityID abilities
  have hfetches : (fs.map (Prod.mk g)).map (·.2) = fs := by simp [Function.comp_def]
  rw [← hfetches] at hbegins
  have hshows := shows_const_iff hserving (by simpa using hcomplete) hbegins (h := g) (by simp)
  rw [hfetches] at hshows
  rw [hshows]
  simp [g]

end ControlImp

/-- The data of abilities that remap to the given ones, from the ability 0 on. -/
def remapsTo (targets : List UInt32) : List Proto.AbilityData :=
  targets.map fun target => { remapsToAbilityId := some target }

/-- A client that is about to load a table. -/
def ControlImp.awaiting (messages : List Proto.AbilityData) : ControlImp :=
  { observationImp := { abilityTable := { answers := [some messages] } } }

theorem ControlImp.awaiting_serving {messages : List Proto.AbilityData} (h : messages ≠ []) :
    (awaiting messages).Serving (loadAbilities messages) where
  appState := rfl
  tagged := UnitPool.Tagged.empty
  serves := .loads (fun hloaded => hloaded.2 rfl) messages [] rfl h rfl

/-- An observation with which unit commands are reported. -/
def Fetch.reporting (loop : GameLoop) (abilityIds : List Int32) : Fetch where
  observation := .full loop [] [] []
  response := { actions := abilityIds.map fun abilityId =>
    { actionRaw := some (.unitCommand { abilityId := some abilityId }) } }

/-- The ability 1 remaps to 2: its action is there in two observations of a loop. -/
theorem generalized_once :
    let fs := [Fetch.reporting 7 [1], .reporting 7 [2], .reporting 8 [1]]
    fetches.outputs (.awaiting (remapsTo [0, 2, 0])) fs =
      shouldShow (fs.map (generalizedAbilityID (loadAbilities (remapsTo [0, 2, 0])), ·)) := by
  refine (ControlImp.generalized_once_iff (ControlImp.awaiting_serving (by decide))
    (by decide +kernel) (.inl rfl)).2 ?_
  have hagain : ([Fetch.reporting 7 [1], .reporting 7 [2], .reporting 8 [1]].flatMap
      (·.reported.ids)).all fun id => generalizedAbilityID (loadAbilities (remapsTo [0, 2, 0]))
        (generalizedAbilityID (loadAbilities (remapsTo [0, 2, 0])) id) ==
          generalizedAbilityID (loadAbilities (remapsTo [0, 2, 0])) id := by
    decide +kernel
  intro k f hf _ _ _ id hid
  have hmem := List.mem_flatMap_of_mem (f := (·.reported.ids)) (List.mem_of_getElem? hf) hid
  exact eq_of_beq (List.all_eq_true.1 hagain id hmem)

/-- The ability 1 remaps to 2, and 2 to 3: with a second observation of the loop the action
of the first one shows 3. -/
theorem not_generalized_once :
    let fs := [Fetch.reporting 7 [1], .reporting 7 []]
    let abilities := loadAbilities (remapsTo [0, 2, 3, 0])
    (ControlImp.awaiting (remapsTo [0, 2, 3, 0])).Serving abilities ∧
      (∀ f ∈ fs, f.observation.WellFormed) ∧
      (fetches.outputs (.awaiting (remapsTo [0, 2, 3, 0])) fs).map
        (·.rawActions.map (·.abilityId)) = [[2], [3]] ∧
      ¬ fetches.outputs (.awaiting (remapsTo [0, 2, 3, 0])) fs =
        shouldShow (fs.map (generalizedAbilityID abilities, ·)) :=
  ⟨ControlImp.awaiting_serving (by decide), by decide +kernel, by decide +kernel,
    by decide +kernel⟩

/-! ## Settings and queries -/

namespace ControlImp

variable {abilities : Abilities} {c : ControlImp} {ops : List AbilityOp}

/-- Every ability id that a run lets a bot see is what the setting of the moment promises. -/
structure KeepsPromise (abilities : Abilities) (c : ControlImp) (ops : List AbilityOp) :
    Prop where
  actions : (abilityMachine.outputs c ops).filterMap (·.actions?) =
    shouldShow ((AbilityOp.observations c.observationImp.useGeneralizedAbility ops).map
      fun o => (promisedID abilities o.1, o.2))
  orders : (abilityMachine.outputs c ops).filterMap (·.orders?) =
    (AbilityOp.observations c.observationImp.useGeneralizedAbility ops).map
      fun o tag => (o.2.sentOrders tag).map (·.mapId (promisedID abilities o.1))
  answers : (abilityMachine.outputs c ops).filterMap (·.answer?) =
    (AbilityOp.queries c.observationImp.useGeneralizedAbility ops).map
      fun q => q.2.expected (promisedID abilities q.1)

/-- Queries and settings in between make no difference to the lists of actions, the orders
of units are always as promised, and the answers to queries are always generalized. -/
theorem outputs_spec (h : c.Serving abilities)
    (hcomplete : ∀ o ∈ AbilityOp.observations c.observationImp.useGeneralizedAbility ops,
      o.2.observation.Complete) :
    (abilityMachine.outputs c ops).filterMap (·.actions?) = fetches.outputs c
      ((AbilityOp.observations c.observationImp.useGeneralizedAbility ops).map (·.2)) ∧
    (abilityMachine.outputs c ops).filterMap (·.orders?) =
      (AbilityOp.observations c.observationImp.useGeneralizedAbility ops).map
        (fun o tag => (o.2.sentOrders tag).map (·.mapId (promisedID abilities o.1))) ∧
    (abilityMachine.outputs c ops).filterMap (·.answer?) =
      (AbilityOp.queries c.observationImp.useGeneralizedAbility ops).map
        fun q => q.2.expected (generalizedAbilityID abilities) := by
  induction ops generalizing c with
  | nil => exact ⟨rfl, rfl, rfl⟩
  | cons op ops ih =>
    rw [Machine.outputs_cons]
    cases op with
    | useGeneralizedAbility value =>
      have hnext := h.useGeneralizedAbility value
      obtain ⟨hactions, horders, hanswers⟩ := ih hnext hcomplete
      have hsame := hnext.outputs_congr h (List.forall_mem_map.2 hcomplete) rfl rfl
      exact ⟨hactions.trans hsame, horders, hanswers⟩
    | observe f =>
      obtain ⟨hhead, htail⟩ := List.forall_mem_cons.1 hcomplete
      obtain ⟨hnext, -, hsetting, -, hshown⟩ := h.fetch hhead
      obtain ⟨hactions, horders, hanswers⟩ := ih hnext (by rwa [hsetting])
      rw [hsetting] at hactions horders hanswers
      exact ⟨congrArg (_ :: ·) hactions, congrArg₂ List.cons (funext hshown) horders, hanswers⟩
    | query q =>
      obtain ⟨hanswer, hnext, table, hquery⟩ := h.query q
      have hsetting : (c.queryAbilities q).2.observationImp.useGeneralizedAbility =
          c.observationImp.useGeneralizedAbility := by rw [hquery]
      obtain ⟨hactions, horders, hanswers⟩ := ih hnext (by rwa [hsetting])
      rw [hsetting] at hactions horders hanswers
      have hsame := hnext.outputs_congr h (List.forall_mem_map.2 hcomplete)
        (by rw [hquery]) (by rw [hquery]; rfl)
      exact ⟨hactions.trans hsame, horders, congrArg₂ List.cons hanswer hanswers⟩

/-- What a run asks of a table for the setting to make no difference that it should not. -/
structure SettingAgrees (abilities : Abilities) (value : Bool) (ops : List AbilityOp) :
    Prop where
  reported : ∀ o ∈ AbilityOp.observations value ops, o.1 = false →
    ∀ id ∈ o.2.reported.ids, generalizedAbilityID abilities id = id
  kept : ∀ k o, (AbilityOp.observations value ops)[k]? = some o →
    ∀ o', (AbilityOp.observations value ops)[k + 1]? = some o' → o'.2.loop = o.2.loop →
      ∀ id ∈ (Fetch.reportedInFrame ((AbilityOp.observations value ops).map (·.2)) k).ids,
        generalizedAbilityID abilities (promisedID abilities o.1 id) =
          promisedID abilities o'.1 id
  queried : ∀ q ∈ AbilityOp.queries value ops, q.1 = false →
    ∀ id ∈ q.2.ids, generalizedAbilityID abilities id = id

end ControlImp

/-- Generalizing is as promised except where the setting promises the ids that were sent. -/
theorem generalized_as_promised_iff {abilities : Abilities} {value : Bool}
    {ids : List AbilityID} :
    (∀ id ∈ ids, generalizedAbilityID abilities id = promisedID abilities value id) ↔
      (value = false → ∀ id ∈ ids, generalizedAbilityID abilities id = id) := by
  cases value <;> simp [promisedID]

theorem AbilityQuery.expected_eq_iff {h h' : AbilityID → AbilityID} {q : AbilityQuery} :
    q.expected h = q.expected h' ↔ ∀ id ∈ q.ids, h id = h' id := by
  unfold expected ids
  simp only [List.map_inj_left, AvailableAbilities.mk.injEq, AvailableAbility.mk.injEq, and_true,
    List.mem_flatMap, List.mem_map, forall_exists_index, and_imp]
  constructor
  · rintro heq _ sent hsent ability hability rfl
    exact heq sent hsent ability hability
  · intro heq sent hsent ability hability
    exact heq _ sent hsent ability hability rfl

namespace ControlImp

variable {abilities : Abilities} {c : ControlImp} {ops : List AbilityOp}

/-- The lists of actions are as promised exactly when settings and table agree on them. -/
theorem promised_shows_iff {obs : List (Bool × Fetch)} (hserving : c.Serving abilities)
    (hcomplete : ∀ o ∈ obs, o.2.observation.Complete) (hbegins : c.Begins (obs.map (·.2))) :
    fetches.outputs c (obs.map (·.2)) =
        shouldShow (obs.map fun o => (promisedID abilities o.1, o.2)) ↔
      (∀ o ∈ obs, o.1 = false →
        ∀ id ∈ o.2.reported.ids, generalizedAbilityID abilities id = id) ∧
      ∀ k o, obs[k]? = some o → ∀ o', obs[k + 1]? = some o' → o'.2.loop = o.2.loop →
        ∀ id ∈ (Fetch.reportedInFrame (obs.map (·.2)) k).ids,
          generalizedAbilityID abilities (promisedID abilities o.1 id) =
            promisedID abilities o'.1 id := by
  let labelled : List Labelled := obs.map fun o => (promisedID abilities o.1, o.2)
  have hfetches : labelled.map (·.2) = obs.map (·.2) := by simp [labelled, Function.comp_def]
  rw [← hfetches] at hbegins
  have hshows := shows_iff hserving (List.forall_mem_map.2 hcomplete) hbegins
  rw [hfetches] at hshows
  refine hshows.trans (and_congr ?_ ?_)
  · rw [List.forall_mem_map]
    exact forall₂_congr fun o ho => generalized_as_promised_iff
  · simp only [List.getElem?_map, Option.map_eq_some_iff, forall_exists_index, and_imp,
      forall_apply_eq_imp_iff₂]

theorem promised_answers_iff {queries : List (Bool × AbilityQuery)} :
    (queries.map fun q => q.2.expected (generalizedAbilityID abilities)) =
        (queries.map fun q => q.2.expected (promisedID abilities q.1)) ↔
      ∀ q ∈ queries, q.1 = false →
        ∀ id ∈ q.2.ids, generalizedAbilityID abilities id = id := by
  rw [List.map_inj_left]
  exact forall₂_congr fun q hq =>
    AbilityQuery.expected_eq_iff.trans generalized_as_promised_iff

/-- A run shows the ids that the settings promise exactly when settings and table agree:
only the orders of units are as promised in any case. -/
theorem promise_kept_iff (hserving : c.Serving abilities)
    (hcomplete : ∀ o ∈ AbilityOp.observations c.observationImp.useGeneralizedAbility ops,
      o.2.observation.Complete)
    (hbegins : c.Begins
      ((AbilityOp.observations c.observationImp.useGeneralizedAbility ops).map (·.2))) :
    KeepsPromise abilities c ops ↔
      SettingAgrees abilities c.observationImp.useGeneralizedAbility ops := by
  obtain ⟨hactions, horders, hanswers⟩ := outputs_spec hserving hcomplete
  have hshows := promised_shows_iff hserving hcomplete hbegins
  rw [← hactions] at hshows
  constructor
  · rintro ⟨hkeeps, -, hkept⟩
    obtain ⟨hreported, hagain⟩ := hshows.1 hkeeps
    exact ⟨hreported, hagain, promised_answers_iff.1 (hanswers.symm.trans hkept)⟩
  · rintro ⟨hreported, hagain, hqueried⟩
    exact ⟨hshows.2 ⟨hreported, hagain⟩, horders,
      hanswers.trans (promised_answers_iff.2 hqueried)⟩

end ControlImp

/-- A query about one unit that is answered with its abilities. -/
def AbilityQuery.answered (tag : Tag) (abilityIds : List Int32) : AbilityQuery where
  units := [tag]
  answer := .response { abilities := [{
    abilities := abilityIds.map fun abilityId => { abilityId := some abilityId }
    unitTag := some tag }] }

/-- The ability 1 remaps to 2; while ids should be as sent, only 2 is reported and offered. -/
theorem promise_kept :
    let ops := [.observe (.reporting 7 [1]), .query (.answered 5 [1]),
      .useGeneralizedAbility false, .observe (.reporting 8 [2]), .query (.answered 5 [2])]
    ControlImp.KeepsPromise (loadAbilities (remapsTo [0, 2, 0]))
      (.awaiting (remapsTo [0, 2, 0])) ops := by
  intro ops
  refine (ControlImp.promise_kept_iff (ControlImp.awaiting_serving (by decide))
    (by decide +kernel) (.inl rfl)).2 ⟨fun o ho hvalue id hid => ?_, ?_,
      fun q hq hvalue id hid => ?_⟩
  · have hreported : ((AbilityOp.observations true ops).filter (·.1 = false)).flatMap
        (·.2.reported.ids) = [2] := by decide +kernel
    have hfalse : o ∈ (AbilityOp.observations true ops).filter (·.1 = false) :=
      List.mem_filter.2 ⟨ho, decide_eq_true hvalue⟩
    have hmem := List.mem_flatMap_of_mem (f := (·.2.reported.ids)) hfalse hid
    obtain rfl := List.mem_singleton.1 (hreported ▸ hmem)
    decide +kernel
  · intro k o ho o' ho' hloop
    rcases k with _ | k
    · -- the two observations are of different game loops
      cases ho
      cases ho'
      exact absurd hloop (by decide)
    · cases ho'
  · have hqueried : ((AbilityOp.queries true ops).filter (·.1 = false)).flatMap (·.2.ids) =
        [2] := by decide +kernel
    have hfalse : q ∈ (AbilityOp.queries true ops).filter (·.1 = false) :=
      List.mem_filter.2 ⟨hq, decide_eq_true hvalue⟩
    have hmem := List.mem_flatMap_of_mem (f := (·.2.ids)) hfalse hid
    obtain rfl := List.mem_singleton.1 (hqueried ▸ hmem)
    decide +kernel

/-- The ability 1 remaps to 2: although ids should be as sent, its action shows 2. -/
theorem promise_not_kept :
    let ops := [.useGeneralizedAbility false, .observe (.reporting 7 [1])]
    let c := ControlImp.awaiting (remapsTo [0, 2, 0])
    let abilities := loadAbilities (remapsTo [0, 2, 0])
    c.Serving abilities ∧
      ((abilityMachine.outputs c ops).filterMap (·.actions?)).map
        (·.rawActions.map (·.abilityId)) = [[2]] ∧
      ¬ c.KeepsPromise abilities ops := by
  refine ⟨ControlImp.awaiting_serving (by decide), by decide +kernel, fun hkeeps => ?_⟩
  exact absurd hkeeps.actions (by decide +kernel)

end Sc2Api
