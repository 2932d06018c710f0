import Sc2Api.Difference
import Sc2Api.Verify.EventMembers
import Sc2Api.Verify.EventRefinement

/-!
# Alternating runs deliver the difference

`Remembers` ties the memory of a client to the observations it received; one
frame keeps it and makes the callbacks of the difference, so every frame of a
run does. The game loop the client starts with is the one number a first
observation must not carry.
-/

namespace Sc2Api

open Lib

/-! ## Views of message units -/

namespace Proto

theorem Unit.view_alliance_self {u : Unit} : u.view.alliance = .self ↔ u.isOwn = true := by
  unfold Unit.view Unit.isOwn
  cases u.alliance.getD .self <;> simp [convertAlliance]

theorem Unit.view_visible_enemy {u : Unit} :
    (u.view.alliance = .enemy ∧ u.view.displayType = .visible) ↔ u.isVisibleEnemy = true := by
  unfold Unit.view Unit.isVisibleEnemy
  cases u.alliance.getD .self <;> cases u.displayType.getD .visible <;>
    simp [convertAlliance, convertDisplayType]

theorem Unit.view_complete {u : Unit} : u.view.complete = true ↔ 1 ≤ u.progress := by
  unfold Unit.view Unit.progress
  simp

theorem Unit.view_ordered {u : Unit} : u.view.ordered = true ↔ u.orders ≠ [] := by
  unfold Unit.view
  simp

theorem Unit.not_complete {u : Unit} : u.view.complete = false ↔ u.progress < 1 := by
  rw [← Bool.not_eq_true, Unit.view_complete, not_le]

theorem Unit.not_ordered {u : Unit} : u.view.ordered = false ↔ u.orders = [] := by
  rw [← Bool.not_eq_true, Unit.view_ordered, not_not]

/-! ## Units of an observation -/

theorem lastWith_eq_none {t : Tag} {units : List Unit} :
    lastWith t units = none ↔ ∀ u ∈ units, u.tagD ≠ t := by
  unfold lastWith
  simp

theorem lastWith_filter (t : Tag) (units : List Unit) (dead : List Tag) :
    lastWith t (units.filter (·.tagD ∉ dead)) = if t ∈ dead then none else lastWith t units := by
  unfold lastWith
  rw [← List.filter_reverse, List.find?_filter]
  split
  · next h =>
    rw [List.find?_eq_none]
    intro u _
    simp only [beq_iff_eq, decide_eq_true_eq]
    rintro ⟨hu, rfl⟩
    exact hu h
  · next h =>
    congr 1
    funext u
    by_cases hu : u.tagD = t
    · simp [hu, h]
    · simp [hu]

namespace Observation

theorem WellFormed.alive_nodup {o : Observation} (h : o.WellFormed) :
    (o.alive.map (·.tagD)).Nodup :=
  h.nodup.sublist (List.filter_sublist.map _)

theorem map_view_alive (o : Observation) (t : Tag) :
    (if t ∈ o.deadUnits then none else o.viewAt t) = (lastWith t o.alive).map (·.view) := by
  rw [alive, lastWith_filter, viewAt]
  split <;> rfl

end Observation

end Proto

/-! ## Memory and observations -/

theorem Difference.seen_concat {earlier : List Proto.Observation} {o : Proto.Observation}
    {t : Tag} : Seen (earlier ++ [o]) t ↔ (o.viewAt t).isSome ∨ Seen earlier t := by
  rw [Proto.Observation.viewAt, Option.isSome_map, Proto.lastWith_isSome]
  unfold Seen
  simp only [List.mem_append, List.mem_singleton]
  constructor
  · rintro ⟨o', ho' | rfl, hu⟩
    · exact Or.inr ⟨o', ho', hu⟩
    · exact Or.inl hu
  · rintro (⟨u, hu, ht⟩ | ⟨o', ho', hu⟩)
    · exact ⟨o, Or.inr rfl, u, hu, ht⟩
    · exact ⟨o', Or.inl ho', hu⟩

theorem Difference.previousUnits_concat (earlier : List Proto.Observation)
    (o : Proto.Observation) : previousUnits (earlier ++ [o]) = o.alive := by
  simp [previousUnits]

theorem Difference.previousUpgrades_concat (earlier : List Proto.Observation)
    (o : Proto.Observation) : previousUpgrades (earlier ++ [o]) = o.upgradeIds := by
  simp [previousUpgrades]

/-- The client remembers the last observation, and every tag it ever saw. -/
structure Remembers (σ : EventState) (earlier : List Proto.Observation) : Prop where
  loop : σ.loop = (earlier.getLast?.map (·.loop)).getD noGameLoop
  units : ∀ t, σ.units t = (Proto.lastWith t (Difference.previousUnits earlier)).map (·.view)
  nodup : ((Difference.previousUnits earlier).map (·.tagD)).Nodup
  known : ∀ t, σ.known t = true ↔ Difference.Seen earlier t
  upgrades : σ.upgrades = Difference.previousUpgrades earlier

namespace Remembers

open Difference

variable {σ : EventState} {earlier : List Proto.Observation} {o : Proto.Observation}

theorem initial : Remembers .initial [] where
  loop := rfl
  units _ := rfl
  nodup := List.nodup_nil
  known t := by simp [EventState.initial, Seen]
  upgrades := rfl

theorem known_observe (h : Remembers σ earlier) (t : Tag) :
    ((o.viewAt t).isSome || σ.known t) = true ↔ Seen (earlier ++ [o]) t := by
  rw [Bool.or_eq_true, h.known, seen_concat]

/-- A well-formed observation that is delivered becomes the one remembered. -/
theorem step (h : Remembers σ earlier) (hwf : o.WellFormed) :
    Remembers (σ.observe o).reap (earlier ++ [o]) := by
  rw [σ.observe_of_complete hwf.complete]
  refine ⟨by simp [EventState.reap], fun t => ?_, ?_, h.known_observe, ?_⟩
  · rw [previousUnits_concat]
    exact o.map_view_alive t
  · rw [previousUnits_concat]
    exact hwf.alive_nodup
  · rw [previousUpgrades_concat]
    rfl

/-! ### The callbacks -/

theorem isNew_iff (h : Remembers σ earlier) (u : Proto.Unit) :
    σ.units u.tagD = none ↔ IsNew (previousUnits earlier) u := by
  rw [h.units, Option.map_eq_none_iff, Proto.lastWith_eq_none]
  rfl

theorem before_iff (h : Remembers σ earlier) {u v : Proto.Unit} (hv : v ∈ previousUnits earlier)
    (ht : v.tagD = u.tagD) : σ.units u.tagD = some v.view := by
  rw [h.units, (Proto.lastWith_eq_some h.nodup).2 ⟨hv, ht⟩]
  rfl

theorem exists_before (h : Remembers σ earlier) {u : Proto.Unit} {view : UnitView}
    (hu : σ.units u.tagD = some view) :
    ∃ v ∈ previousUnits earlier, v.tagD = u.tagD ∧ view = v.view := by
  rw [h.units] at hu
  obtain ⟨v, hv, rfl⟩ := Option.map_eq_some_iff.1 hu
  obtain ⟨hmem, ht⟩ := (Proto.lastWith_eq_some h.nodup).1 hv
  exact ⟨v, hmem, ht, rfl⟩

/-- A fact about the unit remembered under a tag is one about the units before. -/
theorem exists_iff (h : Remembers σ earlier) (u : Proto.Unit) (P : UnitView → Prop) :
    (∃ view, σ.units u.tagD = some view ∧ P view) ↔
      ∃ v ∈ previousUnits earlier, v.tagD = u.tagD ∧ P v.view := by
  constructor
  · rintro ⟨view, hview, hP⟩
    obtain ⟨v, hv, ht, rfl⟩ := h.exists_before hview
    exact ⟨v, hv, ht, hP⟩
  · rintro ⟨v, hv, ht, hP⟩
    exact ⟨v.view, h.before_iff hv ht, hP⟩

theorem addedEvents_eq (h : Remembers σ earlier) (u : Proto.Unit) :
    EventState.addedEvents u.tagD u.view (σ.units u.tagD) =
      addedCallbacks (previousUnits earlier) u := by
  unfold EventState.addedEvents addedCallbacks
  simp only [← h.isNew_iff, Proto.Unit.view_visible_enemy, Proto.Unit.view_alliance_self]
  cases σ.units u.tagD <;> rfl

theorem idleAnew_iff (h : Remembers σ earlier) (u : Proto.Unit) (commands : List Tag) :
    EventState.idleAnew (σ.units u.tagD) (commands.contains u.tagD) = true ↔
      IsNew (previousUnits earlier) u ∨
        (∃ v ∈ previousUnits earlier, v.tagD = u.tagD ∧ (v.orders ≠ [] ∨ v.progress < 1)) ∨
        u.tagD ∈ commands := by
  have hbefore := h.exists_iff u fun view => view.ordered = true ∨ view.complete = false
  simp only [Proto.Unit.view_ordered, Proto.Unit.not_complete] at hbefore
  rw [← h.isNew_iff, ← hbefore]
  unfold EventState.idleAnew
  cases σ.units u.tagD with
  | none => simp
  | some view => simp [or_assoc]

theorem idleEvents_eq (h : Remembers σ earlier) (u : Proto.Unit) (commands : List Tag) :
    EventState.idleEvents u.tagD u.view (σ.units u.tagD) commands =
      if IsIdle (previousUnits earlier) commands u then [.onUnitIdle u.tagD] else [] := by
  unfold EventState.idleEvents
  congr 1
  simp only [Bool.and_eq_true, Bool.not_eq_true', Proto.Unit.not_ordered,
    Proto.Unit.view_complete, h.idleAnew_iff, IsIdle, and_assoc]

theorem completedEvents_eq (h : Remembers σ earlier) (u : Proto.Unit) :
    EventState.completedEvents u.tagD u.view (σ.units u.tagD) =
      if IsFinished (previousUnits earlier) u then [.onBuildingConstructionComplete u.tagD]
      else [] := by
  have hbefore := h.exists_iff u fun view => view.complete = false
  simp only [Proto.Unit.not_complete] at hbefore
  have hfinished : IsFinished (previousUnits earlier) u ↔
      u.view.complete = true ∧ ∃ view, σ.units u.tagD = some view ∧ view.complete = false := by
    rw [hbefore, Proto.Unit.view_complete]
    rfl
  unfold EventState.completedEvents
  simp only [hfinished]
  cases σ.units u.tagD <;> simp

theorem ownEvents_eq (h : Remembers σ earlier) (u : Proto.Unit) (commands : List Tag) :
    EventState.ownEvents u.tagD u.view (σ.units u.tagD) commands =
      if u.isOwn then ownCallbacks (previousUnits earlier) commands u else [] := by
  unfold EventState.ownEvents ownCallbacks
  simp only [Proto.Unit.view_alliance_self, h.idleEvents_eq, h.completedEvents_eq]

/-- The listed tags are those of the units alive, in some order. -/
theorem exists_units (hwf : o.WellFormed) {tags : List Tag}
    (htags : (σ.observe o).reap.Lists tags) :
    ∃ units : List Proto.Unit, units.Perm o.alive ∧ units.map (·.tagD) = tags := by
  have hmem : ∀ t, t ∈ tags ↔ t ∈ o.alive.map (·.tagD) := by
    intro t
    rw [htags.mem, σ.observe_of_complete hwf.complete, EventState.reap]
    simp only [o.map_view_alive, Option.isSome_map, Proto.lastWith_isSome, List.mem_map]
  exact exists_perm_map ((List.perm_ext_iff_of_nodup htags.nodup hwf.alive_nodup).2 hmem)

/-- A walk over the tags of the units alive is one over the units. -/
theorem flatMap_unitEvents (σ : EventState) (hwf : o.WellFormed) {units : List Proto.Unit}
    (hunits : units.Perm o.alive)
    (event : Tag → UnitView → Option UnitView → List Callback) :
    (units.map (·.tagD)).flatMap ((σ.observe o).reap.unitEvents event) =
      units.flatMap fun u => event u.tagD u.view (σ.units u.tagD) := by
  rw [List.flatMap_map]
  refine List.flatMap_congr fun u hu => ?_
  have hview : (Proto.lastWith u.tagD o.alive).map (·.view) = some u.view := by
    rw [(Proto.lastWith_eq_some hwf.alive_nodup).2 ⟨hunits.subset hu, rfl⟩]
    rfl
  rw [σ.observe_of_complete hwf.complete]
  simp only [EventState.unitEvents, EventState.reap, o.map_view_alive, hview]

theorem destroyedEvents_eq (h : Remembers σ earlier) (hwf : o.WellFormed) :
    (σ.observe o).destroyedEvents =
      (o.deadUnits.filter fun t => Seen (earlier ++ [o]) t).map .onUnitDestroyed := by
  rw [σ.observe_of_complete hwf.complete, EventState.destroyedEvents]
  congr 1
  refine List.filter_congr fun t _ => ?_
  rw [Bool.eq_iff_iff, h.known_observe, decide_eq_true_iff]

/-- The events of the delivery are the difference of the observations. -/
theorem isDifference (h : Remembers σ earlier) (hwf : o.WellFormed) {tags : List Tag}
    (commands : List Tag) (htags : (σ.observe o).reap.Lists tags) :
    IsDifference earlier o commands ((σ.observe o).callbacks tags commands) := by
  obtain ⟨units, hunits, rfl⟩ := exists_units hwf htags
  refine ⟨units, hunits, ?_⟩
  have hadded : (units.map (·.tagD)).flatMap
      ((σ.observe o).reap.unitEvents EventState.addedEvents) =
        units.flatMap (addedCallbacks (previousUnits earlier)) := by
    rw [flatMap_unitEvents σ hwf hunits]
    exact List.flatMap_congr fun u _ => h.addedEvents_eq u
  have hown : (units.map (·.tagD)).flatMap ((σ.observe o).reap.unitEvents
      fun t now before => EventState.ownEvents t now before commands) =
        (units.filter (·.isOwn)).flatMap (ownCallbacks (previousUnits earlier) commands) := by
    rw [flatMap_unitEvents σ hwf hunits, flatMap_filter]
    exact List.flatMap_congr fun u _ => h.ownEvents_eq u commands
  have hupgrades : (σ.observe o).upgradeEvents =
      (o.upgradeIds.filter (· ∉ previousUpgrades earlier)).map .onUpgradeCompleted := by
    rw [σ.observe_of_complete hwf.complete, EventState.upgradeEvents, h.upgrades]
  have halerts : (σ.observe o).alerts = o.alerts := by
    rw [σ.observe_of_complete hwf.complete]
  unfold EventState.callbacks callbacks
  rw [h.destroyedEvents_eq hwf, hadded, hown, hupgrades, halerts]

/-- A delivery that is due makes the difference and is then remembered. -/
theorem issues (h : Remembers σ earlier) (hwf : o.WellFormed) (hdue : (σ.observe o).Due)
    {commands : List Tag} {log : List Callback} {σ' : EventState}
    (hissues : (σ.observe o).Issues commands log σ') :
    IsDifference earlier o commands log ∧ Remembers σ' (earlier ++ [o]) := by
  cases hissues with
  | delivered _ order lists => exact ⟨h.isDifference hwf commands lists, h.step hwf⟩
  | skipped notDue => exact absurd hdue notDue

end Remembers

/-! ## Runs -/

/-- A client in order that remembers the observations it received. -/
structure Current (c : ControlImp) (earlier : List Proto.Observation) : Prop extends
    c.Ready where
  remembers : Remembers c.eventState earlier

/-- The game loop of the last observation. -/
def lastLoop (earlier : List Proto.Observation) : GameLoop :=
  (earlier.getLast?.map (·.loop)).getD noGameLoop

theorem lastLoop_concat (earlier : List Proto.Observation) (o : Proto.Observation) :
    lastLoop (earlier ++ [o]) = o.loop := by
  simp [lastLoop]

theorem Current.initial (answers : List (Option (List Proto.AbilityData))) :
    Current (.withAnswers answers) [] := ⟨.initial answers, .initial⟩

/-- The delivery is due exactly when the observation moves the game loop. -/
theorem Current.due_iff {c : ControlImp} {earlier : List Proto.Observation}
    (h : Current c earlier) {o : Proto.Observation} (hwf : o.WellFormed) :
    (c.eventState.observe o).Due ↔ lastLoop earlier ≠ o.loop := by
  rw [c.eventState.due_observe hwf.complete, h.remembers.loop]
  exact ne_comm

/-- One frame whose game loop moved delivers the difference it makes. -/
theorem Current.frame {c : ControlImp} {earlier : List Proto.Observation} (h : Current c earlier)
    {f : Frame} (hwf : f.observation.WellFormed) (hloop : lastLoop earlier ≠ f.observation.loop) :
    Difference.IsDifference earlier f.observation f.commands (frames.step c f).2 ∧
      Current (frames.step c f).1 (earlier ++ [f.observation]) := by
  obtain ⟨hready, hissues⟩ := h.toReady.frame f
  obtain ⟨hdiff, hremembers⟩ := h.remembers.issues hwf ((h.due_iff hwf).2 hloop) hissues
  exact ⟨hdiff, hready, hremembers⟩

/-- A frame that repeats the game loop is not delivered. -/
theorem Current.frame_of_same_loop {c : ControlImp} {earlier : List Proto.Observation}
    (h : Current c earlier) {f : Frame} (hwf : f.observation.WellFormed)
    (hloop : lastLoop earlier = f.observation.loop) : (Sc2Api.frames.step c f).2 = [] := by
  obtain ⟨-, hissues⟩ := h.toReady.frame f
  exact hissues.log_of_not_due fun hdue => (h.due_iff hwf).1 hdue hloop

/-- Every frame of the run is answered with the difference its observation makes, whatever
becomes of the data requests. -/
def DeliversDifferences (answers : List (Option (List Proto.AbilityData))) (fs : List Frame) :
    Prop :=
  ∀ k f, fs[k]? = some f → ∃ log, (frames.outputs (.withAnswers answers) fs)[k]? = some log ∧
    Difference.IsDifference ((fs.take k).map (·.observation)) f.observation f.commands log

theorem Current.frames {fs : List Frame} : ∀ {c : ControlImp} {earlier : List Proto.Observation},
    Current c earlier → (∀ f ∈ fs, f.observation.WellFormed) →
      (lastLoop earlier :: fs.map (·.observation.loop)).IsChain (· ≠ ·) →
        ∀ k f, fs[k]? = some f → ∃ log, (frames.outputs c fs)[k]? = some log ∧
          Difference.IsDifference (earlier ++ (fs.take k).map (·.observation)) f.observation
            f.commands log := by
  induction fs with
  | nil => exact fun _ _ _ k f hf => by simp at hf
  | cons f fs ih =>
    intro c earlier h hwf hloops k f' hf'
    obtain ⟨hloop, hrest⟩ := List.isChain_cons_cons.1 hloops
    obtain ⟨hdiff, hnext⟩ := h.frame (hwf f List.mem_cons_self) hloop
    cases k with
    | zero =>
      obtain rfl : f = f' := by simpa using hf'
      exact ⟨_, rfl, by simpa using hdiff⟩
    | succ k =>
      obtain ⟨log, hlog, hd⟩ := ih hnext (fun g hg => hwf g (List.mem_cons_of_mem _ hg))
        (by rwa [lastLoop_concat]) k f' (by simpa using hf')
      exact ⟨log, by simpa using hlog, by simpa using hd⟩

/-- A run of well-formed observations whose game loop moves with each, and does not
start at the loop that stands for no observation, delivers the differences. -/
theorem delivers_differences (answers : List (Option (List Proto.AbilityData)))
    (fs : List Frame) (hwf : ∀ f ∈ fs, f.observation.WellFormed)
    (hloops : (fs.map (·.observation.loop)).IsChain (· ≠ ·))
    (hfirst : ∀ f, fs.head? = some f → f.observation.loop ≠ noGameLoop) :
    DeliversDifferences answers fs := by
  have hchain : (lastLoop [] :: fs.map (·.observation.loop)).IsChain (· ≠ ·) := by
    cases fs with
    | nil => exact .singleton _
    | cons f fs => exact .cons_cons (hfirst f rfl).symm hloops
  intro k f hf
  simpa using (Current.initial answers).frames hwf hchain k f hf

/-- Two units appear, then one of them dies while an upgrade completes. -/
theorem delivers_differences_two_frames :
    DeliversDifferences [some [{ abilityId := some 16 }]] [
      { observation := .full 1 [.idleOwn 7, .idleOwn 8] [] [] },
      { observation := .full 2 [.idleOwn 7] [8] [5], commands := [7] }] :=
  delivers_differences _ _ (by decide) (by decide) (by rintro f ⟨⟩; decide)

/-- A first observation at game loop 4294967295 is never delivered. -/
theorem not_delivers_at_noGameLoop :
    ¬∀ answers (fs : List Frame), (∀ f ∈ fs, f.observation.WellFormed) →
      (fs.map (·.observation.loop)).IsChain (· ≠ ·) → DeliversDifferences answers fs := by
  intro h
  let f : Frame := { observation := .full noGameLoop [.idleOwn 7] [] [] }
  have hwf : ∀ g ∈ [f], g.observation.WellFormed := by decide
  obtain ⟨log, hlog, units, -, hcallbacks⟩ := h [] [f] hwf (by decide) 0 f rfl
  have hempty : (frames.step (.withAnswers []) f).2 = [] :=
    (Current.initial []).frame_of_same_loop (hwf f List.mem_cons_self) rfl
  have hnil : [] = log := by simpa [hempty] using hlog
  rw [← hnil] at hcallbacks
  exact absurd hcallbacks.symm (by simp [Difference.callbacks])

end Sc2Api
