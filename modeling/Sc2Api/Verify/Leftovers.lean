import Sc2Api.Verify.DifferenceRuns

/-!
# What one game leaves for the next

Joining a game resets the player and the caches only. `SameLeftovers` compares
what two clients still hold when they join: the game loop, the tags ever seen,
the stages of the existing units and the upgrades. It is exactly what the events
of the next game can tell apart.
-/

namespace Sc2Api

open Lib

/-- How far a unit has come, as far as later events depend on it: unfinished, or
finished with or without orders. -/
def UnitView.stage (v : UnitView) : Option Bool := if v.complete then some v.ordered else none

/-- The two memories agree on everything a next observation is compared with. -/
structure SameLeftovers (σ₁ σ₂ : EventState) : Prop where
  loop : σ₁.loop = σ₂.loop
  known : ∀ t, σ₁.known t = σ₂.known t
  stage : ∀ t, (σ₁.units t).map (·.stage) = (σ₂.units t).map (·.stage)
  upgrades : ∀ x, x ∈ σ₁.upgrades ↔ x ∈ σ₂.upgrades

/-! ## Events depend on the stage only -/

section Stage

variable (t : Tag) (now : UnitView) (before : Option UnitView)

theorem addedEvents_stage : EventState.addedEvents t now before =
    if (before.map (·.stage)).isSome then []
    else EventState.addedEvents t now none := by
  rw [Option.isSome_map]
  cases before <;> rfl

theorem idleAnew_stage (commanded : Bool) : EventState.idleAnew before commanded =
    (before.map (·.stage) != some (some false) || commanded) := by
  rcases before with _ | ⟨_, _, complete, ordered⟩
  · rfl
  · cases complete <;> cases ordered <;> rfl

theorem completedEvents_stage : EventState.completedEvents t now before =
    if now.complete && before.map (·.stage) == some none then
      [.onBuildingConstructionComplete t]
    else [] := by
  rcases before with _ | ⟨_, _, complete, ordered⟩
  · simp [EventState.completedEvents]
  · cases complete <;> simp [EventState.completedEvents, UnitView.stage]

theorem ownEvents_stage (commands : List Tag) {before' : Option UnitView}
    (h : before.map (·.stage) = before'.map (·.stage)) :
    EventState.ownEvents t now before commands =
      EventState.ownEvents t now before' commands := by
  unfold EventState.ownEvents EventState.idleEvents
  rw [idleAnew_stage, idleAnew_stage, completedEvents_stage, completedEvents_stage, h]

end Stage

/-! ## Two games side by side -/

namespace SameLeftovers

variable {σ₁ σ₂ : EventState} {o : Proto.Observation}

theorem perm_of_lists {order₁ order₂ : List Tag} (hunits : σ₁.units = σ₂.units)
    (h₁ : σ₁.Lists order₁) (h₂ : σ₂.Lists order₂) : order₁.Perm order₂ :=
  (List.perm_ext_iff_of_nodup h₁.nodup h₂.nodup).2 fun t => by rw [h₁.mem, h₂.mem, hunits]

/-- The deliveries of one observation make the same callbacks, up to the order in
which the units are met. -/
theorem callbacks_perm (h : SameLeftovers σ₁ σ₂) (hc : o.Complete) {order₁ order₂ : List Tag}
    (commands : List Tag) (h₁ : (σ₁.observe o).reap.Lists order₁)
    (h₂ : (σ₂.observe o).reap.Lists order₂) :
    ((σ₁.observe o).callbacks order₁ commands).Perm
      ((σ₂.observe o).callbacks order₂ commands) := by
  rw [σ₁.observe_of_complete hc] at h₁ ⊢
  rw [σ₂.observe_of_complete hc] at h₂ ⊢
  have horder : order₁.Perm order₂ := perm_of_lists (by rfl) h₁ h₂
  have hdead : o.deadUnits.filter (fun t => (o.viewAt t).isSome || σ₁.known t) =
      o.deadUnits.filter fun t => (o.viewAt t).isSome || σ₂.known t := by
    simp only [h.known]
  have hupgrades : o.upgradeIds.filter (· ∉ σ₁.upgrades) =
      o.upgradeIds.filter (· ∉ σ₂.upgrades) := by
    simp only [h.upgrades]
  have hadded : ∀ t now, EventState.addedEvents t now (σ₁.units t) =
      EventState.addedEvents t now (σ₂.units t) := fun t now => by
    rw [addedEvents_stage, h.stage, ← addedEvents_stage]
  have hown : ∀ t now, EventState.ownEvents t now (σ₁.units t) commands =
      EventState.ownEvents t now (σ₂.units t) commands := fun t now =>
    ownEvents_stage t now _ commands (h.stage t)
  unfold EventState.callbacks EventState.destroyedEvents EventState.upgradeEvents
    EventState.unitEvents EventState.reap
  simp only [hdead, hupgrades, hadded, hown]
  exact (((((List.Perm.refl _).append (horder.flatMap_right _)).append
    (horder.flatMap_right _)).append_right _).append_right _).append_right _

/-- Two games that take in one observation stay alike. -/
theorem observe (h : SameLeftovers σ₁ σ₂) (hc : o.Complete) :
    SameLeftovers (σ₁.observe o) (σ₂.observe o) := by
  rw [σ₁.observe_of_complete hc, σ₂.observe_of_complete hc]
  exact ⟨rfl, fun t => by simp only [h.known], fun _ => rfl, fun _ => Iff.rfl⟩

theorem reap (hc : o.Complete) (h : SameLeftovers (σ₁.observe o) (σ₂.observe o)) :
    SameLeftovers (σ₁.observe o).reap (σ₂.observe o).reap := by
  rw [σ₁.observe_of_complete hc, σ₂.observe_of_complete hc] at h ⊢
  exact ⟨h.loop, h.known, fun _ => rfl, h.upgrades⟩

theorem due_iff (h : SameLeftovers σ₁ σ₂) (hc : o.Complete) :
    (σ₁.observe o).Due ↔ (σ₂.observe o).Due := by
  rw [σ₁.due_observe hc, σ₂.due_observe hc, h.loop]

/-- One frame keeps two games alike and makes the same callbacks in both. -/
theorem issues (h : SameLeftovers σ₁ σ₂) (hc : o.Complete) {commands : List Tag}
    {log₁ log₂ : List Callback} {σ₁' σ₂' : EventState}
    (h₁ : (σ₁.observe o).Issues commands log₁ σ₁')
    (h₂ : (σ₂.observe o).Issues commands log₂ σ₂') :
    SameLeftovers σ₁' σ₂' ∧ log₁.Perm log₂ := by
  cases h₁ with
  | delivered due₁ order₁ lists₁ =>
    cases h₂ with
    | delivered due₂ order₂ lists₂ =>
      exact ⟨(h.observe hc).reap hc, h.callbacks_perm hc commands lists₁ lists₂⟩
    | skipped notDue => exact absurd ((h.due_iff hc).1 due₁) notDue
  | skipped notDue =>
    cases h₂ with
    | delivered due₂ => exact absurd ((h.due_iff hc).2 due₂) notDue
    | skipped => exact ⟨h.observe hc, .refl _⟩

end SameLeftovers

/-! ## What a next observation tells apart -/

/-- Both memories answer an observation with the same callbacks. -/
def SameAnswer (σ₁ σ₂ : EventState) (o : Proto.Observation) : Prop :=
  ∃ log₁ log₂ σ₁' σ₂', (σ₁.observe o).Issues [] log₁ σ₁' ∧
    (σ₂.observe o).Issues [] log₂ σ₂' ∧ log₁.Perm log₂

/-- A game loop other than a given one. -/
def otherLoop (loop : GameLoop) : GameLoop := if loop = 0 then 1 else 0

theorem otherLoop_ne (loop : GameLoop) : otherLoop loop ≠ loop := by
  unfold otherLoop
  split
  · next h => rw [h]; decide
  · next h => exact Ne.symm h

theorem full_complete (loop : GameLoop) (units : List Proto.Unit) (dead : List Tag)
    (upgrades : List UpgradeID) : (Proto.Observation.full loop units dead upgrades).Complete :=
  ⟨rfl, rfl⟩

theorem full_wellFormed (loop : GameLoop) (units : List Proto.Unit) (dead : List Tag)
    (upgrades : List UpgradeID) (h : (units.map (·.tagD)).Nodup) :
    (Proto.Observation.full loop units dead upgrades).WellFormed :=
  ⟨rfl, full_complete _ _ _ _, h⟩

theorem viewAt_idleOwn (loop : GameLoop) (t : Tag) :
    (Proto.Observation.full loop [.idleOwn t] [] []).viewAt t =
      some ⟨.self, .visible, true, false⟩ := by
  simp [Proto.Observation.viewAt, Proto.Observation.units, Proto.Observation.full, Proto.lastWith,
    Proto.Unit.idleOwn, Proto.Unit.tagD, Proto.Unit.view, convertAlliance, convertDisplayType]

namespace SameAnswer

variable {σ₁ σ₂ : EventState}

theorem loop_eq (h : SameAnswer σ₁ σ₂ (.full σ₁.loop [] [] [])) : σ₁.loop = σ₂.loop := by
  obtain ⟨log₁, log₂, σ₁', σ₂', h₁, h₂, hperm⟩ := h
  by_contra hne
  have hnot : ¬(σ₁.observe (.full σ₁.loop [] [] [])).Due := by
    rw [σ₁.due_observe (full_complete _ _ _ _)]
    exact not_not.2 rfl
  have hdue : (σ₂.observe (.full σ₁.loop [] [] [])).Due :=
    (σ₂.due_observe (full_complete _ _ _ _)).2 hne
  obtain ⟨order, -, rfl, -⟩ := h₂.exists_order hdue
  rw [h₁.log_of_not_due hnot, List.nil_perm] at hperm
  exact absurd hperm (by simp [EventState.callbacks])

/-- The callbacks of two deliveries that are due agree. -/
theorem mem_iff {o : Proto.Observation} (h : SameAnswer σ₁ σ₂ o) (hc : o.Complete)
    (h₁ : o.loop ≠ σ₁.loop) (h₂ : o.loop ≠ σ₂.loop) :
    ∃ order₁ order₂, (σ₁.observe o).reap.Lists order₁ ∧ (σ₂.observe o).reap.Lists order₂ ∧
      ∀ c, c ∈ (σ₁.observe o).callbacks order₁ [] ↔ c ∈ (σ₂.observe o).callbacks order₂ [] := by
  obtain ⟨log₁, log₂, σ₁', σ₂', hi₁, hi₂, hperm⟩ := h
  obtain ⟨order₁, lists₁, rfl, -⟩ := hi₁.exists_order ((σ₁.due_observe hc).2 h₁)
  obtain ⟨order₂, lists₂, rfl, -⟩ := hi₂.exists_order ((σ₂.due_observe hc).2 h₂)
  exact ⟨order₁, order₂, lists₁, lists₂, fun _ => hperm.mem_iff⟩

end SameAnswer

section Tell

variable {σ₁ σ₂ : EventState} {loop : GameLoop} (h₁ : loop ≠ σ₁.loop) (h₂ : loop ≠ σ₂.loop)

include h₁ h₂

theorem SameAnswer.known_eq {t : Tag} (h : SameAnswer σ₁ σ₂ (.full loop [] [t] [])) :
    σ₁.known t = σ₂.known t := by
  obtain ⟨order₁, order₂, lists₁, lists₂, hmem⟩ := h.mem_iff (full_complete _ _ _ _) h₁ h₂
  have hdead := hmem (.onUnitDestroyed t)
  rw [EventState.destroyed_mem_callbacks lists₁, EventState.destroyed_mem_callbacks lists₂,
    σ₁.observe_of_complete (full_complete _ _ _ _),
    σ₂.observe_of_complete (full_complete _ _ _ _)] at hdead
  rw [Bool.eq_iff_iff]
  simpa [Proto.Observation.full, Proto.Observation.deadUnits, Proto.Observation.viewAt,
    Proto.Observation.units, Proto.lastWith] using hdead

theorem SameAnswer.upgrades_iff {x : UpgradeID} (h : SameAnswer σ₁ σ₂ (.full loop [] [] [x])) :
    x ∈ σ₁.upgrades ↔ x ∈ σ₂.upgrades := by
  obtain ⟨order₁, order₂, lists₁, lists₂, hmem⟩ := h.mem_iff (full_complete _ _ _ _) h₁ h₂
  have hnew := hmem (.onUpgradeCompleted x)
  rw [EventState.upgrade_mem_callbacks lists₁, EventState.upgrade_mem_callbacks lists₂,
    σ₁.observe_of_complete (full_complete _ _ _ _),
    σ₂.observe_of_complete (full_complete _ _ _ _)] at hnew
  exact not_iff_not.1 (by
    simpa [Proto.Observation.full, Proto.Observation.upgradeIds,
      Proto.Observation.upgradeIds?] using hnew)

/-- A unit that is shown finished and idle tells what was remembered of it: it is
created when nothing was, completed when it was unfinished, and idle unless it
was finished and idle already. -/
theorem SameAnswer.stage_eq {t : Tag} (h : SameAnswer σ₁ σ₂ (.full loop [.idleOwn t] [] [])) :
    (σ₁.units t).map (·.stage) = (σ₂.units t).map (·.stage) := by
  obtain ⟨order₁, order₂, lists₁, lists₂, hmem⟩ := h.mem_iff (full_complete _ _ _ _) h₁ h₂
  have hcreated := hmem (.onUnitCreated t)
  have hidle := hmem (.onUnitIdle t)
  have hcompleted := hmem (.onBuildingConstructionComplete t)
  rw [EventState.created_mem_callbacks lists₁, EventState.created_mem_callbacks lists₂] at hcreated
  rw [EventState.idle_mem_callbacks lists₁, EventState.idle_mem_callbacks lists₂] at hidle
  rw [EventState.completed_mem_callbacks lists₁, EventState.completed_mem_callbacks lists₂]
    at hcompleted
  rw [σ₁.observe_of_complete (full_complete _ _ _ _),
    σ₂.observe_of_complete (full_complete _ _ _ _)] at hcreated hidle hcompleted
  have hdead : t ∉ (Proto.Observation.full loop [.idleOwn t] [] []).deadUnits := by
    simp [Proto.Observation.full, Proto.Observation.deadUnits]
  simp only [EventState.reap, viewAt_idleOwn, if_neg hdead, Option.some.injEq, exists_eq_left',
    true_and, List.contains_nil, idleAnew_stage] at hcreated hidle hcompleted
  generalize σ₁.units t = before₁ at hcreated hidle hcompleted ⊢
  generalize σ₂.units t = before₂ at hcreated hidle hcompleted ⊢
  rcases before₁ with _ | ⟨_, _, complete₁, ordered₁⟩ <;>
    rcases before₂ with _ | ⟨_, _, complete₂, ordered₂⟩
  · rfl
  · simp at hcreated
  · simp at hcreated
  · cases complete₁ <;> cases complete₂ <;> simp [UnitView.stage] at hidle hcompleted ⊢
    exact hidle

end Tell

/-- Memories that answer every well-formed observation alike hold the same leftovers. -/
theorem sameLeftovers_of_sameAnswer {σ₁ σ₂ : EventState}
    (h : ∀ o : Proto.Observation, o.WellFormed → SameAnswer σ₁ σ₂ o) : SameLeftovers σ₁ σ₂ := by
  have hloop : σ₁.loop = σ₂.loop :=
    (h _ (full_wellFormed σ₁.loop [] [] [] List.nodup_nil)).loop_eq
  have h₁ : otherLoop σ₁.loop ≠ σ₁.loop := otherLoop_ne _
  have h₂ : otherLoop σ₁.loop ≠ σ₂.loop := hloop ▸ otherLoop_ne _
  refine ⟨hloop, fun t => ?_, fun t => ?_, fun x => ?_⟩
  · exact (h _ (full_wellFormed _ [] [t] [] List.nodup_nil)).known_eq h₁ h₂
  · exact (h _ (full_wellFormed _ [.idleOwn t] [] [] (List.nodup_singleton _))).stage_eq h₁ h₂
  · exact (h _ (full_wellFormed _ [] [] [x] List.nodup_nil)).upgrades_iff h₁ h₂

/-! ## Two games after a join -/

/-- Two frames that bring the same observation and are given the same commands. -/
structure SameInput (f₁ f₂ : Frame) : Prop where
  observation : f₁.observation = f₂.observation
  response : f₁.response = f₂.response
  commands : f₁.commands = f₂.commands

/-- From two clients, the same well-formed observations lead to the same callbacks in
every frame, whatever the orders of the hash tables. -/
def SameNextGame (c₁ c₂ : ControlImp) : Prop :=
  ∀ fs₁ fs₂, List.Forall₂ SameInput fs₁ fs₂ → (∀ f ∈ fs₁, f.observation.WellFormed) →
    List.Forall₂ List.Perm (frames.outputs c₁ fs₁) (frames.outputs c₂ fs₂)

theorem sameNextGame_of_sameLeftovers {c₁ c₂ : ControlImp} (h₁ : c₁.Ready) (h₂ : c₂.Ready)
    (h : SameLeftovers c₁.eventState c₂.eventState) : SameNextGame c₁ c₂ := by
  intro fs₁ fs₂ hsame hwf
  have hstep : ∀ (a b : ControlImp) (f g : Frame),
      a.Ready ∧ b.Ready ∧ SameLeftovers a.eventState b.eventState → SameInput f g →
        f.observation.WellFormed →
          ((frames.step a f).1.Ready ∧ (frames.step b g).1.Ready ∧
            SameLeftovers (frames.step a f).1.eventState (frames.step b g).1.eventState) ∧
          (frames.step a f).2.Perm (frames.step b g).2 := by
    rintro a b f g ⟨ha, hb, hab⟩ hfg hf
    obtain ⟨hra, hia⟩ := ha.frame f
    obtain ⟨hrb, hib⟩ := hb.frame g
    rw [← hfg.observation, ← hfg.commands] at hib
    obtain ⟨hleft, hperm⟩ := hab.issues hf.complete hia hib
    exact ⟨⟨hra, hrb, hleft⟩, hperm⟩
  exact (Machine.simulation hstep ⟨h₁, h₂, h⟩ hsame (Machine.along_of_mem hwf c₁)).2

theorem sameLeftovers_of_sameNextGame {c₁ c₂ : ControlImp} (h₁ : c₁.Ready) (h₂ : c₂.Ready)
    (h : SameNextGame c₁ c₂) : SameLeftovers c₁.eventState c₂.eventState := by
  refine sameLeftovers_of_sameAnswer fun o hwf => ?_
  have hperm := h [{ observation := o }] [{ observation := o }] (.cons ⟨rfl, rfl, rfl⟩ .nil)
    (by simpa using hwf)
  exact ⟨_, _, _, _, (h₁.frame { observation := o }).2, (h₂.frame { observation := o }).2,
    (List.forall₂_cons.1 hperm).1⟩

/-- After any two histories, whatever became of their data requests, the next game makes the
same callbacks for every sequence of well-formed observations exactly when the histories leave
the same game loop, known tags, stages of existing units and upgrades behind. -/
theorem next_game_same_iff (answers₁ answers₂ : List (Option (List Proto.AbilityData)))
    (history₁ history₂ : List ClientOp) (setup : PlayerSetup) (settings : InterfaceSettings)
    (ports : Ports) :
    SameNextGame
        (client.final (.withAnswers answers₁)
          (history₁ ++ [.requestJoinGame setup settings ports true]))
        (client.final (.withAnswers answers₂)
          (history₂ ++ [.requestJoinGame setup settings ports true])) ↔
      SameLeftovers (client.final (.withAnswers answers₁) history₁).eventState
        (client.final (.withAnswers answers₂) history₂).eventState := by
  have h₁ := (ControlImp.Ready.initial answers₁).final
    (history₁ ++ [.requestJoinGame setup settings ports true])
  have h₂ := (ControlImp.Ready.initial answers₂).final
    (history₂ ++ [.requestJoinGame setup settings ports true])
  have hiff : SameNextGame _ _ ↔ SameLeftovers _ _ :=
    ⟨sameLeftovers_of_sameNextGame h₁ h₂, sameNextGame_of_sameLeftovers h₁ h₂⟩
  rw [hiff, client.final_concat, client.final_concat,
    ControlImp.Ready.eventState_requestJoinGame, ControlImp.Ready.eventState_requestJoinGame]

/-- An earlier game with unit 7 swallows the creation of unit 7 in the next. -/
theorem next_game_differs :
    ¬∀ answers history₁ history₂ setup settings ports,
      SameNextGame
        (client.final (.withAnswers answers)
          (history₁ ++ [.requestJoinGame setup settings ports true]))
        (client.final (.withAnswers answers)
          (history₂ ++ [.requestJoinGame setup settings ports true])) := by
  intro h
  let f : Frame := { observation := .full 5 [.idleOwn 7] [] [] }
  let g : Frame := { observation := .full 1 [.idleOwn 7] [] [] }
  have hperm := h [] [] [f.fetch] {} {} {} [g] [g] (.cons ⟨rfl, rfl, rfl⟩ .nil) (by decide)
  have hfirst := (List.forall₂_cons.1 hperm).1
  exact absurd hfirst (by decide +kernel)

end Sc2Api
