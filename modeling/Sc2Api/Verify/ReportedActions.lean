import Sc2Api.Verify.Fetching
import Sc2Api.Verify.GameEndRuns
import Sc2Api.Verify.RealtimeRuns

/-!
# Actions and messages that the game reports

What `OnStep` can read of the actions and chat messages of a response. They are kept as
long as the game loop stays, and `OnStep` is called only when it changes.
-/

namespace Sc2Api

open Lib

/-! ## What is reported, and what is shown -/

/-- Something that a response reports. -/
inductive ReportedItem
  | rawAction (action : Proto.Action)
  | featureLayerAction (action : Proto.ActionSpatial)
  | chatMessage (message : Proto.ChatReceived)
  deriving DecidableEq, Repr

def Proto.ResponseObservation.items (r : Proto.ResponseObservation) : List ReportedItem :=
  (r.actions.filter (·.actionRaw.isSome)).map .rawAction ++
    (r.actions.filterMap (·.actionFeatureLayer)).map .featureLayerAction ++
    r.chat.map .chatMessage

/-- The action is among the others, but for its ability id, which may be generalized. -/
def SpatialActions.Shows (shown : SpatialActions) (action : Proto.ActionSpatial) : Prop :=
  let converted := convertSpatialAction {} action
  (∀ command ∈ converted.unitCommands, ∃ command' ∈ shown.unitCommands,
      { command' with abilityId := command.abilityId } = command) ∧
    converted.cameraMoves ⊆ shown.cameraMoves ∧
    converted.selectPoints ⊆ shown.selectPoints ∧ converted.selectRects ⊆ shown.selectRects

/-- `GetRawActions`, `GetFeatureLayerActions` or `GetChatMessages` shows the item; the
ability ids of actions may be generalized. -/
def ObservationImp.Reads (s : ObservationImp) : ReportedItem → Prop
  | .rawAction action => ∃ raw ∈ convertRawAction action, ∃ raw' ∈ s.rawActions,
      { raw' with abilityId := raw.abilityId } = raw
  | .featureLayerAction action => s.featureLayerActions.Shows action
  | .chatMessage message => ⟨message.playerId.getD 0, message.message.getD ""⟩ ∈ s.chat

/-- The item can be shown at all: of the raw actions, only unit commands with an ability
id are converted. -/
def ReportedItem.Convertible : ReportedItem → Prop
  | rawAction action => (convertRawAction action).isSome
  | _ => True

instance : DecidablePred ReportedItem.Convertible
  | .rawAction action => inferInstanceAs (Decidable ((convertRawAction action).isSome = true))
  | .featureLayerAction _ => inferInstanceAs (Decidable True)
  | .chatMessage _ => inferInstanceAs (Decidable True)

/-! ## Conversions -/

/-- What a monadic map does to each entry. -/
theorem mem_mapM_run {α β σ : Type} {f : α → StateM σ β} {R : α → β → Prop}
    (hf : ∀ x s, R x ((f x).run s).1) (l : List α) (s : σ) :
    ∀ x ∈ l, ∃ y ∈ ((l.mapM f).run s).1, R x y := by
  induction l generalizing s with
  | nil => exact fun _ hx => nomatch hx
  | cons a l ih =>
    intro x hx
    rw [run_mapM_cons]
    rcases List.mem_cons.1 hx with rfl | hx
    · exact ⟨_, List.mem_cons_self, hf x s⟩
    · obtain ⟨y, hy, hxy⟩ := ih _ x hx
      exact ⟨y, List.mem_cons_of_mem _ hy, hxy⟩

/-- Converting appends to each list what it makes of the action alone. -/
theorem convertSpatialAction_append (actions : SpatialActions) (action : Proto.ActionSpatial) :
    let converted := convertSpatialAction {} action
    convertSpatialAction actions action =
      { unitCommands := actions.unitCommands ++ converted.unitCommands
        cameraMoves := actions.cameraMoves ++ converted.cameraMoves
        selectPoints := actions.selectPoints ++ converted.selectPoints
        selectRects := actions.selectRects ++ converted.selectRects } := by
  cases action <;> simp [convertSpatialAction]

/-- All lists of the first are in those of the second. -/
structure SpatialActions.In (a b : SpatialActions) : Prop where
  unitCommands : a.unitCommands ⊆ b.unitCommands
  cameraMoves : a.cameraMoves ⊆ b.cameraMoves
  selectPoints : a.selectPoints ⊆ b.selectPoints
  selectRects : a.selectRects ⊆ b.selectRects

theorem SpatialActions.In.trans {a b c : SpatialActions} (h : a.In b) (h' : b.In c) : a.In c :=
  ⟨List.Subset.trans h.1 h'.1, List.Subset.trans h.2 h'.2, List.Subset.trans h.3 h'.3,
    List.Subset.trans h.4 h'.4⟩

theorem in_foldl_convertSpatialAction (actions : SpatialActions)
    (l : List Proto.ActionSpatial) : actions.In (l.foldl convertSpatialAction actions) := by
  induction l generalizing actions with
  | nil => exact ⟨List.Subset.refl _, List.Subset.refl _, List.Subset.refl _, List.Subset.refl _⟩
  | cons action l ih =>
    refine SpatialActions.In.trans ?_ (ih (convertSpatialAction actions action))
    rw [convertSpatialAction_append]
    exact ⟨List.subset_append_left _ _, List.subset_append_left _ _,
      List.subset_append_left _ _, List.subset_append_left _ _⟩

theorem converted_in_foldl {action : Proto.ActionSpatial} {l : List Proto.ActionSpatial}
    (h : action ∈ l) (actions : SpatialActions) :
    (convertSpatialAction {} action).In (l.foldl convertSpatialAction actions) := by
  obtain ⟨before, after, rfl⟩ := List.append_of_mem h
  rw [List.foldl_append, List.foldl_cons]
  refine SpatialActions.In.trans ?_ (in_foldl_convertSpatialAction _ after)
  rw [convertSpatialAction_append (before.foldl convertSpatialAction actions)]
  exact ⟨List.subset_append_right _ _, List.subset_append_right _ _,
    List.subset_append_right _ _, List.subset_append_right _ _⟩

namespace ObservationImp

variable {s s' : ObservationImp} {o : Proto.Observation} {r : Proto.ResponseObservation}

theorem rawActions_updateActions {action : Proto.Action} (haction : action ∈ r.actions)
    {raw : ActionRaw} (hraw : convertRawAction action = some raw) :
    ∃ raw' ∈ (s.updateActions r true).rawActions, { raw' with abilityId := raw.abilityId } = raw :=
  mem_mapM_run (R := fun raw raw' : ActionRaw => { raw' with abilityId := raw.abilityId } = raw)
    (fun _ _ => rfl) _ s.abilityTable raw (List.mem_filterMap.2 ⟨action, haction, hraw⟩)

theorem featureLayer_updateActions {action : Proto.ActionSpatial}
    (haction : action ∈ r.actions.filterMap (·.actionFeatureLayer)) :
    (s.updateActions r true).featureLayerActions.Shows action := by
  have hin := converted_in_foldl haction {}
  refine ⟨fun command hcommand => ?_, hin.cameraMoves, hin.selectPoints, hin.selectRects⟩
  exact mem_mapM_run (R := fun command command' : SpatialUnitCommand =>
    { command' with abilityId := command.abilityId } = command) (fun _ _ => rfl) _ _ command
    (hin.unitCommands hcommand)

/-- An observation of another game loop shows what its response reports. -/
theorem TakenIn.reads (h : s.TakenIn s' o r) (hloop : o.loop ≠ s.currentGameLoop)
    {item : ReportedItem} (hitem : item ∈ r.items) (hconvertible : item.Convertible) :
    s'.Reads item := by
  have hnew : (o.loop != s.currentGameLoop) = true := bne_iff_ne.2 hloop
  unfold Proto.ResponseObservation.items at hitem
  simp only [List.mem_append, List.mem_map] at hitem
  rcases hitem with (⟨action, haction, rfl⟩ | ⟨action, haction, rfl⟩) | ⟨message, hmessage, rfl⟩
  · obtain ⟨raw, hraw⟩ := Option.isSome_iff_exists.1 hconvertible
    refine ⟨raw, hraw, ?_⟩
    rw [h.rawActions, hnew]
    exact rawActions_updateActions (List.mem_filter.1 haction).1 hraw
  · show s'.featureLayerActions.Shows action
    rw [h.featureLayerActions, hnew]
    exact featureLayer_updateActions haction
  · show _ ∈ s'.chat
    rw [h.chat]
    exact List.mem_map_of_mem hmessage

end ObservationImp

/-! ## Reports in a run -/

namespace Agent

/-- What the game reports in the step. -/
def reports (a : Agent) : Option Proto.ResponseObservation :=
  if a.Observes then a.polled.control.reported else none

/-- `OnStep` is called in the step. -/
def CallsOnStep (a : Agent) : Prop :=
  ∃ callbacks, .events callbacks ∈ (realtimeMachine.step a .step).2 ∧ .onStep ∈ callbacks

/-- What can be read in the callbacks of the step. -/
def reading (a : Agent) : ObservationImp := a.told.control.imp.observationImp

end Agent

/-- A later step of the run brings an observation of a later game loop. -/
def LaterLoop (a : Agent) (loop : GameLoop) (steps : List RealtimeStep) : Prop :=
  ∃ before after r, steps = before ++ .step :: after ∧
    (realtimeMachine.final a before).reports = some r ∧ ∃ o ∈ r.observation, loop < o.loop

/-- Everything that a well-formed response reports, with an observation of a later game
loop to follow, can be read in an `OnStep` from then on. -/
def ReportsRead (a : Agent) (steps : List RealtimeStep) : Prop :=
  ∀ before after r o, steps = before ++ .step :: after →
    (realtimeMachine.final a before).reports = some r → r.observation = some o →
    o.WellFormed → LaterLoop (realtimeMachine.final a (before ++ [.step])) o.loop after →
    ∀ item ∈ r.items, ∃ before' after', steps = before' ++ .step :: after' ∧
      before <+: before' ∧ (realtimeMachine.final a before').CallsOnStep ∧
      (realtimeMachine.final a before').reading.Reads item

/-- What the step reports can be shown, and it reports nothing unless it observes another
game loop. -/
def Readable (a : Agent) : RealtimeStep → Prop
  | .step => ∀ r ∈ a.reports, ∀ o ∈ r.observation, ∀ item ∈ r.items,
      o.loop ≠ a.loop ∧ item.Convertible
  | _ => True

instance (a : Agent) : DecidablePred (Readable a)
  | .step => inferInstanceAs (Decidable (∀ r ∈ a.reports, ∀ o ∈ r.observation, _))
  | .enter _ => inferInstanceAs (Decidable True)
  | .onError => inferInstanceAs (Decidable True)

/-! ## Reading in the step itself -/

theorem ObservationImp.Reads.congr {s s' : ObservationImp} {item : ReportedItem}
    (h : s.Reads item) (hraw : s'.rawActions = s.rawActions)
    (hfeature : s'.featureLayerActions = s.featureLayerActions) (hchat : s'.chat = s.chat) :
    s'.Reads item := by
  cases item with
  | rawAction action =>
    unfold Reads
    rw [hraw]
    exact h
  | featureLayerAction action =>
    unfold Reads
    rw [hfeature]
    exact h
  | chatMessage message =>
    unfold Reads
    rw [hchat]
    exact h

theorem onStep_mem_issueEvents {c : ControlImp} (hdue : c.eventState.Due)
    (order : UnitPool.Order) (commands : List Tag) :
    .onStep ∈ (c.issueEvents order commands).2.1 := by
  rw [issueEvents_of_due hdue]
  exact List.mem_append_right _ (List.mem_singleton_self _)

variable {a : Agent} {r : Proto.ResponseObservation} {o : Proto.Observation}

theorem reads_reported (hreports : a.reports = some r) (ho : r.observation = some o)
    (hscore : o.score.isSome) (hloop : o.loop ≠ a.loop) :
    a.CallsOnStep ∧ ∀ item ∈ r.items, item.Convertible → a.reading.Reads item := by
  unfold Agent.reports at hreports
  split at hreports
  next hobserves =>
    have hpolled := Agent.observationImp_polled (a := a)
    cases a.polled.control.getObservation_fetched with
    | nothing hnone _ => cases hnone.symm.trans hreports
    | observation r' o' orders table hsome ho' hupdated =>
      obtain rfl : r' = r := Option.some.inj (hsome.symm.trans hreports)
      obtain rfl : o' = o := Option.some.inj (ho'.symm.trans ho)
      rw [hpolled] at hupdated
      have htaken : ({ a.control.imp.observationImp with abilityTable := table } :
          ObservationImp).TakenIn a.observed.control.imp.observationImp o' r' :=
        hupdated ▸ ObservationImp.updateObservation_takenIn hscore orders r'
      have hnew : RealtimeStep.step.NewLoop a :=
        ⟨hobserves, fun heq => hloop (htaken.currentGameLoop.symm.trans heq)⟩
      refine ⟨⟨_, Agent.events_of_newLoop hnew,
        onStep_mem_issueEvents (Agent.due_of_newLoop hnew) _ _⟩, fun item hitem hconv => ?_⟩
      have hreads := htaken.reads hloop hitem hconv
      obtain ⟨pool, hpool⟩ := exists_pool_issueEvents a.observed.control.imp
        a.observed.control.proto.world.orders.head a.observed.commands
      have hreading : a.reading =
          { a.observed.control.imp.observationImp with unitPool := pool } :=
        a.observed.observationImp_issueEvents.trans (congrArg (·.observationImp) hpool)
      exact hreads.congr (by rw [hreading]) (by rw [hreading]) (by rw [hreading])
  next => cases hreports

theorem reportsRead (a : Agent) (steps : List RealtimeStep)
    (hreadable : realtimeMachine.Along Readable a steps) : ReportsRead a steps := by
  rintro before after r o rfl hreports ho hwell - item hitem
  obtain ⟨hloop, hconvertible⟩ :=
    ((Machine.along_append _ _ _ _ _).1 hreadable).2.1 r hreports o ho item hitem
  obtain ⟨honStep, hreads⟩ := reads_reported hreports ho hwell.complete.1 hloop
  exact ⟨before, after, rfl, List.prefix_rfl, honStep, hreads item hitem hconvertible⟩

/-- In every run of updates in real time whose reports come with another game loop, what is
reported can be read. -/
theorem reports_read (c : CoordinatorImp) (worlds : List Worlds) (i : AgentId)
    (hreadable : realtimeMachine.Along Readable (c.agentOf i) (c.realtimeSteps i worlds)) :
    ReportsRead (c.agentOf i) (c.realtimeSteps i worlds) :=
  reportsRead _ _ hreadable

/-- A game at a loop, with what it reports. -/
def reportWorlds (loop : GameLoop) (r : Proto.ResponseObservation) : Worlds where
  agents _ := { deliveries := .const { waiting := [.answer {
    status := some .inGame
    observation := { r with observation := some (.full loop [] [] []) } }] } }

/-- A command for the unit 1. -/
def commandAction : Proto.Action where
  actionRaw := some (.unitCommand { abilityId := some 16, unitTags := [1] })

/-- A command, a camera move and a message. -/
def threeReports : Proto.ResponseObservation where
  actions := [commandAction, { actionFeatureLayer := some (.cameraMove none) }]
  chat := [{ message := some "gg" }]

theorem reports_read_at_once :
    let a := (joinedGame 1 { realtime := true }).agentOf 0
    let worlds := [reportWorlds 6 threeReports, reportWorlds 7 {}]
    ReportsRead a (stepOnce 0 worlds) ∧
      (realtimeMachine.final a [.enter ((reportWorlds 6 threeReports).agents 0)]).reports.map
        (·.items.length) = some 3 := by
  have hsteps : (joinedGame 1 { realtime := true }).realtimeSteps 0
      [reportWorlds 6 threeReports, reportWorlds 7 {}] =
        stepOnce 0 [reportWorlds 6 threeReports, reportWorlds 7 {}] :=
    realtimeSteps_of_no_errors (by decide +kernel)
  have hread := reports_read (joinedGame 1 { realtime := true })
    [reportWorlds 6 threeReports, reportWorlds 7 {}] 0 (by rw [hsteps]; decide +kernel)
  rw [hsteps] at hread
  exact ⟨hread, by decide +kernel⟩

/-- The steps before the update in which the reports come, and after it. -/
def beforeReports : List RealtimeStep :=
  [.enter ((reportWorlds 6 {}).agents 0), .step, .enter ((reportWorlds 6 threeReports).agents 0)]

def afterReports : List RealtimeStep := [.enter ((reportWorlds 7 {}).agents 0)]

/-- The two steps that are left. -/
theorem steps_of_split {w : World} {d after : List RealtimeStep}
    (h : [.step, .enter w, .step] = d ++ .step :: after) : d = [] ∨ d = [.step, .enter w] := by
  rcases d with _ | ⟨x, _ | ⟨y, _ | ⟨z, d⟩⟩⟩
  · exact .inl rfl
  · injection h with hx h
    cases h
  · injection h with hx h
    injection h with hy h
    exact .inr (by rw [hx, hy])
  · injection h with hx h
    injection h with hy h
    injection h with hz h
    cases d <;> cases h

/-- The game loop was observed before: the command can be read neither in that update,
which does not call `OnStep`, nor in the next one. -/
theorem reports_not_read :
    ¬ ReportsRead ((joinedGame 1 { realtime := true }).agentOf 0)
      ((joinedGame 1 { realtime := true }).realtimeSteps 0
        [reportWorlds 6 {}, reportWorlds 6 threeReports, reportWorlds 7 {}]) := by
  intro hread
  have hsteps : (joinedGame 1 { realtime := true }).realtimeSteps 0
      [reportWorlds 6 {}, reportWorlds 6 threeReports, reportWorlds 7 {}] =
        beforeReports ++ .step :: (afterReports ++ [.step]) :=
    realtimeSteps_of_no_errors (by decide +kernel)
  generalize hagent : (joinedGame 1 { realtime := true }).agentOf 0 = a at hread
  have hreports : (realtimeMachine.final a beforeReports).reports =
      some { threeReports with observation := some (.full 6 [] [] []) } := by
    rw [← hagent]
    decide +kernel
  have hlater : (realtimeMachine.final (realtimeMachine.final a (beforeReports ++ [.step]))
      afterReports).reports = some { observation := some (.full 7 [] [] []) } := by
    rw [← hagent]
    decide +kernel
  have hsilent : (realtimeMachine.step (realtimeMachine.final a beforeReports) .step).2 = [] := by
    rw [← hagent]
    decide +kernel
  have hcleared : (realtimeMachine.final a
      (beforeReports ++ [.step, .enter ((reportWorlds 7 {}).agents 0)])).reading.rawActions
        = [] := by
    rw [← hagent]
    decide +kernel
  obtain ⟨before', after', hsplit, ⟨d, rfl⟩, ⟨callbacks, hevents, -⟩, raw, -, raw', hraw', -⟩ :=
    hread beforeReports (afterReports ++ [.step]) _ _ hsteps hreports rfl (by decide)
      ⟨afterReports, [], _, rfl, hlater, _, rfl, by decide⟩ (.rawAction commandAction) (by decide)
  rw [hsteps, List.append_assoc] at hsplit
  rcases steps_of_split (List.append_cancel_left hsplit) with rfl | rfl
  · rw [List.append_nil, hsilent] at hevents
    cases hevents
  · rw [hcleared] at hraw'
    cases hraw'

end Sc2Api
