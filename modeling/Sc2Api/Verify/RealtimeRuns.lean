import Sc2Api.Verify.Fetching
import Sc2Api.Verify.UpdateFrames
import Sc2Api.Verify.Works

/-!
# Agents in real time

What updates in real time do to one agent: a step for every time it is on the list, and
`OnError` for every time it is found with errors. A step that gets to its observation
issues events on it and sends the actions of the bot.
-/

namespace Sc2Api

open Lib

/-! ## Runs -/

/-- `enter` is the start of an update. -/
inductive RealtimeStep
  | enter (world : World)
  | step
  | onError

def RealtimeStep.run : RealtimeStep → Agent → Agent
  | enter world, a => { a with control := a.control.inWorld world }
  | step, a => (CoordinatorImp.stepAgentRealtime a).drained
  | onError, a => (a.callback .onError).drained

/-- A step is answered with the callbacks made in it. -/
def realtimeMachine : Machine Agent RealtimeStep (List ClientEvent) where
  step a s := (s.run a, (s.run a).events.drop a.events.length)

namespace CoordinatorImp

/-- The steps of one agent in an update. -/
def realtimeUpdate (c : CoordinatorImp) (i : AgentId) : List RealtimeStep :=
  List.replicate (c.agents.count i) .step ++
    List.replicate (c.updateClients.failedAgents.count i) .onError

/-- The steps of one agent in a run of updates. -/
def realtimeSteps (i : AgentId) : CoordinatorImp → List Worlds → List RealtimeStep
  | _, [] => []
  | c, w :: worlds => .enter (w.agents i) :: (c.inWorlds w).realtimeUpdate i ++
      realtimeSteps i (c.inWorlds w).update.2 worlds

end CoordinatorImp

theorem realtimeMachine_final_replicate (a : Agent) (s : RealtimeStep) (n : Nat) :
    realtimeMachine.final a (List.replicate n s) = s.run^[n] a := by
  induction n generalizing a with
  | zero => rfl
  | succ n ih => exact ih _

theorem CoordinatorImp.agentOf_realtimeUpdate {c : CoordinatorImp}
    (hrealtime : c.processSettings.realtime = true) (i : AgentId) :
    c.update.2.agentOf i = realtimeMachine.final (c.agentOf i) (c.realtimeUpdate i) := by
  have hsteps : c.updateAgents.agentOf i =
      (fun a => (stepAgentRealtime a).drained)^[c.agents.count i] (c.agentOf i) := by
    unfold updateAgents
    split
    next hagents =>
      rw [hagents]
      rfl
    · exact agentOf_foldl _ _ _
  unfold realtimeUpdate
  rw [Machine.final_append, realtimeMachine_final_replicate, realtimeMachine_final_replicate,
    agentOf_update, hsteps]
  rfl

/-- In real time, updates are these steps for every agent. -/
theorem agentOf_realtimeUpdates (c : CoordinatorImp) (worlds : List Worlds)
    (hrealtime : c.processSettings.realtime = true) (i : AgentId) :
    (updateMachine.final c worlds).agentOf i =
      realtimeMachine.final (c.agentOf i) (c.realtimeSteps i worlds) := by
  induction worlds generalizing c with
  | nil => rfl
  | cons w worlds ih =>
    have hsame : (c.inWorlds w).update.2.processSettings.realtime = true :=
      CoordinatorImp.sameSettings_update.2.1.trans hrealtime
    have hupdate : (c.inWorlds w).update.2.agentOf i =
        realtimeMachine.final ((c.inWorlds w).agentOf i) ((c.inWorlds w).realtimeUpdate i) :=
      CoordinatorImp.agentOf_realtimeUpdate (c := c.inWorlds w) hrealtime i
    rw [CoordinatorImp.realtimeSteps, Machine.final_append]
    exact (ih _ hsame).trans (congrArg (realtimeMachine.final · _) hupdate)

/-- The steps of an agent that is stepped once in each update. -/
def stepOnce (i : AgentId) (worlds : List Worlds) : List RealtimeStep :=
  worlds.flatMap fun w => [.enter (w.agents i), .step]

/-- An agent that is on the list once and has no errors is stepped once in every update. -/
theorem realtimeSteps_of_no_errors {c : CoordinatorImp} {worlds : List Worlds} {i : AgentId}
    (h : updateMachine.Along (fun c w => c.agents.count i = 1 ∧
      (c.inWorlds w).updateClients.failedAgents.count i = 0) c worlds) :
    c.realtimeSteps i worlds = stepOnce i worlds := by
  induction worlds generalizing c with
  | nil => rfl
  | cons w worlds ih =>
    obtain ⟨⟨hagents, herrors⟩, hrest⟩ := h
    have hagents' : (c.inWorlds w).agents.count i = 1 := hagents
    have hupdate : (c.inWorlds w).realtimeUpdate i = [.step] := by
      unfold CoordinatorImp.realtimeUpdate
      rw [hagents', herrors]
      rfl
    rw [CoordinatorImp.realtimeSteps, hupdate, ih (c := (c.inWorlds w).update.2) hrest]
    rfl

/-! ## What a step leaves alone -/

namespace Agent

variable (a : Agent)

theorem sendActions_waits : a.control.Waits a.sendActions.control := by
  have hsend := Control.sendRequest_waits (c := a.control) .action
  unfold sendActions
  dsimp only
  split
  · exact .refl _
  · split
    · exact hsend
    · exact hsend.trans Control.waitForResponse_waits

/-- The callbacks that `IssueEvents` would make. -/
def issued (a : Agent) : Bool × List Callback × ControlImp :=
  a.control.imp.issueEvents a.control.proto.world.orders.head a.commands

theorem observationImp_issueEvents :
    a.issueEvents.2.control.imp.observationImp = a.issued.2.2.observationImp := by
  unfold issueEvents issued
  dsimp only
  split
  · exact (callback_waits _ _).observationImp
  · rfl

theorem events_issueEvents : a.issueEvents.2.events =
    if a.issued.1 then a.events ++ [.events a.issued.2.1] else a.events := by
  unfold issueEvents issued
  dsimp only
  split <;> rfl

theorem commands_callback (event : ClientEvent) : (a.callback event).commands = a.commands := rfl

theorem events_callback (event : ClientEvent) :
    (a.callback event).events = a.events ++ [event] := rfl

theorem events_sendActions : a.sendActions.events = a.events := by
  unfold sendActions
  dsimp only
  split
  · rfl
  · split <;> rfl

end Agent

/-! ## Steps -/

namespace Agent

/-- The step gets past its guards. -/
def Observes (a : Agent) : Prop :=
  a.control.appState = .normal ∧ a.control.pollLeaveGame.1 = false ∧
    a.control.pollLeaveGame.2.isFinishedGame = false

instance (a : Agent) : Decidable a.Observes := inferInstanceAs (Decidable (_ ∧ _ ∧ _))

/-- The agent once it has polled. -/
def polled (a : Agent) : Agent := { a with control := a.control.pollLeaveGame.2 }

/-- The agent after `GetObservation`. -/
def observed (a : Agent) : Agent := { a with control := a.polled.control.getObservation.2 }

/-- The agent after `IssueEvents`. -/
def told (a : Agent) : Agent := a.observed.issueEvents.2

variable {a : Agent}

theorem observationImp_polled :
    a.polled.control.imp.observationImp = a.control.imp.observationImp :=
  Control.pollLeaveGame_waits.observationImp

/-- What a step that does not get to its observation leaves alone. -/
theorem stepAgentRealtime_of_not_observes (h : ¬ a.Observes) :
    (CoordinatorImp.stepAgentRealtime a).control.imp.observationImp =
        a.control.imp.observationImp ∧
      (CoordinatorImp.stepAgentRealtime a).commands = a.commands ∧
      (CoordinatorImp.stepAgentRealtime a).events = a.events := by
  have hpolled := observationImp_polled (a := a)
  unfold CoordinatorImp.stepAgentRealtime
  dsimp only
  split
  · exact ⟨rfl, rfl, rfl⟩
  next happ =>
    split
    · exact ⟨hpolled, rfl, rfl⟩
    next hleaving =>
      split
      · exact ⟨hpolled, rfl, rfl⟩
      next hfinished =>
        exact absurd ⟨not_not.1 happ, by simpa using hleaving, by simpa using hfinished⟩ h

/-- What one that does comes to. -/
structure Stepped (a a' : Agent) : Prop where
  observationImp : a'.control.imp.observationImp = a.told.control.imp.observationImp
  commands : a'.commands = a.told.sendActions.commands
  events : ∃ ending, a'.events = a.told.events ++ ending

theorem stepAgentRealtime_of_observes (h : a.Observes) :
    a.Stepped (CoordinatorImp.stepAgentRealtime a) := by
  have hsent : a.told.sendActions.control.imp.observationImp =
      a.told.control.imp.observationImp := a.told.sendActions_waits.observationImp
  have hevents := a.told.events_sendActions
  have hstep : CoordinatorImp.stepAgentRealtime a =
      if !a.told.sendActions.control.isInGame then
        { a.told.sendActions.callback .onGameEnd with
          control := (a.told.sendActions.callback .onGameEnd).control.requestLeaveGame.2 }
      else a.told.sendActions := by
    unfold CoordinatorImp.stepAgentRealtime
    rw [if_neg (not_not_intro h.1)]
    dsimp only
    rw [if_neg (by simp [h.2.1]), if_neg (by simp [h.2.2])]
    rfl
  rw [hstep]
  split
  · have hended := (a.told.sendActions.callback_waits .onGameEnd).trans
      Control.requestLeaveGame_waits
    refine ⟨?_, ?_, [.onGameEnd], ?_⟩ <;> dsimp only
    · rw [hended.observationImp, hsent]
    · rw [commands_callback]
    · rw [events_callback, hevents]
  · exact ⟨hsent, rfl, [], by rw [hevents, List.append_nil]⟩

end Agent

/-! ## Another game loop -/

def Agent.loop (a : Agent) : GameLoop := a.control.imp.observationImp.currentGameLoop

/-- The step observes another game loop. -/
def RealtimeStep.NewLoop (a : Agent) : RealtimeStep → Prop
  | step => a.Observes ∧ a.observed.loop ≠ a.loop
  | _ => False

instance (a : Agent) : (s : RealtimeStep) → Decidable (s.NewLoop a)
  | .step => inferInstanceAs (Decidable (_ ∧ _))
  | .enter _ => inferInstanceAs (Decidable False)
  | .onError => inferInstanceAs (Decidable False)

namespace Agent

variable {a : Agent}

theorem due_of_newLoop (h : RealtimeStep.step.NewLoop a) :
    a.observed.control.imp.observationImp.currentGameLoop ≠
      a.observed.control.imp.observationImp.previousGameLoop := by
  have hpolled := observationImp_polled (a := a)
  rcases a.polled.control.getObservation_fetched.gameLoops with ⟨hsame, -⟩ | hprevious
  · exact absurd (hsame.trans (congrArg ObservationImp.currentGameLoop hpolled)) h.2
  · rw [hpolled] at hprevious
    exact fun heq => h.2 (heq.trans hprevious)

/-- Events are issued in it. -/
theorem events_of_newLoop (h : RealtimeStep.step.NewLoop a) :
    .events a.observed.issued.2.1 ∈ (realtimeMachine.step a .step).2 := by
  have hissued : a.observed.issued.1 = true :=
    congrArg Prod.fst (issueEvents_of_due (c := a.observed.control.imp) (due_of_newLoop h) _ _)
  have htold : a.told.events = a.events ++ [.events a.observed.issued.2.1] := by
    have hissue := a.observed.events_issueEvents
    rw [hissued, if_pos rfl] at hissue
    exact hissue
  obtain ⟨ending, hevents⟩ := (stepAgentRealtime_of_observes h.1).events
  have hlog : (RealtimeStep.step.run a).events =
      a.events ++ ([.events a.observed.issued.2.1] ++ ending) := by
    rw [← List.append_assoc, ← htold]
    exact hevents
  show _ ∈ (RealtimeStep.step.run a).events.drop a.events.length
  rw [hlog, List.drop_left]
  exact List.mem_append_left _ (List.mem_singleton_self _)

end Agent

end Sc2Api
