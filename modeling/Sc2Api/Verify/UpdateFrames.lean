import Sc2Api.CoordinatorRuns
import Sc2Api.Verify.Frames

/-!
# What an update does to one client

The walks of `Update` over all clients, seen from one of them: each walk does to
it what it does to every client, as often as it is on the list.
-/

namespace Sc2Api

/-- Without the calls that were entered in the list of the coordinator. -/
def Agent.drained (a : Agent) : Agent := { a with control := { a.control with calls := [] } }

def ReplayObserver.drained (r : ReplayObserver) : ReplayObserver :=
  { r with control := { r.control with calls := [] } }

namespace CoordinatorImp

variable {c c' c'' : CoordinatorImp}

/-! ## Agents -/

theorem agentOf_foldl (is : List AgentId) (f : Agent → Agent) (i : AgentId) :
    (is.foldl (fun c i => c.onAgent i f) c).agentOf i =
      (fun a => (f a).drained)^[is.count i] (c.agentOf i) := by
  induction is generalizing c with
  | nil => rfl
  | cons j is ih =>
    rw [List.foldl_cons, ih]
    by_cases hj : j = i
    · subst hj
      rw [List.count_cons_self, Function.iterate_succ_apply, agentOf_onAgent_self]
      rfl
    · rw [List.count_cons_of_ne hj, agentOf_onAgent_of_ne _ _ _ (Ne.symm hj)]

/-- What a walk over agents leaves alone. -/
structure SameObservers (c c' : CoordinatorImp) : Prop where
  observerOf : c'.observerOf = c.observerOf
  replayObservers : c'.replayObservers = c.replayObservers
  agents : c'.agents = c.agents
  processSettings : c'.processSettings = c.processSettings
  starcraftStarted : c'.starcraftStarted = c.starcraftStarted
  replayRecovery : c'.replayRecovery = c.replayRecovery

theorem SameObservers.refl (c : CoordinatorImp) : c.SameObservers c :=
  ⟨rfl, rfl, rfl, rfl, rfl, rfl⟩

theorem SameObservers.trans (h : c.SameObservers c') (h' : c'.SameObservers c'') :
    c.SameObservers c'' :=
  ⟨h'.1.trans h.1, h'.2.trans h.2, h'.3.trans h.3, h'.4.trans h.4, h'.5.trans h.5,
    h'.6.trans h.6⟩

theorem sameObservers_foldl (is : List AgentId) (f : Agent → Agent) :
    c.SameObservers (is.foldl (fun c i => c.onAgent i f) c) := by
  induction is generalizing c with
  | nil => exact .refl c
  | cons i is ih =>
    have hfirst : c.SameObservers (c.onAgent i f) := ⟨rfl, rfl, rfl, rfl, rfl, rfl⟩
    exact hfirst.trans ih

theorem sameObservers_updateAgents : c.SameObservers c.updateAgents := by
  unfold updateAgents
  split
  · exact .refl c
  · split
    · exact sameObservers_foldl _ _
    · unfold stepAgents
      dsimp only
      split
      · exact (sameObservers_foldl _ _).trans (sameObservers_foldl _ _)
      · exact sameObservers_foldl _ _

/-! ## Starting replays and recovering observers -/

/-- What is done to an observer between its steps. -/
inductive ObserverWork : (ReplayObserver → ReplayObserver) → Prop
  | control (f : Control → Control) : ObserverWork fun r => { r with control := f r.control }
  | gatherReplayInfo (path : String) : ObserverWork fun r => (r.gatherReplayInfo path).2
  | reset : ObserverWork (·.reset)
  | onError : ObserverWork (·.callback .onError)

/-- Observers are worked on one after the other, and settings that do not concern the
clients are changed. -/
inductive Tends (c : CoordinatorImp) : CoordinatorImp → Prop
  | refl : Tends c c
  | settings {c' c'' : CoordinatorImp} (tends : Tends c c') (agentOf : c''.agentOf = c'.agentOf)
      (observerOf : c''.observerOf = c'.observerOf) (agents : c''.agents = c'.agents)
      (replayObservers : c''.replayObservers = c'.replayObservers)
      (realtime : c''.processSettings.realtime = c'.processSettings.realtime)
      (multiThreaded : c''.processSettings.multiThreaded = c'.processSettings.multiThreaded) :
      Tends c c''
  | work {c' : CoordinatorImp} (tends : Tends c c') (i : ObserverId)
      {f : ReplayObserver → ReplayObserver} (work : ObserverWork f) : Tends c (c'.onObserver i f)

theorem Tends.trans (h : c.Tends c') (h' : c'.Tends c'') : c.Tends c'' := by
  induction h' with
  | refl => exact h
  | settings _ hagentOf hobserverOf hagents hobservers hrealtime hmulti ih =>
    exact .settings ih hagentOf hobserverOf hagents hobservers hrealtime hmulti
  | work _ i hwork ih => exact .work ih i hwork

theorem Tends.control (h : c.Tends c') (i : ObserverId) (f : Control → Control) :
    c.Tends (c'.onControl (.observer i) f) := .work h i (.control f)

theorem Tends.foldl {f : CoordinatorImp → ObserverId → CoordinatorImp}
    (hf : ∀ (c : CoordinatorImp) i, c.Tends (f c i)) (is : List ObserverId) :
    c.Tends (is.foldl f c) := by
  induction is generalizing c with
  | nil => exact .refl
  | cons i is ih => exact (hf c i).trans ih

theorem tends_launchProcess (i : ObserverId) (port : Int32) :
    c.Tends (c.launchProcess (.observer i) port) := by
  unfold launchProcess
  dsimp only
  refine Tends.control ?_ i _
  exact .settings .refl rfl rfl rfl rfl rfl rfl

theorem tends_attachClients (is : List ObserverId) (connected : Bool) :
    c.Tends (c.attachClients (is.map .observer) connected).2 := by
  induction is generalizing c connected with
  | nil => exact .refl
  | cons i is ih => exact (Tends.refl.control i _).trans (ih _)

theorem tends_launchEach (is : List ObserverId) (lastPort : Int32) :
    c.Tends (c.launchEach (is.map .observer) lastPort).2 := by
  induction is generalizing c lastPort with
  | nil => exact .refl
  | cons i is ih =>
    simp only [List.map_cons, launchEach]
    exact (tends_launchProcess i _).trans (ih _)

theorem tends_relaunch (i : ObserverId) : c.Tends (c.relaunch i).2 := by
  have hkilled : c.Tends (c.onControl (.observer i) (·.terminateProcess.2)) :=
    Tends.refl.control i _
  have hlaunched := (hkilled.work i .reset).trans (tends_launchProcess i (c.lastPort + 1))
  unfold relaunch
  dsimp only
  refine Tends.control ?_ i _
  exact hlaunched.settings rfl rfl rfl rfl rfl rfl

theorem tends_shouldIgnore (i : ObserverId) (file : String) :
    c.Tends (c.shouldIgnore i file).2 := by
  unfold shouldIgnore
  split
  · exact .refl
  · exact (Tends.refl.work i (.gatherReplayInfo file)).settings rfl rfl rfl rfl rfl rfl

theorem tends_shouldRelaunch (i : ObserverId) : c.Tends (c.shouldRelaunch i).2 := by
  unfold shouldRelaunch
  dsimp only
  split
  · exact .refl
  · split
    · exact .settings .refl rfl rfl rfl rfl rfl rfl
    · dsimp only
      refine Tends.control ?_ i _
      exact .settings .refl rfl rfl rfl rfl rfl rfl

theorem tends_startReplayFrom (i : ObserverId) (n : Nat) : c.Tends (startReplayFrom i n c) := by
  induction n generalizing c with
  | zero => exact .refl
  | succ n ih =>
    have hrest {c' : CoordinatorImp} (h : c.Tends c') (files : List String) :
        c.Tends (startReplayFrom i n { c' with replaySettings := ⟨files⟩ }) := by
      have hfiles : c.Tends { c' with replaySettings := ⟨files⟩ } :=
        h.settings rfl rfl rfl rfl rfl rfl
      exact hfiles.trans ih
    unfold startReplayFrom
    dsimp only
    split
    · exact .refl
    next file hfile =>
      have hignore := tends_shouldIgnore (c := c) i file
      split
      · exact hrest hignore _
      · have hversion := hignore.trans (tends_shouldRelaunch i)
        split
        · exact hversion
        · have hload := hversion.work i (.control fun k => (k.sendRequest .startReplay).2)
          split
          · exact hload.settings rfl rfl rfl rfl rfl rfl
          · exact hrest hload _

theorem tends_startReplay : c.Tends c.startReplay := by
  have hlaunch : c.Tends (if !c.starcraftStarted then
      { (c.launchProcesses (c.replayObservers.map .observer)).2 with
        lastPort := (c.launchProcesses (c.replayObservers.map .observer)).1 }
      else c) := by
    split
    · exact ((tends_launchEach _ _).trans (tends_attachClients _ _)).settings
        rfl rfl rfl rfl rfl rfl
    · exact .refl
  unfold startReplay
  dsimp only
  split
  · exact .refl
  · refine (hlaunch.trans (Tends.foldl (f := startReplayOn) (fun c i => ?_) _)).settings
      rfl rfl rfl rfl rfl rfl
    unfold startReplayOn
    dsimp only
    split
    · exact .refl
    · exact (Tends.refl.control i _).trans (tends_startReplayFrom i _)

theorem tends_recoverObservers (is : List ObserverId) (flags : Bool × Bool) :
    c.Tends (c.recoverObservers is flags).2 := by
  induction is generalizing c flags with
  | nil => exact .refl
  | cons i is ih =>
    obtain ⟨errorOccurred, relaunched⟩ := flags
    have htold : c.Tends (c.onObserver i (·.callback .onError)) := .work .refl i .onError
    unfold recoverObservers
    dsimp only
    split
    · exact ih _
    · split
      · exact htold.trans (ih _)
      · split
        · exact (htold.trans (tends_relaunch i)).trans (ih _)
        · exact (htold.trans (tends_relaunch i)).trans (ih _)

/-! ## Replay observers -/

/-- What working on observers leaves alone. -/
structure SameAgents (c c' : CoordinatorImp) : Prop where
  agentOf : c'.agentOf = c.agentOf
  agents : c'.agents = c.agents
  realtime : c'.processSettings.realtime = c.processSettings.realtime
  multiThreaded : c'.processSettings.multiThreaded = c.processSettings.multiThreaded

theorem SameAgents.refl (c : CoordinatorImp) : c.SameAgents c := ⟨rfl, rfl, rfl, rfl⟩

theorem SameAgents.trans (h : c.SameAgents c') (h' : c'.SameAgents c'') : c.SameAgents c'' :=
  ⟨h'.1.trans h.1, h'.2.trans h.2, h'.3.trans h.3, h'.4.trans h.4⟩

theorem Tends.sameAgents (h : c.Tends c') : c.SameAgents c' := by
  induction h with
  | refl => exact .refl c
  | settings _ hagentOf _ hagents _ hrealtime hmulti ih =>
    exact ih.trans ⟨hagentOf, hagents, hrealtime, hmulti⟩
  | work _ i _ ih => exact ih.trans ⟨rfl, rfl, rfl, rfl⟩

theorem sameAgents_onObserver (i : ObserverId) (f : ReplayObserver → ReplayObserver) :
    c.SameAgents (c.onObserver i f) := ⟨rfl, rfl, rfl, rfl⟩

theorem sameAgents_foldl {f : CoordinatorImp → ObserverId → CoordinatorImp}
    (hf : ∀ (c : CoordinatorImp) i, c.SameAgents (f c i)) (is : List ObserverId) :
    c.SameAgents (is.foldl f c) := by
  induction is generalizing c with
  | nil => exact .refl c
  | cons i is ih => exact (hf c i).trans ih

theorem observerOf_foldl (is : List ObserverId) (f : ReplayObserver → ReplayObserver)
    (i : ObserverId) : (is.foldl (fun c i => c.onObserver i f) c).observerOf i =
      (fun r => (f r).drained)^[is.count i] (c.observerOf i) := by
  induction is generalizing c with
  | nil => rfl
  | cons j is ih =>
    rw [List.foldl_cons, ih]
    by_cases hj : j = i
    · subst hj
      rw [List.count_cons_self, Function.iterate_succ_apply, observerOf_onObserver_self]
      rfl
    · rw [List.count_cons_of_ne hj, observerOf_onObserver_of_ne _ _ _ (Ne.symm hj)]

theorem settings_forObservers (f : ReplayObserver → ReplayObserver) :
    (c.forObservers f).processSettings = c.processSettings ∧
      (c.forObservers f).replayObservers = c.replayObservers := by
  have hfold (is : List ObserverId) (c : CoordinatorImp) :
      (is.foldl (fun c i => c.onObserver i f) c).processSettings = c.processSettings ∧
        (is.foldl (fun c i => c.onObserver i f) c).replayObservers = c.replayObservers := by
    induction is generalizing c with
    | nil => exact ⟨rfl, rfl⟩
    | cons i is ih => exact ih _
  exact hfold _ _

theorem sameAgents_forObservers (f : ReplayObserver → ReplayObserver) :
    c.SameAgents (c.forObservers f) :=
  sameAgents_foldl (fun _ i => sameAgents_onObserver i f) _

theorem sameAgents_updateObservers : c.SameAgents c.updateObservers := by
  unfold updateObservers
  split
  · exact .refl c
  · split
    · unfold stepReplayObserversRealtime
      dsimp only
      split
      · exact (sameAgents_forObservers _).trans (sameAgents_forObservers _)
      · exact sameAgents_forObservers _
    · unfold stepReplayObservers
      dsimp only
      split
      · exact (sameAgents_forObservers _).trans (sameAgents_forObservers _)
      · exact sameAgents_forObservers _

theorem sameAgents_updateClients : c.updateAgents.SameAgents c.updateClients := by
  unfold updateClients
  dsimp only
  split
  · exact sameAgents_updateObservers.trans tends_startReplay.sameAgents
  · exact sameAgents_updateObservers

/-- The end of an update, after the agents with errors were told. -/
theorem tends_checkErrors (c : CoordinatorImp) : Tends
    (c.updateClients.failedAgents.foldl (fun c i => c.onAgent i (·.callback .onError))
      c.updateClients) c.update.2 :=
  tends_recoverObservers _ _

/-- An update, seen from one agent: its steps, and perhaps `OnError`. -/
theorem agentOf_update (i : AgentId) : c.update.2.agentOf i =
    (fun a => (a.callback .onError).drained)^[c.updateClients.failedAgents.count i]
      (c.updateAgents.agentOf i) := by
  have hclients := sameAgents_updateClients (c := c)
  have hrecover := c.tends_checkErrors.sameAgents
  refine (congrFun hrecover.agentOf i).trans ?_
  rw [agentOf_foldl, hclients.agentOf]

theorem sameSettings_update : c.update.2.agents = c.agents ∧
    c.update.2.processSettings.realtime = c.processSettings.realtime ∧
    c.update.2.processSettings.multiThreaded = c.processSettings.multiThreaded := by
  have hagents := sameObservers_updateAgents (c := c)
  have hclients := sameAgents_updateClients (c := c)
  have hfailed := sameObservers_foldl (c := c.updateClients) c.updateClients.failedAgents
    (·.callback .onError)
  have hrecover := c.tends_checkErrors.sameAgents
  refine ⟨?_, ?_, ?_⟩
  · exact hrecover.agents.trans (hfailed.agents.trans (hclients.agents.trans hagents.agents))
  · exact hrecover.realtime.trans ((congrArg ProcessSettings.realtime
      hfailed.processSettings).trans (hclients.realtime.trans
      (congrArg ProcessSettings.realtime hagents.processSettings)))
  · exact hrecover.multiThreaded.trans ((congrArg ProcessSettings.multiThreaded
      hfailed.processSettings).trans (hclients.multiThreaded.trans
      (congrArg ProcessSettings.multiThreaded hagents.processSettings)))

end CoordinatorImp

end Sc2Api
