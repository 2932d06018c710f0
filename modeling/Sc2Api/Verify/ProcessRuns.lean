import Sc2Api.Verify.Launching

/-!
# Runs of a coordinator and its processes

Every operation of a coordinator keeps it sound as long as the clients that it
lets work have been given a process; from this follows the ledger of a whole run.
-/

namespace Sc2Api

open Lib

namespace CoordinatorImp

variable {c : CoordinatorImp}

/-! ## Replays -/

/-- The observer has a process to be replaced; `Reset` forgets it, and the launch gives
it another. -/
theorem keeps_relaunch (h : c.Sound) {i : ObserverId} (hi : c.Assigned (.observer i)) :
    c.Keeps (c.relaunch i).2 := by
  have hkill := keeps_onControl h hi (·.terminateProcess.2)
    Control.terminateProcess_waits.toWorks
  let killed := c.onControl (.observer i) (·.terminateProcess.2)
  have ht := touches_onObserver (c := killed) i (·.reset)
  have hreset : (killed.onObserver i (·.reset)).Sound :=
    hkill.sound.touches ht (hkill.sound.spared (.observer i)) (fun info hinfo => by cases hinfo)
      (.inr (hkill.sound.drained (.observer i)))
  obtain ⟨hlaunch, hi'⟩ := keeps_launchProcess hreset (.observer i) (c.lastPort + 1)
  let launched := (killed.onObserver i (·.reset)).launchProcess (.observer i) (c.lastPort + 1)
  have hport : launched.Keeps { launched with lastPort := c.lastPort + 1 } :=
    hlaunch.sound.keeps rfl rfl rfl rfl rfl rfl rfl
  have hconnect := hport.trans (keeps_onControl hport.sound (hport.assigned _ hi')
    (fun k => (k.connect launched.processSettings.timeoutMs).2) (Control.connect_works _))
  have hassigned (other : ClientId) (hother : c.Assigned other) :
      (c.relaunch i).2.Assigned other := by
    by_cases heq : other = .observer i
    · exact heq ▸ hconnect.assigned _ hi'
    · refine hconnect.assigned _ (hlaunch.assigned _ ?_)
      unfold Assigned
      rw [ht.others other heq]
      exact hkill.assigned _ hother
  refine ⟨hconnect.sound, ?_, ?_, hassigned, fun j hj => ?_⟩
  · exact hconnect.agents.trans (hlaunch.agents.trans hkill.agents)
  · exact hconnect.replayObservers.trans (hlaunch.replayObservers.trans hkill.replayObservers)
  · by_cases heq : j = i
    · subst heq
      exact .inl (hassigned _ hi)
    · refine hconnect.placed _ (hlaunch.placed _ ((hkill.placed _ hj).imp ?_ ?_))
      · unfold Assigned
        rw [ht.others _ (fun h => heq (ClientId.observer.inj h))]
        exact id
      · rw [observerOf_onObserver_of_ne _ _ _ heq]
        exact id

theorem keeps_recoverObservers (h : c.Sound) {is : List ObserverId}
    (his : ∀ i ∈ is, c.Placed i) (flags : Bool × Bool) :
    c.Keeps (c.recoverObservers is flags).2 := by
  induction is generalizing c flags with
  | nil => exact .refl h
  | cons i is ih =>
    have hrest {c' : CoordinatorImp} (hkeeps : c.Keeps c') (flags' : Bool × Bool) :
        c.Keeps (c'.recoverObservers is flags').2 :=
      hkeeps.trans (ih hkeeps.sound (fun j hj =>
        hkeeps.placed j (his j (List.mem_cons_of_mem _ hj))) flags')
    obtain ⟨errorOccurred, relaunched⟩ := flags
    unfold recoverObservers
    dsimp only
    split
    · exact hrest (.refl h) _
    next herrors =>
      -- an observer with errors has something to do
      have hi : c.Assigned (.observer i) :=
        (his i List.mem_cons_self).resolve_right fun hidle => herrors hidle.clientErrors
      have hcallback := keeps_onAssigned h hi (·.callback .onError)
        (ReplayObserver.callback_talks _ _).works
      split
      · exact hrest hcallback _
      · have hrelaunch := hcallback.trans
          (keeps_relaunch hcallback.sound (hcallback.assigned _ hi))
        split
        · exact hrest hrelaunch _
        · exact hrest hrelaunch _

theorem keeps_shouldIgnore (h : c.Sound) {i : ObserverId} (hi : c.Assigned (.observer i))
    (file : String) : c.Keeps (c.shouldIgnore i file).2 := by
  unfold shouldIgnore
  split
  · exact .refl h
  · have hgather := keeps_onAssigned h hi (fun r => (r.gatherReplayInfo file).2)
      (ReplayObserver.gatherReplayInfo_talks _ _).works
    exact hgather.trans (hgather.sound.keeps rfl rfl rfl rfl rfl rfl rfl)

theorem keeps_shouldRelaunch (h : c.Sound) {i : ObserverId} (hi : c.Assigned (.observer i)) :
    c.Keeps (c.shouldRelaunch i).2 := by
  unfold shouldRelaunch
  dsimp only
  split
  · exact .refl h
  · split
    · exact h.keeps rfl rfl rfl rfl rfl rfl rfl
    next path hpath =>
      let found : CoordinatorImp := { c with
        world := { c.world with baseExes := c.world.baseExes.tail }
        processSettings := { c.processSettings with
          processPath := path, dataVersion := (c.observerOf i).replayInfo.dataVersion } }
      have hfound : c.Keeps found := h.keeps rfl rfl rfl rfl rfl rfl rfl
      exact hfound.trans (keeps_onControl hfound.sound (hfound.assigned _ hi)
        (·.error .wrongGameVersion) (Control.error_waits _ _).toWorks)

theorem keeps_setReplays (h : c.Sound) (files : List String) :
    c.Keeps { c with replaySettings := ⟨files⟩ } := h.keeps rfl rfl rfl rfl rfl rfl rfl

theorem keeps_startReplayFrom (h : c.Sound) {i : ObserverId} (hi : c.Assigned (.observer i))
    (n : Nat) : c.Keeps (startReplayFrom i n c) := by
  induction n generalizing c with
  | zero => exact .refl h
  | succ n ih =>
    have hrest {c' c'' : CoordinatorImp} (hkeeps : c.Keeps c') (hkeeps' : c'.Keeps c'') :
        c.Keeps (startReplayFrom i n c'') :=
      (hkeeps.trans hkeeps').trans
        (ih hkeeps'.sound (hkeeps'.assigned _ (hkeeps.assigned _ hi)))
    unfold startReplayFrom
    dsimp only
    split
    · exact .refl h
    next file hfile =>
      have hignore := keeps_shouldIgnore h hi file
      split
      · exact hrest hignore (keeps_setReplays hignore.sound _)
      · have hi' := hignore.assigned _ hi
        have hversion := hignore.trans (keeps_shouldRelaunch hignore.sound hi')
        split
        · exact hversion
        · have hload := hversion.trans (keeps_onAssigned hversion.sound
            (hversion.assigned _ hi) (·.loadReplay.2) (Control.sendRequest_works .startReplay))
          split
          · exact hload.trans (keeps_setReplays hload.sound _)
          · exact hrest hload (keeps_setReplays hload.sound _)

theorem keeps_startReplayOn (h : c.Sound) {i : ObserverId} (hi : c.Placed i) :
    c.Keeps (c.startReplayOn i) := by
  unfold startReplayOn
  dsimp only
  split
  · exact .refl h
  next hready =>
    -- an observer that was never connected is not ready
    have hi' : c.Assigned (.observer i) := by
      refine hi.resolve_right fun hidle => hready ?_
      simp [Control.isReadyForCreateGame, hidle.appState, hidle.hasResponsePending,
        hidle.latestStatus]
    have huse := keeps_onControl h hi' (·.useGeneralizedAbility c.useGeneralizedAbilityId)
      (Control.works_of_eq rfl rfl rfl)
    exact huse.trans (keeps_startReplayFrom huse.sound (huse.assigned _ hi') _)

theorem keeps_startReplay (h : c.Sound) (hobservers : c.ObserversPlaced) :
    c.Keeps c.startReplay := by
  have hlaunch : c.Keeps (if !c.starcraftStarted then
      { (c.launchProcesses (c.replayObservers.map .observer)).2 with
        lastPort := (c.launchProcesses (c.replayObservers.map .observer)).1 }
      else c) := by
    split
    · have hlaunch := keeps_launchProcesses h (c.replayObservers.map .observer)
      exact hlaunch.trans (hlaunch.sound.keeps rfl rfl rfl rfl rfl rfl rfl)
    · exact .refl h
  unfold startReplay
  dsimp only
  split
  · exact .refl h
  · have hstart := hlaunch.trans (keeps_foldl (P := Placed) (f := startReplayOn)
      (fun _ _ hc hi => keeps_startReplayOn hc hi) (fun _ _ i hkeeps hi => hkeeps.placed i hi)
      hlaunch.sound (hobservers.keeps hlaunch))
    exact hstart.trans (hstart.sound.keeps rfl rfl rfl rfl rfl rfl rfl)

/-! ## Update -/

theorem keeps_stepAgents (h : c.Sound) (hagents : c.AgentsAssigned) : c.Keeps c.stepAgents := by
  have hstep := keeps_forAgents h hagents (stepAgent_works c.processSettings)
  unfold stepAgents
  dsimp only
  split
  · exact hstep.trans (keeps_forAgents hstep.sound (hagents.keeps hstep) callAgent_works)
  · exact hstep

theorem keeps_stepReplayObservers (h : c.Sound) (hobservers : c.ObserversPlaced) :
    c.Keeps c.stepReplayObservers := by
  have hrun := keeps_forObservers h hobservers
    (runReplay_works c.processSettings (1 < c.replayObservers.length)) fun r hidle => by
      rw [runReplay_of_idle hidle]
      exact ⟨hidle, rfl⟩
  unfold stepReplayObservers
  dsimp only
  split
  · exact hrun.trans (keeps_forObservers hrun.sound (hobservers.keeps hrun) callObserver_works
      fun r hidle => callObserver_of_idle hidle)
  · exact hrun

theorem keeps_stepReplayObserversRealtime (h : c.Sound) (hobservers : c.ObserversPlaced) :
    c.Keeps c.stepReplayObserversRealtime := by
  have hrun := keeps_forObservers h hobservers
    (runReplayRealtime_works c.processSettings (1 < c.replayObservers.length)) fun r hidle => by
      rw [runReplayRealtime_of_idle hidle]
      exact ⟨hidle, rfl⟩
  unfold stepReplayObserversRealtime
  dsimp only
  split
  · exact hrun.trans (keeps_forObservers hrun.sound (hobservers.keeps hrun)
      callObserverRealtime_works fun r hidle => callObserverRealtime_of_idle hidle)
  · exact hrun

theorem keeps_updateAgents (h : c.Sound) (hagents : c.AgentsAssigned) :
    c.Keeps c.updateAgents := by
  unfold updateAgents
  split
  · exact .refl h
  · split
    · exact keeps_forAgents h hagents stepAgentRealtime_works
    · exact keeps_stepAgents h hagents

theorem keeps_updateObservers (h : c.Sound) (hobservers : c.ObserversPlaced) :
    c.Keeps c.updateObservers := by
  unfold updateObservers
  split
  · exact .refl h
  · split
    · exact keeps_stepReplayObserversRealtime h hobservers
    · exact keeps_stepReplayObservers h hobservers

theorem keeps_updateClients (h : c.Sound) (hagents : c.AgentsAssigned)
    (hobservers : c.ObserversPlaced) : c.Keeps c.updateClients := by
  have hstep := keeps_updateAgents h hagents
  have hboth := hstep.trans (keeps_updateObservers hstep.sound (hobservers.keeps hstep))
  unfold updateClients
  dsimp only
  split
  · exact hboth.trans (keeps_startReplay hboth.sound (hobservers.keeps hboth))
  · exact hboth

theorem keeps_failedAgents (h : c.Sound) (hagents : c.AgentsAssigned) (event : ClientEvent) :
    c.Keeps (c.failedAgents.foldl (fun c i => c.onAgent i (·.callback event)) c) :=
  keeps_agents h (fun i hi => hagents i (List.mem_filter.1 hi).1)
    fun a => (a.callback_talks event).works

theorem keeps_update (h : c.Sound) (hagents : c.AgentsAssigned)
    (hobservers : c.ObserversPlaced) : c.Keeps c.update.2 := by
  have hclients := keeps_updateClients h hagents hobservers
  have hfailed := hclients.trans
    (keeps_failedAgents hclients.sound (hagents.keeps hclients) .onError)
  exact hfailed.trans (keeps_recoverObservers hfailed.sound (hobservers.keeps hfailed) _)

/-! ## Starting and leaving games -/

theorem keeps_requestJoinGames (h : c.Sound) {agents : List AgentId}
    (hagents : ∀ i ∈ agents, c.Assigned (.agent i)) (n : Nat) :
    c.Keeps (c.requestJoinGames agents n).2 := by
  induction agents generalizing c n with
  | nil => exact .refl h
  | cons agent agents ih =>
    unfold requestJoinGames
    split
    · exact .refl h
    next setup hsetup =>
      have hrequest := keeps_onControl h (hagents agent List.mem_cons_self)
        (fun k => (k.requestJoinGame setup c.interfaceSettings c.gameSettings.ports).2.2)
        (Control.requestJoinGame_works _ _ _)
      dsimp only
      split
      · exact hrequest.trans (hrequest.sound.keeps rfl rfl rfl rfl rfl rfl rfl)
      · exact hrequest.trans (ih hrequest.sound (fun i hi =>
          hrequest.assigned _ (hagents i (List.mem_cons_of_mem _ hi))) _)

theorem keeps_enterGame (h : c.Sound) (hagents : c.AgentsAssigned) : c.Keeps c.enterGame.2 := by
  have hforAgents {c' : CoordinatorImp} (hkeeps : c.Keeps c') {f : Agent → Agent}
      (hf : ∀ a : Agent, a.control.Works (f a).control) : c.Keeps (c'.forAgents f) :=
    hkeeps.trans (keeps_forAgents hkeeps.sound (hagents.keeps hkeeps) hf)
  have hwait := hforAgents (.refl h) (f := fun a =>
    { a with control := a.control.waitJoinGame.2 }) fun _ => Control.waitJoinGame_works
  have hfailed := hwait.trans (keeps_failedAgents hwait.sound (hagents.keeps hwait) .onError)
  have huse (value : Bool) := hforAgents hfailed (f := fun a =>
    { a with control := a.control.useGeneralizedAbility value })
    fun _ => Control.works_of_eq rfl rfl rfl
  unfold enterGame
  dsimp only
  split
  · exact huse _
  · have hobserve (value : Bool) := hforAgents (huse value) (f := fun a =>
      { a with control := a.control.getObservation.2 })
      fun _ => Control.getObservation_talks.works
    have hstart (value : Bool) := hforAgents (hforAgents (hobserve value)
      fun a => (a.callback_talks .onGameFullStart).works)
      fun a => (a.callback_talks .onGameStart).works
    exact hforAgents (hstart _) fun a => a.issueEvents_talks.works

theorem keeps_joinGame (h : c.Sound) (hagents : c.AgentsAssigned) : c.Keeps c.joinGame.2 := by
  have hrequest := keeps_requestJoinGames h hagents 0
  unfold joinGame
  dsimp only
  split
  · exact hrequest
  · exact hrequest.trans (keeps_enterGame hrequest.sound (hagents.keeps hrequest))

theorem keeps_createGame (h : c.Sound) (hagents : c.AgentsAssigned) :
    c.Keeps c.createGame.2 := by
  unfold createGame
  split
  · exact .refl h
  next first rest hfirst =>
    exact keeps_onControl h (hagents first (hfirst ▸ List.mem_cons_self)) (·.createGame.2)
      (Control.request_talks .createGame (by decide)).works

theorem keeps_startGame (h : c.Sound) (hagents : c.AgentsAssigned) : c.Keeps c.startGame.2 := by
  have hcreate := keeps_createGame h hagents
  unfold startGame
  dsimp only
  split
  · exact hcreate.trans (hcreate.sound.keeps rfl rfl rfl rfl rfl rfl rfl)
  · exact hcreate.trans (keeps_joinGame hcreate.sound (hagents.keeps hcreate))

/-! ## The end of a run -/

theorem ledger_terminations {f : Nat → ProcessInfo → ProcessCall}
    (hf : ∀ n info, ∃ done, f n info = .terminateProcess (some info.processId) done)
    (infos : List ProcessInfo) :
    List.Forall₂ (fun id entry => ∃ done, entry = .closed id done)
      (infos.map (some ·.processId)) (ledger (infos.mapIdx f)) := by
  induction infos generalizing f with
  | nil => exact .nil
  | cons info infos ih =>
    obtain ⟨done, hdone⟩ := hf 0 info
    have hrest := ih (f := fun n => f (n + 1)) fun n => hf (n + 1)
    have hledger : ledger ((info :: infos).mapIdx f) =
        .closed (some info.processId) done :: ledger (infos.mapIdx fun n => f (n + 1)) := by
      rw [List.mapIdx_cons, hdone]
      rfl
    rw [hledger]
    exact .cons ⟨done, rfl⟩ hrest

/-- The destructor terminates the processes that were started, one by one. -/
theorem Accounted.destroy (h : c.Accounted) (hfresh : Ledger.Fresh (ledger c.calls)) :
    Ledger.Honest (ledger c.destroy.calls) := by
  have hcalls : c.destroy.calls = c.calls ++ c.processSettings.processInfo.mapIdx fun n p =>
    .terminateProcess (some p.processId) (c.world.kills.get n) := rfl
  have hnodup : (started c.calls).Nodup := (h.lasting.nodup hfresh).1
  rw [← h.listed] at hnodup
  rw [hcalls, ledger_append]
  refine Ledger.all_append.2 ⟨h.honest, Ledger.all_permits_closed hnodup (fun id hid => ?_)
    (ledger_terminations (fun n info => ⟨_, rfl⟩) _)⟩
  exact Ledger.mem_foldl_after h.lasting (.inr (mem_started.1 (h.listed ▸ hid)))

end CoordinatorImp

/-! ## Runs -/

/-- No process is killed before the end, and every process that is to be started is. -/
structure Worlds.Kind (worlds : Worlds) : Prop where
  starts : ∀ n, (worlds.coordinator.starts.get n).2 = true
  agents : ∀ i n, (worlds.agents i).kills.get n = false
  observers : ∀ i n, (worlds.observers i).kills.get n = false

theorem CoordinatorImp.Accounted.inWorlds {c : CoordinatorImp} (h : c.Accounted)
    {worlds : Worlds} (hworlds : worlds.Kind) : (c.inWorlds worlds).Sound := by
  have hinfo (client : ClientId) :
      ((c.inWorlds worlds).control client).processInfo = (c.control client).processInfo := by
    cases client <;> rfl
  have hcalls (client : ClientId) :
      ((c.inWorlds worlds).control client).calls = (c.control client).calls := by
    cases client <;> rfl
  refine ⟨⟨h.honest, h.lasting, h.listed, fun client info hsome => ?_, fun client => ?_⟩,
    fun client => ?_, hworlds.starts⟩
  · exact h.assigned client info ((hinfo client).symm.trans hsome)
  · exact (hcalls client).trans (h.drained client)
  · cases client with
    | agent i => exact hworlds.agents i
    | observer i => exact hworlds.observers i

namespace CoordinatorCall

/-- The clients that the call lets work have been given their processes by
`LaunchProcess`, and `Connect` has nothing to fill up. -/
def KeepsToOwn (c : CoordinatorImp) : CoordinatorCall → Prop
  | connect _ => c.agents.length ≤ c.processSettings.processInfo.length ∧ c.AgentsAssigned
  | createGame | joinGame | startGame | leaveGame => c.AgentsAssigned
  | update => c.AgentsAssigned ∧ c.ObserversPlaced
  | clientCall client _ => c.Assigned client
  | _ => True

instance decidableKeepsToOwn (c : CoordinatorImp) :
    ∀ call : CoordinatorCall, Decidable (call.KeepsToOwn c)
  | connect _ => inferInstanceAs (Decidable (_ ∧ _))
  | createGame | joinGame | startGame | leaveGame =>
    inferInstanceAs (Decidable c.AgentsAssigned)
  | update => inferInstanceAs (Decidable (_ ∧ _))
  | clientCall client _ => inferInstanceAs (Decidable (c.Assigned client))
  | setParticipants _ | addReplayObserver _ | configure _ | setInterfaceSettings _
  | setReplays _ | setReplayRecovery _ | setUseGeneralizedAbilityId _ | launchStarcraft
  | destroy => isTrue trivial

variable {c : CoordinatorImp}

theorem addParticipants_sound (participants : List PlayerSetup) (h : c.Sound) :
    (c.addParticipants participants).Sound := by
  unfold CoordinatorImp.addParticipants
  induction participants generalizing c with
  | nil => exact h
  | cons p participants ih =>
    refine ih (h.congr ?_ ?_ ?_ ?_ ?_)
    all_goals dsimp only; split <;> rfl

theorem run_sound (call : CoordinatorCall) (hcall : call ≠ destroy) (h : c.Sound)
    (hown : call.KeepsToOwn c) : (call.run c).Sound := by
  cases call with
  | setParticipants participants =>
    exact addParticipants_sound participants (h.congr rfl rfl rfl rfl rfl)
  | addReplayObserver observer => exact h.congr rfl rfl rfl rfl rfl
  | configure settings => exact h.congr rfl rfl rfl rfl rfl
  | setInterfaceSettings settings => exact h.congr rfl rfl rfl rfl rfl
  | setReplays files => exact h.congr rfl rfl rfl rfl rfl
  | setReplayRecovery value => exact h.congr rfl rfl rfl rfl rfl
  | setUseGeneralizedAbilityId value => exact h.congr rfl rfl rfl rfl rfl
  | launchStarcraft => exact (CoordinatorImp.keeps_launchStarcraft h).sound
  | connect port => exact (CoordinatorImp.keeps_connect h hown.1 hown.2 port).sound
  | createGame => exact (CoordinatorImp.keeps_createGame h hown).sound
  | joinGame => exact (CoordinatorImp.keeps_joinGame h hown).sound
  | startGame => exact (CoordinatorImp.keeps_startGame h hown).sound
  | leaveGame =>
    exact (CoordinatorImp.keeps_forAgents h hown fun _ =>
      Control.requestLeaveGame_works).sound
  | update => exact (CoordinatorImp.keeps_update h hown.1 hown.2).sound
  | clientCall client call =>
    exact (CoordinatorImp.keeps_onControl h hown call.run (call.run_works _)).sound
  | destroy => exact absurd rfl hcall

end CoordinatorCall

/-- In a run that keeps to its own processes, every id given to `IsProcessRunning` or
`TerminateProcess` is that of a process that was started and not terminated yet. The
operating system gives no two living processes one id. -/
theorem process_calls_honest (inputs : List (Worlds × CoordinatorCall))
    (hsystem : coordinatorMachine.Along (fun c _ => Ledger.Fresh (ledger c.calls)) {} inputs)
    (h : coordinatorMachine.Along (fun c input => input.1.Kind ∧
      input.2.KeepsToOwn (c.inWorlds input.1)) {} inputs) :
    Ledger.Honest (ledger (coordinatorMachine.final {} inputs).calls) := by
  have hstart : ({} : CoordinatorImp).Accounted := by
    refine ⟨trivial, by simp [Ledger.Lasting, ledger], rfl, fun client info hinfo => ?_,
      fun client => ?_⟩
    · cases client <;> cases hinfo
    · cases client <;> rfl
  refine (Machine.invariant (I := fun c => Ledger.Honest (ledger c.calls) ∧
    (c.exited = false → c.Accounted)) (fun c input hc hinput => ?_)
    ⟨hstart.honest, fun _ => hstart⟩ (hsystem.and h)).1
  obtain ⟨hfresh, hworlds, hown⟩ := hinput
  unfold coordinatorMachine
  dsimp only
  split
  · exact hc
  next hexited =>
    have hsound := (hc.2 (Bool.eq_false_of_not_eq_true hexited)).inWorlds hworlds
    by_cases hcall : input.2 = .destroy
    · rw [hcall]
      exact ⟨hsound.toAccounted.destroy hfresh, fun hnot => by cases hnot⟩
    · have hrun := input.2.run_sound hcall hsound hown
      exact ⟨hrun.honest, fun _ => hrun.toAccounted⟩

/-- One agent, whose game answers everything; a process that is started gets the id
`4711`, and is killed in the end. -/
def oneAgentWorlds (answered killed : Bool) : Worlds where
  coordinator := { starts := .const (4711, true) }
  agents _ := {
    deliveries := .const { waiting := if answered then [.answer {}] else [] }
    kills := .const killed }

def oneAgent : List PlayerSetup := [{ type := .participant, agent := some 0 }]

theorem process_calls_honest_launched :
    Ledger.Honest (ledger (coordinatorMachine.final {}
      [(oneAgentWorlds true false, .setParticipants oneAgent),
        (oneAgentWorlds true false, .launchStarcraft),
        (oneAgentWorlds false false, .clientCall (.agent 0) .save),
        (oneAgentWorlds true false, .update),
        (oneAgentWorlds true false, .destroy)]).calls) := by
  have hkind (answered : Bool) : (oneAgentWorlds answered false).Kind :=
    ⟨fun _ => rfl, fun _ _ => rfl, fun _ _ => rfl⟩
  refine process_calls_honest _ (by decide +kernel) (Machine.Along.and
    (Machine.along_of_mem (P := fun input : Worlds × CoordinatorCall => input.1.Kind)
      (fun input hinput => ?_) _)
    (by decide +kernel))
  simp only [List.mem_cons, List.not_mem_nil, or_false] at hinput
  rcases hinput with rfl | rfl | rfl | rfl | rfl <;> exact hkind _

/-- `Connect` lists a process with the id `0` that nobody started, and a process that
was killed when it hung is asked after again; both are terminated in the end. -/
theorem process_calls_not_honest : [
    [(oneAgentWorlds true false, CoordinatorCall.setParticipants oneAgent),
      (oneAgentWorlds true false, .connect 5000),
      (oneAgentWorlds true false, .destroy)],
    [(oneAgentWorlds true false, .setParticipants oneAgent),
      (oneAgentWorlds true false, .launchStarcraft),
      (oneAgentWorlds false true, .clientCall (.agent 0) .save),
      (oneAgentWorlds true false, .destroy)]].Forall fun inputs =>
    Ledger.Fresh (ledger (coordinatorMachine.final {} inputs).calls) ∧
      ¬ Ledger.Honest (ledger (coordinatorMachine.final {} inputs).calls) := by
  refine List.forall_iff_forall_mem.2 fun inputs hinputs => ?_
  rcases List.mem_cons.1 hinputs with rfl | hinputs
  · decide +kernel
  · rw [List.mem_singleton.1 hinputs]
    decide +kernel

end Sc2Api
