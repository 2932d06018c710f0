import Sc2Api.Verify.Keeping

/-!
# Starting processes

Launching and attaching keep a coordinator sound, and so do observers that have
nothing to do.
-/

namespace Sc2Api

open Lib

/-! ## Observers with nothing to do -/

namespace ReplayObserver

variable {r : ReplayObserver}

theorem Idle.isInGame (h : r.Idle) : r.control.isInGame = false := by
  simp [Control.isInGame, h.latestStatus]

theorem Idle.hasResponsePending (h : r.Idle) : r.control.hasResponsePending = false := by
  simp [Control.hasResponsePending, ProtoInterface.hasResponsePending, h.responsePending]

theorem Idle.issueEvents (h : r.Idle) : r.issueEvents.2.Idle ∧
    r.issueEvents.2.control.calls = r.control.calls := by
  have hnone (order : UnitPool.Order) :
      r.control.imp.issueEvents order [] = (false, [], r.control.imp) := if_pos h.gameLoop
  unfold ReplayObserver.issueEvents
  dsimp only
  rw [hnone]
  exact ⟨⟨h.appState, h.responsePending, h.latestStatus, h.clientErrors, h.gameLoop, h.request⟩,
    rfl⟩

end ReplayObserver

namespace CoordinatorImp

variable {c : CoordinatorImp} {r : ReplayObserver}

theorem runReplay_of_idle (h : r.Idle) (settings : ProcessSettings) (several : Bool) :
    runReplay settings several r = r := by
  simp [runReplay, awaitReplay, h.appState, h.hasResponsePending, h.isInGame]

theorem runReplayRealtime_of_idle (h : r.Idle) (settings : ProcessSettings) (several : Bool) :
    runReplayRealtime settings several r = r := by
  simp [runReplayRealtime, awaitReplay, h.appState, h.hasResponsePending, h.isInGame]

theorem callObserverRealtime_of_idle (h : r.Idle) : (callObserverRealtime r).Idle ∧
    (callObserverRealtime r).control.calls = r.control.calls := by
  unfold callObserverRealtime
  rw [if_neg (not_not_intro h.appState)]
  exact h.issueEvents

theorem callObserver_of_idle (h : r.Idle) : (callObserver r).Idle ∧
    (callObserver r).control.calls = r.control.calls := by
  obtain ⟨hidle, hcalls⟩ := h.issueEvents
  have hsend : r.issueEvents.2.sendActions = r.issueEvents.2 := by
    simp [ReplayObserver.sendActions, hidle.request]
  unfold callObserver
  rw [if_neg (not_not_intro h.appState), hsend]
  exact ⟨hidle, hcalls⟩

/-! ## Starting processes -/

theorem Sound.start (h : c.Sound) (info : ProcessInfo) :
    ({ c with
      world := { c.world with starts := c.world.starts.tail }
      processSettings := { c.processSettings with
        processInfo := c.processSettings.processInfo ++ [info] }
      calls := c.calls ++ [.startProcess info.processId true] } : CoordinatorImp).Sound := by
  have hstarted : started (c.calls ++ [.startProcess info.processId true]) =
      started c.calls ++ [some info.processId] := started_append _ _
  refine ⟨⟨?_, ?_, ?_, fun client old hold => ?_, h.drained⟩, h.spared, fun n => h.starts (n + 1)⟩
  · rw [ledger_append]
    exact Ledger.all_append.2 ⟨h.honest, trivial, trivial⟩
  · rw [ledger_append]
    intro id hid
    rcases List.mem_append.1 hid with hid | hid
    · exact h.lasting id hid
    · cases List.mem_singleton.1 hid
  · rw [hstarted, List.map_append, h.listed]
    rfl
  · rw [hstarted]
    exact List.mem_append_left _ (h.assigned client old hold)

theorem keeps_launchProcess (h : c.Sound) (client : ClientId) (port : Int32) :
    c.Keeps (c.launchProcess client port) ∧ (c.launchProcess client port).Assigned client := by
  obtain ⟨id, hid⟩ : ∃ id, c.world.starts.head = (id, true) := ⟨_, Prod.ext rfl (h.starts 0)⟩
  let info : ProcessInfo := ⟨c.processSettings.processPath, id, port⟩
  let begun : CoordinatorImp := { c with
    world := { c.world with starts := c.world.starts.tail }
    processSettings := { c.processSettings with
      processInfo := c.processSettings.processInfo ++ [info] }
    calls := c.calls ++ [.startProcess id true] }
  have hlaunch : c.launchProcess client port = begun.onControl client (·.setProcessInfo info) := by
    unfold launchProcess
    rw [hid]
  have hbegun : begun.Sound := h.start info
  have ht := touches_onControl (c := begun) client (·.setProcessInfo info)
  have hclient : (begun.onControl client (·.setProcessInfo info)).Assigned client := by
    unfold Assigned
    rw [ht.control]
    rfl
  have hassigned (other : ClientId) (hother : c.Assigned other) :
      (begun.onControl client (·.setProcessInfo info)).Assigned other := by
    by_cases heq : other = client
    · exact heq ▸ hclient
    · unfold Assigned
      rw [ht.others other heq]
      exact hother
  rw [hlaunch]
  refine ⟨⟨?_, ?_, ?_, hassigned, fun j hj => ?_⟩, hclient⟩
  · refine hbegun.touches ht (hbegun.spared client) (fun info' hinfo' => ?_)
      (.inr (hbegun.drained client))
    cases hinfo'
    have hstarted : started begun.calls = started c.calls ++ [some id] := started_append _ _
    rw [hstarted]
    exact List.mem_append_right _ List.mem_cons_self
  · cases client <;> rfl
  · cases client <;> rfl
  · cases client with
    | agent i => exact hj.imp_left (hassigned _)
    | observer i =>
      by_cases heq : j = i
      · exact .inl (heq ▸ hclient)
      · refine hj.imp (hassigned _) fun hidle => ?_
        unfold onControl
        dsimp only
        rw [observerOf_onObserver_of_ne _ _ _ heq]
        exact hidle

theorem keeps_attachClients (h : c.Sound) {clients : List ClientId}
    (hclients : ∀ client ∈ clients, c.Assigned client) (connected : Bool) :
    c.Keeps (c.attachClients clients connected).2 := by
  induction clients generalizing c connected with
  | nil => exact .refl h
  | cons client clients ih =>
    have hfirst := keeps_onControl h (hclients client List.mem_cons_self)
      (fun k => (k.connect c.processSettings.timeoutMs).2) (Control.connect_works _)
    exact hfirst.trans (ih hfirst.sound (fun other hother =>
      hfirst.assigned other (hclients other (List.mem_cons_of_mem _ hother))) _)

theorem keeps_launchEach (h : c.Sound) (clients : List ClientId) (lastPort : Int32) :
    c.Keeps (c.launchEach clients lastPort).2 ∧
      ∀ client ∈ clients, (c.launchEach clients lastPort).2.Assigned client := by
  induction clients generalizing c lastPort with
  | nil => exact ⟨.refl h, by simp⟩
  | cons client clients ih =>
    let port := c.processSettings.portStart + .ofNat c.processSettings.processInfo.length - 1
    obtain ⟨hfirst, hclient⟩ := keeps_launchProcess h client port
    obtain ⟨hrest, hclients⟩ := ih hfirst.sound port
    refine ⟨hfirst.trans hrest, fun other hother => ?_⟩
    rcases List.mem_cons.1 hother with rfl | hother
    · exact hrest.assigned other hclient
    · exact hclients other hother

theorem keeps_launchProcesses (h : c.Sound) (clients : List ClientId) :
    c.Keeps (c.launchProcesses clients).2 := by
  obtain ⟨hlaunch, hclients⟩ := keeps_launchEach h clients 0
  exact hlaunch.trans (keeps_attachClients hlaunch.sound hclients false)

theorem keeps_setupPorts (h : c.Sound) (numAgents : Nat) (portStart : Int32) :
    c.Keeps (c.setupPorts numAgents portStart) := by
  unfold setupPorts
  simp only [if_true]
  split
  · exact h.keeps rfl rfl rfl rfl rfl rfl rfl
  · exact .refl h

theorem keeps_launchStarcraft (h : c.Sound) : c.Keeps c.launchStarcraft := by
  let looked : CoordinatorImp := { c with
    world := { c.world with executableExists := c.world.executableExists.tail } }
  have hlooked : c.Keeps looked := h.keeps rfl rfl rfl rfl rfl rfl rfl
  have hports {c' : CoordinatorImp} (h' : c.Keeps c') (numAgents : Nat) (portStart : Int32) :
      c.Keeps { c'.setupPorts numAgents portStart with
        starcraftStarted := true, lastPort := portStart } := by
    have hsetup := keeps_setupPorts h'.sound numAgents portStart
    exact (h'.trans hsetup).trans (hsetup.sound.keeps rfl rfl rfl rfl rfl rfl rfl)
  unfold launchStarcraft
  dsimp only
  split
  · exact hlooked.trans (hlooked.sound.keeps rfl rfl rfl rfl rfl rfl rfl)
  · split
    · exact hports (hlooked.trans (keeps_launchProcesses hlooked.sound _)) _ _
    · exact hports hlooked _ _

/-- There is nothing to fill up. -/
theorem keeps_connect (h : c.Sound)
    (hlength : c.agents.length ≤ c.processSettings.processInfo.length)
    (hagents : c.AgentsAssigned) (port : Int32) : c.Keeps (c.connect port) := by
  have hpad : c.Keeps (c.padProcessInfo port) := by
    refine h.keeps rfl rfl rfl ?_ rfl rfl rfl
    unfold padProcessInfo
    dsimp only
    rw [Nat.sub_eq_zero_of_le hlength, List.replicate_zero, List.append_nil]
  have hclients : ∀ client ∈ c.agents.map ClientId.agent,
      (c.padProcessInfo port).Assigned client := by
    intro client hclient
    obtain ⟨i, hi, rfl⟩ := List.mem_map.1 hclient
    exact hpad.assigned _ (hagents i hi)
  have hattach := hpad.trans (keeps_attachClients hpad.sound hclients false)
  unfold connect
  dsimp only
  split
  · exact hattach.trans (hattach.sound.keeps rfl rfl rfl rfl rfl rfl rfl)
  · exact hattach.trans (hattach.sound.keeps rfl rfl rfl rfl rfl rfl rfl)

end CoordinatorImp

end Sc2Api
