import Sc2Api.Verify.Processes

/-!
# Keeping a coordinator sound

Clients at work keep it sound as long as they have been given a process; observers
that have none have nothing to do.
-/

namespace Sc2Api

open Lib

/-- An observer that has nothing to do: it was never connected to a game. -/
structure ReplayObserver.Idle (r : ReplayObserver) : Prop where
  appState : r.control.appState = .normal
  responsePending : r.control.proto.responsePending = .responseNotSet
  latestStatus : r.control.proto.latestStatus = .unknown
  clientErrors : r.control.proto.clientErrors = []
  gameLoop : r.control.imp.observationImp.currentGameLoop =
    r.control.imp.observationImp.previousGameLoop
  request : r.request = false

instance (r : ReplayObserver) : Decidable r.Idle :=
  decidable_of_iff (r.control.appState = .normal ∧
    r.control.proto.responsePending = .responseNotSet ∧
    r.control.proto.latestStatus = .unknown ∧ r.control.proto.clientErrors = [] ∧
    r.control.imp.observationImp.currentGameLoop =
      r.control.imp.observationImp.previousGameLoop ∧ r.request = false)
    ⟨fun ⟨happ, hpending, hstatus, herrors, hloop, hrequest⟩ =>
      ⟨happ, hpending, hstatus, herrors, hloop, hrequest⟩,
    fun h => ⟨h.appState, h.responsePending, h.latestStatus, h.clientErrors, h.gameLoop,
      h.request⟩⟩

namespace CoordinatorImp

/-- The client was given a process by `LaunchProcess`. -/
def Assigned (c : CoordinatorImp) (client : ClientId) : Prop :=
  (c.control client).processInfo.isSome

instance (c : CoordinatorImp) (client : ClientId) : Decidable (c.Assigned client) :=
  inferInstanceAs (Decidable (_ = true))

def Placed (c : CoordinatorImp) (i : ObserverId) : Prop :=
  c.Assigned (.observer i) ∨ (c.observerOf i).Idle

instance (c : CoordinatorImp) (i : ObserverId) : Decidable (c.Placed i) :=
  inferInstanceAs (Decidable (_ ∨ _))

/-- The coordinator stays sound, and no client loses its place. -/
structure Keeps (c c' : CoordinatorImp) : Prop where
  sound : c'.Sound
  agents : c'.agents = c.agents
  replayObservers : c'.replayObservers = c.replayObservers
  assigned : ∀ client, c.Assigned client → c'.Assigned client
  placed : ∀ i, c.Placed i → c'.Placed i

variable {c c' c'' : CoordinatorImp}

theorem Keeps.refl (h : c.Sound) : c.Keeps c := ⟨h, rfl, rfl, fun _ => id, fun _ => id⟩

theorem Keeps.trans (h : c.Keeps c') (h' : c'.Keeps c'') : c.Keeps c'' where
  sound := h'.sound
  agents := h'.agents.trans h.agents
  replayObservers := h'.replayObservers.trans h.replayObservers
  assigned client hassigned := h'.assigned client (h.assigned client hassigned)
  placed i hplaced := h'.placed i (h.placed i hplaced)

theorem Sound.congr (h : c.Sound) (hagentOf : c'.agentOf = c.agentOf)
    (hobserverOf : c'.observerOf = c.observerOf) (hcalls : c'.calls = c.calls)
    (hinfo : c'.processSettings.processInfo = c.processSettings.processInfo)
    (hstarts : c'.world.starts = c.world.starts) : c'.Sound := by
  have hcontrol (client : ClientId) : c'.control client = c.control client := by
    cases client with
    | agent i => exact congrArg (fun f => (f i).control) hagentOf
    | observer i => exact congrArg (fun f => (f i).control) hobserverOf
  refine ⟨⟨?_, ?_, ?_, fun client info => ?_, fun client => ?_⟩, fun client => ?_, fun n => ?_⟩
  · rw [hcalls]
    exact h.honest
  · rw [hcalls]
    exact h.lasting
  · rw [hcalls, hinfo]
    exact h.listed
  · rw [hcalls, hcontrol]
    exact h.assigned client info
  · rw [hcontrol]
    exact h.drained client
  · rw [hcontrol]
    exact h.spared client
  · rw [hstarts]
    exact h.starts n

/-- What leaves the clients, the calls and the list of processes alone. -/
theorem Sound.keeps (h : c.Sound) (hagentOf : c'.agentOf = c.agentOf)
    (hobserverOf : c'.observerOf = c.observerOf) (hcalls : c'.calls = c.calls)
    (hinfo : c'.processSettings.processInfo = c.processSettings.processInfo)
    (hstarts : c'.world.starts = c.world.starts) (hagents : c'.agents = c.agents)
    (hobservers : c'.replayObservers = c.replayObservers) : c.Keeps c' := by
  have hcontrol (client : ClientId) : c'.control client = c.control client := by
    cases client with
    | agent i => exact congrArg (fun f => (f i).control) hagentOf
    | observer i => exact congrArg (fun f => (f i).control) hobserverOf
  have hassigned (client : ClientId) : c.Assigned client → c'.Assigned client := by
    unfold Assigned
    rw [hcontrol]
    exact id
  refine ⟨h.congr hagentOf hobserverOf hcalls hinfo hstarts, hagents, hobservers,
    hassigned, fun i hplaced => hplaced.imp (hassigned _) ?_⟩
  rw [hobserverOf]
  exact id

/-! ## Clients at work -/

theorem Touches.assigned {client : ClientId} {k : Control} (ht : Touches c c' client k)
    (hinfo : k.processInfo = (c.control client).processInfo) (other : ClientId)
    (h : c.Assigned other) : c'.Assigned other := by
  unfold Assigned at *
  by_cases heq : other = client
  · subst heq
    rw [ht.control]
    exact (congrArg Option.isSome hinfo).trans h
  · rw [ht.others other heq]
    exact h

theorem keeps_onAgent (h : c.Sound) {i : AgentId} (hi : c.Assigned (.agent i))
    (f : Agent → Agent) (hf : (c.agentOf i).control.Works (f (c.agentOf i)).control) :
    c.Keeps (c.onAgent i f) := by
  have ht := touches_onAgent (c := c) i f
  have hassigned := ht.assigned hf.processInfo
  exact ⟨h.works ht hf hi, rfl, rfl, hassigned, fun j hj => hj.imp_left (hassigned _)⟩

/-- An observer with a process of its own may do whatever observers do. -/
theorem keeps_onAssigned (h : c.Sound) {i : ObserverId} (hi : c.Assigned (.observer i))
    (f : ReplayObserver → ReplayObserver)
    (hf : (c.observerOf i).control.Works (f (c.observerOf i)).control) :
    c.Keeps (c.onObserver i f) := by
  have ht := touches_onObserver (c := c) i f
  have hassigned := ht.assigned hf.processInfo
  refine ⟨h.works ht hf hi, rfl, rfl, hassigned, fun j hj => ?_⟩
  by_cases heq : j = i
  · subst heq
    exact .inl (hassigned _ hi)
  · refine hj.imp (hassigned _) fun his => ?_
    rw [c.observerOf_onObserver_of_ne i f heq]
    exact his

/-- One that has nothing to do may only do what leaves it so and calls nothing. -/
theorem keeps_onPlaced (h : c.Sound) {i : ObserverId} (hi : c.Placed i)
    (f : ReplayObserver → ReplayObserver)
    (hf : (c.observerOf i).control.Works (f (c.observerOf i)).control)
    (hidle : (c.observerOf i).Idle → (f (c.observerOf i)).Idle ∧
      (f (c.observerOf i)).control.calls = (c.observerOf i).control.calls) :
    c.Keeps (c.onObserver i f) := by
  rcases hi with hassigned | his
  · exact keeps_onAssigned h hassigned f hf
  · obtain ⟨hfidle, hcalls⟩ := hidle his
    have ht := touches_onObserver (c := c) i f
    have hassigned := ht.assigned hf.processInfo
    refine ⟨h.touches ht (hf.spared (h.spared (.observer i))) (fun info hsome => ?_)
      (.inr (hcalls.trans (h.drained (.observer i)))), rfl, rfl, hassigned, fun j hj => ?_⟩
    · exact h.assigned (.observer i) info (hf.processInfo ▸ hsome)
    · by_cases heq : j = i
      · subst heq
        refine .inr ?_
        rw [c.observerOf_onObserver_self]
        exact ⟨hfidle.appState, hfidle.responsePending, hfidle.latestStatus,
          hfidle.clientErrors, hfidle.gameLoop, hfidle.request⟩
      · refine hj.imp (hassigned _) fun his => ?_
        rw [c.observerOf_onObserver_of_ne i f heq]
        exact his

theorem keeps_onControl (h : c.Sound) {client : ClientId} (hclient : c.Assigned client)
    (f : Control → Control) (hf : (c.control client).Works (f (c.control client))) :
    c.Keeps (c.onControl client f) := by
  cases client with
  | agent i => exact keeps_onAgent h hclient (fun a => { a with control := f a.control }) hf
  | observer i => exact keeps_onAssigned h hclient (fun r => { r with control := f r.control }) hf

/-- A walk over a list keeps what each of its steps keeps. -/
theorem keeps_foldl {ι : Type} {f : CoordinatorImp → ι → CoordinatorImp}
    {P : CoordinatorImp → ι → Prop}
    (hstep : ∀ c i, c.Sound → P c i → c.Keeps (f c i))
    (hP : ∀ c c' i, c.Keeps c' → P c i → P c' i) (h : c.Sound) {is : List ι}
    (his : ∀ i ∈ is, P c i) : c.Keeps (is.foldl f c) := by
  induction is generalizing c with
  | nil => exact .refl h
  | cons i is ih =>
    have hfirst := hstep c i h (his i List.mem_cons_self)
    exact hfirst.trans (ih hfirst.sound fun j hj =>
      hP c _ j hfirst (his j (List.mem_cons_of_mem _ hj)))

/-- All agents have been given their processes. -/
def AgentsAssigned (c : CoordinatorImp) : Prop := ∀ i ∈ c.agents, c.Assigned (.agent i)

def ObserversPlaced (c : CoordinatorImp) : Prop := ∀ i ∈ c.replayObservers, c.Placed i

instance (c : CoordinatorImp) : Decidable c.AgentsAssigned :=
  List.decidableBAll (fun i => c.Assigned (.agent i)) c.agents

instance (c : CoordinatorImp) : Decidable c.ObserversPlaced :=
  List.decidableBAll (fun i => c.Placed i) c.replayObservers

theorem AgentsAssigned.keeps (h : c.AgentsAssigned) (hkeeps : c.Keeps c') :
    c'.AgentsAssigned :=
  fun i hi => hkeeps.assigned _ (h i (hkeeps.agents ▸ hi))

theorem ObserversPlaced.keeps (h : c.ObserversPlaced) (hkeeps : c.Keeps c') :
    c'.ObserversPlaced :=
  fun i hi => hkeeps.placed _ (h i (hkeeps.replayObservers ▸ hi))

theorem keeps_agents (h : c.Sound) {is : List AgentId} (his : ∀ i ∈ is, c.Assigned (.agent i))
    {f : Agent → Agent} (hf : ∀ a : Agent, a.control.Works (f a).control) :
    c.Keeps (is.foldl (fun c i => c.onAgent i f) c) :=
  keeps_foldl (P := fun c i => c.Assigned (.agent i))
    (fun _ _ hc hi => keeps_onAgent hc hi f (hf _))
    (fun _ _ i hkeeps hi => hkeeps.assigned (.agent i) hi) h his

theorem keeps_forAgents (h : c.Sound) (hagents : c.AgentsAssigned) {f : Agent → Agent}
    (hf : ∀ a : Agent, a.control.Works (f a).control) : c.Keeps (c.forAgents f) :=
  keeps_agents h hagents hf

theorem keeps_forObservers (h : c.Sound) (hobservers : c.ObserversPlaced)
    {f : ReplayObserver → ReplayObserver}
    (hf : ∀ r : ReplayObserver, r.control.Works (f r).control)
    (hidle : ∀ r : ReplayObserver, r.Idle → (f r).Idle ∧ (f r).control.calls = r.control.calls) :
    c.Keeps (c.forObservers f) :=
  keeps_foldl (P := Placed) (fun _ _ hc hi => keeps_onPlaced hc hi f (hf _) (hidle _))
    (fun _ _ i hkeeps hi => hkeeps.placed i hi) h hobservers

end CoordinatorImp

end Sc2Api
