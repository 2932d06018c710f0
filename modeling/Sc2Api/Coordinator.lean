import Sc2Api.Clients

/-!
# The coordinator

`CoordinatorImp` with the operations of `Coordinator` on it. Clients are known by
their identity, as the source knows them by pointer; threads are run one after the
other. `exited` is set where the source calls `exit`.
-/

namespace Sc2Api

/-! ## Settings -/

structure ProcessSettings where
  realtime : Bool := false
  stepSize : Int32 := 1
  processPath : String := ""
  dataVersion : String := ""
  netAddress : String := "127.0.0.1"
  timeoutMs : Int32 := 120000
  portStart : Int32 := 8168
  multiThreaded : Bool := false
  processInfo : List ProcessInfo := []
  deriving DecidableEq, Repr

structure GameSettings where
  mapName : String := ""
  playerSetup : List PlayerSetup := []
  ports : Ports := {}
  deriving DecidableEq, Repr

structure ReplaySettings where
  replayFile : List String := []
  deriving DecidableEq, Repr

abbrev ObserverId := Nat

/-- What the coordinator does not decide: the id a new process gets and whether it was
started, whether the executable exists, the executable of another version, the
answers of `IgnoreReplay`, and what becomes of the processes it kills. -/
structure CoordinatorWorld where
  starts : Stream' (ProcessId × Bool) := .const (0, false)
  executableExists : Stream' Bool := .const true
  baseExes : Stream' (Option String) := .const none
  ignores : Stream' Bool := .const false
  kills : Stream' Bool := .const true

structure CoordinatorImp where
  agents : List AgentId := []
  replayObservers : List ObserverId := []
  starcraftStarted : Bool := false
  gameSettings : GameSettings := {}
  replaySettings : ReplaySettings := {}
  interfaceSettings : InterfaceSettings := {}
  processSettings : ProcessSettings := {}
  replayRecovery : Bool := true
  useGeneralizedAbilityId : Bool := true
  lastPort : Int32 := 0
  agentOf : AgentId → Agent := fun _ => {}
  observerOf : ObserverId → ReplayObserver := fun _ => {}
  calls : List ProcessCall := []
  world : CoordinatorWorld := {}
  exited : Bool := false

namespace CoordinatorImp

/-! ## Working on one client -/

/-- An action of an agent; its calls of process functions are entered in the list of all. -/
def onAgent (c : CoordinatorImp) (i : AgentId) (f : Agent → Agent) : CoordinatorImp :=
  let a := f (c.agentOf i)
  { c with
    agentOf := Function.update c.agentOf i { a with control := { a.control with calls := [] } }
    calls := c.calls ++ a.control.calls }

/-- An action of a replay observer. -/
def onObserver (c : CoordinatorImp) (i : ObserverId) (f : ReplayObserver → ReplayObserver) :
    CoordinatorImp :=
  let r := f (c.observerOf i)
  { c with
    observerOf :=
      Function.update c.observerOf i { r with control := { r.control with calls := [] } }
    calls := c.calls ++ r.control.calls }

def forAgents (c : CoordinatorImp) (f : Agent → Agent) : CoordinatorImp :=
  c.agents.foldl (fun c i => c.onAgent i f) c

def forObservers (c : CoordinatorImp) (f : ReplayObserver → ReplayObserver) :
    CoordinatorImp :=
  c.replayObservers.foldl (fun c i => c.onObserver i f) c

/-- A client of the coordinator. -/
inductive ClientId
  | agent (id : AgentId)
  | observer (id : ObserverId)

/-- An action on the control of a client. -/
def onControl (c : CoordinatorImp) (client : ClientId) (f : Control → Control) :
    CoordinatorImp :=
  match client with
  | .agent i => c.onAgent i fun a => { a with control := f a.control }
  | .observer i => c.onObserver i fun r => { r with control := f r.control }

def control (c : CoordinatorImp) : ClientId → Control
  | .agent i => (c.agentOf i).control
  | .observer i => (c.observerOf i).control

/-! ## Participants -/

def addAgent (c : CoordinatorImp) (agent : AgentId) : CoordinatorImp :=
  { c with agents := c.agents ++ [agent] }

/-- The loop of `SetParticipants`. -/
def addParticipants (c : CoordinatorImp) (participants : List PlayerSetup) : CoordinatorImp :=
  participants.foldl (fun c p =>
    let c := match p.agent with
      | some agent => c.addAgent agent
      | none => c
    { c with gameSettings := { c.gameSettings with
      playerSetup := c.gameSettings.playerSetup ++ [p] } }) c

def setParticipants (c : CoordinatorImp) (participants : List PlayerSetup) : CoordinatorImp :=
  { c with
    gameSettings := { c.gameSettings with playerSetup := [] }
    agents := [] }.addParticipants participants

def addReplayObserver (c : CoordinatorImp) (observer : ObserverId) : CoordinatorImp :=
  { c with replayObservers := c.replayObservers ++ [observer] }

/-! ## Processes -/

/-- `LaunchProcess`; the command line and the place of the window are not modelled. -/
def launchProcess (c : CoordinatorImp) (client : ClientId) (port : Int32) : CoordinatorImp :=
  let (id, started) := c.world.starts.head
  let processInfo : ProcessInfo := ⟨c.processSettings.processPath, id, port⟩
  let c := { c with
    world := { c.world with starts := c.world.starts.tail }
    processSettings := { c.processSettings with
      processInfo := c.processSettings.processInfo ++ [processInfo] }
    calls := c.calls ++ [ProcessCall.startProcess id started] }
  c.onControl client (·.setProcessInfo processInfo)

/-- `AttachClients`: the result is that of the last client. -/
def attachClients (c : CoordinatorImp) : List ClientId → Bool → Bool × CoordinatorImp
  | [], connected => (connected, c)
  | client :: clients, _ =>
    let timeoutMs := c.processSettings.timeoutMs
    let connected := ((c.control client).connect timeoutMs).1
    (c.onControl client fun k => (k.connect timeoutMs).2).attachClients clients connected

/-- The loop of `LaunchProcesses`. -/
def launchEach (c : CoordinatorImp) : List ClientId → Int32 → Int32 × CoordinatorImp
  | [], lastPort => (lastPort, c)
  | client :: clients, _ =>
    let port := c.processSettings.portStart + .ofNat c.processSettings.processInfo.length - 1
    (c.launchProcess client port).launchEach clients port

def launchProcesses (c : CoordinatorImp) (clients : List ClientId) : Int32 × CoordinatorImp :=
  let (lastPort, c) := c.launchEach clients 0
  (lastPort, (c.attachClients clients false).2)

/-- The loop of `SetupPorts` over the clients after the first. -/
def clientPorts : Nat → Int32 → List PortSet
  | 0, _ => []
  | n + 1, portStart => ⟨portStart + 1, portStart + 2⟩ :: clientPorts n (portStart + 2)

def setupPorts (c : CoordinatorImp) (numAgents : Nat) (portStart : Int32)
    (checkSingle : Bool := true) : CoordinatorImp :=
  let humans :=
    if checkSingle then
      c.gameSettings.playerSetup.countP (·.type = .participant)
    else numAgents
  if 1 < humans then
    { c with gameSettings := { c.gameSettings with ports := {
      sharedPort := portStart + 1
      serverPorts := ⟨portStart + 2, portStart + 3⟩
      clientPorts :=
        c.gameSettings.ports.clientPorts ++ clientPorts (numAgents - 1) (portStart + 3) } } }
  else c

def launchStarcraft (c : CoordinatorImp) : CoordinatorImp :=
  let found := c.world.executableExists.head
  let c := { c with
    world := { c.world with executableExists := c.world.executableExists.tail } }
  if !found then { c with exited := true }
  else
    let (portStart, c) :=
      if c.processSettings.processInfo.length ≠ c.agents.length then
        c.launchProcesses (c.agents.map .agent)
      else (0, c)
    let c := c.setupPorts c.agents.length portStart
    { c with starcraftStarted := true, lastPort := portStart }

/-- The loop of `Coordinator::Connect` that fills up the list of processes. -/
def padProcessInfo (c : CoordinatorImp) (port : Int32) : CoordinatorImp :=
  let missing := c.agents.length - c.processSettings.processInfo.length
  { c with processSettings := { c.processSettings with
    processInfo := c.processSettings.processInfo ++
      List.replicate missing ⟨c.processSettings.netAddress, 0, port⟩ } }

/-- `Coordinator::Connect` -/
def connect (c : CoordinatorImp) (port : Int32) : CoordinatorImp :=
  let (attached, c) := (c.padProcessInfo port).attachClients (c.agents.map .agent) false
  if !attached then { c with exited := true } else { c with starcraftStarted := true }

/-- `Relaunch` -/
def relaunch (c : CoordinatorImp) (i : ObserverId) : Bool × CoordinatorImp :=
  let c := c.onControl (.observer i) (·.terminateProcess.2)
  let c := c.onObserver i (·.reset)
  let port := c.lastPort + 1
  let c := { c.launchProcess (.observer i) port with lastPort := port }
  let timeoutMs := c.processSettings.timeoutMs
  (((c.control (.observer i)).connect timeoutMs).1,
    c.onControl (.observer i) fun k => (k.connect timeoutMs).2)

/-- `~CoordinatorImp` -/
def destroy (c : CoordinatorImp) : CoordinatorImp :=
  { c with calls := c.calls ++ c.processSettings.processInfo.mapIdx fun n p =>
    .terminateProcess (some p.processId) (c.world.kills.get n) }

/-! ## Starting a game -/

/-- A join request that `JoinGame` sent, with the setup it was built from. -/
structure JoinRequest where
  agent : AgentId
  setup : PlayerSetup
  message : Proto.RequestJoinGame
  deriving DecidableEq, Repr

/-- The first loop of `JoinGame`, with the requests it sends; it ends early where a
request cannot be sent, or where the list of setups would be read past its end. -/
def requestJoinGames (c : CoordinatorImp) :
    List AgentId → Nat → List JoinRequest × CoordinatorImp
  | [], _ => ([], c)
  | agent :: agents, i =>
    match c.gameSettings.playerSetup[i]? with
    | none => ([], c)
    | some setup =>
      let settings := c.interfaceSettings
      let ports := c.gameSettings.ports
      let (sent, message, _) := (c.agentOf agent).control.requestJoinGame setup settings ports
      let c := c.onControl (.agent agent) fun k => (k.requestJoinGame setup settings ports).2.2
      if !sent then ([], { c with exited := true })
      else
        let (requests, c) := c.requestJoinGames agents (i + 1)
        (⟨agent, setup, message⟩ :: requests, c)

/-- The agents with client errors. -/
def failedAgents (c : CoordinatorImp) : List AgentId :=
  c.agents.filter fun i => (c.agentOf i).control.proto.clientErrors ≠ []

/-- `JoinGame` after its first loop; the start locations are not modelled. -/
def enterGame (c : CoordinatorImp) : Bool × CoordinatorImp :=
  let c := c.forAgents fun a => { a with control := a.control.waitJoinGame.2 }
  let failed := c.failedAgents
  let c := failed.foldl (fun c i => c.onAgent i (·.callback .onError)) c
  let c := c.forAgents fun a =>
    { a with control := a.control.useGeneralizedAbility c.useGeneralizedAbilityId }
  if failed ≠ [] then (false, c)
  else
    let c := c.forAgents fun a => { a with control := a.control.getObservation.2 }
    let c := c.forAgents (·.callback .onGameFullStart)
    let c := c.forAgents (·.callback .onGameStart)
    (true, c.forAgents (·.issueEvents.2))

def joinGame (c : CoordinatorImp) : Bool × CoordinatorImp :=
  let (_, c) := c.requestJoinGames c.agents 0
  if c.exited then (false, c) else c.enterGame

/-- `CreateGame`, by the first client. -/
def createGame (c : CoordinatorImp) : Bool × CoordinatorImp :=
  match c.agents with
  | [] => (false, c)
  | first :: _ =>
    (((c.agentOf first).control.createGame).1,
      c.onControl (.agent first) (·.createGame.2))

def startGame (c : CoordinatorImp) : Bool × CoordinatorImp :=
  let (created, c) := c.createGame
  if !created then (false, { c with exited := true }) else c.joinGame

def leaveGame (c : CoordinatorImp) : CoordinatorImp :=
  c.forAgents fun a => { a with control := a.control.requestLeaveGame.2 }

/-! ## Stepping agents -/

/-- The step of one agent in `StepAgents`. -/
def stepAgent (settings : ProcessSettings) (a : Agent) : Agent :=
  if a.control.appState ≠ .normal then a
  else
    let (leaving, control) := a.control.pollLeaveGame
    let a := { a with control }
    if leaving then a
    else if a.control.isFinishedGame then a
    else
      let a := { a with control := a.control.step.2.waitStep.2 }
      if settings.multiThreaded then a.callOnStep else a

/-- The second loop of `StepAgents`. -/
def callAgent (a : Agent) : Agent :=
  if a.control.appState ≠ .normal then a
  else
    let (leaving, control) := a.control.pollLeaveGame
    let a := { a with control }
    if leaving then a else a.callOnStep

def stepAgents (c : CoordinatorImp) : CoordinatorImp :=
  let c := c.forAgents (stepAgent c.processSettings)
  if !c.processSettings.multiThreaded then c.forAgents callAgent else c

/-- The step of one agent in `StepAgentsRealtime`. -/
def stepAgentRealtime (a : Agent) : Agent :=
  if a.control.appState ≠ .normal then a
  else
    let (leaving, control) := a.control.pollLeaveGame
    let a := { a with control }
    if leaving then a
    else if a.control.isFinishedGame then a
    else
      let a := { a with control := a.control.getObservation.2 }
      let a := a.issueEvents.2.sendActions
      if !a.control.isInGame then
        let a := a.callback .onGameEnd
        { a with control := a.control.requestLeaveGame.2 }
      else a

def stepAgentsRealtime (c : CoordinatorImp) : CoordinatorImp := c.forAgents stepAgentRealtime

/-! ## Stepping replay observers -/

/-- The start of `run_replay`: a replay that is loading is waited for, with several
observers only once its response is there. The result says whether to go on. -/
def awaitReplay (several : Bool) (r : ReplayObserver) : Bool × ReplayObserver :=
  if !r.control.hasResponsePending then (true, r)
  else if several then
    let (arrived, control) := r.control.pollResponse
    let r := { r with control }
    if !arrived then (false, r) else (true, r.waitForReplay.2)
  else (true, r.waitForReplay.2)

/-- `run_replay` in `StepReplayObservers`. -/
def runReplay (settings : ProcessSettings) (several : Bool) (r : ReplayObserver) :
    ReplayObserver :=
  if r.control.appState ≠ .normal then r
  else
    let (ready, r) := awaitReplay several r
    if !ready then r
    else if !r.control.isInGame then r
    else
      let r := { r with control := r.control.step.2.waitStep.2 }
      let r := if settings.multiThreaded then r.issueEvents.2.sendActions else r
      if !r.control.isInGame then r.callback .onGameEnd else r

/-- The second loop of `StepReplayObservers`. -/
def callObserver (r : ReplayObserver) : ReplayObserver :=
  if r.control.appState ≠ .normal then r else r.issueEvents.2.sendActions

def stepReplayObservers (c : CoordinatorImp) : CoordinatorImp :=
  let c := c.forObservers (runReplay c.processSettings (1 < c.replayObservers.length))
  if !c.processSettings.multiThreaded then c.forObservers callObserver else c

/-- `run_replay` in `StepReplayObserversRealtime`. -/
def runReplayRealtime (settings : ProcessSettings) (several : Bool) (r : ReplayObserver) :
    ReplayObserver :=
  if r.control.appState ≠ .normal then r
  else
    let (ready, r) := awaitReplay several r
    if !ready then r
    else if !r.control.isInGame then r
    else
      let r := { r with control := r.control.getObservation.2 }
      let r := if settings.multiThreaded then r.issueEvents.2 else r
      if !r.control.isInGame then r.callback .onGameEnd else r

/-- The second loop of `StepReplayObserversRealtime`. -/
def callObserverRealtime (r : ReplayObserver) : ReplayObserver :=
  if r.control.appState ≠ .normal then r else r.issueEvents.2

def stepReplayObserversRealtime (c : CoordinatorImp) : CoordinatorImp :=
  let c := c.forObservers (runReplayRealtime c.processSettings (1 < c.replayObservers.length))
  if !c.processSettings.multiThreaded then c.forObservers callObserverRealtime else c

/-! ## Starting replays -/

def anyObserverAvailable (c : CoordinatorImp) : Bool :=
  c.replayObservers.any fun i => !(c.observerOf i).control.isInGame

/-- `ShouldIgnore` -/
def shouldIgnore (c : CoordinatorImp) (i : ObserverId) (file : String) :
    Bool × CoordinatorImp :=
  if file = "" then (true, c)
  else
    let c := c.onObserver i fun r => (r.gatherReplayInfo file).2
    (c.world.ignores.head, { c with world := { c.world with ignores := c.world.ignores.tail } })

/-- `ShouldRelaunch`; `FindBaseExe` changes the path of the process when it succeeds. -/
def shouldRelaunch (c : CoordinatorImp) (i : ObserverId) : Bool × CoordinatorImp :=
  let r := c.observerOf i
  if r.replayInfo.baseBuild = r.control.proto.baseBuild ∧
      r.replayInfo.dataVersion = r.control.proto.dataVersion then (false, c)
  else
    let baseExe := c.world.baseExes.head
    let c := { c with world := { c.world with baseExes := c.world.baseExes.tail } }
    match baseExe with
    | none => (false, c)
    | some path =>
      let c := { c with processSettings := { c.processSettings with
        processPath := path
        dataVersion := r.replayInfo.dataVersion } }
      (true, c.onControl (.observer i) (·.error .wrongGameVersion))

/-- The loop of `StartReplay` over the list of replays, which is used from its end. The
list gets shorter with every turn. -/
def startReplayFrom (i : ObserverId) : Nat → CoordinatorImp → CoordinatorImp
  | 0, c => c
  | n + 1, c =>
    match c.replaySettings.replayFile.getLast? with
    | none => c
    | some file =>
      let popped (c : CoordinatorImp) : CoordinatorImp :=
        { c with replaySettings := ⟨c.replaySettings.replayFile.dropLast⟩ }
      let (ignored, c) := c.shouldIgnore i file
      if ignored then startReplayFrom i n (popped c)
      else
        let (relaunch, c) := c.shouldRelaunch i
        if relaunch then c
        else
          let launched := (c.observerOf i).loadReplay.1
          let c := popped (c.onObserver i (·.loadReplay.2))
          if launched then c else startReplayFrom i n c

/-- `StartReplay` for one observer. -/
def startReplayOn (c : CoordinatorImp) (i : ObserverId) : CoordinatorImp :=
  if !(c.observerOf i).control.isReadyForCreateGame then c
  else
    let c := c.onControl (.observer i) (·.useGeneralizedAbility c.useGeneralizedAbilityId)
    startReplayFrom i c.replaySettings.replayFile.length c

def startReplay (c : CoordinatorImp) : CoordinatorImp :=
  if c.replaySettings.replayFile = [] then c
  else
    let c :=
      if !c.starcraftStarted then
        let (lastPort, c) := c.launchProcesses (c.replayObservers.map .observer)
        { c with lastPort }
      else c
    let c := c.replayObservers.foldl startReplayOn c
    { c with starcraftStarted := true }

/-! ## Update -/

/-- The loop of `Update` over the observers with errors: whether an error was left, and
whether an observer was relaunched. -/
def recoverObservers (c : CoordinatorImp) :
    List ObserverId → Bool × Bool → (Bool × Bool) × CoordinatorImp
  | [], flags => (flags, c)
  | i :: is, (errorOccurred, relaunched) =>
    if (c.observerOf i).control.proto.clientErrors = [] then
      c.recoverObservers is (errorOccurred, relaunched)
    else
      let c := c.onObserver i (·.callback .onError)
      if !c.replayRecovery then c.recoverObservers is (true, relaunched)
      else
        let (connected, c) := c.relaunch i
        if connected then c.recoverObservers is (false, true)
        else c.recoverObservers is (true, relaunched)

def allGamesEnded (c : CoordinatorImp) : Bool :=
  c.agents.all (fun i =>
    !((c.agentOf i).control.isInGame || (c.agentOf i).control.hasResponsePending)) &&
  c.replayObservers.all (fun i =>
    !((c.observerOf i).control.isInGame || (c.observerOf i).control.hasResponsePending))

/-- The part of `Update` that steps the agents. -/
def updateAgents (c : CoordinatorImp) : CoordinatorImp :=
  if c.agents = [] then c
  else if c.processSettings.realtime then c.stepAgentsRealtime
  else c.stepAgents

/-- The part of `Update` that steps the replay observers. -/
def updateObservers (c : CoordinatorImp) : CoordinatorImp :=
  if c.replayObservers = [] ∨ !c.starcraftStarted then c
  else if c.processSettings.realtime then c.stepReplayObserversRealtime
  else c.stepReplayObservers

/-- `Update` up to its check for errors. -/
def updateClients (c : CoordinatorImp) : CoordinatorImp :=
  let c := c.updateAgents.updateObservers
  if c.replayObservers ≠ [] ∧ c.anyObserverAvailable then c.startReplay else c

def update (c : CoordinatorImp) : Bool × CoordinatorImp :=
  let c := c.updateClients
  let failed := c.failedAgents
  let c := failed.foldl (fun c i => c.onAgent i (·.callback .onError)) c
  let ((errorOccurred, relaunched), c) :=
    c.recoverObservers c.replayObservers (failed ≠ [], false)
  (if errorOccurred then false else !c.allGamesEnded || relaunched, c)

end CoordinatorImp

end Sc2Api
