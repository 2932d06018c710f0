import Sc2Api.Control
import Sc2Api.GameInfo

/-!
# Agents and replay observers

The two kinds of clients a coordinator runs, each with the callbacks made on it.
What the user's code does in them is a `BotTurn` of the world.
-/

namespace Sc2Api

/-- A callback a coordinator makes on a client; `events` are the callbacks of one
`IssueEvents`, `OnStep` included. -/
inductive ClientEvent
  | onGameFullStart
  | onGameStart
  | onGameEnd
  | onError
  | events (callbacks : List Callback)
  deriving DecidableEq, Repr

/-! ## Agents -/

/-- `requestActions` is the batch of `ActionImp`, as the tags of the units it commands. -/
structure Agent where
  control : Control := {}
  requestActions : Option (List Tag) := none
  commands : List Tag := []
  requestActionsFeatureLayer : Bool := false
  events : List ClientEvent := []

namespace Agent

/-- The user's code in a callback. -/
def takeTurn (a : Agent) : Agent :=
  let world := a.control.proto.world
  let turn := world.turns.head
  let control := { a.control with
    proto := { a.control.proto with world := { world with turns := world.turns.tail } } }
  { a with
    control := control.takeTurn turn
    requestActions := match turn.actions with
      | none => a.requestActions
      | some tags => some (a.requestActions.getD [] ++ tags)
    requestActionsFeatureLayer := a.requestActionsFeatureLayer || turn.featureActions }

/-- A callback, with what the user's code does in it. -/
def callback (a : Agent) (event : ClientEvent) : Agent :=
  { a with events := a.events ++ [event] }.takeTurn

/-- `IssueEvents(Actions()->Commands())`. -/
def issueEvents (a : Agent) : Bool × Agent :=
  let world := a.control.proto.world
  let control := { a.control with
    proto := { a.control.proto with world := { world with orders := world.orders.tail } } }
  let (issued, callbacks, imp) := control.imp.issueEvents world.orders.head a.commands
  let a := { a with control := { control with imp } }
  if issued then (true, a.callback (.events callbacks)) else (false, a)

/-- `ActionImp::SendActions`. -/
def sendActions (a : Agent) : Agent :=
  let a := { a with commands := [] }
  match a.requestActions with
  | none => a
  | some tags =>
    let (sent, control) := a.control.sendRequest .action
    if !sent then { a with control }
    else { a with
      commands := tags
      requestActions := none
      control := control.waitForResponse.2 }

/-- `ActionFeatureLayerImp::SendActions`. -/
def sendActionsFeatureLayer (a : Agent) : Agent :=
  if !a.requestActionsFeatureLayer then a
  else
    let (sent, control) := a.control.sendRequest .action
    if !sent then { a with control }
    else { a with
      requestActionsFeatureLayer := false
      control := control.waitForResponse.2 }

/-- `CallOnStep`. -/
def callOnStep (a : Agent) : Agent :=
  if !a.control.isInGame then
    let a := a.callback .onGameEnd
    { a with control := a.control.requestLeaveGame.2 }
  else a.issueEvents.2.sendActions.sendActionsFeatureLayer

/-- `Restart` -/
def restart (a : Agent) : Bool × Agent :=
  let (response, control) := a.control.exchange .restartGame
  let a := { a with control }
  match response with
  | none => (false, a)
  | some response =>
    if response.case ≠ .restartGame then (false, a)
    else if response.answer.responseError then (false, a)
    else
      let a := a.callback .onGameStart
      (a.control.isInGame, a)

end Agent

/-! ## Replay observers -/

def maxPathSize : Nat := 512

def maxVersionSize : Nat := 32

def maxNumPlayers : Nat := 16

/-- `gameResult` is `none` where the source leaves the member unset. -/
structure ReplayPlayerInfo where
  playerId : UInt32 := 0
  race : Race := .random
  raceSelected : Race := .random
  mmr : Int32 := -10000
  apm : Int32 := 0
  gameResult : Option GameResult := none
  deriving DecidableEq, Repr

/-- `players` are the first `num_players` entries of the array. -/
structure ReplayInfo where
  duration : CFloat := 0
  durationGameloops : UInt32 := 0
  players : List ReplayPlayerInfo := []
  dataBuild : UInt32 := 0
  baseBuild : UInt32 := 0
  mapName : String := ""
  mapPath : String := ""
  replayPath : String := ""
  version : String := ""
  dataVersion : String := ""
  deriving DecidableEq, Repr

/-- `request` says that camera actions are queued; `actionsBound` that `ObserverActionImp`
still refers to the control of its observer, which `Reset` replaces. -/
structure ReplayObserver where
  control : Control := {}
  replayInfo : ReplayInfo := {}
  request : Bool := false
  actionsBound : Bool := true
  events : List ClientEvent := []

namespace ReplayObserver

/-- The user's code in a callback. -/
def takeTurn (r : ReplayObserver) : ReplayObserver :=
  let world := r.control.proto.world
  let turn := world.turns.head
  let control := { r.control with
    proto := { r.control.proto with world := { world with turns := world.turns.tail } } }
  { r with
    control := control.takeTurn turn
    request := r.request || turn.actions.isSome }

/-- A callback, with what the user's code does in it. -/
def callback (r : ReplayObserver) (event : ClientEvent) : ReplayObserver :=
  { r with events := r.events ++ [event] }.takeTurn

/-- `IssueEvents()`. -/
def issueEvents (r : ReplayObserver) : Bool × ReplayObserver :=
  let world := r.control.proto.world
  let control := { r.control with
    proto := { r.control.proto with world := { world with orders := world.orders.tail } } }
  let (issued, callbacks, imp) := control.imp.issueEvents world.orders.head []
  let r := { r with control := { control with imp } }
  if issued then (true, r.callback (.events callbacks)) else (false, r)

/-- `ObserverActionImp::SendActions`; what it does to a control that is gone is not
modelled. -/
def sendActions (r : ReplayObserver) : ReplayObserver :=
  if !r.request || !r.actionsBound then r
  else
    let (sent, control) := r.control.sendRequest .obsAction
    if !sent then { r with control }
    else { r with request := false, control := control.waitForResponse.2 }

def convertReplayPlayer (info : Proto.PlayerInfoExtra) : ReplayPlayerInfo where
  playerId := info.playerId.getD 0
  race := (info.raceActual.map convertRaceFromProto).getD .random
  raceSelected := (info.raceRequested.map convertRaceFromProto).getD .random
  mmr := info.playerMmr
  apm := info.playerApm
  gameResult := info.result.map convertGameResultFromProto

/-- The loop over `player_info`, which stops at a player too many. -/
def addPlayers : List Proto.PlayerInfoExtra → List ReplayPlayerInfo →
    Bool × List ReplayPlayerInfo
  | [], players => (true, players)
  | info :: infos, players =>
    if maxNumPlayers ≤ players.length then (false, players)
    else addPlayers infos (players ++ [convertReplayPlayer info])

/-- A text that has been through `c_str()` ends before its first null character. -/
def cString (text : String) : String :=
  String.ofList (text.toList.takeWhile (· ≠ '\x00'))

/-- `GatherReplayInfo` -/
def gatherReplayInfo (r : ReplayObserver) (path : String) : Bool × ReplayObserver :=
  let r := { r with replayInfo := { r.replayInfo with players := [] } }
  let (response, control) := r.control.exchange .replayInfo
  let r := { r with control }
  match response with
  | none => (false, r)
  | some response =>
    let info := response.answer.replayInfo
    if response.case ≠ .replayInfo then (false, r)
    else if maxPathSize ≤ info.mapName.utf8ByteSize then (false, r)
    else if maxPathSize ≤ info.localMapPath.utf8ByteSize then (false, r)
    else if maxVersionSize ≤ info.gameVersion.utf8ByteSize then (false, r)
    else
      let (all, players) := addPlayers info.playerInfo []
      (all, { r with replayInfo := {
        duration := info.gameDurationSeconds
        durationGameloops := info.gameDurationLoops
        players
        dataBuild := info.dataBuild
        baseBuild := info.baseBuild
        mapName := cString info.mapName
        mapPath := cString info.localMapPath
        replayPath := cString path
        version := cString info.gameVersion
        dataVersion := cString info.dataVersion } })

/-- `LoadReplay`, as far as it talks to the game. -/
def loadReplay (r : ReplayObserver) : Bool × ReplayObserver :=
  let (sent, control) := r.control.sendRequest .startReplay
  (sent, { r with control })

def waitForReplay (r : ReplayObserver) : Bool × ReplayObserver :=
  let (response, control) := r.control.waitForResponse
  let r := { r with control }
  match response with
  | none => (false, r)
  | some response =>
    if response.case ≠ .startReplay then (false, r)
    else if response.answer.responseError then (false, r)
    else if !r.control.isInGame then (false, r)
    else if r.replayInfo.replayPath = "" then (true, r)
    else
      let r := { r with control := r.control.getObservation.2 }
      (true, r.callback .onGameStart)

/-- `Reset` and `SetControl`: a new control, which the queued actions do not follow. -/
def reset (r : ReplayObserver) : ReplayObserver :=
  { r with
    control := { proto := { world := r.control.proto.world }, calls := r.control.calls }
    actionsBound := false }

end ReplayObserver

/-! ## Calls -/

/-- What can be called on a client that talks to its game, the coordinator's own steps
included. `batch` and `queued` are what the bot has left to be sent. -/
inductive ClientCall
  | getObservation
  | getData (table : DataTable) (forceRefresh : Bool)
  | getGameInfo
  | query (query : Control.Query)
  | sendActions (batch : Option (List Tag))
  | sendActionsFeatureLayer (queued : Bool)
  | sendObserverActions (queued : Bool)
  | sendDebug (hasMoveCamera : Bool)
  | save
  | load
  | ping
  | stepAndWait
  | connect (timeoutMs : Int32)
  | createGame
  | remoteSaveMap
  | saveReplay
  | restart
  | gatherReplayInfo (path : String)
  | requestJoinGame (setup : PlayerSetup) (settings : InterfaceSettings) (ports : Ports)
  | waitJoinGame
  | requestLeaveGame
  | pollLeaveGame
  | loadReplay
  | waitForReplay (replayInfo : ReplayInfo)
  | consumeResponse
  | pollResponse
  | issueEvents (commands : List Tag)
  | useGeneralizedAbility (value : Bool)

namespace ClientCall

/-- The calls that return with the answer to what they asked. -/
def Blocking : ClientCall → Prop
  | connect _ | createGame | remoteSaveMap | saveReplay | restart | gatherReplayInfo _
  | requestJoinGame .. | waitJoinGame | requestLeaveGame | pollLeaveGame
  | loadReplay | waitForReplay _ | consumeResponse | pollResponse
  | issueEvents _ | useGeneralizedAbility _ => False
  | _ => True

/-- `StepAgents` gets past its guards. -/
def stepsNow (c : Control) : Bool :=
  c.appState = .normal && !c.pollLeaveGame.1 && !c.pollLeaveGame.2.isFinishedGame

def run (call : ClientCall) (c : Control) : Control :=
  match call with
  | getObservation => c.getObservation.2
  | getData table forceRefresh => c.getData table forceRefresh
  | getGameInfo => c.getGameInfo
  | query q => c.query q
  | sendActions batch => ({ control := c, requestActions := batch } : Agent).sendActions.control
  | sendActionsFeatureLayer queued =>
    ({ control := c, requestActionsFeatureLayer := queued } : Agent)
      |>.sendActionsFeatureLayer.control
  | sendObserverActions queued =>
    ({ control := c, request := queued } : ReplayObserver).sendActions.control
  | sendDebug hasMoveCamera => c.sendDebug hasMoveCamera
  | save => c.save
  | load => c.load
  | ping => c.ping.2
  | stepAndWait => if stepsNow c then c.pollLeaveGame.2.step.2.waitStep.2 else c
  | connect timeoutMs => (c.connect timeoutMs).2
  | createGame => c.createGame.2
  | remoteSaveMap => c.remoteSaveMap.2
  | saveReplay => c.saveReplay
  | restart => ({ control := c } : Agent).restart.2.control
  | gatherReplayInfo path =>
    (({ control := c } : ReplayObserver).gatherReplayInfo path).2.control
  | requestJoinGame setup settings ports => (c.requestJoinGame setup settings ports).2.2
  | waitJoinGame => c.waitJoinGame.2
  | requestLeaveGame => c.requestLeaveGame.2
  | pollLeaveGame => c.pollLeaveGame.2
  | loadReplay => ({ control := c } : ReplayObserver).loadReplay.2.control
  | waitForReplay replayInfo =>
    ({ control := c, replayInfo } : ReplayObserver).waitForReplay.2.control
  | consumeResponse => c.consumeResponse.2
  | pollResponse => c.pollResponse.2
  | issueEvents commands => ({ control := c, commands } : Agent).issueEvents.2.control
  | useGeneralizedAbility value => c.useGeneralizedAbility value

end ClientCall

/-- The client when the world turns out to be `world`. -/
def Control.inWorld (c : Control) (world : World) : Control :=
  { c with proto := { c.proto with world } }

/-- A client whose calls come in any order, each with what the world has in store for
it. -/
def clientMachine : Lib.Machine Control (World × ClientCall) PUnit.{1} where
  step c input := (input.2.run (c.inWorld input.1), .unit)

end Sc2Api
