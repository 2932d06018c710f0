import Sc2Api.Clients
import Sc2Api.MapImages
import Sc2Api.MessagePointers

/-!
# Reads of the last observation

A `ControlImp` with its pointers `observation_` and `response_`, and what reads through them:
`UpdateObservation`, `HasCreep`, `GetVisibility` and `IssueEvents`, which tests no pointer before
it reads.
-/

namespace Sc2Api

open Lib

/-! ## Taking an observation in -/

namespace ObservationImp

/-- `Convert(observation_, score_)`. -/
def convertScoreRead (observation : MessageResponsePtr Proto.Observation) :
    Except NullRead (Bool × Score) := do
  if ← observation.hasErrors then return (false, {})
  return convertScore (← observation.deref)

/-- `UpdateObservation` with its reads. -/
def updateObservationRead (s : ObservationImp) (orders : UpdateOrders)
    (observation : MessageResponsePtr Proto.Observation)
    (response : MessageResponsePtr Proto.ResponseObservation) :
    Except NullRead (Bool × ObservationImp) := do
  let (hasScore, score) ← convertScoreRead observation
  let s := { s with score }
  if !hasScore then return (false, s)
  let message ← observation.deref
  let nextGameLoop := message.gameLoop.getD 0
  let isNewFrame := nextGameLoop != s.currentGameLoop
  let s := s.updateGameLoop nextGameLoop
  let s := s.updatePlayerCommon (message.playerCommon.getD {})
  let s := s.updateActions (← response.deref) isNewFrame
  let s := s.updateChat (← response.deref)
  let observationRaw ← observation.submessage (·.rawData)
  if ← observationRaw.hasErrors then return (false, s)
  let raw ← observationRaw.deref
  let s := s.updateUnits orders raw
  let s := s.updateEffects raw
  match raw.player with
  | none => return (false, s)
  | some playerRaw =>
    match playerRaw.camera with
    | none => return (false, s)
    | some camera =>
      let s := s.updatePlayerRaw playerRaw camera
      let s := s.updateUpgrades playerRaw.upgradeIds
      return (true, s.updateResults (← response.deref))

end ObservationImp

/-! ## Questions -/

/-- The map state of the raw data of `observation_`, none if that `HasErrors()`. -/
def mapStateRead (observation : MessageResponsePtr Proto.Observation) :
    Except NullRead (Option Proto.MapState) := do
  let observationRaw ← observation.submessage (·.rawData)
  if ← observationRaw.hasErrors then return none
  return some ((← observationRaw.deref).mapState.getD {})

/-- `HasCreep` with its reads. -/
def hasCreepRead (observation : MessageResponsePtr Proto.Observation) (point : Point2D) :
    Except NullRead (Except Undefined Bool) := do
  match ← mapStateRead observation with
  | none => return .ok false
  | some mapState => return do
    match ← (mapState.creep.getD {}).sample point with
    | none => return false
    | some value => return value > 0

/-- `GetVisibility` with its reads. -/
def getVisibilityRead (observation : MessageResponsePtr Proto.Observation) (point : Point2D) :
    Except NullRead (Except Undefined Visibility) := do
  match ← mapStateRead observation with
  | none => return .ok .fullHidden
  | some mapState => return do
    match ← (mapState.visibility.getD {}).sample point with
    | none => return .fullHidden
    | some value =>
      if value = 0 then return .hidden
      else if value = 1 then return .fogged
      else if value = 2 then return .visible
      else return .fullHidden

/-! ## The client -/

/-- A `ControlImp` with its pointers; `control.imp` has only the messages they hold. -/
structure PointerControl where
  control : Control := {}
  observation : MessageResponsePtr Proto.Observation := {}
  response : MessageResponsePtr Proto.ResponseObservation := {}
  gameInfo : GameInfo := {}
  startLocation : Point3D := {}

namespace PointerControl

/-- The constructor, with what the connection to the game is like by then. -/
def construct (proto : ProtoInterface) : PointerControl := { control := { proto } }

def inWorld (c : PointerControl) (world : World) : PointerControl :=
  { c with control := c.control.inWorld world }

def setObservationImp (c : PointerControl) (observationImp : ObservationImp) : PointerControl :=
  { c with control := { c.control with imp := { c.control.imp with observationImp } } }

/-! ## Fetching -/

/-- `observation_imp_->UpdateObservation()`. -/
def updateObservation (c : PointerControl) : Except NullRead PointerControl := do
  let world := c.control.proto.world
  let control := { c.control with proto := { c.control.proto with world := { world with
    dataRequests := world.dataRequests.tail
    updateOrders := world.updateOrders.tail } } }
  let imp := control.imp
  let (answers, control) := control.abilityAnswers world.dataRequests.head
  let s := { imp.observationImp with
    abilityTable := { imp.observationImp.abilityTable with answers, errors := [] } }
  let (_, s) ← s.updateObservationRead world.updateOrders.head c.observation c.response
  let control := { control with imp := { imp with
    observation := c.observation.message
    response := c.response.message
    observationImp := s
    appState := control.appState } }
  return { c with control := control.reportErrors s.abilityTable.errors }

/-- What `GetObservation` does once its wait is over. -/
def readObservation (c : PointerControl) (gameResponse : Option GameResponse) :
    Except NullRead (Bool × PointerControl) := do
  let response ← MessageResponsePtr.ofResponse gameResponse .observation (·.observation)
  if ← response.hasErrors then
    let _ ← derefResponse gameResponse
    return (false, c)
  let observation ← response.submessage (·.observation)
  if ← observation.hasErrors then return (false, c)
  return (true, ← { c with observation, response }.updateObservation)

def getObservation (c : PointerControl) : Except NullRead (Bool × PointerControl) :=
  if c.control.appState ≠ .normal then .ok (false, c)
  else
    let (sent, control) := c.control.sendRequest .observation
    if !sent then .ok (false, { c with control })
    else
      let (response, control) := control.waitForResponse
      { c with control }.readObservation response

/-! ## Joining and starting -/

def requestJoinGame (c : PointerControl) (setup : PlayerSetup) (settings : InterfaceSettings)
    (ports : Ports) : Bool × PointerControl :=
  let (sent, _, control) := c.control.requestJoinGame setup settings ports
  (sent, { c with control })

def onGameStart (c : PointerControl) (order : UnitPool.Order) : PointerControl :=
  let g : GameClient :=
    { client := c.control.imp, gameInfo := c.gameInfo, startLocation := c.startLocation }
  let g := g.onGameStart order
  { c with
    control := { c.control with imp := g.client }
    gameInfo := g.gameInfo
    startLocation := g.startLocation }

/-! ## Events -/

def issueUnitDestroyedEvents (c : PointerControl) :
    Except NullRead (List Callback × PointerControl) := do
  match (← c.observation.deref).rawData with
  | none => return ([], c)
  | some raw =>
    match raw.event with
    | none => return ([], c)
    | some event =>
      let s := c.control.imp.observationImp
      let (callbacks, pool) := ControlImp.destroyUnits event.deadUnits s.unitPool
      return (callbacks, c.setObservationImp { s with unitPool := pool })

def issueAlertEvents (c : PointerControl) : Except NullRead (List Callback) := do
  return (← c.observation.deref).alerts.map ControlImp.alertEvent

/-- `IssueEvents`, whose only test before its reads is that of the game loops. -/
def issueEvents (c : PointerControl) (order : UnitPool.Order) (commands : List Tag) :
    Except NullRead (Bool × List Callback × PointerControl) := do
  let s := c.control.imp.observationImp
  if s.currentGameLoop = s.previousGameLoop then return (false, [], c)
  let (destroyed, c) ← c.issueUnitDestroyedEvents
  let added := c.control.imp.issueUnitAddedEvents order
  let units := c.control.imp.issueUnitEvents order commands
  let upgrades := c.control.imp.issueUpgradeEvents
  let alerts ← c.issueAlertEvents
  return (true, destroyed ++ added ++ units ++ upgrades ++ alerts ++ [.onStep], c)

end PointerControl

/-! ## Runs -/

/-- What may be asked of a client that reads its last observation. -/
inductive ReadingCall
  | getObservation
  | requestJoinGame (setup : PlayerSetup) (settings : InterfaceSettings) (ports : Ports)
  | onGameStart (order : UnitPool.Order)
  | hasCreep (point : Point2D)
  | getVisibility (point : Point2D)
  | issueEvents (order : UnitPool.Order) (commands : List Tag)

namespace PointerControl

/-- The client after a call, if the call reads only what is there. -/
def step (c : PointerControl) : ReadingCall → Except NullRead PointerControl
  | .getObservation => do return (← c.getObservation).2
  | .requestJoinGame setup settings ports => .ok (c.requestJoinGame setup settings ports).2
  | .onGameStart order => .ok (c.onGameStart order)
  | .hasCreep point => do
    let _ ← hasCreepRead c.observation point
    return c
  | .getVisibility point => do
    let _ ← getVisibilityRead c.observation point
    return c
  | .issueEvents order commands => do return (← c.issueEvents order commands).2.2

/-- Calls in any order on a client, each in what the world has in store for it. The run ends at
the first read of what is not there. -/
def run (c : PointerControl) (calls : List (World × ReadingCall)) :
    Except NullRead PointerControl :=
  calls.foldlM (fun c call => (c.inWorld call.1).step call.2) c

end PointerControl

end Sc2Api
