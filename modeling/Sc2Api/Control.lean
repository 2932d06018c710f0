import Sc2Api.Events
import Sc2Api.ProtoInterface

/-!
# The control interface of a client

`Control` is a whole `ControlImp`: its connection, its observing part `imp`, the
process it belongs to. Asserts are compiled out.
-/

namespace Sc2Api

open Lib

/-- What a round trip for an observation sees of a response. -/
def GameResponse.toProto (r : GameResponse) : Proto.Response where
  error := r.answer.error
  observation := if r.case = .observation then some r.answer.observation else none

/-! ## Processes -/

abbrev ProcessId := UInt64

structure ProcessInfo where
  processPath : String
  processId : ProcessId
  port : Int32
  deriving DecidableEq, Repr

/-- A call of a process function; the id is `none` where the source reads a `ProcessInfo`
that was never set. -/
inductive ProcessCall
  | startProcess (id : ProcessId) (started : Bool)
  | isProcessRunning (id : Option ProcessId)
  | terminateProcess (id : Option ProcessId) (terminated : Bool)
  deriving DecidableEq, Repr

/-- The cached tables that the `Get*Data` getters fill. -/
inductive DataTable
  | abilities
  | unitTypes
  | upgrades
  | buffs
  | effects
  deriving DecidableEq, Repr

/-- `tableSizes` are the numbers of entries of the data tables other than the abilities. -/
structure Control where
  proto : ProtoInterface := {}
  imp : ControlImp := {}
  processInfo : Option ProcessInfo := none
  calls : List ProcessCall := []
  tableSizes : DataTable → Nat := fun _ => 0

namespace Control

def appState (c : Control) : AppState := c.imp.appState

def setAppState (c : Control) (appState : AppState) : Control :=
  { c with imp := { c.imp with appState } }

def error (c : Control) (error : ClientError) (errors : List String := []) : Control :=
  { c with proto := c.proto.error error errors }

/-- `Error` for each of the errors in turn. -/
def reportErrors (c : Control) (errors : List ClientError) : Control :=
  { c with proto := { c.proto with clientErrors := c.proto.clientErrors ++ errors } }

def errorIf (c : Control) (condition : Bool) (error : ClientError) : Control :=
  if condition then c.error error else c

def isProcessRunning (c : Control) : Bool × Control :=
  (c.proto.world.running.head, { c with
    proto := { c.proto with
      world := { c.proto.world with running := c.proto.world.running.tail } }
    calls := c.calls ++ [.isProcessRunning (c.processInfo.map (·.processId))] })

def terminateProcess (c : Control) : Bool × Control :=
  (c.proto.world.kills.head, { c with
    proto := { c.proto with world := { c.proto.world with kills := c.proto.world.kills.tail } }
    calls := c.calls ++
      [.terminateProcess (c.processInfo.map (·.processId)) c.proto.world.kills.head] })

/-! ## Status -/

def isInGame (c : Control) : Bool :=
  c.appState = .normal ∧
    (c.proto.latestStatus = .inGame ∨ c.proto.latestStatus = .inReplay)

def hasResponsePending (c : Control) : Bool := c.proto.hasResponsePending

def isFinishedGame (c : Control) : Bool :=
  if c.appState ≠ .normal then true
  else if c.isInGame then false
  else if c.hasResponsePending then false
  else true

def isReadyForCreateGame (c : Control) : Bool :=
  if c.appState ≠ .normal then false
  else if c.hasResponsePending then false
  else c.proto.latestStatus = .launched ∨ c.proto.latestStatus = .ended

/-! ## Requests and responses -/

def sendRequest (c : Control) (case : Proto.ResponseCase) : Bool × Control :=
  let (sent, proto) := c.proto.sendRequest case
  (sent, { c with proto })

/-- No response is pending, and there is a connection or one can be made. -/
def CanSend (c : Control) : Prop :=
  c.proto.responsePending = .responseNotSet ∧
    (c.proto.connection.connected = true ∨ c.proto.world.connects.head = true)

instance (c : Control) : Decidable c.CanSend := inferInstanceAs (Decidable (_ ∧ _))

def pollResponse (c : Control) : Bool × Control :=
  let (arrived, proto) := c.proto.pollResponse
  (arrived, { c with proto })

/-- The loop that tries to kill the process, `n` times at most. -/
def killLoop : Nat → Control → Control
  | 0, c => c
  | n + 1, c =>
    let (running, c) := c.isProcessRunning
    if running then killLoop n c.terminateProcess.2 else c

/-- The end of `WaitForResponse`: the application hangs. -/
def terminateHung (c : Control) : Control :=
  let c := killLoop 10 (c.setAppState .timeout)
  let (running, c) := c.isProcessRunning
  let c := if running then c.setAppState .timeoutZombie else c
  c.error .sc2AppFailure

/-- Step 2 of `WaitForResponse` without a response: distinguish between a
non-responsive application and a failure to deliver a request. -/
def diagnoseHang (c : Control) : Control :=
  let (sent, proto) := c.proto.sendRequest .ping true
  let c := { c with proto }
  if !sent then ((c.setAppState .timeout).error .sc2ProtocolTimeout).terminateHung
  else
    let (responsePing, proto) := c.proto.waitForResponseInternal
    let c := { c with proto }
    match responsePing with
    | some _ =>
      (c.errorIf (c.proto.latestStatus = .unknown) .sc2UnknownStatus).error .sc2UnknownStatus
    | none => ((c.setAppState .timeout).error .sc2ProtocolTimeout).terminateHung

/-- Step 1: distinguish between a hang and a crash. -/
def diagnose (c : Control) : Control :=
  let (running, c) := c.isProcessRunning
  if !running then (c.setAppState .crashed).error .sc2AppFailure else c.diagnoseHang

def waitForResponse (c : Control) : Option GameResponse × Control :=
  let (response, proto) := c.proto.waitForResponseInternal
  let c := { c with proto }
  match response with
  | some response =>
    if response.answer.error = [] then (some response, c)
    else (some response, c.error .sc2ProtocolError response.answer.error)
  | none => (none, c.diagnose)

/-- A request whose response is waited for if it could be sent: what most operations
do. -/
def exchange (c : Control) (case : Proto.ResponseCase) : Option GameResponse × Control :=
  let (sent, c) := c.sendRequest case
  if !sent then (none, c) else c.waitForResponse

/-- The response is of the kind asked for and reports no error. -/
def succeeded (response : Option GameResponse) (case : Proto.ResponseCase) : Bool :=
  match response with
  | none => false
  | some response => response.answer.error = [] ∧ response.case = case

theorem succeeded_iff {response : GameResponse} {case : Proto.ResponseCase} :
    succeeded (some response) case = true ↔
      response.answer.error = [] ∧ response.case = case :=
  decide_eq_true_iff

/-! ## Game data -/

/-- The abilities that a data request brings. -/
def requestAbilities (c : Control) : Option (List Proto.AbilityData) × Control :=
  let (response, c) := c.exchange .data
  if succeeded response .data then (response.map (·.answer.abilities), c) else (none, c)

/-- The outcomes of `n` requests for the ability table. -/
def abilityAnswers : Nat → Control → List (Option (List Proto.AbilityData)) × Control
  | 0, c => ([], c)
  | n + 1, c =>
    let (answer, c) := c.requestAbilities
    let (answers, c) := abilityAnswers n c
    (answer :: answers, c)

/-- The entries of a table, and whether it counts as cached. -/
def tableState (c : Control) : DataTable → Nat × Bool
  | .abilities =>
    (c.imp.observationImp.abilityTable.abilities.length,
      c.imp.observationImp.abilityTable.abilitiesCached)
  | .unitTypes => (c.tableSizes .unitTypes, c.imp.observationImp.unitTypesCached)
  | .upgrades => (c.tableSizes .upgrades, c.imp.observationImp.upgradesCached)
  | .buffs => (c.tableSizes .buffs, c.imp.observationImp.buffsCached)
  | .effects => (c.tableSizes .effects, c.imp.observationImp.effectsCached)

/-- What a round trip for `size` entries of a table leaves, with the errors it records; none
came when `size` is `0`. -/
def refreshTable (s : ObservationImp) (table : DataTable) (size : Nat)
    (abilities : Option (List Proto.AbilityData)) : ObservationImp × List ClientError :=
  let cached := size ≠ 0
  match table with
  | .abilities =>
    let abilityTable := ((getAbilityData true).run
      { s.abilityTable with answers := [abilities], errors := [] }).2
    ({ s with abilityTable }, abilityTable.errors)
  | .unitTypes => ({ s with unitTypesCached := cached }, [])
  | .upgrades => ({ s with upgradesCached := cached }, [])
  | .buffs => ({ s with buffsCached := cached }, [])
  | .effects => ({ s with effectsCached := cached }, [])

def storeTable (c : Control) (table : DataTable) (size : Nat)
    (abilities : Option (List Proto.AbilityData)) : Control :=
  let (s, errors) := refreshTable c.imp.observationImp table size abilities
  { c with
    imp := { c.imp with observationImp := s }
    tableSizes := Function.update c.tableSizes table size }.reportErrors errors

/-- `GetAbilityData`, `GetUnitTypeData`, `GetUpgradeData`, `GetBuffData` and
`GetEffectData`. -/
def getData (c : Control) (table : DataTable) (forceRefresh : Bool := false) : Control :=
  let (size, cached) := c.tableState table
  if cached && !(forceRefresh || size < 1) then c
  else
    let (response, c) := c.exchange .data
    let answer := if succeeded response .data then response.map (·.answer) else none
    let size := match table with
      | .abilities => (answer.map (·.abilities.length)).getD 0
      | _ => (answer.map (·.dataSize)).getD 0
    c.storeTable table size (answer.map (·.abilities))

/-- `GetGameInfo`; the converted message is not modelled. -/
def getGameInfo (c : Control) : Control :=
  if c.imp.observationImp.gameInfoCached then c
  else
    let (response, c) := c.exchange .gameInfo
    if succeeded response .gameInfo then
      { c with imp := { c.imp with
        observationImp := { c.imp.observationImp with gameInfoCached := true } } }
    else c

/-! ## Observations -/

/-- `GetObservation`. How often `UpdateObservation` asks for the ability table is left
to the world; remaps that it drops are errors of the client. A response that is missing is
only read for a message to `std::cerr`, after which the model goes on. -/
def getObservation (c : Control) : Bool × Control :=
  if c.appState ≠ .normal then (false, c)
  else
    let (sent, c) := c.sendRequest .observation
    if !sent then (false, c)
    else
      let (response, c) := c.waitForResponse
      match response with
      | none => (false, c)
      | some response =>
        if !succeeded (some response) .observation ∨
            response.answer.observation.observation.isNone then (false, c)
        else
          let world := c.proto.world
          let c := { c with proto := { c.proto with world := { world with
            dataRequests := world.dataRequests.tail
            updateOrders := world.updateOrders.tail } } }
          let imp := c.imp
          let (answers, c) := abilityAnswers world.dataRequests.head c
          let imp := { imp with observationImp := { imp.observationImp with
            abilityTable := { imp.observationImp.abilityTable with answers, errors := [] } } }
          let (updated, imp) := imp.getObservation world.updateOrders.head (some response.toProto)
          (updated, { c with imp := { imp with appState := c.appState } }.reportErrors
            imp.observationImp.abilityTable.errors)

def step (c : Control) : Bool × Control :=
  if c.appState ≠ .normal then (false, c) else c.sendRequest .step

def waitStep (c : Control) : Bool × Control :=
  let (response, c) := c.waitForResponse
  if succeeded response .step then c.getObservation else (false, c)

/-! ## Joining and leaving -/

/-- `RequestJoinGame` with the message it sends. -/
def requestJoinGame (c : Control) (setup : PlayerSetup) (settings : InterfaceSettings)
    (ports : Ports) : Bool × Proto.RequestJoinGame × Control :=
  let (sent, proto) := c.proto.sendRequest .joinGame
  let (sent, message, imp) := c.imp.requestJoinGame setup settings ports sent
  (sent, message, { c with proto, imp })

def waitJoinGame (c : Control) : Bool × Control :=
  let (response, c) := c.waitForResponse
  match response with
  | none => (false, c)
  | some response =>
    if !succeeded (some response) .joinGame then (false, c)
    else
      let s := { c.imp.observationImp with playerId := response.answer.playerId }
      (true, { c with imp := { c.imp with observationImp := s } })

def requestLeaveGame (c : Control) : Bool × Control :=
  if !c.imp.isMultiplayer then (false, c) else c.sendRequest .leaveGame

def pollLeaveGame (c : Control) : Bool × Control :=
  if !c.imp.isMultiplayer then (false, c)
  else if c.proto.responsePending ≠ .leaveGame then
    -- not in a game: in the end state, trying to leave the game
    let c := c.errorIf c.hasResponsePending .responseNotConsumed
    (!c.isInGame, c)
  else
    let (arrived, c) := c.pollResponse
    if !arrived then (true, c) else (true, c.waitForResponse.2)

/-! ## Other operations -/

/-- A round trip whose response must be of the kind asked for and carry no `error`; error
strings of the response as a whole are not looked at. -/
def request (c : Control) (case : Proto.ResponseCase) : Bool × Control :=
  let (response, c) := c.exchange case
  match response with
  | none => (false, c)
  | some response => (response.case = case ∧ !response.answer.responseError, c)

/-- `CreateGame`, as far as it talks to the game. -/
def createGame (c : Control) : Bool × Control := c.request .createGame

/-- `RemoteSaveMap`, as far as it talks to the game. -/
def remoteSaveMap (c : Control) : Bool × Control := c.request .saveMap

/-- `SaveReplay`, as far as it talks to the game. -/
def saveReplay (c : Control) : Control := (c.exchange .saveReplay).2

/-- `ConsumeResponse`. -/
def consumeResponse (c : Control) : Bool × Control :=
  let (response, c) := c.waitForResponse
  (response.isSome, c)

def ping (c : Control) : Bool × Control :=
  let (answered, proto) := c.proto.pingGame
  (answered, { c with proto })

def save (c : Control) : Control := (c.exchange .quickSave).2

def load (c : Control) : Control := (c.exchange .quickLoad).2

/-- `SendDebug`; neither result of `SendRequest` is looked at. -/
def sendDebug (c : Control) (hasMoveCamera : Bool) : Control :=
  let c := (c.sendRequest .debug).2.waitForResponse.2
  if hasMoveCamera then (c.sendRequest .action).2.waitForResponse.2 else c

/-- `GetGeneralizedAbilityID`, as far as it talks to the game. -/
def generalizeAbilityID (c : Control) (abilityId : UInt32) : Control :=
  if abilityId = 0 then c else c.getData .abilities

/-- The loop of `GetAbilitiesForUnits`; `units` are those that the entries to come are about.
An entry beyond the units asked for, which the source compares with what lies behind them,
counts as one about another unit. -/
def readAbilities (c : Control) (units : List Tag) :
    List Proto.ResponseQueryAvailableAbilities → Control
  | [] => c
  | entry :: entries =>
    let c := c.errorIf (units.head? ≠ some (entry.unitTag.getD 0)) .errorSC2
    let c := entry.abilities.foldl
      (fun c ability => c.generalizeAbilityID (ability.abilityId.getD 0).toUInt32) c
    c.readAbilities units.tail entries

/-- `GetAbilitiesForUnits`, as far as it talks to the game, with the number of its results. -/
def getAbilitiesForUnits (c : Control) (units : List Tag) : Nat × Control :=
  if units = [] then (0, c)
  else
    let (response, c) := c.exchange .query
    match response with
    | none => (0, c)
    | some response =>
      if response.case ≠ .query then (0, c.error .invalidResponse)
      else
        let entries := response.answer.query.abilities
        (entries.length, c.readAbilities units entries)

/-- The queries, as far as they talk to the game. Of those for pathing and placement all
forms do the same. -/
inductive Query
  | abilitiesForUnit (unit : Tag)
  | abilitiesForUnits (units : List Tag)
  | pathingDistance
  | placement
  deriving DecidableEq, Repr

def query (c : Control) : Query → Control
  | .abilitiesForUnit unit =>
    let (size, c) := c.getAbilitiesForUnits [unit]
    c.errorIf (size = 0) .noAbilitiesForTag
  | .abilitiesForUnits units => (c.getAbilitiesForUnits units).2
  | .pathingDistance => (c.exchange .query).2
  | .placement => (c.exchange .query).2

/-- What the user's code does with a client in a callback. -/
def takeTurn (c : Control) (turn : BotTurn) : Control :=
  (turn.requests.foldl (fun c request => (c.exchange request.case).2) c).reportErrors
    (turn.errors.map (·.toClientError))

/-- The attempts of `Connect`, one a second. -/
def connectLoop : Nat → Control → Bool × Control
  | 0, c => (false, c)
  | n + 1, c =>
    let (connected, proto) := c.proto.connectToGame
    let c := { c with proto }
    if connected then (true, c) else connectLoop n c

def connect (c : Control) (timeoutMs : Int32) : Bool × Control :=
  let seconds := (timeoutMs.toUInt32 + 1500) / 1000
  connectLoop (if seconds < 1 then 1 else seconds.toNat) c

/-- `UseGeneralizedAbility`. -/
def useGeneralizedAbility (c : Control) (value : Bool) : Control :=
  { c with imp := { c.imp with
    observationImp := { c.imp.observationImp with useGeneralizedAbility := value } } }

/-- `SetProcessInfo`. -/
def setProcessInfo (c : Control) (processInfo : ProcessInfo) : Control :=
  { c with processInfo := some processInfo }

end Control

end Sc2Api
