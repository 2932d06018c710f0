import Sc2Api.GameSetup
import Sc2Api.Lib.Machine
import Sc2Api.Observation

/-!
# Observations and events of a client

The part of `ControlImp` that fetches observations and turns two successive ones
into callbacks. A round trip to the game is its outcome, `none` for a request
that could not be sent or was not answered. A callback is recorded with the tag
its `Unit*` argument shows to the bot.
-/

namespace Sc2Api

open Lib

namespace Proto

/-- A response as `GetObservation` sees it; `observation` is `none` for a response
of another kind. -/
structure Response where
  error : List String := []
  observation : Option ResponseObservation := none
  deriving DecidableEq, Repr

end Proto

inductive Callback
  | onUnitDestroyed (unit : Tag)
  | onUnitEnterVision (unit : Tag)
  | onUnitCreated (unit : Tag)
  | onUnitIdle (unit : Tag)
  | onBuildingConstructionComplete (unit : Tag)
  | onUpgradeCompleted (upgrade : UpgradeID)
  | onNuclearLaunchDetected
  | onNydusDetected
  | onStep
  deriving DecidableEq, Repr

/-- `observation` and `response` are `none` while the source's pointers are null. -/
structure ControlImp where
  appState : AppState := .normal
  isMultiplayer : Bool := false
  observation : Option Proto.Observation := none
  response : Option Proto.ResponseObservation := none
  observationImp : ObservationImp := {}

namespace ControlImp

/-! ## Fetching -/

/-- `GetObservation`; the result of `UpdateObservation` is ignored. -/
def getObservation (c : ControlImp) (orders : UpdateOrders) (answer : Option Proto.Response) :
    Bool × ControlImp :=
  if c.appState ≠ .normal then (false, c)
  else match answer with
    | none => (false, c)
    | some response =>
      match response.error, response.observation with
      | [], some responseObservation =>
        match responseObservation.observation with
        | none => (false, c)
        | some observation =>
          let (_, imp) :=
            c.observationImp.updateObservation orders observation responseObservation
          (true, { c with
            observation := some observation
            response := some responseObservation
            observationImp := imp })
      | _, _ => (false, c)

/-- `RequestJoinGame`: its result, the message it gives to `SendRequest`, and the
client after it. `sent` is the result of `SendRequest`. -/
def requestJoinGame (c : ControlImp) (setup : PlayerSetup) (settings : InterfaceSettings)
    (ports : Ports) (sent : Bool) : Bool × Proto.RequestJoinGame × ControlImp :=
  (sent, joinGameRequest setup settings ports,
    { c with
      observationImp := c.observationImp.clearFlags
      isMultiplayer := ports.isValid })

/-! ## Events -/

/-- The loop over `dead_units`. -/
def destroyUnits : List Tag → UnitPool → List Callback × UnitPool
  | [], pool => ([], pool)
  | tag :: tags, pool =>
    match pool.getUnit tag with
    | none => destroyUnits tags pool
    | some unit =>
      let pool := pool.markDead tag
      let (callbacks, pool') := destroyUnits tags pool
      (.onUnitDestroyed (pool.deref unit).tag :: callbacks, pool')

def issueUnitDestroyedEvents (c : ControlImp) : List Callback × ControlImp :=
  match (c.observation.getD {}).rawData with
  | none => ([], c)
  | some raw =>
    match raw.event with
    | none => ([], c)
    | some event =>
      let (callbacks, pool) := destroyUnits event.deadUnits c.observationImp.unitPool
      (callbacks, { c with observationImp := { c.observationImp with unitPool := pool } })

/-- What `IssueUnitAddedEvents` does for one existing unit. -/
def unitAddedEvent (previous : AList fun _ : Tag => Unit) (unit : Unit) : List Callback :=
  match previous.lookup unit.tag with
  | some _ => []
  | none =>
    if unit.alliance = .enemy ∧ unit.displayType = .visible then [.onUnitEnterVision unit.tag]
    else if unit.alliance = .self then [.onUnitCreated unit.tag]
    else []

def issueUnitAddedEvents (c : ControlImp) (order : UnitPool.Order) : List Callback :=
  let s := c.observationImp
  (s.unitPool.existingUnits order).flatMap fun unit =>
    unitAddedEvent s.unitsPreviousMap (s.unitPool.deref unit)

/-- `IssueIdleEvent` on the record of a unit. -/
def issueIdleEvent (previous : AList fun _ : Tag => Unit) (unit : Unit) (commands : List Tag) :
    List Callback :=
  if unit.orders ≠ [] ∨ unit.buildProgress < 1 then []
  else match previous.lookup unit.tag with
    | none => [.onUnitIdle unit.tag]
    | some unitPrevious =>
      if unitPrevious.orders ≠ [] then [.onUnitIdle unit.tag]
      else if unitPrevious.buildProgress < 1 then [.onUnitIdle unit.tag]
      else if commands.any (· == unit.tag) then [.onUnitIdle unit.tag]
      else []

/-- `IssueBuildingCompletedEvent` on the record of a unit. -/
def issueBuildingCompletedEvent (previous : AList fun _ : Tag => Unit) (unit : Unit) :
    List Callback :=
  if unit.buildProgress < 1 then []
  else match previous.lookup unit.tag with
    | none => []
    | some unitPrevious =>
      if unitPrevious.buildProgress < 1 then [.onBuildingConstructionComplete unit.tag] else []

/-- `ObservationImp::GetUnits(Unit::Alliance)` without a filter. -/
def getUnits (s : ObservationImp) (alliance : Alliance) (order : UnitPool.Order) :
    List PoolIndex :=
  (s.unitPool.existingUnits order).filter fun unit =>
    (s.unitPool.deref unit).alliance == alliance

/-- The loop of `IssueEvents` over the bot's own units. -/
def issueUnitEvents (c : ControlImp) (order : UnitPool.Order) (commands : List Tag) :
    List Callback :=
  let s := c.observationImp
  (getUnits s .self order).flatMap fun unit =>
    issueIdleEvent s.unitsPreviousMap (s.unitPool.deref unit) commands ++
      issueBuildingCompletedEvent s.unitsPreviousMap (s.unitPool.deref unit)

def issueUpgradeEvents (c : ControlImp) : List Callback :=
  let previous := c.observationImp.upgradesPrevious
  (c.observationImp.upgrades.filter (· ∉ previous)).map .onUpgradeCompleted

def alertEvent : Proto.Alert → Callback
  | .nuclearLaunchDetected => .onNuclearLaunchDetected
  | .nydusWormDetected => .onNydusDetected

def issueAlertEvents (c : ControlImp) : List Callback :=
  (c.observation.getD {}).alerts.map alertEvent

/-- `IssueEvents`: its result, the callbacks it makes and the client after it. The
two walks over the existing units meet them in one `order`. -/
def issueEvents (c : ControlImp) (order : UnitPool.Order) (commands : List Tag) :
    Bool × List Callback × ControlImp :=
  if c.observationImp.currentGameLoop = c.observationImp.previousGameLoop then (false, [], c)
  else
    let (destroyed, c) := c.issueUnitDestroyedEvents
    let added := c.issueUnitAddedEvents order
    let units := c.issueUnitEvents order commands
    let upgrades := c.issueUpgradeEvents
    let alerts := c.issueAlertEvents
    (true, destroyed ++ added ++ units ++ upgrades ++ alerts ++ [.onStep], c)

end ControlImp

end Sc2Api
