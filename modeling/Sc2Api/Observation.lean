import Sc2Api.ProtoToPods

/-!
# The observation of a client

`ObservationImp` is what a client knows of its game. `updateObservation` folds
one observation response into it, in the order of the source and with its four
early returns; each leaves behind what was updated before it.
-/

namespace Sc2Api

open Lib

/-- `std::numeric_limits<uint32_t>::max()`, the game loop before the first observation. -/
def noGameLoop : GameLoop := 0xFFFFFFFF

structure ObservationImp where
  playerId : UInt32 := 0
  unitPool : UnitPool := {}
  unitsPreviousMap : AList (fun _ : Tag => Unit) := ∅
  currentGameLoop : GameLoop := noGameLoop
  previousGameLoop : GameLoop := noGameLoop
  rawActions : List ActionRaw := []
  featureLayerActions : SpatialActions := {}
  renderedActions : SpatialActions := {}
  powerSources : List PowerSource := []
  effects : List Effect := []
  upgrades : List UpgradeID := []
  upgradesPrevious : List UpgradeID := []
  chat : List ChatMessage := []
  gameInfoCached : Bool := false
  useGeneralizedAbility : Bool := true
  minerals : Int32 := 0
  vespene : Int32 := 0
  foodCap : Int32 := 0
  foodUsed : Int32 := 0
  foodArmy : Int32 := 0
  foodWorkers : Int32 := 0
  idleWorkerCount : Int32 := 0
  armyCount : Int32 := 0
  warpGateCount : Int32 := 0
  larvaCount : Int32 := 0
  cameraPos : Point2D := {}
  abilityTable : AbilityTable := {}
  score : Score := {}
  unitTypesCached : Bool := false
  upgradesCached : Bool := false
  buffsCached : Bool := false
  effectsCached : Bool := false
  playerResults : List PlayerResult := []

/-- The orders in which the two walks of `UpdateObservation` meet the existing units. -/
structure UpdateOrders where
  previous : UnitPool.Order := .listed _
  remap : UnitPool.Order := .listed _

namespace ObservationImp

def clearFlags (s : ObservationImp) : ObservationImp :=
  { s with
    playerId := 0
    gameInfoCached := false
    abilityTable := { s.abilityTable with abilitiesCached := false }
    unitTypesCached := false
    upgradesCached := false
    buffsCached := false
    effectsCached := false }

/-! ## The parts of `UpdateObservation` -/

def updateGameLoop (s : ObservationImp) (nextGameLoop : GameLoop) : ObservationImp :=
  { s with
    previousGameLoop := s.currentGameLoop
    currentGameLoop := nextGameLoop }

def updatePlayerCommon (s : ObservationImp) (playerCommon : Proto.PlayerCommon) :
    ObservationImp :=
  { s with
    playerId := playerCommon.playerId.getD s.playerId
    minerals := (playerCommon.minerals.getD 0).toInt32
    vespene := (playerCommon.vespene.getD 0).toInt32
    foodUsed := (playerCommon.foodUsed.getD 0).toInt32
    foodCap := (playerCommon.foodCap.getD 0).toInt32
    foodArmy := (playerCommon.foodArmy.getD 0).toInt32
    foodWorkers := (playerCommon.foodWorkers.getD 0).toInt32
    idleWorkerCount := (playerCommon.idleWorkerCount.getD 0).toInt32
    armyCount := (playerCommon.armyCount.getD 0).toInt32
    warpGateCount := (playerCommon.warpGateCount.getD 0).toInt32
    larvaCount := (playerCommon.larvaCount.getD 0).toInt32 }

def remapRawAction (action : ActionRaw) : StateM AbilityTable ActionRaw := do
  return { action with abilityId := ← getGeneralizedAbilityID action.abilityId }

def remapSpatialAction (action : SpatialUnitCommand) : StateM AbilityTable SpatialUnitCommand := do
  return { action with abilityId := ← getGeneralizedAbilityID action.abilityId }

/-- The actions of the response are appended to those kept, then every ability id
in the three lists is generalized, kept actions included. -/
def updateActions (s : ObservationImp) (response : Proto.ResponseObservation)
    (isNewFrame : Bool) : ObservationImp :=
  let rawActions := convertRawActions response (if isNewFrame then [] else s.rawActions)
  let featureLayer :=
    convertFeatureLayerActions response (if isNewFrame then {} else s.featureLayerActions)
  let rendered :=
    convertRenderedActions response (if isNewFrame then {} else s.renderedActions)
  let (rawActions, table) := (rawActions.mapM remapRawAction).run s.abilityTable
  let (commands, table) := (featureLayer.unitCommands.mapM remapSpatialAction).run table
  let (commands', table) := (rendered.unitCommands.mapM remapSpatialAction).run table
  { s with
    rawActions
    featureLayerActions := { featureLayer with unitCommands := commands }
    renderedActions := { rendered with unitCommands := commands' }
    abilityTable := table }

def updateChat (s : ObservationImp) (response : Proto.ResponseObservation) : ObservationImp :=
  { s with chat := response.chat.map fun message =>
      ⟨message.playerId.getD 0, message.message.getD ""⟩ }

/-- The copy of the existing units that the next events are compared with. -/
def previousMap (order : UnitPool.Order) (pool : UnitPool) : AList (fun _ : Tag => Unit) :=
  (pool.existingUnits order).foldl
    (fun map unit => map.insert (pool.deref unit).tag (pool.deref unit)) ∅

def remapOrder (order : UnitOrder) : StateM AbilityTable UnitOrder := do
  return { order with abilityId := ← getGeneralizedAbilityID order.abilityId }

/-- Generalizes the ability ids in the orders of one unit of the pool. -/
def remapUnit (acc : UnitPool × AbilityTable) (unit : PoolIndex) : UnitPool × AbilityTable :=
  let (orders, table) := ((acc.1.deref unit).orders.mapM remapOrder).run acc.2
  (acc.1.write unit fun u => { u with orders }, table)

def remapOrders (s : ObservationImp) (order : UnitPool.Order) : ObservationImp :=
  if s.useGeneralizedAbility then
    let (pool, table) :=
      (s.unitPool.existingUnits order).foldl remapUnit (s.unitPool, s.abilityTable)
    { s with unitPool := pool, abilityTable := table }
  else s

def updateUnits (s : ObservationImp) (orders : UpdateOrders) (raw : Proto.ObservationRaw) :
    ObservationImp :=
  let s := { s with unitsPreviousMap := previousMap orders.previous s.unitPool }
  let s := { s with
    unitPool := convertUnits raw s.unitPool.clearExisting s.currentGameLoop }
  s.remapOrders orders.remap

def updateEffects (s : ObservationImp) (raw : Proto.ObservationRaw) : ObservationImp :=
  { s with effects := raw.effects.map fun effect =>
      ⟨effect.effectId.getD 0, effect.pos.map (·.toPoint2D)⟩ }

def updatePlayerRaw (s : ObservationImp) (playerRaw : Proto.PlayerRaw) (camera : Proto.Point) :
    ObservationImp :=
  { s with
    cameraPos := camera.toPoint2D
    powerSources := playerRaw.powerSources.map fun source =>
      ⟨(source.pos.getD {}).toPoint2D, source.radius.getD 0, source.tag.getD 0⟩ }

def updateUpgrades (s : ObservationImp) (upgradeIds : List UpgradeID) : ObservationImp :=
  { s with
    upgradesPrevious := s.upgrades
    upgrades := upgradeIds }

def updateResults (s : ObservationImp) (response : Proto.ResponseObservation) : ObservationImp :=
  { s with playerResults := response.playerResult.map fun result =>
      ⟨result.playerId.getD 0, convertGameResultFromProto (result.result.getD .victory)⟩ }

/-! ## The whole update -/

/-- `ObservationImp::UpdateObservation` on `observation_` and `response_`. -/
def updateObservation (s : ObservationImp) (orders : UpdateOrders)
    (observation : Proto.Observation) (response : Proto.ResponseObservation) :
    Bool × ObservationImp :=
  let (hasScore, score) := convertScore observation
  let s := { s with score }
  if !hasScore then (false, s)
  else
    let nextGameLoop := observation.gameLoop.getD 0
    let isNewFrame := nextGameLoop != s.currentGameLoop
    let s := s.updateGameLoop nextGameLoop
    let s := s.updatePlayerCommon (observation.playerCommon.getD {})
    let s := s.updateActions response isNewFrame
    let s := s.updateChat response
    match observation.rawData with
    | none => (false, s)
    | some raw =>
      let s := s.updateUnits orders raw
      let s := s.updateEffects raw
      match raw.player with
      | none => (false, s)
      | some playerRaw =>
        match playerRaw.camera with
        | none => (false, s)
        | some camera =>
          let s := s.updatePlayerRaw playerRaw camera
          let s := s.updateUpgrades playerRaw.upgradeIds
          let s := s.updateResults response
          (true, s)

end ObservationImp

end Sc2Api
