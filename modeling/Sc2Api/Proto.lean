import Sc2Api.GameTypes

/-!
# Messages of the game protocol

The parts of `raw.proto`, `score.proto`, `spatial.proto`, `data.proto` and
`sc2api.proto` that the client reads. An `optional` field is an `Option`;
`.getD` with the protobuf default is its accessor, `.isSome` its `has_`
accessor. Enumerations are closed (proto2): a value outside them never reaches
an accessor.
-/

namespace Sc2Api.Proto

open Sc2Api

/-! ## Units -/

inductive DisplayType
  | visible
  | snapshot
  | hidden
  deriving DecidableEq, Repr, Inhabited

inductive Alliance
  | self
  | ally
  | neutral
  | enemy
  deriving DecidableEq, Repr, Inhabited

inductive CloakState
  | cloaked
  | cloakedDetected
  | notCloaked
  deriving DecidableEq, Repr, Inhabited

structure Point where
  x : Option CFloat := none
  y : Option CFloat := none
  z : Option CFloat := none
  deriving DecidableEq, Repr, Inhabited

/-- The `oneof target` of an order or a command. -/
inductive Target
  | worldSpacePos (pos : Point)
  | unitTag (tag : Tag)
  deriving DecidableEq, Repr

def Target.pos? : Target → Option Point
  | .worldSpacePos pos => some pos
  | .unitTag _ => none

def Target.tag? : Target → Option Tag
  | .worldSpacePos _ => none
  | .unitTag tag => some tag

structure UnitOrder where
  abilityId : Option UInt32 := none
  target : Option Target := none
  progress : Option CFloat := none
  deriving DecidableEq, Repr

structure PassengerUnit where
  tag : Option Tag := none
  health : Option CFloat := none
  healthMax : Option CFloat := none
  shield : Option CFloat := none
  shieldMax : Option CFloat := none
  energy : Option CFloat := none
  energyMax : Option CFloat := none
  unitType : Option UInt32 := none
  deriving DecidableEq, Repr

structure Unit where
  displayType : Option DisplayType := none
  alliance : Option Alliance := none
  tag : Option Tag := none
  unitType : Option UInt32 := none
  owner : Option Int32 := none
  pos : Option Point := none
  facing : Option CFloat := none
  radius : Option CFloat := none
  buildProgress : Option CFloat := none
  cloak : Option CloakState := none
  detectRange : Option CFloat := none
  radarRange : Option CFloat := none
  isSelected : Option Bool := none
  isOnScreen : Option Bool := none
  isBlip : Option Bool := none
  isPowered : Option Bool := none
  health : Option CFloat := none
  healthMax : Option CFloat := none
  shield : Option CFloat := none
  shieldMax : Option CFloat := none
  energy : Option CFloat := none
  energyMax : Option CFloat := none
  mineralContents : Option Int32 := none
  vespeneContents : Option Int32 := none
  isFlying : Option Bool := none
  isBurrowed : Option Bool := none
  orders : List UnitOrder := []
  addOnTag : Option Tag := none
  passengers : List PassengerUnit := []
  cargoSpaceTaken : Option Int32 := none
  cargoSpaceMax : Option Int32 := none
  buffIds : List UInt32 := []
  assignedHarvesters : Option Int32 := none
  idealHarvesters : Option Int32 := none
  weaponCooldown : Option CFloat := none
  engagedTargetTag : Option Tag := none
  deriving DecidableEq, Repr

/-! ## Observation -/

structure PowerSource where
  pos : Option Point := none
  radius : Option CFloat := none
  tag : Option Tag := none
  deriving DecidableEq, Repr

structure PlayerRaw where
  powerSources : List PowerSource := []
  camera : Option Point := none
  upgradeIds : List UInt32 := []
  deriving DecidableEq, Repr

structure Effect where
  effectId : Option UInt32 := none
  pos : List Point := []
  deriving DecidableEq, Repr

structure Event where
  deadUnits : List Tag := []
  deriving DecidableEq, Repr

structure PointI where
  x : Option Int32 := none
  y : Option Int32 := none
  deriving DecidableEq, Repr, Inhabited

/-- A bitmap; `Size2DI` has the members of `PointI`. -/
structure ImageData where
  bitsPerPixel : Option Int32 := none
  size : Option PointI := none
  data : Option (List UInt8) := none
  deriving DecidableEq, Repr

structure MapState where
  visibility : Option ImageData := none
  creep : Option ImageData := none
  deriving DecidableEq, Repr

structure ObservationRaw where
  player : Option PlayerRaw := none
  units : List Unit := []
  mapState : Option MapState := none
  event : Option Event := none
  effects : List Effect := []
  deriving DecidableEq, Repr

structure PlayerCommon where
  playerId : Option UInt32 := none
  minerals : Option UInt32 := none
  vespene : Option UInt32 := none
  foodCap : Option UInt32 := none
  foodUsed : Option UInt32 := none
  foodArmy : Option UInt32 := none
  foodWorkers : Option UInt32 := none
  idleWorkerCount : Option UInt32 := none
  armyCount : Option UInt32 := none
  warpGateCount : Option UInt32 := none
  larvaCount : Option UInt32 := none
  deriving DecidableEq, Repr

inductive ScoreType
  | curriculum
  | melee
  deriving DecidableEq, Repr, Inhabited

structure CategoryScoreDetails where
  none : Option CFloat := Option.none
  army : Option CFloat := Option.none
  economy : Option CFloat := Option.none
  technology : Option CFloat := Option.none
  upgrade : Option CFloat := Option.none
  deriving DecidableEq, Repr

structure VitalScoreDetails where
  life : Option CFloat := none
  shields : Option CFloat := none
  energy : Option CFloat := none
  deriving DecidableEq, Repr

structure ScoreDetails where
  idleProductionTime : Option CFloat := none
  idleWorkerTime : Option CFloat := none
  totalValueUnits : Option CFloat := none
  totalValueStructures : Option CFloat := none
  killedValueUnits : Option CFloat := none
  killedValueStructures : Option CFloat := none
  collectedMinerals : Option CFloat := none
  collectedVespene : Option CFloat := none
  collectionRateMinerals : Option CFloat := none
  collectionRateVespene : Option CFloat := none
  spentMinerals : Option CFloat := none
  spentVespene : Option CFloat := none
  foodUsed : Option CategoryScoreDetails := none
  killedMinerals : Option CategoryScoreDetails := none
  killedVespene : Option CategoryScoreDetails := none
  lostMinerals : Option CategoryScoreDetails := none
  lostVespene : Option CategoryScoreDetails := none
  friendlyFireMinerals : Option CategoryScoreDetails := none
  friendlyFireVespene : Option CategoryScoreDetails := none
  usedMinerals : Option CategoryScoreDetails := none
  usedVespene : Option CategoryScoreDetails := none
  totalUsedMinerals : Option CategoryScoreDetails := none
  totalUsedVespene : Option CategoryScoreDetails := none
  totalDamageDealt : Option VitalScoreDetails := none
  totalDamageTaken : Option VitalScoreDetails := none
  totalHealed : Option VitalScoreDetails := none
  deriving DecidableEq, Repr

structure Score where
  scoreType : Option ScoreType := none
  score : Option Int32 := none
  scoreDetails : Option ScoreDetails := none
  deriving DecidableEq, Repr

inductive Alert
  | nuclearLaunchDetected
  | nydusWormDetected
  deriving DecidableEq, Repr

structure Observation where
  gameLoop : Option UInt32 := none
  playerCommon : Option PlayerCommon := none
  alerts : List Alert := []
  score : Option Score := none
  rawData : Option ObservationRaw := none
  deriving DecidableEq, Repr

/-! ## Actions reported back -/

structure RectangleI where
  p0 : Option PointI := none
  p1 : Option PointI := none
  deriving DecidableEq, Repr

structure ActionRawUnitCommand where
  abilityId : Option Int32 := none
  target : Option Target := none
  unitTags : List Tag := []
  queueCommand : Option Bool := none
  deriving DecidableEq, Repr

/-- The `oneof action` of `ActionRaw`. -/
inductive ActionRaw
  | unitCommand (command : ActionRawUnitCommand)
  | cameraMove (centerWorldSpace : Option Point)
  | toggleAutocast (abilityId : Option Int32) (unitTags : List Tag)
  deriving DecidableEq, Repr

/-- The `oneof target` of a spatial command. -/
inductive SpatialTarget
  | screenCoord (point : PointI)
  | minimapCoord (point : PointI)
  deriving DecidableEq, Repr

structure ActionSpatialUnitCommand where
  abilityId : Option Int32 := none
  target : Option SpatialTarget := none
  queueCommand : Option Bool := none
  deriving DecidableEq, Repr

inductive SelectionPointType
  | select
  | toggle
  | allType
  | addAllType
  deriving DecidableEq, Repr, Inhabited

/-- The `oneof action` of `ActionSpatial`. -/
inductive ActionSpatial
  | unitCommand (command : ActionSpatialUnitCommand)
  | cameraMove (centerMinimap : Option PointI)
  | unitSelectionPoint (selectionScreenCoord : Option PointI)
      (type : Option SelectionPointType)
  | unitSelectionRect (selectionScreenCoord : List RectangleI) (selectionAdd : Option Bool)
  deriving DecidableEq, Repr

structure Action where
  actionRaw : Option ActionRaw := none
  actionFeatureLayer : Option ActionSpatial := none
  actionRender : Option ActionSpatial := none
  deriving DecidableEq, Repr

structure ChatReceived where
  playerId : Option UInt32 := none
  message : Option String := none
  deriving DecidableEq, Repr

inductive Result
  | victory
  | defeat
  | tie
  | undecided
  deriving DecidableEq, Repr, Inhabited

structure PlayerResult where
  playerId : Option UInt32 := none
  result : Option Result := none
  deriving DecidableEq, Repr

structure ResponseObservation where
  actions : List Action := []
  observation : Option Observation := none
  playerResult : List PlayerResult := []
  chat : List ChatReceived := []
  deriving DecidableEq, Repr

/-! ## Game data -/

inductive AbilityData.Target
  | none
  | point
  | unit
  | pointOrUnit
  | pointOrNone
  deriving DecidableEq, Repr, Inhabited

structure AbilityData where
  abilityId : Option UInt32 := none
  linkName : Option String := none
  linkIndex : Option UInt32 := none
  buttonName : Option String := none
  friendlyName : Option String := none
  hotkey : Option String := none
  remapsToAbilityId : Option UInt32 := none
  available : Option Bool := none
  target : Option AbilityData.Target := none
  allowMinimap : Option Bool := none
  allowAutocast : Option Bool := none
  isBuilding : Option Bool := none
  footprintRadius : Option CFloat := none
  isInstantPlacement : Option Bool := none
  castRange : Option CFloat := none
  deriving DecidableEq, Repr

/-! ## Queries -/

structure AvailableAbility where
  abilityId : Option Int32 := none
  requiresPoint : Option Bool := none
  deriving DecidableEq, Repr

structure ResponseQueryAvailableAbilities where
  abilities : List AvailableAbility := []
  unitTag : Option Tag := none
  unitTypeId : Option UnitTypeID := none
  deriving DecidableEq, Repr

structure ResponseQueryPathing where
  distance : Option CFloat := none
  deriving DecidableEq, Repr

/-- The first enumerator, or another by its number. -/
inductive ActionResult
  | success
  | failure (number : Nat)
  deriving DecidableEq, Repr

structure ResponseQueryBuildingPlacement where
  result : Option ActionResult := none
  deriving DecidableEq, Repr

structure ResponseQuery where
  abilities : List ResponseQueryAvailableAbilities := []
  pathing : List ResponseQueryPathing := []
  placements : List ResponseQueryBuildingPlacement := []
  deriving DecidableEq, Repr

end Sc2Api.Proto
