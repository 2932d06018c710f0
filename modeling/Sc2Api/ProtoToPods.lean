import Sc2Api.Data
import Sc2Api.Unit

/-!
# From messages to client data

The conversions of `sc2_proto_to_pods.cc` used by an observation. The closed
enumerations of the protocol make the enumeration conversions total, so the
early returns of the source on an unknown value have no counterpart here.
-/

namespace Sc2Api

namespace Proto

def Point.toPoint2D (p : Point) : Point2D := ⟨p.x.getD 0, p.y.getD 0⟩

def Point.toPoint3D (p : Point) : Point3D := ⟨p.x.getD 0, p.y.getD 0, p.z.getD 0⟩

def PointI.toPoint2DI (p : PointI) : Point2DI := ⟨p.x.getD 0, p.y.getD 0⟩

end Proto

/-! ## Enumerations -/

def convertDisplayType : Proto.DisplayType → DisplayType
  | .visible => .visible
  | .snapshot => .snapshot
  | .hidden => .hidden

def convertAlliance : Proto.Alliance → Alliance
  | .self => .self
  | .ally => .ally
  | .neutral => .neutral
  | .enemy => .enemy

def convertCloakState : Proto.CloakState → CloakState
  | .cloaked => .cloaked
  | .cloakedDetected => .cloakedDetected
  | .notCloaked => .notCloaked

def convertGameResultFromProto : Proto.Result → GameResult
  | .victory => .win
  | .defeat => .loss
  | .tie => .tie
  | .undecided => .undecided

def convertPointSelectionType : Proto.SelectionPointType → PointSelectionType
  | .select => .ptSelect
  | .toggle => .ptToggle
  | .allType => .ptAllType
  | .addAllType => .ptAddAllType

/-! ## Score -/

def convertVital (details : Proto.VitalScoreDetails) : VitalScoreDetails :=
  ⟨details.life.getD 0, details.shields.getD 0, details.energy.getD 0⟩

def convertCategory (details : Proto.CategoryScoreDetails) : CategoryScoreDetails :=
  ⟨details.none.getD 0, details.army.getD 0, details.economy.getD 0,
    details.technology.getD 0, details.upgrade.getD 0⟩

/-- The scalars are copied unconditionally, a record only when it is present.
`collectedVespene` is never written, and `totalDamageTaken` is guarded by the
presence of `collected_minerals`. -/
def convertScoreDetails (details : Proto.ScoreDetails) (out : ScoreDetails) : ScoreDetails :=
  let category (field : Option Proto.CategoryScoreDetails) (old : CategoryScoreDetails) :=
    (field.map convertCategory).getD old
  let vital (field : Option Proto.VitalScoreDetails) (old : VitalScoreDetails) :=
    (field.map convertVital).getD old
  { out with
    idleProductionTime := details.idleProductionTime.getD 0
    idleWorkerTime := details.idleWorkerTime.getD 0
    totalValueUnits := details.totalValueUnits.getD 0
    totalValueStructures := details.totalValueStructures.getD 0
    killedValueUnits := details.killedValueUnits.getD 0
    killedValueStructures := details.killedValueStructures.getD 0
    collectedMinerals := details.collectedMinerals.getD 0
    collectionRateMinerals := details.collectionRateMinerals.getD 0
    collectionRateVespene := details.collectionRateVespene.getD 0
    spentMinerals := details.spentMinerals.getD 0
    spentVespene := details.spentVespene.getD 0
    foodUsed := category details.foodUsed out.foodUsed
    killedMinerals := category details.killedMinerals out.killedMinerals
    killedVespene := category details.killedVespene out.killedVespene
    lostMinerals := category details.lostMinerals out.lostMinerals
    lostVespene := category details.lostVespene out.lostVespene
    friendlyFireMinerals := category details.friendlyFireMinerals out.friendlyFireMinerals
    friendlyFireVespene := category details.friendlyFireVespene out.friendlyFireVespene
    usedMinerals := category details.usedMinerals out.usedMinerals
    usedVespene := category details.usedVespene out.usedVespene
    totalUsedMinerals := category details.totalUsedMinerals out.totalUsedMinerals
    totalUsedVespene := category details.totalUsedVespene out.totalUsedVespene
    totalDamageDealt := vital details.totalDamageDealt out.totalDamageDealt
    totalDamageTaken :=
      if details.collectedMinerals.isSome then
        convertVital (details.totalDamageTaken.getD {})
      else out.totalDamageTaken
    totalHealed := vital details.totalHealed out.totalHealed }

/-- `Convert(observation_ptr, score)` on an observation without errors: the new
score, and whether the observation had one. -/
def convertScore (observation : Proto.Observation) : Bool × Score :=
  match observation.score with
  | none => (false, {})
  | some proto =>
    let scoreType := match proto.scoreType with
      | some .curriculum => .curriculum
      | some .melee => .melee
      | none => .melee
    let details := match proto.scoreDetails with
      | none => {}
      | some details => convertScoreDetails details {}
    (true, { scoreType, score := ((proto.score.getD 0).toInt : ℚ), scoreDetails := details })

/-- `convertScore` with the object it writes, which is overwritten first. -/
def convertScoreInto (score : Score) (observation : Proto.Observation) : Bool × Score :=
  let score := { score with scoreType := .melee, score := 0, scoreDetails := {} }
  match observation.score with
  | none => (false, score)
  | some proto =>
    let score := { score with
      scoreType := match proto.scoreType with
        | some .curriculum => .curriculum
        | some .melee => .melee
        | none => .melee
      score := ((proto.score.getD 0).toInt : ℚ) }
    match proto.scoreDetails with
    | none => (true, score)
    | some details =>
      (true, { score with scoreDetails := convertScoreDetails details score.scoreDetails })

theorem convertScoreInto_eq (score : Score) (observation : Proto.Observation) :
    convertScoreInto score observation = convertScore observation := by
  unfold convertScoreInto convertScore
  cases observation.score with
  | none => rfl
  | some proto =>
    dsimp only
    cases proto.scoreDetails <;> rfl

/-! ## Units -/

def convertOrder (order : Proto.UnitOrder) : UnitOrder where
  abilityId := order.abilityId.getD 0
  targetUnitTag := (order.target.bind (·.tag?)).getD 0
  targetPos := ((order.target.bind (·.pos?)).getD {}).toPoint2D
  progress := order.progress.getD 0

def convertPassenger (passenger : Proto.PassengerUnit) : PassengerUnit where
  tag := passenger.tag.getD 0
  health := passenger.health.getD 0
  healthMax := passenger.healthMax.getD 0
  shield := passenger.shield.getD 0
  shieldMax := passenger.shieldMax.getD 0
  energy := passenger.energy.getD 0
  energyMax := passenger.energyMax.getD 0
  unitType := passenger.unitType.getD 0

/-- What the loop of `Convert(observation_raw, unit_pool, game_loop)` writes to
the record of one unit. -/
def convertUnit (observationUnit : Proto.Unit) (gameLoop : GameLoop) (unit : Unit) : Unit :=
  let pt := observationUnit.pos.getD {}
  { unit with
    displayType := convertDisplayType (observationUnit.displayType.getD .visible)
    alliance := convertAlliance (observationUnit.alliance.getD .self)
    tag := observationUnit.tag.getD 0
    unitType := observationUnit.unitType.getD 0
    owner := observationUnit.owner.getD 0
    pos := pt.toPoint3D
    facing := observationUnit.facing.getD 0
    radius := observationUnit.radius.getD 0
    buildProgress := observationUnit.buildProgress.getD 0
    cloak := match observationUnit.cloak with
      | some cloak => convertCloakState cloak
      | none => .unknown
    detectRange := observationUnit.detectRange.getD 0
    radarRange := observationUnit.radarRange.getD 0
    isSelected := observationUnit.isSelected.getD false
    isOnScreen := observationUnit.isOnScreen.getD false
    isBlip := observationUnit.isBlip.getD false
    health := observationUnit.health.getD 0
    healthMax := observationUnit.healthMax.getD 0
    shield := observationUnit.shield.getD 0
    shieldMax := observationUnit.shieldMax.getD 0
    energy := observationUnit.energy.getD 0
    energyMax := observationUnit.energyMax.getD 0
    mineralContents := observationUnit.mineralContents.getD 0
    vespeneContents := observationUnit.vespeneContents.getD 0
    isFlying := observationUnit.isFlying.getD false
    isBurrowed := observationUnit.isBurrowed.getD false
    weaponCooldown := observationUnit.weaponCooldown.getD 0
    engagedTargetTag := observationUnit.engagedTargetTag.getD 0
    orders := observationUnit.orders.map convertOrder
    addOnTag := observationUnit.addOnTag.getD 0
    passengers := observationUnit.passengers.map convertPassenger
    cargoSpaceTaken := observationUnit.cargoSpaceTaken.getD 0
    cargoSpaceMax := observationUnit.cargoSpaceMax.getD 0
    assignedHarvesters := observationUnit.assignedHarvesters.getD 0
    idealHarvesters := observationUnit.idealHarvesters.getD 0
    buffs := observationUnit.buffIds
    isPowered := observationUnit.isPowered.getD false
    isAlive := true
    lastSeenGameLoop := gameLoop }

/-- One iteration of the unit loop: the unit is created and its record written. -/
def convertIntoPool (gameLoop : GameLoop) (pool : UnitPool) (observationUnit : Proto.Unit) :
    UnitPool :=
  let (unit, pool) := pool.createUnit (observationUnit.tag.getD 0)
  pool.write unit (convertUnit observationUnit gameLoop)

/-- `Convert(observation_raw, unit_pool, game_loop)`. -/
def convertUnits (observationRaw : Proto.ObservationRaw) (pool : UnitPool)
    (gameLoop : GameLoop) : UnitPool :=
  observationRaw.units.foldl (convertIntoPool gameLoop) pool

/-! ## Actions -/

def convertRawAction (action : Proto.Action) : Option ActionRaw :=
  match action.actionRaw with
  | some (.unitCommand command) =>
    match command.abilityId with
    | none => none
    | some abilityId =>
      let base : ActionRaw := { abilityId := abilityId.toUInt32, unitTags := command.unitTags }
      match command.target with
      | some (.unitTag tag) => some { base with targetType := .targetUnitTag, targetTag := tag }
      | some (.worldSpacePos pos) =>
        some { base with targetType := .targetPosition, targetPoint := pos.toPoint2D }
      | none => some base
  | _ => none

/-- `ConvertRawActions`: appends the unit commands of a response. -/
def convertRawActions (response : Proto.ResponseObservation) (actions : List ActionRaw) :
    List ActionRaw :=
  actions ++ response.actions.filterMap convertRawAction

def convertSpatialAction (actions : SpatialActions) : Proto.ActionSpatial → SpatialActions
  | .unitCommand command =>
    let base : SpatialUnitCommand :=
      { abilityId := (command.abilityId.getD 0).toUInt32
        queued := command.queueCommand.getD false }
    let command := match command.target with
      | some (.screenCoord point) =>
        { base with targetType := some .targetScreen, target := point.toPoint2DI }
      | some (.minimapCoord point) =>
        { base with targetType := some .targetMinimap, target := point.toPoint2DI }
      | none => base
    { actions with unitCommands := actions.unitCommands ++ [command] }
  | .cameraMove center =>
    { actions with
      cameraMoves := actions.cameraMoves ++ [⟨(center.getD {}).toPoint2DI⟩] }
  | .unitSelectionPoint coord type =>
    let select := ⟨(coord.getD {}).toPoint2DI, convertPointSelectionType (type.getD .select)⟩
    { actions with selectPoints := actions.selectPoints ++ [select] }
  | .unitSelectionRect coords add =>
    let rects := coords.map fun rect =>
      ⟨(rect.p0.getD {}).toPoint2DI, (rect.p1.getD {}).toPoint2DI⟩
    { actions with selectRects := actions.selectRects ++ [⟨rects, add.getD false⟩] }

def convertFeatureLayerActions (response : Proto.ResponseObservation) (actions : SpatialActions) :
    SpatialActions :=
  (response.actions.filterMap (·.actionFeatureLayer)).foldl convertSpatialAction actions

def convertRenderedActions (response : Proto.ResponseObservation) (actions : SpatialActions) :
    SpatialActions :=
  (response.actions.filterMap (·.actionRender)).foldl convertSpatialAction actions

end Sc2Api
