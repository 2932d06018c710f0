import Sc2Api.Proto

/-!
# Client-side data

The records the client hands to a bot besides units (`sc2_data.h`,
`sc2_action.h`, `sc2_score.h`), and the ability table with its remaps.
-/

namespace Sc2Api

/-! ## Map data and results -/

structure PowerSource where
  position : Point2D
  radius : CFloat
  tag : Tag
  deriving DecidableEq, Repr

structure Effect where
  effectId : UInt32
  positions : List Point2D
  deriving DecidableEq, Repr

structure ChatMessage where
  playerId : UInt32
  message : String
  deriving DecidableEq, Repr

structure PlayerResult where
  playerId : UInt32
  result : GameResult
  deriving DecidableEq, Repr

/-! ## Actions -/

inductive RawTargetType
  | targetNone
  | targetUnitTag
  | targetPosition
  deriving DecidableEq, Repr

structure ActionRaw where
  abilityId : AbilityID := 0
  unitTags : List Tag := []
  targetType : RawTargetType := .targetNone
  targetTag : Tag := 0
  targetPoint : Point2D := {}
  deriving DecidableEq, Repr

inductive SpatialTargetType
  | targetScreen
  | targetMinimap
  deriving DecidableEq, Repr

/-- `targetType` is `none` where the source leaves the member unset. -/
structure SpatialUnitCommand where
  abilityId : AbilityID
  targetType : Option SpatialTargetType := none
  target : Point2DI := {}
  queued : Bool
  deriving DecidableEq, Repr

structure SpatialCameraMove where
  centerMinimap : Point2DI
  deriving DecidableEq, Repr

inductive PointSelectionType
  | ptSelect
  | ptToggle
  | ptAllType
  | ptAddAllType
  deriving DecidableEq, Repr

structure SpatialSelectPoint where
  selectScreen : Point2DI
  type : PointSelectionType
  deriving DecidableEq, Repr

structure SpatialSelectRect where
  selectScreen : List Rect2DI
  selectAdd : Bool
  deriving DecidableEq, Repr

structure SpatialActions where
  unitCommands : List SpatialUnitCommand := []
  cameraMoves : List SpatialCameraMove := []
  selectPoints : List SpatialSelectPoint := []
  selectRects : List SpatialSelectRect := []
  deriving DecidableEq, Repr

/-! ## Score -/

inductive ScoreType
  | curriculum
  | melee
  deriving DecidableEq, Repr

structure CategoryScoreDetails where
  none : CFloat := 0
  army : CFloat := 0
  economy : CFloat := 0
  technology : CFloat := 0
  upgrade : CFloat := 0
  deriving DecidableEq, Repr

structure VitalScoreDetails where
  life : CFloat := 0
  shields : CFloat := 0
  energy : CFloat := 0
  deriving DecidableEq, Repr

structure ScoreDetails where
  idleProductionTime : CFloat := 0
  idleWorkerTime : CFloat := 0
  totalValueUnits : CFloat := 0
  totalValueStructures : CFloat := 0
  killedValueUnits : CFloat := 0
  killedValueStructures : CFloat := 0
  collectedMinerals : CFloat := 0
  collectedVespene : CFloat := 0
  collectionRateMinerals : CFloat := 0
  collectionRateVespene : CFloat := 0
  spentMinerals : CFloat := 0
  spentVespene : CFloat := 0
  foodUsed : CategoryScoreDetails := {}
  killedMinerals : CategoryScoreDetails := {}
  killedVespene : CategoryScoreDetails := {}
  lostMinerals : CategoryScoreDetails := {}
  lostVespene : CategoryScoreDetails := {}
  friendlyFireMinerals : CategoryScoreDetails := {}
  friendlyFireVespene : CategoryScoreDetails := {}
  usedMinerals : CategoryScoreDetails := {}
  usedVespene : CategoryScoreDetails := {}
  totalUsedMinerals : CategoryScoreDetails := {}
  totalUsedVespene : CategoryScoreDetails := {}
  totalDamageDealt : VitalScoreDetails := {}
  totalDamageTaken : VitalScoreDetails := {}
  totalHealed : VitalScoreDetails := {}
  deriving DecidableEq, Repr

structure Score where
  scoreType : ScoreType := .melee
  score : CFloat := 0
  scoreDetails : ScoreDetails := {}
  deriving DecidableEq, Repr

/-! ## The ability table -/

/-- `AbilityData::Target`. -/
inductive AbilityData.Target
  | none
  | point
  | unit
  | pointOrUnit
  | pointOrNone
  deriving DecidableEq, Repr, Inhabited

/-- An entry of the ability table, with the defaults of its constructor. -/
structure AbilityData where
  available : Bool := false
  abilityId : AbilityID := 0
  linkName : String := ""
  linkIndex : UInt32 := 0
  buttonName : String := ""
  friendlyName : String := ""
  hotkey : String := ""
  remapsToAbilityId : UInt32 := 0
  remapsFromAbilityId : List UInt32 := []
  target : AbilityData.Target := .none
  allowMinimap : Bool := false
  allowAutocast : Bool := false
  isBuilding : Bool := false
  footprintRadius : CFloat := 0
  isInstantPlacement : Bool := false
  castRange : CFloat := 0
  deriving DecidableEq, Repr

abbrev Abilities := List AbilityData

/-- The `switch` of `AbilityData::ReadFromProto`. -/
def convertAbilityTarget : Proto.AbilityData.Target → AbilityData.Target
  | .point => .point
  | .unit => .unit
  | .pointOrUnit => .pointOrUnit
  | .pointOrNone => .pointOrNone
  | .none => .none

def AbilityData.readFromProto (entry : AbilityData) (data : Proto.AbilityData) : AbilityData :=
  { entry with
    abilityId := data.abilityId.getD entry.abilityId
    available := data.available.getD false
    linkName := data.linkName.getD entry.linkName
    linkIndex := data.linkIndex.getD 0
    buttonName := data.buttonName.getD entry.buttonName
    friendlyName := data.friendlyName.getD entry.friendlyName
    hotkey := data.hotkey.getD entry.hotkey
    remapsToAbilityId := data.remapsToAbilityId.getD 0
    target := (data.target.map convertAbilityTarget).getD entry.target
    allowMinimap := data.allowMinimap.getD false
    allowAutocast := data.allowAutocast.getD false
    isBuilding := data.isBuilding.getD false
    footprintRadius := data.footprintRadius.getD 0
    -- the value of the message is not looked at, only its presence
    isInstantPlacement := data.isInstantPlacement.isSome
    castRange := data.castRange.getD 0 }

/-- One pass of the remap loop: entry `i` is entered in the table of its generic
ability, or its remap is dropped with an error when it points outside the table. -/
def remapAbility (acc : Abilities × List ClientError) (i : Nat) : Abilities × List ClientError :=
  match acc.1[i]? with
  | none => acc
  | some data =>
    if data.remapsToAbilityId = 0 then acc
    else if acc.1.length ≤ data.remapsToAbilityId.toNat then
      (acc.1.modify i fun entry => { entry with remapsToAbilityId := 0 },
        acc.2 ++ [.invalidAbilityRemap])
    else
      (acc.1.modify data.remapsToAbilityId.toNat fun entry =>
        { entry with remapsFromAbilityId := entry.remapsFromAbilityId ++ [data.abilityId] }, acc.2)

/-- The cached ability table with what its refreshes see and leave behind:
`answers` are the results of the data requests still to come (`none` for a round
trip that fails), `errors` the client errors recorded. -/
structure AbilityTable where
  abilities : Abilities := []
  abilitiesCached : Bool := false
  answers : List (Option (List Proto.AbilityData)) := []
  errors : List ClientError := []
  deriving DecidableEq, Repr

/-- `ObservationImp::GetAbilityData`. -/
def getAbilityData (forceRefresh : Bool := false) : StateM AbilityTable Abilities := do
  let s ← get
  let cached := s.abilitiesCached && !(forceRefresh || s.abilities.length < 1)
  if cached then
    return s.abilities
  -- the table is cleared before the request is sent
  match s.answers with
  | some (message :: messages) :: answers =>
    let entries := (message :: messages).mapIdx fun i data =>
      AbilityData.readFromProto { abilityId := UInt32.ofNat i } data
    let (abilities, errors) := (List.range entries.length).foldl remapAbility (entries, [])
    set { s with abilities, abilitiesCached := true, answers, errors := s.errors ++ errors }
    return abilities
  | _ =>
    set { s with abilities := [], abilitiesCached := false, answers := s.answers.tail }
    return []

/-- `GetGeneralizedAbilityID`. -/
def getGeneralizedAbilityID (abilityId : UInt32) : StateM AbilityTable AbilityID := do
  if abilityId = 0 then
    return abilityId
  let abilities ← getAbilityData
  match abilities[abilityId.toNat]? with
  | none => return abilityId
  | some ability =>
    if ability.remapsToAbilityId ≠ 0 then return ability.remapsToAbilityId
    return abilityId

end Sc2Api
