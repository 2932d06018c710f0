import Sc2Api.Bots

/-!
# The bots of all races

The functions of `MultiplayerBot`. Sizes and the counters of harvesters are counted without
wrapping.
-/

namespace Sc2Api

open Lib Program BotM

/-- The conversion to `size_t`. -/
def toSize (n : Int) : Nat := (n % 2 ^ 64).toNat

/-- `0.1f` -/
def floatTenth : CFloat := 13421773 / 2 ^ 27

/-- `.01f` -/
def floatHundredth : CFloat := 10737418 / 2 ^ 30

namespace MultiplayerBot

variable {κ : Type}

def modifyBase (f : MultiplayerBot → MultiplayerBot) : BotM κ PUnit :=
  modify fun s => { s with base := f s.base }

/-- `cos`, `sin` and `turns` are those of the search for expansions. -/
def onGameStart (cos sin : CFloat → CFloat) (turns : Nat) : BotM κ PUnit := do
  let gameInfo ← ask (·.gameInfo)
  let units ← ask (·.units)
  let game ← answer (·.game)
  let result ← ofExcept ((Search.calculateExpansionLocations cos sin turns units
    (QueryInterface.placement · game) {}).mapError .search)
  let startLocation ← ask (·.startLocation)
  modifyBase fun bot => { bot with
    gameInfo
    expansions := result.1
    startLocation
    stagingLocation := startLocation }

/-! ## Counting -/

def countUnitType (unitType : UnitTypeID) : BotM κ Nat := do
  let units ← getUnits .self (isUnit unitType)
  return units.length

def countUnitTypeBuilding (productionBuilding : UnitTypeID) (ability : AbilityID) :
    BotM κ Nat := do
  let buildings ← getUnits .self (isUnit productionBuilding)
  return (buildings.map fun building =>
    building.orders.countP fun order => order.abilityId = ability).sum

/-- The overload for several types; the other is the one with a single type. -/
def countUnitTypeTotal (unitTypes : List UnitTypeID) (production : UnitTypeID)
    (ability : AbilityID) : BotM κ Nat := do
  let count ← foldEach (fun count type => do
    let more ← countUnitType type
    return count + more) 0 unitTypes
  let building ← countUnitTypeBuilding production ability
  return count + building

def getRandomUnit (unitType : UnitTypeID) : BotM κ (Option Unit) := do
  let myUnits ← getUnits .self (isUnit unitType)
  if myUnits.isEmpty then return none
  let unit ← getRandomEntry myUnits
  return some unit

/-- The places for workers at complete bases and at complete buildings that have vespene. -/
def workerPlaces (bases geysers : List Unit) : Int :=
  let complete := bases.filter fun base => base.buildProgress = 1
  let flowing := geysers.filter fun geyser =>
    geyser.vespeneContents > 0 ∧ geyser.buildProgress = 1
  ((complete ++ flowing).map (·.idealHarvesters.toInt)).sum

/-- An estimate of how many workers there should be. -/
def getExpectedWorkers (vespeneBuildingType : UnitTypeID) : BotM κ Int := do
  let bases ← getUnits .self isTownHall
  let geysers ← getUnits .self (isUnit vespeneBuildingType)
  return workerPlaces bases geysers

/-! ## Places -/

def findNearestMineralPatch (start : Point2D) : BotM κ (Option Unit) := do
  let units ← getUnits .neutral
  let patches := units.filter (isUnit .neutralMineralField)
  return (leastBelow (fun u => distanceSquared2D u.pos.toPoint2D start) floatMax patches).2

def findEnemyPosition : BotM κ (Option Point2D) := gets (·.base.gameInfo.enemyStartLocations.head?)

/-- Whether the unit finds a path to a random point of the playable area, and that point. -/
def tryFindRandomPathableLocation (unit : Unit) : BotM κ (Bool × Point2D) := do
  let gameInfo ← gets (·.base.gameInfo)
  let w := gameInfo.playableMax.x - gameInfo.playableMin.x
  let h := gameInfo.playableMax.y - gameInfo.playableMin.y
  let (playableW, playableH) := if w = 0 ∨ h = 0 then (236, 228) else (w, h)
  let fx ← getRandomFraction
  let fy ← getRandomFraction
  let targetPos : Point2D :=
    ⟨playableW * fx + gameInfo.playableMin.x, playableH * fy + gameInfo.playableMin.y⟩
  let distance ← pathingDistanceFromUnit unit targetPos
  return (distance > floatTenth, targetPos)

/-! ## Units -/

/-- Whether the first order of the unit, if it has one, is another. -/
def doesOtherThan (unit : Unit) (ability : AbilityID) : Bool :=
  unit.orders.head?.any fun order => order.abilityId ≠ ability

def attackWithUnit (unit : Unit) : BotM κ PUnit := do
  let enemyUnits ← getUnits .enemy
  match enemyUnits with
  | [] => return
  | enemy :: _ =>
    when (unit.orders.isEmpty ∨ doesOtherThan unit .attack)
      (unitCommandPoint unit .attack enemy.pos.toPoint2D)

def attackWithUnitType (unitType : UnitTypeID) : BotM κ PUnit := do
  let units ← getUnits .self (isUnit unitType)
  forEach attackWithUnit units

def scoutWithUnit (unit : Unit) : BotM κ PUnit := do
  let enemyUnits ← getUnits .enemy isAttackable
  if !unit.orders.isEmpty then return
  match ← findEnemyPosition with
  | some targetPos =>
    match enemyUnits with
    | enemy :: _ => unitCommandTarget unit .attack (some enemy)
    | [] =>
      if distanceSquared2D unit.pos.toPoint2D targetPos < 20 ^ 2 then
        -- the new position is kept when it cannot be reached, too
        let (_, targetPos) ← tryFindRandomPathableLocation unit
        unitCommandPoint unit .smart targetPos
      else unitCommandPoint unit .smart targetPos
  | none =>
    let (pathable, targetPos) ← tryFindRandomPathableLocation unit
    when pathable (unitCommandPoint unit .smart targetPos)

def scoutWithUnits (unitType : UnitTypeID) : BotM κ PUnit := do
  let units ← getUnits .self (isUnit unitType)
  forEach scoutWithUnit units

def retreatWithUnit (unit : Unit) (retreatPosition : Point2D) : BotM κ PUnit :=
  let dist := distanceSquared2D unit.pos.toPoint2D retreatPosition
  if dist < 10 ^ 2 then
    when (!unit.orders.isEmpty) (unitCommand unit .stop)
  else
    when (dist > 14 ^ 2 ∧ (unit.orders.isEmpty ∨ doesOtherThan unit .move))
      (unitCommandPoint unit .move retreatPosition)

def retreatWithUnits (unitType : UnitTypeID) (retreatPosition : Point2D) : BotM κ PUnit := do
  let units ← getUnits .self (isUnit unitType)
  forEach (retreatWithUnit · retreatPosition) units

/-! ## Building -/

/-- Whether a worker is heading out to build it. -/
def isOrdered (workers : List Unit) (ability : AbilityID) : Bool :=
  workers.any fun worker => worker.orders.any fun order => order.abilityId = ability

def tryBuildStructure (ability : AbilityID) (unitType : UnitTypeID) (location : Point2D)
    (isExpansion : Bool := false) : BotM κ Bool := do
  let workers ← getUnits .self (isUnit unitType)
  if workers.isEmpty ∨ isOrdered workers ability then return false
  let unit ← getRandomEntry workers
  let distance ← pathingDistanceFromUnit unit location
  if distance < floatTenth then return false
  let expansions ← gets (·.base.expansions)
  if !isExpansion ∧ expansions.any fun expansion =>
      distanceSquared2D location expansion.toPoint2D < 7 ^ 2 then
    return false
  if ← placement ability location then
    unitCommandPoint unit ability location
    return true
  return false

/-- The overload for a unit to build on, mostly vespene. -/
def tryBuildStructureOn (ability : AbilityID) (unitType : UnitTypeID) (locationTag : Tag) :
    BotM κ Bool := do
  let workers ← getUnits .self (isUnit unitType)
  let target ← getUnit locationTag
  if workers.isEmpty ∨ isOrdered workers ability then return false
  let unit ← getRandomEntry workers
  let targetUnit ← dereference target
  if ← placement ability targetUnit.pos.toPoint2D then
    unitCommandTarget unit ability target
    return true
  return false

def midpoint (a b : Point3D) : Point3D := ⟨(a.x + b.x) / 2, (a.y + b.y) / 2, (a.z + b.z) / 2⟩

/-- Expands to the nearest location and moves the staging location towards it. -/
def tryExpand (ability : AbilityID) (workerType : UnitTypeID) : BotM κ Bool := do
  let bot ← gets (·.base)
  let distance := fun (expansion : Point3D) =>
    distanceSquared2D bot.startLocation.toPoint2D expansion.toPoint2D
  let others := bot.expansions.filter fun expansion => ¬distance expansion < floatHundredth ^ 2
  let (_, closest) ← leastAccepted distance (fun expansion =>
    placement ability expansion.toPoint2D) (floatMax ^ 2) others
  let closestExpansion := closest.getD {}
  if !(← tryBuildStructure ability workerType closestExpansion.toPoint2D true) then return false
  let bases ← getUnits .self isTownHall
  if bases.length < 4 then
    modifyBase fun bot =>
      { bot with stagingLocation := midpoint bot.stagingLocation closestExpansion }
    return true
  return false

/-- Tries to build on a geyser of a base. -/
def tryBuildGas (ability : AbilityID) (workerType : UnitTypeID) (baseLocation : Point2D) :
    BotM κ Bool := do
  let geysers ← getUnits .neutral isVespeneGeyser
  let (_, closest) ← leastAccepted
    (fun geyser => distanceSquared2D baseLocation geyser.pos.toPoint2D)
    (fun geyser => placement ability geyser.pos.toPoint2D) (15 ^ 2) geysers
  let closestGeyser := closest.elim 0 (·.tag)
  if closestGeyser = 0 then return false
  tryBuildStructureOn ability workerType closestGeyser

def tryBuildUnit (ability : AbilityID) (unitType : UnitTypeID) : BotM κ Bool := do
  let v ← ask id
  if v.foodUsed ≥ v.foodCap ∧ ability ≠ .trainOverlord then return false
  match ← getRandomUnit unitType with
  | none => return false
  | some unit =>
    if !unit.orders.isEmpty ∨ unit.buildProgress ≠ 1 then return false
    unitCommand unit ability
    return true

/-! ## Workers -/

/-- The base is complete and not mined out. -/
def isActive (base : Unit) : Bool := base.idealHarvesters ≠ 0 ∧ base.buildProgress = 1

/-- Mine the nearest mineral to a town hall. -/
def mineIdleWorkers (worker : Unit) (gather : AbilityID) (vespeneBuildingType : UnitTypeID) :
    BotM κ PUnit := do
  let bases ← getUnits .self isTownHall
  let geysers ← getUnits .self (isUnit vespeneBuildingType)
  if bases.isEmpty then return
  match geysers.find? fun geyser => geyser.assignedHarvesters < geyser.idealHarvesters with
  | some geyser => unitCommandTarget worker gather (some geyser)
  | none =>
    match bases.find? fun base =>
        isActive base ∧ base.assignedHarvesters < base.idealHarvesters with
    | some base =>
      let patch ← findNearestMineralPatch base.pos.toPoint2D
      unitCommandTarget worker gather patch
    | none =>
      if !worker.orders.isEmpty then return
      let randomBase ← getRandomEntry bases
      let patch ← findNearestMineralPatch randomBase.pos.toPoint2D
      unitCommandTarget worker gather patch

/-- The worker's first order has this unit as its target. -/
def isHeadedFor (unit worker : Unit) : Bool :=
  worker.orders.head?.any fun order => order.targetUnitTag = unit.tag

/-- The first worker of the list that passes, which is to be picked up by `MineIdleWorkers`. -/
def reassign (workers : List Unit) (pick : Unit → BotM κ Bool) (gather : AbilityID)
    (vespeneBuildingType : UnitTypeID) : BotM κ Bool :=
  tryEach (fun worker => do
    if ← pick worker then
      mineIdleWorkers worker gather vespeneBuildingType
      return true
    return false) workers

/-- The worker has an order on a unit that is there and is not a building over vespene. -/
def minesElsewhere (vespeneBuildingType : UnitTypeID) (worker : Unit) : BotM κ Bool := do
  match worker.orders with
  | [] => return false
  | order :: _ =>
    let target ← getUnit order.targetUnitTag
    return target.any fun target => target.unitType ≠ vespeneBuildingType

/-- Neither over nor under saturate any base. -/
def manageWorkers (workerType : UnitTypeID) (gather : AbilityID)
    (vespeneBuildingType : UnitTypeID) : BotM κ PUnit := do
  let bases ← getUnits .self isTownHall
  let geysers ← getUnits .self (isUnit vespeneBuildingType)
  if bases.isEmpty then return
  let workers ← getUnits .self (isUnit workerType)
  let crowded := fun (base : Unit) => do
    if isActive base ∧ base.assignedHarvesters > base.idealHarvesters then
      reassign workers (fun worker => return isHeadedFor base worker) gather vespeneBuildingType
    else return false
  if ← tryEach crowded bases then return
  let balanced := fun (geyser : Unit) => do
    if !isActive geyser then return false
    else if geyser.assignedHarvesters > geyser.idealHarvesters then
      reassign workers (fun worker => return isHeadedFor geyser worker) gather
        vespeneBuildingType
    else if geyser.assignedHarvesters < geyser.idealHarvesters then
      reassign workers (minesElsewhere vespeneBuildingType) gather vespeneBuildingType
    else return false
  let _ ← tryEach balanced geysers

def onNuclearLaunchDetected : BotM κ PUnit := do
  let frame ← ask (·.gameLoop)
  modifyBase fun bot => { bot with nukeDetected := true, nukeDetectedFrame := some frame }

/-! ## What the races share -/

/-- A call of `TryBuildUnit` whose result is dropped. -/
def alsoTryBuildUnit (ability : AbilityID) (unitType : UnitTypeID) : BotM κ PUnit := do
  let _ ← tryBuildUnit ability unitType

/-- The distance of the nearest of the units, squared, and that unit. -/
def nearest (units : List Unit) (unit : Unit) : CFloat × Option Unit :=
  leastBelow (fun u => distanceSquared2D u.pos.toPoint2D unit.pos.toPoint2D) (floatMax ^ 2) units

/-- A `Point2D` that is set with the unit, and zero before. -/
def positionOf (unit : Option Unit) : Point2D := unit.elim {} fun u => u.pos.toPoint2D

/-- The unit's first order is this one. -/
def isDoing (ability : AbilityID) (unit : Unit) : Bool :=
  unit.orders.head?.any fun order => order.abilityId = ability

/-- Whether `OnStep` returns at once in this game loop. -/
def isThrottled (v : BotView) : Bool :=
  let framesToSkip : UInt32 := if v.foodUsed ≥ v.foodCap then 6 else 4
  v.gameLoop % framesToSkip ≠ 0

/-- What the bots do on a step while a nuclear launch is detected. -/
def retreatFromNuke : BotM κ PUnit := do
  let bot ← gets (·.base)
  let frame ← readVariable bot.nukeDetectedFrame
  let gameLoop ← ask (·.gameLoop)
  when (frame + 400 < gameLoop) (modifyBase fun bot => { bot with nukeDetected := false })
  let units ← getUnitsIf .self isArmy
  forEach (retreatWithUnit · bot.startLocation.toPoint2D) units

/-- `OnStep` of the Protoss and the Zerg bot, with their functions for the army and for what
follows. -/
def stepWith (manageArmy manageEconomy : BotM κ PUnit) : BotM κ PUnit := do
  let throttled ← ask isThrottled
  if throttled then return
  let nukeDetected ← gets (·.base.nukeDetected)
  (if !nukeDetected then manageArmy else retreatFromNuke)
  manageEconomy

end MultiplayerBot

end Sc2Api
