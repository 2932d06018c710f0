import Sc2Api.BotRuns

/-!
# The Protoss bot

`ProtossMultiplayerBot`; `FervillerBot` is the same code. Parts of the longer functions have
names of their own.
-/

namespace Sc2Api

open Lib Program BotM MultiplayerBot

structure ProtossMultiplayerBot where
  airBuild : Bool := false
  warpgateReasearched : Bool := false
  blinkReasearched : Bool := false
  maxColossusCount : Int32 := 5
  maxSentryCount : Int32 := 2
  maxStalkerCount : Int32 := 20
  deriving DecidableEq, Repr

namespace ProtossMultiplayerBot

abbrev ProtossM := BotM ProtossMultiplayerBot

/-! ## The army -/

/-- The `switch` over the types of units, once the unit has been sent to attack. -/
def useAbilities (enemyUnits : List Unit) (unit : Unit) : ProtossM PUnit :=
  let (distance, closest) := nearest enemyUnits unit
  if unit.unitType = .protossObserver then
    unitCommandPoint unit .attack (positionOf enemyUnits.head?)
  else if unit.unitType = .protossSentry then
    when (isDoing .attack unit ∧ distance < 6 ^ 2 ∧ unit.energy ≥ 75)
      (unitCommand unit .effectGuardianShield)
  else if unit.unitType = .protossVoidray then
    when (isDoing .attack unit ∧ distance < 8 ^ 2)
      (unitCommand unit .effectVoidrayPrismaticAlignment)
  else if unit.unitType = .protossOracle then
    when (!unit.orders.isEmpty ∧ distance < 6 ^ 2 ∧ unit.energy ≥ 25)
      (unitCommand unit .behaviorPulsarBeamOn)
  else if unit.unitType = .protossDisruptor then
    if distance < 7 ^ 2 then
      unitCommandPoint unit .effectPurificationNova (positionOf closest)
    else unitCommandPoint unit .attack (positionOf closest)
  else if unit.unitType = .protossDisruptorPhased then
    let grounded := enemyUnits.filter fun u => !u.isFlying
    unitCommandPoint unit .move (positionOf (leastBelow
      (fun u => distanceSquared2D u.pos.toPoint2D unit.pos.toPoint2D) floatMax grounded).2)
  else pure ⟨⟩

/-- Manages attack and retreat patterns, as well as unit micro. -/
def manageArmy : ProtossM PUnit := do
  let v ← ask id
  let enemyUnits ← getUnits .enemy
  let army ← getUnitsIf .self isArmy
  let staging ← gets (·.base.stagingLocation)
  if enemyUnits.isEmpty ∧ v.foodArmy < 100 then
    forEach (retreatWithUnit · staging.toPoint2D) army
  else if !enemyUnits.isEmpty then
    forEach (fun unit => do
      attackWithUnit unit
      useAbilities enemyUnits unit) army
  else forEach scoutWithUnit army

/-- The units of the air build. Where `TryBuildArmy` returns, what it returns. -/
def buildAirUnits (carrierCount mothershipCount : Nat) : ProtossM (Option Bool) := do
  let v ← ask id
  let bot ← gets (·.own)
  let fleetBeacons ← countUnitType .protossFleetBeacon
  if fleetBeacons > 0 ∧ carrierCount < toSize bot.maxColossusCount.toInt then
    let motherships ← countUnitType .protossMothership
    if motherships < 1 ∧ mothershipCount > 0 then
      let morphed ← tryBuildUnit .morphMothership .protossMothershipCore
      return some morphed
    if v.minerals > 350 ∧ v.vespene > 250 then
      if ← tryBuildUnit .trainCarrier .protossStargate then return some true
      return none
    let tempests ← countUnitType .protossTempest
    if tempests < 1 then
      alsoTryBuildUnit .trainTempest .protossStargate
      return none
    if carrierCount < 1 then return some false
    return none
  else
    when (v.minerals > 250 ∧ v.vespene > 150)
      (alsoTryBuildUnit .trainVoidray .protossStargate)
    let voidrays ← countUnitType .protossVoidray
    let oracles ← countUnitType .protossOracle
    let phoenixes ← countUnitType .protossPhoenix
    when (voidrays > 0 ∧ oracles < 1) (alsoTryBuildUnit .trainOracle .protossStargate)
    when (voidrays > 0 ∧ ¬oracles < 1 ∧ phoenixes < 2)
      (alsoTryBuildUnit .trainPhoenix .protossStargate)
    return none

/-- The units of the robotics facility. Where `TryBuildArmy` returns, what it returns. -/
def buildRoboticsUnits (colossusCount : Nat) : ProtossM (Option Bool) := do
  let v ← ask id
  let bot ← gets (·.own)
  let observers ← countUnitType .protossObserver
  when (observers < 1) (alsoTryBuildUnit .trainObserver .protossRoboticsFacility)
  let roboticsBays ← countUnitType .protossRoboticsBay
  if roboticsBays > 0 ∧ colossusCount < toSize bot.maxColossusCount.toInt then
    if v.minerals > 300 ∧ v.vespene > 200 then
      if ← tryBuildUnit .trainColossus .protossRoboticsFacility then return some true
      return none
    let disruptors ← countUnitTypeTotal [.protossDisruptor] .protossRoboticsFacility
      .trainDisruptor
    when (disruptors < 2) (alsoTryBuildUnit .trainDisruptor .protossRoboticsFacility)
    return none
  else
    if v.minerals > 250 ∧ v.vespene > 100 then
      if ← tryBuildUnit .trainImmortal .protossRoboticsFacility then return some true
      return none
    return none

def tryWarpInUnit (ability : AbilityID) : ProtossM Bool := do
  let powerSources ← ask (·.powerSources)
  let warpgates ← getUnits .self (isUnit .protossWarpGate)
  if powerSources.isEmpty then return false
  let source ← getRandomEntry powerSources
  let rx ← getRandomScalar
  let ry ← getRandomScalar
  let buildLocation : Point2D :=
    ⟨source.position.x + rx * source.radius, source.position.y + ry * source.radius⟩
  let gameInfo ← gets (·.base.gameInfo)
  let distance ← pathingDistance buildLocation
    ⟨gameInfo.playableMax.x / 2, gameInfo.playableMax.y / 2⟩
  if distance < floatHundredth then return false
  tryEach (fun warpgate => do
    if warpgate.buildProgress ≠ 1 then return false
    let abilities ← getAbilitiesForUnit warpgate
    if abilities.any fun available => available.abilityId = ability then
      unitCommandPoint warpgate ability buildLocation
      return true
    return false) warpgates

/-- The units of gateways, which are warped in once that is possible. -/
def buildGatewayUnits : ProtossM Bool := do
  let v ← ask id
  let bot ← gets (·.own)
  let warpgates ← countUnitType .protossWarpGate
  if bot.warpgateReasearched ∧ warpgates > 0 then
    if v.minerals > 1000 ∧ v.vespene < 200 then tryWarpInUnit .trainwarpZealot
    else
      let stalkers ← countUnitType .protossStalker
      let adepts ← countUnitType .protossAdept
      if stalkers > toSize bot.maxStalkerCount.toInt ∨
          adepts > toSize bot.maxStalkerCount.toInt then
        return false
      let sentries ← countUnitType .protossSentry
      let templars ← countUnitType .protossHighTemplar
      let archons ← countUnitType .protossArchon
      let facilities ← countUnitType .protossRoboticsFacility
      if !bot.airBuild ∧ sentries < toSize bot.maxSentryCount.toInt then
        tryWarpInUnit .trainwarpSentry
      else if !bot.airBuild ∧ templars < 2 ∧ archons < 2 then tryWarpInUnit .trainwarpHighTemplar
      else if facilities > 0 then tryWarpInUnit .trainwarpStalker
      else tryWarpInUnit .trainwarpAdept
  else if v.minerals > 120 ∧ v.vespene > 25 then
    let cores ← countUnitType .protossCyberneticsCore
    if cores > 0 then tryBuildUnit .trainAdept .protossGateway
    else return false
  else if v.minerals > 100 then tryBuildUnit .trainZealot .protossGateway
  else return false

/-- Manages when to build and how many to build of units. -/
def tryBuildArmy : ProtossM Bool := do
  let v ← ask id
  let bot ← gets (·.base)
  if v.foodWorkers ≤ bot.targetWorkerCount then return false
  let nexuses ← countUnitType .protossNexus
  if nexuses < 2 ∧ v.foodArmy > 10 ∨ nexuses < 3 ∧ v.foodArmy > 40 then return false
  let mothershipCores ← countUnitType .protossMothershipCore
  let motherships ← countUnitType .protossMothership
  let mothershipCount := mothershipCores + motherships
  let cores ← countUnitType .protossCyberneticsCore
  when (v.foodWorkers > bot.targetWorkerCount ∧ mothershipCount < 1 ∧ cores > 0)
    (alsoTryBuildUnit .trainMothershipCore .protossNexus)
  let colossusCount ← countUnitType .protossColossus
  let carrierCount ← countUnitType .protossCarrier
  let templar ← getUnits .self (isUnit .protossHighTemplar)
  when (templar.length > 1) do
    let first ← at_ templar 0
    let second ← at_ templar 1
    unitsCommand [first, second] .morphArchon
  let airBuild ← gets (·.own.airBuild)
  let returned ← (if airBuild then buildAirUnits carrierCount mothershipCount
    else buildRoboticsUnits colossusCount)
  match returned with
  | some result => return result
  | none => buildGatewayUnits

/-! ## Buildings -/

/-- The second argument of the source is not used: the builder is a probe. -/
def tryBuildStructureNearPylon (ability : AbilityID) : ProtossM Bool := do
  let powerSources ← ask (·.powerSources)
  if powerSources.isEmpty then return false
  let source ← getRandomEntry powerSources
  match ← getUnit source.tag with
  | none => return false
  | some powered =>
    if powered.unitType = .protossWarpPrism then return false
    let rx ← getRandomScalar
    let ry ← getRandomScalar
    tryBuildStructure ability .protossProbe
      ⟨source.position.x + rx * source.radius, source.position.y + ry * source.radius⟩

/-- The same with the result dropped. -/
def alsoTryBuildNearPylon (ability : AbilityID) : ProtossM PUnit := do
  let _ ← tryBuildStructureNearPylon ability

def tryBuildExpansionNexus : ProtossM Bool := do
  let v ← ask id
  let bot ← gets (·.base)
  let expected ← getExpectedWorkers .protossAssimilator
  if expected > bot.maxWorkerCount.toInt then return false
  let nexuses ← countUnitType .protossNexus
  if expected < v.foodWorkers.toInt - 16 ∨ toSize v.minerals.toInt > nexuses * 400 then
    tryExpand .buildNexus .protossProbe
  else return false

/-- What `BuildOrder` does first, up to seven gateways, and whether it returns there. -/
def buildGateways (gatewayCount cyberneticsCount baseCount : Nat) : ProtossM Bool := do
  let v ← ask id
  let bot ← gets (·.base)
  if ¬gatewayCount < min (2 * baseCount) 7 then return false
  if cyberneticsCount < 1 ∧ gatewayCount > 0 then
    alsoTryBuildNearPylon .buildCyberneticsCore
    return true
  if baseCount < 2 ∧ gatewayCount > 0 then
    let _ ← tryBuildExpansionNexus
    return true
  when (v.foodWorkers ≥ bot.targetWorkerCount ∧
      toSize v.minerals.toInt > 150 + 100 * gatewayCount)
    (alsoTryBuildNearPylon .buildGateway)
  return false

/-- The buildings of the air build. -/
def buildStargates (gatewayCount cyberneticsCount baseCount : Nat) : ProtossM PUnit := do
  let v ← ask id
  let stargateCount ← countUnitType .protossStargate
  let fleetBeaconCount ← countUnitType .protossFleetBeacon
  when (gatewayCount > 1 ∧ cyberneticsCount > 0)
    (if stargateCount < min baseCount 5 then
      when (v.minerals > 150 ∧ v.vespene > 150) (alsoTryBuildNearPylon .buildStargate)
    else
      when (stargateCount > 0 ∧ fleetBeaconCount < 1 ∧ v.minerals > 300 ∧ v.vespene > 200)
        (alsoTryBuildNearPylon .buildFleetBeacon))

/-- The buildings of the other build. -/
def buildRobotics (gatewayCount cyberneticsCount baseCount : Nat) : ProtossM PUnit := do
  let v ← ask id
  let roboticsFacilityCount ← countUnitType .protossRoboticsFacility
  let roboticsBayCount ← countUnitType .protossRoboticsBay
  when (gatewayCount > 2 ∧ cyberneticsCount > 0)
    (if roboticsFacilityCount < min baseCount 4 then
      when (v.minerals > 200 ∧ v.vespene > 100) (alsoTryBuildNearPylon .buildRoboticsFacility)
    else
      when (roboticsFacilityCount > 0 ∧ roboticsBayCount < 1 ∧ v.minerals > 200 ∧
          v.vespene > 200)
        (alsoTryBuildNearPylon .buildRoboticsBay))

/-- Manages when to build the buildings. -/
def buildOrder : ProtossM PUnit := do
  let gateways ← countUnitType .protossGateway
  let warpgates ← countUnitType .protossWarpGate
  let gatewayCount := gateways + warpgates
  let cyberneticsCount ← countUnitType .protossCyberneticsCore
  let forgeCount ← countUnitType .protossForge
  let twilightCouncilCount ← countUnitType .protossTwilightCouncil
  let templarArchiveCount ← countUnitType .protossTemplarArchive
  let baseCount ← countUnitType .protossNexus
  if ← buildGateways gatewayCount cyberneticsCount baseCount then return
  when (cyberneticsCount > 0 ∧ forgeCount < 2) (alsoTryBuildNearPylon .buildForge)
  let airBuild ← gets (·.own.airBuild)
  (if airBuild then buildStargates gatewayCount cyberneticsCount baseCount
    else buildRobotics gatewayCount cyberneticsCount baseCount)
  when (forgeCount > 0 ∧ twilightCouncilCount < 1 ∧ baseCount > 1)
    (alsoTryBuildNearPylon .buildTwilightCouncil)
  when (twilightCouncilCount > 0 ∧ templarArchiveCount < 1 ∧ baseCount > 2)
    (alsoTryBuildNearPylon .buildTemplarArchive)

def convertGateWayToWarpGate : ProtossM PUnit := do
  let gateways ← getUnits .self (isUnit .protossGateway)
  let warpgateReasearched ← gets (·.own.warpgateReasearched)
  when warpgateReasearched (forEach (fun gateway =>
    when (gateway.buildProgress = 1) (unitCommand gateway .morphWarpGate)) gateways)

def tryBuildPylon : ProtossM Bool := do
  let v ← ask id
  if v.foodUsed.toInt < v.foodCap.toInt - 6 ∨ v.minerals < 100 then return false
  let units ← getUnits .self (isUnit .protossPylon)
  if v.foodUsed < 40 ∧ units.any fun unit => unit.buildProgress ≠ 1 then return false
  let rx ← getRandomScalar
  let ry ← getRandomScalar
  let staging ← gets (·.base.stagingLocation)
  tryBuildStructure .buildPylon .protossProbe ⟨staging.x + rx * 15, staging.y + ry * 15⟩

def tryBuildAssimilator : ProtossM Bool := do
  let bases ← getUnits .self isTownHall
  let assimilators ← countUnitType .protossAssimilator
  if assimilators ≥ bases.length * 2 then return false
  tryEach (fun base =>
    if base.assignedHarvesters ≥ base.idealHarvesters ∧ base.buildProgress = 1 then
      tryBuildGas .buildAssimilator .protossProbe base.pos.toPoint2D
    else pure false) bases

def tryBuildProbe : ProtossM Bool := do
  let v ← ask id
  let bot ← gets (·.base)
  let bases ← getUnits .self isTownHall
  if v.foodWorkers ≥ bot.maxWorkerCount ∨ v.foodUsed ≥ v.foodCap then return false
  let expected ← getExpectedWorkers .protossAssimilator
  if v.foodWorkers.toInt > expected then return false
  let wanting := bases.any fun base =>
    base.assignedHarvesters < base.idealHarvesters ∧ base.buildProgress = 1
  if wanting ∧ v.minerals ≥ 50 then tryBuildUnit .trainProbe .protossNexus
  else return false

/-! ## Upgrades -/

/-- The upgrades that the air build goes on with after one is complete. -/
def continueAirUpgrade (baseCount : Nat) (upgrade : UpgradeID) : ProtossM PUnit :=
  if upgrade = .protossAirWeaponsLevel1 ∧ baseCount > 2 then
    alsoTryBuildUnit .researchProtossAirWeapons .protossCyberneticsCore
  else if upgrade = .protossAirArmorsLevel1 ∧ baseCount > 2 then
    alsoTryBuildUnit .researchProtossAirArmor .protossCyberneticsCore
  else if upgrade = .protossShieldsLevel1 ∧ baseCount > 2 then
    alsoTryBuildUnit .researchProtossShields .protossForge
  else if upgrade = .protossAirArmorsLevel2 ∧ baseCount > 3 then
    alsoTryBuildUnit .researchProtossAirArmor .protossCyberneticsCore
  else if upgrade = .protossAirWeaponsLevel2 ∧ baseCount > 2 then
    alsoTryBuildUnit .researchProtossAirWeapons .protossCyberneticsCore
  else when (upgrade = .protossShieldsLevel2 ∧ baseCount > 2)
    (alsoTryBuildUnit .researchProtossShields .protossForge)

/-- The upgrades to go on with in both builds, or else those to begin with. -/
def continueGroundUpgrade (airBuild : Bool) (baseCount : Nat) (upgrade : UpgradeID) :
    ProtossM PUnit :=
  if upgrade = .protossGroundWeaponsLevel1 ∧ baseCount > 2 then
    alsoTryBuildUnit .researchProtossGroundWeapons .protossForge
  else if upgrade = .protossGroundArmorsLevel1 ∧ baseCount > 2 then
    alsoTryBuildUnit .researchProtossGroundArmor .protossForge
  else if upgrade = .protossGroundWeaponsLevel2 ∧ baseCount > 3 then
    alsoTryBuildUnit .researchProtossGroundWeapons .protossForge
  else if upgrade = .protossGroundArmorsLevel2 ∧ baseCount > 3 then
    alsoTryBuildUnit .researchProtossGroundArmor .protossForge
  else if airBuild then do
    alsoTryBuildUnit .researchProtossAirArmor .protossCyberneticsCore
    alsoTryBuildUnit .researchProtossAirWeapons .protossCyberneticsCore
    alsoTryBuildUnit .researchAdeptResonatingGlaives .protossTwilightCouncil
    alsoTryBuildUnit .researchProtossShields .protossForge
    alsoTryBuildUnit .researchInterceptorGravitonCatapult .protossFleetBeacon
  else do
    alsoTryBuildUnit .researchExtendedThermalLance .protossRoboticsBay
    alsoTryBuildUnit .researchBlink .protossTwilightCouncil
    alsoTryBuildUnit .researchCharge .protossTwilightCouncil
    alsoTryBuildUnit .researchProtossGroundWeapons .protossForge
    alsoTryBuildUnit .researchProtossGroundArmor .protossForge

/-- Try to get upgrades depending on build. -/
def manageUpgrades : ProtossM PUnit := do
  let upgrades ← ask (·.upgrades)
  let bases ← getUnits .self isTownHall
  let airBuild ← gets (·.own.airBuild)
  if upgrades.isEmpty then alsoTryBuildUnit .researchWarpGate .protossCyberneticsCore
  else
    forEach (fun upgrade => do
      when airBuild (continueAirUpgrade bases.length upgrade)
      continueGroundUpgrade airBuild bases.length upgrade) upgrades

/-! ## Callbacks -/

/-- `OnStep` behind its first part. -/
def manageEconomy : ProtossM PUnit := do
  convertGateWayToWarpGate
  manageWorkers .protossProbe .harvestGather .protossAssimilator
  manageUpgrades
  buildOrder
  if ← tryBuildPylon then return
  if ← tryBuildAssimilator then return
  if ← tryBuildProbe then return
  if ← tryBuildArmy then return
  let _ ← tryBuildExpansionNexus

def onStep : ProtossM PUnit := stepWith manageArmy manageEconomy

def onUnitIdle (unit : Unit) : ProtossM PUnit := do
  if unit.unitType = .protossProbe then
    mineIdleWorkers unit .harvestGather .protossAssimilator
  else if unit.unitType = .protossCyberneticsCore then
    let nexus ← getUnits .self (isUnit .protossNexus)
    let warpgateReasearched ← gets (·.own.warpgateReasearched)
    if warpgateReasearched then return
    unitCommand unit .researchWarpGate
    match nexus with
    | [] => return
    | first :: _ => unitCommandTarget first .effectTimeWarp (some unit)
  else return

/-- The first case falls through to the second. -/
def onUpgradeCompleted (upgrade : UpgradeID) : ProtossM PUnit :=
  modify fun s => { s with own := { s.own with
    warpgateReasearched := s.own.warpgateReasearched || upgrade = .warpGateResearch
    blinkReasearched := s.own.blinkReasearched ||
      upgrade = .warpGateResearch || upgrade = .blinkTech } }

def bot : BotClass ProtossMultiplayerBot := { onStep, onUnitIdle, onUpgradeCompleted }

end ProtossMultiplayerBot

end Sc2Api
