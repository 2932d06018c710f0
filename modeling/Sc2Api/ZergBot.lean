import Sc2Api.BotRuns

/-!
# The Zerg bot

`ZergMultiplayerBot`; `GooseBot` is the same code. Parts of the longer functions have names of
their own.
-/

namespace Sc2Api

open Lib Program BotM MultiplayerBot

structure ZergMultiplayerBot where
  mutaliskBuild : Bool := false
  deriving DecidableEq, Repr

namespace ZergMultiplayerBot

abbrev ZergM := BotM ZergMultiplayerBot

/-! ## The army -/

/-- A corruptor sprays the closest enemy once for each time that its type is a structure. -/
def corrupt (enemyUnits : List Unit) (unit : Unit) : ZergM PUnit := do
  let closest ← readVariable (nearest enemyUnits unit).2
  let found ← getUnit closest.tag
  let enemyUnit ← dereference found
  let unitTypeData ← ask (·.unitTypeData)
  let data ← at_ unitTypeData enemyUnit.unitType.toNat
  forEach (fun trait => when (trait = .struct)
    (unitCommandTarget unit .effectCausticSpray (some enemyUnit))) data.attributes
  if isDoing .effectCausticSpray unit then return
  attackWithUnit unit

/-- A lurker that is not burrowed, and what a ravager goes on with. -/
def lurk (enemyUnits : List Unit) (unit : Unit) : ZergM PUnit :=
  let (distance, closest) := nearest enemyUnits unit
  if distance < 7 ^ 2 then unitCommand unit .burrowDown
  else unitCommandPoint unit .attack (positionOf closest)

def spawnLocusts (enemyUnits : List Unit) (unit : Unit) : ZergM PUnit := do
  let (distance, closest) := nearest enemyUnits unit
  if distance < 15 ^ 2 then
    let abilities ← getAbilitiesForUnit unit
    if abilities.any fun available => available.abilityId = .effectSpawnLocusts then
      unitCommandPoint unit .effectSpawnLocusts (positionOf closest)
    else
      let staging ← gets (·.base.stagingLocation)
      retreatWithUnit unit staging.toPoint2D
  else unitCommandPoint unit .attack (positionOf closest)

def growFungus (enemyUnits : List Unit) (unit : Unit) : ZergM PUnit := do
  let (distance, closest) := nearest enemyUnits unit
  if distance < 9 ^ 2 then
    let _ ← getAbilitiesForUnit unit
    if unit.energy > 75 then
      unitCommandPoint unit .effectFungalGrowth (positionOf closest)
    else
      let staging ← gets (·.base.stagingLocation)
      retreatWithUnit unit staging.toPoint2D
  else unitCommandPoint unit .attack (positionOf closest)

/-- A viper that has no enemy close and little energy. -/
def consume (closest : Option Unit) (unit : Unit) : ZergM PUnit := do
  match unit.orders with
  | [] =>
    let closestUnit ← readVariable closest
    unitCommandTarget unit .attack (some closestUnit)
  | order :: _ =>
    if order.abilityId ≠ .effectViperConsume then
      let extractors ← getUnits .self (isUnit .zergExtractor)
      forEach (fun extractor => when (extractor.health > 200)
        (unitCommandTarget unit .effectViperConsume (some extractor))) extractors
    else
      let found ← getUnit order.targetUnitTag
      let target ← dereference found
      when (target.health < 100) (unitCommand unit .stop)

def hunt (enemyUnits : List Unit) (unit : Unit) : ZergM PUnit := do
  let prey ← filterEach (fun u => do
    let yes ← isStructure u
    return !yes) enemyUnits
  let (distance, closest) := nearest prey unit
  let flies := closest.any (·.isFlying)
  if distance < 10 ^ 2 then
    let closestUnit ← readVariable closest
    if flies ∧ unit.energy > 124 then
      unitCommandTarget unit .effectParasiticBomb (some closestUnit)
    else if !flies ∧ unit.energy > 100 then
      unitCommandTarget unit .effectBlindingCloud (some closestUnit)
    else
      let start ← gets (·.base.startLocation)
      retreatWithUnit unit start.toPoint2D
  else if unit.energy > 124 then unitCommandTarget unit .attack enemyUnits.head?
  else consume closest unit

/-- The `switch` over the types of units. -/
def fight (enemyUnits : List Unit) (unit : Unit) : ZergM PUnit :=
  if unit.unitType = .zergCorruptor then corrupt enemyUnits unit
  else if unit.unitType = .zergOverseer then unitCommandTarget unit .attack enemyUnits.head?
  else if unit.unitType = .zergRavager then do
    unitCommandPoint unit .effectCorrosiveBile (positionOf (nearest enemyUnits unit).2)
    attackWithUnit unit
    -- the case falls through
    lurk enemyUnits unit
  else if unit.unitType = .zergLurkerMp then lurk enemyUnits unit
  else if unit.unitType = .zergLurkerMpBurrowed then
    when ((nearest enemyUnits unit).1 > 9 ^ 2) (unitCommand unit .burrowUp)
  else if unit.unitType = .zergSwarmHostMp then spawnLocusts enemyUnits unit
  else if unit.unitType = .zergInfestor then growFungus enemyUnits unit
  else if unit.unitType = .zergViper then hunt enemyUnits unit
  else attackWithUnit unit

/-- A burrowed lurker comes up before it goes on like the others. -/
def surface (unit : Unit) : ZergM PUnit :=
  when (unit.unitType = .zergLurkerMpBurrowed) (unitCommand unit .burrowUp)

def manageArmy : ZergM PUnit := do
  let v ← ask id
  let enemyUnits ← getUnits .enemy
  let army ← getUnitsIf .self isArmy
  let staging ← gets (·.base.stagingLocation)
  if enemyUnits.isEmpty ∧ v.foodArmy < 100 then
    forEach (fun unit => do
      surface unit
      retreatWithUnit unit staging.toPoint2D) army
  else if !enemyUnits.isEmpty then forEach (fight enemyUnits) army
  else
    forEach (fun unit => do
      surface unit
      scoutWithUnit unit) army

/-! ## Buildings -/

def tryBuildOnCreep (ability : AbilityID) (unitType : UnitTypeID) : ZergM Bool := do
  let rx ← getRandomScalar
  let ry ← getRandomScalar
  let start ← gets (·.base.startLocation)
  let buildLocation : Point2D := ⟨start.x + rx * 15, start.y + ry * 15⟩
  if ← BotM.hasCreep buildLocation then tryBuildStructure ability unitType buildLocation
  else return false

/-- The same with the result dropped. The builder is a drone. -/
def alsoTryBuildOnCreep (ability : AbilityID) : ZergM PUnit := do
  let _ ← tryBuildOnCreep ability .zergDrone

def tryBuildExpansionHatch : ZergM Bool := do
  let v ← ask id
  let bot ← gets (·.base)
  let expected ← getExpectedWorkers .zergExtractor
  if expected > bot.maxWorkerCount.toInt then return false
  let hatcheries ← countUnitType .zergHatchery
  if expected < v.foodWorkers.toInt - 10 ∨
      toSize v.minerals.toInt > min (hatcheries * 300) 1200 then
    tryExpand .buildHatchery .zergDrone
  else return false

/-- The part of `BuildOrder` for a lair or hive, and whether it returns there. -/
def buildLairTech (baseCount hiveCount : Nat) : ZergM Bool := do
  let mutaliskBuild ← gets (·.own.mutaliskBuild)
  let hydraliskDens ← countUnitType .zergHydraliskDen
  let lurkerDens ← countUnitType .zergLurkerDenMp
  let spires ← countUnitType .zergSpire
  let greaterSpires ← countUnitType .zergGreaterSpire
  (if !mutaliskBuild then do
      when (hydraliskDens + lurkerDens < 1) (alsoTryBuildOnCreep .buildHydraliskDen)
      when (hydraliskDens > 0) (alsoTryBuildUnit .morphLurkerDen .zergHydraliskDen)
    else when (spires + greaterSpires < 1) (alsoTryBuildOnCreep .buildSpire))
  if baseCount < 3 then
    let _ ← tryBuildExpansionHatch
    return true
  let infestationPits ← countUnitType .zergInfestationPit
  if infestationPits > 0 ∧ hiveCount < 1 then
    alsoTryBuildUnit .morphHive .zergLair
    return true
  let banelingNests ← countUnitType .zergBanelingNest
  when (banelingNests < 1) (alsoTryBuildOnCreep .buildBanelingNest)
  when (baseCount > 2 ∧ infestationPits < 1) (alsoTryBuildOnCreep .buildInfestationPit)
  return false

/-- `BuildOrder` once there is a spawning pool and a base. -/
def buildOnPool (baseCount lairCount hiveCount : Nat) : ZergM PUnit := do
  let mutaliskBuild ← gets (·.own.mutaliskBuild)
  let evolutionChambers ← countUnitType .zergEvolutionChamber
  when (evolutionChambers < if mutaliskBuild then 1 else 2)
    (alsoTryBuildOnCreep .buildEvolutionChamber)
  let roachWarrens ← countUnitType .zergRoachWarren
  when (!mutaliskBuild ∧ roachWarrens < 1) (alsoTryBuildOnCreep .buildRoachWarren)
  let queens ← countUnitType .zergQueen
  let returned ← (if lairCount > 0 ∨ hiveCount > 0 then buildLairTech baseCount hiveCount
    else do
      when (hiveCount + lairCount < 1 ∧ queens > 0) (alsoTryBuildUnit .morphLair .zergHatchery)
      return false)
  if returned then return
  let ultraliskCaverns ← countUnitType .zergUltraliskCavern
  let greaterSpires ← countUnitType .zergGreaterSpire
  when (hiveCount > 0 ∧ !mutaliskBuild ∧ ultraliskCaverns < 1)
    (alsoTryBuildOnCreep .buildUltraliskCavern)
  when (hiveCount > 0 ∧ greaterSpires < 1) (alsoTryBuildUnit .morphGreaterSpire .zergSpire)

def buildOrder : ZergM PUnit := do
  let hiveCount ← countUnitType .zergHive
  let lairCount ← countUnitType .zergLair
  let bases ← getUnits .self isTownHall
  let spawningPools ← countUnitType .zergSpawningPool
  if spawningPools < 1 then alsoTryBuildOnCreep .buildSpawningPool
  else if bases.length < 1 then
    let _ ← tryBuildExpansionHatch
  else buildOnPool bases.length lairCount hiveCount

def buildExtractor : ZergM Bool := do
  let bases ← getUnits .self isTownHall
  let extractors ← countUnitType .zergExtractor
  if extractors ≥ bases.length * 2 then return false
  tryEach (fun base =>
    if base.assignedHarvesters ≥ base.idealHarvesters ∧ base.buildProgress = 1 then
      tryBuildGas .buildExtractor .zergDrone base.pos.toPoint2D
    else pure false) bases

/-! ## Queens -/

/-- A complete hatchery is for the queen `i`, if there is one, and the next one is for the
next. -/
def injectOne (queens : List Unit) (i : Nat) (hatchery : Unit) : ZergM Nat := do
  if hatchery.buildProgress ≠ 1 ∨ ¬i < queens.length then return i
  let queen ← at_ queens i
  when (queen.energy ≥ 25 ∧ queen.orders.isEmpty)
    (unitCommandTarget queen .effectInjectLarva (some hatchery))
  return i + 1

/-- The inner loop. -/
def injectEach (queens : List Unit) (i : Nat) (hatcheries : List Unit) : ZergM Nat :=
  foldEach (injectOne queens) i hatcheries

/-- The outer loop from the queen `i` on, which steps over one more queen after each round. -/
def injectFrom (queens hatcheries : List Unit) : Nat → Nat → ZergM PUnit
  | 0, _ => pure ⟨⟩
  | fuel + 1, i =>
    if i < queens.length then do
      let i ← injectEach queens i hatcheries
      injectFrom queens hatcheries fuel (i + 1)
    else pure ⟨⟩

/-- Each round of the loop takes a queen at least. -/
def tryInjectLarva : ZergM PUnit := do
  let queens ← getUnits .self (isUnit .zergQueen)
  let hatcheries ← getUnits .self isTownHall
  if queens.isEmpty ∨ hatcheries.isEmpty then return
  injectFrom queens hatcheries queens.length 0

/-! ## Larvae -/

/-- `--larva_count` if the unit is built. -/
def tryBuildFromLarva (ability : AbilityID) (larvaCount : Nat) : ZergM Nat := do
  if ← tryBuildUnit ability .zergLarva then return toSize (larvaCount - 1 : Int)
  return larvaCount

/-- The same if there is a larva left by the count, and the condition holds. -/
def buildFromLarvaIf (c : Prop) [Decidable c] (ability : AbilityID) (larvaCount : Nat) :
    ZergM Nat :=
  if larvaCount > 0 ∧ c then tryBuildFromLarva ability larvaCount else pure larvaCount

/-- Tries to build at least one ultralisk: whether `BuildArmy` returns there. -/
def buildUltralisk (ultraliskCount larvaCount : Nat) : ZergM (Bool × Nat) := do
  let mutaliskBuild ← gets (·.own.mutaliskBuild)
  let ultraliskCaverns ← countUnitType .zergUltraliskCavern
  if ultraliskCaverns > 0 ∧ !mutaliskBuild ∧ ultraliskCount < 4 then
    let larvaCount ← tryBuildFromLarva .trainUltralisk larvaCount
    return (decide (ultraliskCount < 1), larvaCount)
  return (false, larvaCount)

/-- The units of the build without mutalisks. -/
def buildGroundUnits (larvaCount : Nat) : ZergM Nat := do
  let hydraliskCount ← countUnitTypeTotal [.zergHydralisk] .zergEgg .trainHydralisk
  let swarmhostCount ← countUnitTypeTotal [.zergSwarmHostMp] .zergEgg .trainSwarmHost
  let infestorCount ← countUnitTypeTotal [.zergInfestor] .zergEgg .trainInfestor
  let ravagers ← countUnitType .zergRavager
  let ravagerCocoons ← countUnitType .zergRavagerCocoon
  when (ravagers + ravagerCocoons < 3) (alsoTryBuildUnit .morphRavager .zergRoach)
  let lurkers ← countUnitType .zergLurkerMp
  let lurkerEggs ← countUnitType .zergLurkerMpEgg
  let burrowed ← countUnitType .zergLurkerMpBurrowed
  when (lurkers + lurkerEggs + burrowed < 6) (alsoTryBuildUnit .morphLurker .zergHydralisk)
  let hydraliskDens ← countUnitType .zergHydraliskDen
  let lurkerDens ← countUnitType .zergLurkerDenMp
  let larvaCount ← buildFromLarvaIf (hydraliskDens + lurkerDens > 0 ∧ hydraliskCount < 15)
    .trainHydralisk larvaCount
  let larvaCount ← buildFromLarvaIf (swarmhostCount < 1) .trainSwarmHost larvaCount
  buildFromLarvaIf (infestorCount < 1) .trainInfestor larvaCount

/-- The units of the mutalisk build. -/
def buildFlyers (larvaCount : Nat) : ZergM Nat := do
  let corruptorCount ← countUnitTypeTotal [.zergCorruptor] .zergEgg .trainCorruptor
  let spires ← countUnitType .zergSpire
  let greaterSpires ← countUnitType .zergGreaterSpire
  if larvaCount > 0 ∧ spires + greaterSpires > 0 then
    let larvaCount ← (if corruptorCount < 7 then tryBuildFromLarva .trainCorruptor larvaCount
      else pure larvaCount)
    tryBuildFromLarva .trainMutalisk larvaCount
  else return larvaCount

/-- `BuildArmy` behind the second attempt at an ultralisk. -/
def buildSwarm (larvaCount : Nat) : ZergM PUnit := do
  let mutaliskBuild ← gets (·.own.mutaliskBuild)
  let roachCount ← countUnitTypeTotal [.zergRoach] .zergEgg .trainRoach
  let greaterSpires ← countUnitType .zergGreaterSpire
  let broodLords ← countUnitType .zergBroodLord
  let broodLordCocoons ← countUnitType .zergBroodLordCocoon
  when (greaterSpires > 0 ∧ broodLords + broodLordCocoons < 4)
    (alsoTryBuildUnit .morphBroodLord .zergCorruptor)
  let roachWarrens ← countUnitType .zergRoachWarren
  let larvaCount ← buildFromLarvaIf (!mutaliskBuild ∧ roachCount < 10 ∧ roachWarrens > 0)
    .trainRoach larvaCount
  let banelings ← countUnitType .zergBaneling
  let banelingCocoons ← countUnitType .zergBanelingCocoon
  let zerglings ← countUnitType .zergZergling
  let spawningPools ← countUnitType .zergSpawningPool
  let _ ← buildFromLarvaIf (zerglings < 20 ∧ spawningPools > 0) .trainZergling larvaCount
  when (banelings + banelingCocoons < if mutaliskBuild then 10 else 5)
    (alsoTryBuildUnit .trainBaneling .zergZergling)

/-- The first units that `BuildArmy` tries to build. -/
def buildQueens : ZergM PUnit := do
  let v ← ask id
  let bases ← getUnits .self isTownHall
  let queens ← countUnitTypeTotal [.zergQueen] .zergHatchery .trainQueen
  let atLairs ← countUnitTypeBuilding .zergLair .trainQueen
  let atHives ← countUnitTypeBuilding .zergHive .trainQueen
  let spawningPools ← countUnitType .zergSpawningPool
  when (queens + atLairs + atHives < bases.length ∧ spawningPools > 0 ∧ v.minerals ≥ 150) do
    let _ ← tryEach (tryBuildUnit .trainQueen) [.zergHatchery, .zergLair, .zergHive]
  let overseers ← countUnitType .zergOverseer
  let overlordCocoons ← countUnitType .zergOverlordCocoon
  when (overseers + overlordCocoons < 1) (alsoTryBuildUnit .morphOverseer .zergOverlord)

def buildArmy : ZergM PUnit := do
  let larvaCount ← countUnitType .zergLarva
  let viperCount ← countUnitTypeTotal [.zergViper] .zergEgg .trainViper
  let ultraliskCount ← countUnitTypeTotal [.zergUltralisk] .zergEgg .trainUltralisk
  let mutaliskBuild ← gets (·.own.mutaliskBuild)
  buildQueens
  let (returned, larvaCount) ← (if larvaCount > 0 then do
      let larvaCount ← buildFromLarvaIf (viperCount < 2) .trainViper larvaCount
      buildUltralisk ultraliskCount larvaCount
    else pure (false, larvaCount))
  if returned then return
  let larvaCount ← (if !mutaliskBuild then buildGroundUnits larvaCount
    else buildFlyers larvaCount)
  let (returned, larvaCount) ← (if larvaCount > 0 then do
      let larvaCount ← buildFromLarvaIf (viperCount + 1 < 1) .trainViper larvaCount
      buildUltralisk ultraliskCount larvaCount
    else pure (false, larvaCount))
  if returned then return
  buildSwarm larvaCount

/-- The drones in eggs are counted, too. -/
def tryBuildDrone : ZergM Bool := do
  let v ← ask id
  let bot ← gets (·.base)
  let larvaCount ← countUnitType .zergLarva
  let bases ← getUnits .self isTownHall
  let drones ← countUnitType .zergDrone
  let eggs ← getUnits .self (isUnit .zergEgg)
  let workerCount := drones + eggs.countP (isDoing .trainDrone)
  if workerCount ≥ toSize bot.maxWorkerCount.toInt then return false
  let expected ← getExpectedWorkers .zergExtractor
  if workerCount > toSize expected ∨ v.foodUsed ≥ v.foodCap then return false
  let wanting := bases.any fun base =>
    base.assignedHarvesters < base.idealHarvesters ∧ base.buildProgress = 1
  if wanting ∧ v.minerals ≥ 50 ∧ larvaCount > 0 then tryBuildUnit .trainDrone .zergLarva
  else return false

def tryBuildOverlord : ZergM Bool := do
  let v ← ask id
  let larvaCount ← countUnitType .zergLarva
  if v.foodCap = 200 ∨ v.foodUsed.toInt < v.foodCap.toInt - 4 ∨ v.minerals < 100 then
    return false
  let eggs ← getUnits .self (isUnit .zergEgg)
  if v.foodUsed < 30 ∧ eggs.any fun egg => egg.orders.isEmpty ∨ isDoing .trainOverlord egg then
    return false
  if larvaCount > 0 then tryBuildUnit .trainOverlord .zergLarva
  else return false

/-! ## Upgrades -/

/-- The upgrades of flyers are researched at either spire. -/
def tryBuildAtSpires (ability : AbilityID) : ZergM PUnit := do
  alsoTryBuildUnit ability .zergSpire
  alsoTryBuildUnit ability .zergGreaterSpire

/-- The upgrades that the mutalisk build goes on with after one is complete. -/
def continueFlyerUpgrade (baseCount : Nat) (upgrade : UpgradeID) : ZergM PUnit :=
  if upgrade = .zergFlyerWeaponsLevel1 ∧ baseCount > 3 then
    tryBuildAtSpires .researchZergFlyerAttack
  else if upgrade = .zergFlyerArmorsLevel1 ∧ baseCount > 3 then
    tryBuildAtSpires .researchZergFlyerArmor
  else if upgrade = .zergFlyerWeaponsLevel2 ∧ baseCount > 4 then
    tryBuildAtSpires .researchZergFlyerAttack
  else if upgrade = .zergFlyerArmorsLevel2 ∧ baseCount > 4 then
    tryBuildAtSpires .researchZergFlyerArmor
  else do
    tryBuildAtSpires .researchZergFlyerAttack
    tryBuildAtSpires .researchZergFlyerArmor
    alsoTryBuildUnit .researchZergGroundArmor .zergEvolutionChamber
    alsoTryBuildUnit .researchZergMeleeWeapons .zergEvolutionChamber

/-- Those of the other build. -/
def continueGroundUpgrade (baseCount : Nat) (lairTech hiveTech : Bool) (upgrade : UpgradeID) :
    ZergM PUnit := do
  when (upgrade = .zergMissileWeaponsLevel1 ∧ baseCount > 3 ∨
      upgrade = .zergMissileWeaponsLevel2 ∧ baseCount > 4)
    (alsoTryBuildUnit .researchZergMissileWeapons .zergEvolutionChamber)
  when (upgrade = .zergGroundArmorsLevel1 ∧ baseCount > 3 ∨
      upgrade = .zergGroundArmorsLevel2 ∧ baseCount > 4)
    (alsoTryBuildUnit .researchZergGroundArmor .zergEvolutionChamber)
  when hiveTech (alsoTryBuildUnit .researchChitinousPlating .zergUltraliskCavern)
  when lairTech do
    alsoTryBuildUnit .researchZergMissileWeapons .zergEvolutionChamber
    alsoTryBuildUnit .researchZergGroundArmor .zergEvolutionChamber
    alsoTryBuildUnit .researchCentrifugalHooks .zergBanelingNest
    alsoTryBuildUnit .researchMuscularAugments .zergHydraliskDen
    alsoTryBuildUnit .researchMuscularAugments .zergLurkerDenMp
    alsoTryBuildUnit .researchGlialRegeneration .zergRoachWarren

def manageUpgrades : ZergM PUnit := do
  let upgrades ← ask (·.upgrades)
  let bases ← getUnits .self isTownHall
  let hiveCount ← countUnitType .zergHive
  let lairCount ← countUnitType .zergLair
  let hiveTech := decide (hiveCount > 0)
  let lairTech := decide (lairCount > 0) || hiveTech
  let mutaliskBuild ← gets (·.own.mutaliskBuild)
  if upgrades.isEmpty then
    alsoTryBuildUnit .researchZerglingMetabolicBoost .zergSpawningPool
  else
    forEach (fun upgrade => do
      (if mutaliskBuild then continueFlyerUpgrade bases.length upgrade
        else continueGroundUpgrade bases.length lairTech hiveTech upgrade)
      if hiveTech then alsoTryBuildUnit .researchZerglingAdrenalGlands .zergSpawningPool
      else
        when lairTech do
          alsoTryBuildUnit .researchPneumatizedCarapace .zergHive
          alsoTryBuildUnit .researchPneumatizedCarapace .zergLair
          alsoTryBuildUnit .researchPneumatizedCarapace .zergHatchery) upgrades

/-! ## Callbacks -/

/-- `OnStep` behind its first part. -/
def manageEconomy : ZergM PUnit := do
  let v ← ask id
  let bases ← getUnits .self isTownHall
  buildOrder
  tryInjectLarva
  manageWorkers .zergDrone .harvestGather .zergExtractor
  manageUpgrades
  if ← tryBuildDrone then return
  if ← tryBuildOverlord then return
  when (toSize v.foodArmy.toInt < bases.length * 25) buildArmy
  if ← buildExtractor then return
  let _ ← tryBuildExpansionHatch

def onStep : ZergM PUnit := stepWith manageArmy manageEconomy

def onUnitIdle (unit : Unit) : ZergM PUnit :=
  when (unit.unitType = .zergDrone) (mineIdleWorkers unit .harvestGather .zergExtractor)

def bot : BotClass ZergMultiplayerBot where
  onStep
  onUnitIdle
  onUpgradeCompleted _ := pure ⟨⟩

end ZergMultiplayerBot

end Sc2Api
