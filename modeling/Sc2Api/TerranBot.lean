import Sc2Api.BotRuns

/-!
# The Terran bot

`TerranMultiplayerBot`; `NateBot` is the same code. Parts of the longer functions have names of
their own.
-/

namespace Sc2Api

open Lib Program BotM MultiplayerBot

structure TerranMultiplayerBot where
  mechBuild : Bool := false
  nukeBuilt : Bool := false
  stimResearched : Bool := false
  ghostCloakResearched : Bool := true
  bansheeCloakResearched : Bool := true
  deriving DecidableEq, Repr

namespace TerranMultiplayerBot

abbrev TerranM := BotM TerranMultiplayerBot

def barrackTypes : List UnitTypeID := [.terranBarracksFlying, .terranBarracks]
def factoryTypes : List UnitTypeID := [.terranFactoryFlying, .terranFactory]
def starportTypes : List UnitTypeID := [.terranStarportFlying, .terranStarport]
def supplyDepotTypes : List UnitTypeID := [.terranSupplyDepot, .terranSupplyDepotLowered]
def bioTypes : List UnitTypeID := [.terranMarine, .terranMarauder, .terranGhost, .terranReaper]
def widowMineTypes : List UnitTypeID := [.terranWidowMine, .terranWidowMineBurrowed]
def siegeTankTypes : List UnitTypeID := [.terranSiegeTank, .terranSiegeTankSieged]
def vikingTypes : List UnitTypeID := [.terranVikingAssault, .terranVikingFighter]
def hellionTypes : List UnitTypeID := [.terranHellion, .terranHellionTank]

/-! ## The army -/

/-- Marines and marauders, which use the stimpack at different distances. -/
def stim (range : CFloat) (enemyUnits : List Unit) (unit : Unit) : TerranM PUnit := do
  let bot ← gets (·.own)
  if bot.stimResearched ∧ isDoing .attack unit ∧ (nearest enemyUnits unit).1 < range ^ 2 ∧
      BuffID.stimpack ∉ unit.buffs then
    unitCommand unit .effectStim
  else attackWithUnit unit

def sneak (enemyUnits : List Unit) (unit : Unit) : TerranM PUnit := do
  let bot ← gets (·.own)
  let (distance, closest) := nearest enemyUnits unit
  if bot.ghostCloakResearched ∧ distance < 7 ^ 2 ∧ unit.energy > 50 then
    unitCommand unit .behaviorCloakOn
  else if bot.nukeBuilt then
    let closestUnit ← readVariable closest
    unitCommandPoint unit .effectNukeCalldown closestUnit.pos.toPoint2D
    attackWithUnit unit
  else if unit.energy > 50 ∧ !unit.orders.isEmpty then
    -- the target is the ghost itself
    when (isDoing .attack unit) (unitCommandTarget unit .effectGhostSnipe (some unit))
  else attackWithUnit unit

/-- A medivac while there are enemies. -/
def heal (unit : Unit) : TerranM PUnit := do
  let bioUnits ← getUnits .self (isUnits bioTypes)
  if !unit.orders.isEmpty then return
  let wounded := bioUnits.find? fun bioUnit => bioUnit.health < bioUnit.healthMax
  (match wounded with
    | none => pure ⟨⟩
    | some bioUnit => unitCommandTarget unit .effectHeal (some bioUnit))
  match bioUnits with
  | [] => return
  | bioUnit :: _ => unitCommandTarget unit .attack (some bioUnit)

/-- The units that look for flying enemies. -/
def intercept (unit : Unit) : TerranM PUnit := do
  let flyingUnits ← getUnits .enemy isFlying
  if unit.unitType = .terranVikingFighter then
    match flyingUnits with
    | [] => unitCommand unit .morphVikingAssaultMode
    | enemy :: _ => unitCommandTarget unit .attack (some enemy)
  else if unit.unitType = .terranVikingAssault then
    if !flyingUnits.isEmpty then unitCommand unit .morphVikingFighterMode
    else attackWithUnit unit
  else
    match flyingUnits with
    | [] => attackWithUnit unit
    | enemy :: _ =>
      when (unit.orders.isEmpty ∨ doesOtherThan unit .effectLockon)
        (unitCommandTarget unit .effectLockon (some enemy))

/-- A hellion that can be a hellbat, and a banshee that can cloak. -/
def morphAndAttack (enemyUnits : List Unit) (unit : Unit) : TerranM PUnit := do
  let bot ← gets (·.own)
  let armories ← countUnitType .terranArmory
  when (unit.unitType = .terranHellion ∧ armories > 0) (unitCommand unit .morphHellbat)
  when (unit.unitType = .terranBanshee ∧ bot.bansheeCloakResearched ∧
      (nearest enemyUnits unit).1 < 7 ^ 2 ∧ unit.energy > 50)
    (unitCommand unit .behaviorCloakOn)
  attackWithUnit unit

/-- The `switch` over the types of units. -/
def fight (army enemyUnits : List Unit) (unit : Unit) : TerranM PUnit :=
  let (distance, _) := nearest enemyUnits unit
  if unit.unitType = .terranWidowMine then
    when (distance < 6 ^ 2) (unitCommand unit .burrowDown)
  else if unit.unitType = .terranMarine then stim 6 enemyUnits unit
  else if unit.unitType = .terranMarauder then stim 7 enemyUnits unit
  else if unit.unitType = .terranGhost then sneak enemyUnits unit
  else if unit.unitType = .terranSiegeTank then
    if distance < 11 ^ 2 then unitCommand unit .morphSiegeMode else attackWithUnit unit
  else if unit.unitType = .terranSiegeTankSieged then
    if distance > 13 ^ 2 then unitCommand unit .morphUnsiege else attackWithUnit unit
  else if unit.unitType = .terranMedivac then heal unit
  else if unit.unitType ∈ [.terranVikingFighter, .terranVikingAssault, .terranCyclone] then
    intercept unit
  else if unit.unitType ∈ [.terranHellion, .terranBanshee] then morphAndAttack enemyUnits unit
  else if unit.unitType = .terranRaven then
    if unit.energy > 125 then unitCommandTarget unit .effectHunterSeekerMissile enemyUnits.head?
    else when unit.orders.isEmpty (unitCommandPoint unit .attack (positionOf army.head?))
  else attackWithUnit unit

/-- A medivac that scouts goes to the first of the units that it heals. -/
def escort (unit : Unit) : TerranM PUnit := do
  let bioUnits ← getUnits .self (isUnits bioTypes)
  when unit.orders.isEmpty do
    let front ← at_ bioUnits 0
    unitCommandPoint unit .attack front.pos.toPoint2D

def manageArmy : TerranM PUnit := do
  let v ← ask id
  let bot ← gets (·.own)
  let enemyUnits ← getUnits .enemy
  let army ← getUnitsIf .self isArmy
  let waitTilSupply : Int32 := if bot.mechBuild then 110 else 100
  let staging ← gets (·.base.stagingLocation)
  forEach (fun unit =>
    if enemyUnits.isEmpty ∧ v.foodArmy < waitTilSupply then
      if unit.unitType = .terranSiegeTankSieged then unitCommand unit .morphUnsiege
      else retreatWithUnit unit staging.toPoint2D
    else if !enemyUnits.isEmpty then fight army enemyUnits unit
    else if unit.unitType = .terranSiegeTankSieged then unitCommand unit .morphUnsiege
    else if unit.unitType = .terranMedivac then escort unit
    else scoutWithUnit unit) army

/-! ## Buildings -/

def tryBuildAddOn (ability : AbilityID) (baseStructure : Tag) : TerranM Bool := do
  let rx ← getRandomScalar
  let ry ← getRandomScalar
  let found ← getUnit baseStructure
  let unit ← dereference found
  if unit.buildProgress ≠ 1 then return false
  let buildLocation : Point2D := ⟨unit.pos.x + rx * 15, unit.pos.y + ry * 15⟩
  let units ← getUnitsIf .self isStructure
  if ← placement ability unit.pos.toPoint2D (some unit) then
    unitCommand unit ability
    return true
  let (distance, _) := leastBelow (fun u : Unit => distanceSquared2D u.pos.toPoint2D buildLocation)
    (floatMax ^ 2) units
  if distance < 6 ^ 2 then return false
  if ← placement ability buildLocation (some unit) then
    unitCommandPoint unit ability buildLocation
    return true
  return false

/-- The same with the result dropped. -/
def alsoTryBuildAddOn (ability : AbilityID) (baseStructure : Tag) : TerranM PUnit := do
  let _ ← tryBuildAddOn ability baseStructure

def tryBuildStructureRandom (ability : AbilityID) (unitType : UnitTypeID) : TerranM Bool := do
  let rx ← getRandomScalar
  let ry ← getRandomScalar
  let staging ← gets (·.base.stagingLocation)
  let buildLocation : Point2D := ⟨staging.x + rx * 15, staging.y + ry * 15⟩
  let units ← getUnitsIf .self isStructure
  let others := units.filter fun u => u.unitType ≠ .terranSupplyDepotLowered
  let (distance, _) := leastBelow (fun u : Unit => distanceSquared2D u.pos.toPoint2D buildLocation)
    (floatMax ^ 2) others
  if distance < 6 ^ 2 then return false
  tryBuildStructure ability unitType buildLocation

/-- The same with the result dropped. The builder is an SCV. -/
def alsoTryBuildRandom (ability : AbilityID) : TerranM PUnit := do
  let _ ← tryBuildStructureRandom ability .terranScv

def tryBuildExpansionCom : TerranM Bool := do
  let v ← ask id
  let bot ← gets (·.base)
  let bases ← getUnits .self isTownHall
  let expected ← getExpectedWorkers .terranRefinery
  if expected > bot.maxWorkerCount.toInt then return false
  if expected < v.foodWorkers.toInt - 10 ∨
      toSize v.minerals.toInt > min (bases.length * 400) 1200 then
    tryExpand .buildCommandCenter .terranScv
  else return false

/-- The add-ons of the barracks. -/
def extendBarracks (barracks : List Unit) : TerranM PUnit := do
  let barracksTech ← getUnits .self (isUnit .terranBarracksTechlab)
  forEach (fun barrack => do
    let addOn ← getUnit barrack.addOnTag
    when (barrack.orders.isEmpty ∧ barrack.buildProgress = 1 ∧ addOn = none)
      (if barracksTech.length < barracks.length / 2 ∨ barracksTech.isEmpty then
        alsoTryBuildAddOn .buildTechlabBarracks barrack.tag
      else alsoTryBuildAddOn .buildReactorBarracks barrack.tag)) barracks

/-- The add-ons of the factories. -/
def extendFactories (factorys : List Unit) : TerranM PUnit := do
  let bot ← gets (·.own)
  let factorysTech ← getUnits .self (isUnit .terranFactoryTechlab)
  let barracksReactors ← countUnitType .terranBarracksReactor
  forEach (fun factory => do
    let addOn ← getUnit factory.addOnTag
    when (factory.orders.isEmpty ∧ addOn = none)
      (if (if bot.mechBuild then factorysTech.length < factorys.length / 2
          else ¬barracksReactors < 1) then
        alsoTryBuildAddOn .buildTechlabFactory factory.tag
      else alsoTryBuildAddOn .buildReactorFactory factory.tag)) factorys

/-- The add-ons of the starports. -/
def extendStarports (starports : List Unit) : TerranM PUnit := do
  let bot ← gets (·.own)
  let starportReactors ← countUnitType .terranStarportReactor
  forEach (fun starport => do
    let addOn ← getUnit starport.addOnTag
    when (starport.orders.isEmpty ∧ addOn = none)
      (if starportReactors < if bot.mechBuild then 2 else 1 then
        alsoTryBuildAddOn .buildReactorStarport starport.tag
      else alsoTryBuildAddOn .buildTechlabStarport starport.tag)) starports

/-- What `BuildOrder` builds behind the add-ons. -/
def buildStructures (bases barracks factorys starports : Nat) : TerranM PUnit := do
  let v ← ask id
  let bot ← gets (·.own)
  let base ← gets (·.base)
  let barracksCountTarget := if bot.mechBuild then 1 else min (3 * bases) 8
  let armoryCountTarget := if bot.mechBuild then 2 else 1
  when (factorys > 0 ∧ starports < min (1 * bases) 4 ∧ v.minerals > 150 ∧ v.vespene > 100)
    (alsoTryBuildRandom .buildStarport)
  when (barracks > 0 ∧ factorys < min (2 * bases) 7 ∧ v.minerals > 150 ∧ v.vespene > 100)
    (alsoTryBuildRandom .buildFactory)
  when (barracks < barracksCountTarget ∧ v.foodWorkers ≥ base.targetWorkerCount)
    (alsoTryBuildRandom .buildBarracks)
  let engineeringBays ← countUnitType .terranEngineeringBay
  let ghostAcademies ← countUnitType .terranGhostAcademy
  let fusionCores ← countUnitType .terranFusionCore
  when (!bot.mechBuild ∧ engineeringBays < min bases 2 ∧ v.minerals > 150 ∧ v.vespene > 100)
    (alsoTryBuildRandom .buildEngineeringBay)
  when (!bot.mechBuild ∧ barracks > 0 ∧ ghostAcademies < 1 ∧ v.minerals > 150 ∧ v.vespene > 50)
    (alsoTryBuildRandom .buildGhostAcademy)
  when (!bot.mechBuild ∧ factorys > 0 ∧ fusionCores < 1 ∧ v.minerals > 150 ∧ v.vespene > 150)
    (alsoTryBuildRandom .buildFusionCore)
  let armories ← countUnitType .terranArmory
  when (barracks > 0 ∧ armories < armoryCountTarget ∧ v.minerals > 150 ∧ v.vespene > 100)
    (alsoTryBuildRandom .buildArmory)

def buildOrder : TerranM PUnit := do
  let v ← ask id
  let bases ← getUnits .self isTownHall
  let barracks ← getUnits .self (isUnits barrackTypes)
  let factorys ← getUnits .self (isUnits factoryTypes)
  let starports ← getUnits .self (isUnits starportTypes)
  let supplyDepots ← getUnits .self (isUnit .terranSupplyDepot)
  let fusionCores ← countUnitType .terranFusionCore
  if bases.length < 3 ∧ fusionCores ≠ 0 then
    let _ ← tryBuildExpansionCom
    return
  forEach (unitCommand · .morphSupplyDepotLower) supplyDepots
  when (!barracks.isEmpty) (forEach (fun base =>
    when (base.unitType = .terranCommandCenter ∧ v.minerals > 150)
      (unitCommand base .morphOrbitalCommand)) bases)
  extendBarracks barracks
  extendFactories factorys
  extendStarports starports
  buildStructures bases.length barracks.length factorys.length starports.length

def tryBuildSupplyDepot : TerranM Bool := do
  let v ← ask id
  if v.foodUsed.toInt < v.foodCap.toInt - 6 ∨ v.minerals < 100 then return false
  let units ← getUnits .self (isUnits supplyDepotTypes)
  if v.foodUsed < 40 ∧ units.any fun unit => unit.buildProgress ≠ 1 then return false
  let rx ← getRandomScalar
  let ry ← getRandomScalar
  let staging ← gets (·.base.stagingLocation)
  tryBuildStructure .buildSupplyDepot .terranScv ⟨staging.x + rx * 15, staging.y + ry * 15⟩

def buildRefinery : TerranM Bool := do
  let bases ← getUnits .self isTownHall
  let refineries ← countUnitType .terranRefinery
  if refineries ≥ bases.length * 2 then return false
  tryEach (fun base =>
    if base.assignedHarvesters ≥ base.idealHarvesters ∧ base.buildProgress = 1 then
      tryBuildGas .buildRefinery .terranScv base.pos.toPoint2D
    else pure false) bases

def tryBuildSCV : TerranM Bool := do
  let v ← ask id
  let bot ← gets (·.base)
  let bases ← getUnits .self isTownHall
  forEach (fun base => when (base.unitType = .terranOrbitalCommand ∧ base.energy > 50) do
    let patch ← findNearestMineralPatch base.pos.toPoint2D
    when patch.isSome (unitCommand base .effectCalldownMule)) bases
  if v.foodWorkers ≥ bot.maxWorkerCount ∨ v.foodUsed ≥ v.foodCap then return false
  let expected ← getExpectedWorkers .terranRefinery
  if v.foodWorkers.toInt > expected then return false
  match bases.find? fun base =>
      base.assignedHarvesters < base.idealHarvesters ∧ base.buildProgress = 1 with
  | none => return false
  | some base =>
    if v.minerals ≥ 50 then tryBuildUnit .trainScv base.unitType else return false

/-! ## Production -/

/-- Minerals are left over, and vespene is short. -/
def floatsMinerals (v : BotView) : Bool := v.minerals > 1000 ∧ v.vespene < 300

/-- Nukes are built until a ghost can call one down. -/
def buildNukes : TerranM PUnit := do
  let v ← ask id
  let bot ← gets (·.own)
  let ghostAcademies ← countUnitType .terranGhostAcademy
  let factories ← countUnitType .terranFactory
  let ghosts ← getUnits .self (isUnit .terranGhost)
  when (!bot.mechBuild ∧ ghostAcademies + factories > 0 ∧ !bot.nukeBuilt) do
    when (v.minerals > 100 ∧ v.vespene > 100) (alsoTryBuildUnit .buildNuke .terranGhostAcademy)
    match ghosts with
    | [] => return
    | ghost :: _ =>
      let abilities ← getAbilitiesForUnit ghost
      when (abilities.any fun available => available.abilityId = .effectNukeCalldown)
        (modify fun s => { s with own := { s.own with nukeBuilt := true } })

/-- A turn of the loop over the starports: whether `BuildArmy` returns there. -/
def trainAtStarport (starport : Unit) : TerranM Bool := do
  let bot ← gets (·.own)
  let vikings ← countUnitTypeTotal vikingTypes .terranFactory .trainVikingFighter
  let medivacs ← countUnitTypeTotal [.terranMedivac] .terranStarport .trainMedivac
  let ravens ← countUnitTypeTotal [.terranRaven] .terranStarport .trainRaven
  -- these two count medivacs, too
  let battlecruisers ← countUnitTypeTotal [.terranMedivac] .terranStarport .trainBattlecruiser
  let banshees ← countUnitTypeTotal [.terranMedivac] .terranStarport .trainBanshee
  let fusionCores ← countUnitType .terranFusionCore
  let idle := starport.orders.isEmpty
  let free := decide (starport.orders.length < 2)
  match ← getUnit starport.addOnTag with
  | none =>
    (if bot.mechBuild then when (idle ∧ vikings < 5) (unitCommand starport .trainVikingFighter)
      else when (idle ∧ medivacs < 5) (unitCommand starport .trainMedivac))
    return false
  | some addOn =>
    if addOn.unitType = .terranStarportReactor then
      when (bot.mechBuild ∧ free ∧ vikings < 5) (unitCommand starport .trainVikingFighter)
      when (!bot.mechBuild ∧ free ∧ medivacs < 5) (unitCommand starport .trainMedivac)
      when (!bot.mechBuild ∧ free ∧ medivacs < 3) (unitCommand starport .trainMedivac)
      return false
    else
      when (idle ∧ ravens < 2) (unitCommand starport .trainRaven)
      let large := !bot.mechBuild && decide (fusionCores > 0 ∧ battlecruisers < 2) && idle
      when large (unitCommand starport .trainBattlecruiser)
      if large ∧ battlecruisers < 1 then return true
      when (!bot.mechBuild ∧ idle ∧ banshees < 2) (unitCommand starport .trainBanshee)
      return false

def trainAtBarracks (barrack : Unit) : TerranM PUnit := do
  let v ← ask id
  let bot ← gets (·.own)
  let marines ← countUnitTypeTotal [.terranMarine] .terranBarracks .trainMarine
  let marauders ← countUnitTypeTotal [.terranMarauder] .terranBarracks .trainMarauder
  let reapers ← countUnitTypeTotal [.terranReaper] .terranBarracks .trainReaper
  let ghosts ← countUnitTypeTotal [.terranGhost] .terranBarracks .trainGhost
  let idle := barrack.orders.isEmpty
  let free := decide (barrack.orders.length < 2)
  match ← getUnit barrack.addOnTag with
  | none =>
    when (!bot.mechBuild ∧ idle ∧ (marines < 20 ∨ floatsMinerals v))
      (unitCommand barrack .trainMarine)
  | some addOn =>
    if addOn.unitType = .terranBarracksReactor then
      if bot.mechBuild then when (free ∧ marines < 5) (unitCommand barrack .trainMarine)
      else
        when ((free ∧ marines < 20) ∨ floatsMinerals v) (unitCommand barrack .trainMarine)
    else
      when (!bot.mechBuild ∧ idle)
        (if reapers < 2 then unitCommand barrack .trainReaper
        else if ghosts < 4 then unitCommand barrack .trainGhost
        else if marauders < 10 then unitCommand barrack .trainMarauder
        else unitCommand barrack .trainMarine)

/-- A hellbat if there is an armory, else a hellion. -/
def trainHellion (factory : Unit) : TerranM PUnit := do
  let armories ← countUnitType .terranArmory
  if armories > 0 then unitCommand factory .trainHellbat else unitCommand factory .trainHellion

/-- A turn of the loop over the factories: whether `BuildArmy` returns there. -/
def trainAtFactory (factory : Unit) : TerranM Bool := do
  let v ← ask id
  let bot ← gets (·.own)
  let widowMines ← countUnitTypeTotal widowMineTypes .terranFactory .trainWidowMine
  let hellions ← countUnitTypeTotal hellionTypes .terranFactory .trainHellion
  let trained ← countUnitTypeBuilding .terranFactory .trainHellbat
  let hellbats := hellions + trained
  let siegeTanks ← countUnitTypeTotal siegeTankTypes .terranFactory .trainSiegeTank
  let cyclones ← countUnitType .terranCyclone
  let armories ← countUnitType .terranArmory
  let thors ← countUnitType .terranThor
  let idle := factory.orders.isEmpty
  let free := decide (factory.orders.length < 2)
  match ← getUnit factory.addOnTag with
  | none =>
    when (bot.mechBuild ∧ idle ∧ hellbats < 20) (trainHellion factory)
    return false
  | some addOn =>
    if addOn.unitType = .terranFactoryReactor then
      when (free ∧ widowMines < 4) (unitCommand factory .trainWidowMine)
      when (bot.mechBuild ∧ free ∧ floatsMinerals v) (unitCommand factory .trainHellbat)
      when (bot.mechBuild ∧ free ∧ hellbats < 20) (trainHellion factory)
      when (bot.mechBuild ∧ free ∧ cyclones < 6) (unitCommand factory .trainCyclone)
      return false
    else
      let large := bot.mechBuild && idle && decide (armories > 0 ∧ thors < 4)
      when large (unitCommand factory .trainThor)
      if large then return true
      when (!bot.mechBuild ∧ idle ∧ siegeTanks < 7) (unitCommand factory .trainSiegeTank)
      when (bot.mechBuild ∧ idle ∧ siegeTanks < 10) (unitCommand factory .trainSiegeTank)
      return false

def buildArmy : TerranM PUnit := do
  let barracks ← getUnits .self (isUnit .terranBarracks)
  let factorys ← getUnits .self (isUnit .terranFactory)
  let starports ← getUnits .self (isUnit .terranStarport)
  buildNukes
  if ← tryEach trainAtStarport starports then return
  forEach trainAtBarracks barracks
  let _ ← tryEach trainAtFactory factorys

/-! ## Upgrades -/

/-- The upgrades that the mech build goes on with after one is complete. -/
def continueVehicleUpgrade (baseCount : Nat) (upgrade : UpgradeID) : TerranM PUnit :=
  if upgrade = .terranShipWeaponsLevel1 ∧ baseCount > 2 then
    alsoTryBuildUnit .researchTerranShipWeapons .terranArmory
  else if upgrade = .terranVehicleWeaponsLevel1 ∧ baseCount > 2 then
    alsoTryBuildUnit .researchTerranVehicleWeapons .terranArmory
  else if upgrade = .terranVehicleAndShipArmorsLevel1 ∧ baseCount > 2 then
    alsoTryBuildUnit .researchTerranVehicleAndShipPlating .terranArmory
  else if upgrade = .terranVehicleWeaponsLevel2 ∧ baseCount > 3 then
    alsoTryBuildUnit .researchTerranVehicleWeapons .terranArmory
  else if upgrade = .terranVehicleAndShipArmorsLevel2 ∧ baseCount > 3 then
    -- the unit is one of another race
    alsoTryBuildUnit .researchTerranVehicleAndShipPlating .zergSpire
  else do
    alsoTryBuildUnit .researchTerranVehicleWeapons .terranArmory
    alsoTryBuildUnit .researchTerranShipWeapons .terranArmory
    alsoTryBuildUnit .researchTerranVehicleAndShipPlating .terranArmory
    alsoTryBuildUnit .researchInfernalPreigniter .terranFactoryTechlab

/-- Those of the other build. -/
def continueInfantryUpgrade (baseCount : Nat) (upgrade : UpgradeID) : TerranM PUnit := do
  let armories ← countUnitType .terranArmory
  when (armories > 0 ∧ upgrade = .terranInfantryWeaponsLevel1 ∧ baseCount > 2)
    (alsoTryBuildUnit .researchTerranInfantryWeapons .terranEngineeringBay)
  when (armories > 0 ∧ upgrade = .terranInfantryArmorsLevel1 ∧ baseCount > 2)
    (alsoTryBuildUnit .researchTerranInfantryArmor .terranEngineeringBay)
  when (armories > 0 ∧ upgrade = .terranInfantryWeaponsLevel2 ∧ baseCount > 4)
    (alsoTryBuildUnit .researchTerranInfantryWeapons .terranEngineeringBay)
  when (armories > 0 ∧ upgrade = .terranInfantryArmorsLevel2 ∧ baseCount > 4)
    (alsoTryBuildUnit .researchTerranInfantryArmor .terranEngineeringBay)
  alsoTryBuildUnit .researchStimpack .terranBarracksTechlab
  alsoTryBuildUnit .researchTerranInfantryWeapons .terranEngineeringBay
  alsoTryBuildUnit .researchTerranInfantryArmor .terranEngineeringBay
  alsoTryBuildUnit .researchStimpack .terranBarracksTechlab
  alsoTryBuildUnit .researchCombatShield .terranBarracksTechlab
  alsoTryBuildUnit .researchConcussiveShells .terranBarracksTechlab
  alsoTryBuildUnit .researchPersonalCloaking .terranGhostAcademy
  alsoTryBuildUnit .researchBansheeCloakingField .terranStarportTechlab

def manageUpgrades : TerranM PUnit := do
  let upgrades ← ask (·.upgrades)
  let bases ← getUnits .self isTownHall
  let bot ← gets (·.own)
  if upgrades.isEmpty then
    if bot.mechBuild then alsoTryBuildUnit .researchTerranVehicleWeapons .terranArmory
    else alsoTryBuildUnit .researchStimpack .terranBarracksTechlab
  else
    forEach (fun upgrade =>
      if bot.mechBuild then continueVehicleUpgrade bases.length upgrade
      else continueInfantryUpgrade bases.length upgrade) upgrades

/-! ## Callbacks -/

/-- `OnStep` behind its first part. -/
def manageEconomy : TerranM PUnit := do
  buildOrder
  manageWorkers .terranScv .harvestGather .terranRefinery
  manageUpgrades
  if ← tryBuildSCV then return
  if ← tryBuildSupplyDepot then return
  buildArmy
  if ← buildRefinery then return
  let _ ← tryBuildExpansionCom

def onStep : TerranM PUnit := do
  let _ ← getUnitsIf .self isArmy
  let nukes ← getUnits .self (isUnit .terranNuke)
  let throttled ← ask isThrottled
  if throttled then return
  let nukeDetected ← gets (·.base.nukeDetected)
  -- a nuke of its own makes the bot retreat, too
  (if !nukeDetected ∧ nukes.isEmpty then manageArmy else retreatFromNuke)
  manageEconomy

def onUnitIdle (unit : Unit) : TerranM PUnit :=
  when (unit.unitType = .terranScv) (mineIdleWorkers unit .harvestGather .terranRefinery)

/-- Each case falls through to the next. -/
def onUpgradeCompleted (upgrade : UpgradeID) : TerranM PUnit :=
  modify fun s => { s with own := { s.own with
    stimResearched := s.own.stimResearched || upgrade = .stimpack
    ghostCloakResearched := s.own.ghostCloakResearched ||
      upgrade = .stimpack || upgrade = .personalCloaking
    bansheeCloakResearched := s.own.bansheeCloakResearched ||
      upgrade = .stimpack || upgrade = .personalCloaking || upgrade = .bansheeCloak } }

def bot : BotClass TerranMultiplayerBot := { onStep, onUnitIdle, onUpgradeCompleted }

end TerranMultiplayerBot

end Sc2Api
