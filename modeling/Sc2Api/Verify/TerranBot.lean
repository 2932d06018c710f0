import Sc2Api.Verify.BotCalls
import Sc2Api.TerranBot

/-!
# The calls of the Terran bot

Every call that a callback makes is one that the bot may make in its state on what it sees. A
callback fails where it reads the time of a launch and there was none, and where a medivac has
nobody to escort.
-/

namespace Sc2Api

open Lib Program BotM MultiplayerBot

namespace TerranMultiplayerBot

/-! ## Legal calls -/

/-- The types that `IsTownHall` names. -/
def townHalls : List UnitTypeID :=
  [.zergHatchery, .zergLair, .zergHive, .terranCommandCenter, .terranOrbitalCommand,
    .terranOrbitalCommandFlying, .terranPlanetaryFortress, .protossNexus]

/-- What is trained and researched by a unit that is picked at random. -/
def economy : Race.Economy where
  worker := .terranScv
  vespeneBuilding := .terranRefinery
  makers := townHalls.map (.trainScv, ·) ++ [
    (.buildNuke, .terranGhostAcademy),
    (.researchTerranShipWeapons, .terranArmory), (.researchTerranVehicleWeapons, .terranArmory),
    (.researchTerranVehicleAndShipPlating, .terranArmory),
    (.researchTerranVehicleAndShipPlating, .zergSpire),
    (.researchInfernalPreigniter, .terranFactoryTechlab),
    (.researchTerranInfantryWeapons, .terranEngineeringBay),
    (.researchTerranInfantryArmor, .terranEngineeringBay),
    (.researchStimpack, .terranBarracksTechlab), (.researchCombatShield, .terranBarracksTechlab),
    (.researchConcussiveShells, .terranBarracksTechlab),
    (.researchPersonalCloaking, .terranGhostAcademy),
    (.researchBansheeCloakingField, .terranStarportTechlab)]
  buildings := [.buildSupplyDepot]
  townHall := .buildCommandCenter
  vespene := .buildRefinery

def buildings : List AbilityID :=
  [.buildStarport, .buildFactory, .buildBarracks, .buildEngineeringBay, .buildGhostAcademy,
    .buildFusionCore, .buildArmory]

def addOns : List (AbilityID × List UnitTypeID) :=
  [(.buildTechlabBarracks, barrackTypes), (.buildReactorBarracks, barrackTypes),
    (.buildTechlabFactory, factoryTypes), (.buildReactorFactory, factoryTypes),
    (.buildTechlabStarport, starportTypes), (.buildReactorStarport, starportTypes)]

def trained : List (AbilityID × UnitTypeID) :=
  [(.trainVikingFighter, .terranStarport), (.trainMedivac, .terranStarport),
    (.trainRaven, .terranStarport), (.trainBattlecruiser, .terranStarport),
    (.trainBanshee, .terranStarport),
    (.trainMarine, .terranBarracks), (.trainReaper, .terranBarracks),
    (.trainGhost, .terranBarracks), (.trainMarauder, .terranBarracks),
    (.trainHellbat, .terranFactory), (.trainHellion, .terranFactory),
    (.trainWidowMine, .terranFactory), (.trainCyclone, .terranFactory),
    (.trainThor, .terranFactory), (.trainSiegeTank, .terranFactory)]

def reactors : List UnitTypeID :=
  [.terranStarportReactor, .terranBarracksReactor, .terranFactoryReactor]

def HasReactor (v : BotView) (building : Unit) : Prop :=
  ∃ addOn, v.getUnit building.addOnTag = some addOn ∧ addOn.unitType ∈ reactors

/-- The building can be given something to train. -/
inductive HasRoom (v : BotView) (ability : AbilityID) (building : Unit) : Prop
  | idle (horders : building.orders = [])
  | reactor (hreactor : HasReactor v building) (horders : building.orders.length < 2)
  /-- Marines are trained whatever the building has to do, if there are minerals for them. -/
  | surplus (hability : ability = .trainMarine) (hreactor : HasReactor v building)
      (hfloats : floatsMinerals v = true)

/-- The game has at some time given this answer to whether the unit can build there. -/
def PlacedBy (v : BotView) (ability : AbilityID) (unit : Unit) (location : Point2D) : Prop :=
  ∃ n, QueryInterface.placementOf ability location (some unit.tag) (v.game n) = .ok true

/-- A building that can be given an add-on. -/
structure Extensible (v : BotView) (ability : AbilityID) (building : Unit) : Prop where
  mem : ∃ types, (ability, types) ∈ addOns ∧ building ∈ v.getUnits .self (isUnits types)
  idle : building.orders = []
  complete : building.buildProgress = 1
  bare : v.getUnit building.addOnTag = none

/-- No structure of the player for which `p` holds is at the location. -/
def IsClear (v : BotView) (p : Unit → Prop) (location : Point2D) : Prop :=
  ∀ unit ∈ v.getUnits .self, IsStructure v unit true → p unit →
    6 ^ 2 ≤ distanceSquared2D unit.pos.toPoint2D location

/-- What a step does with buildings. -/
inductive PlantCall (v : BotView) (s : BotState TerranMultiplayerBot) : ActionCall → Prop
  | train {building : Unit} {ability : AbilityID} {unitType : UnitTypeID}
      (hmakes : (ability, unitType) ∈ trained)
      (hbuilding : building ∈ v.getUnits .self (isUnit unitType))
      (hroom : HasRoom v ability building) :
      PlantCall v s (.unitCommand (some building.tag) ability false)
  | lower {depot : Unit} (hdepot : depot ∈ v.getUnits .self (isUnit .terranSupplyDepot)) :
      PlantCall v s (.unitCommand (some depot.tag) .morphSupplyDepotLower false)
  | orbital {base : Unit} (hbase : base ∈ v.getUnits .self isTownHall)
      (htype : base.unitType = .terranCommandCenter) (hminerals : 150 < v.minerals)
      (hbarracks : v.getUnits .self (isUnits barrackTypes) ≠ []) :
      PlantCall v s (.unitCommand (some base.tag) .morphOrbitalCommand false)
  | mule {base patch : Unit} (hbase : base ∈ v.getUnits .self isTownHall)
      (htype : base.unitType = .terranOrbitalCommand) (henergy : 50 < base.energy)
      (hpatch : NearestPatch v base.pos.toPoint2D patch) :
      PlantCall v s (.unitCommand (some base.tag) .effectCalldownMule false)
  | extend {building : Unit} {ability : AbilityID} (hbuilding : Extensible v ability building)
      (hplaced : PlacedBy v ability building building.pos.toPoint2D) :
      PlantCall v s (.unitCommand (some building.tag) ability false)
  | extendAt {building : Unit} {ability : AbilityID} {location : Point2D}
      (hbuilding : Extensible v ability building)
      (hplaced : PlacedBy v ability building location)
      (hclear : IsClear v (fun _ => True) location)
      (hx : |location.x - building.pos.x| ≤ 15) (hy : |location.y - building.pos.y| ≤ 15) :
      PlantCall v s (.unitCommandPoint (some building.tag) ability location false)
  | build {worker : Unit} {ability : AbilityID} {location : Point2D}
      (hbuilding : ability ∈ buildings) (hworker : Builder v .terranScv ability worker)
      (hplaced : Placed v ability location true)
      (hoff : ∀ expansion ∈ s.base.expansions,
        7 ^ 2 ≤ distanceSquared2D location expansion.toPoint2D)
      (hclear : IsClear v (·.unitType ≠ .terranSupplyDepotLowered) location) :
      PlantCall v s (.unitCommandPoint (some worker.tag) ability location false)

/-- The distances at which units use the stimpack. -/
def stimRanges : List (UnitTypeID × CFloat) := [(.terranMarine, 6), (.terranMarauder, 7)]

/-- The abilities that units of the army use, and whom medivacs and ravens follow. -/
inductive Casts (v : BotView) (s : BotState TerranMultiplayerBot) (unit : Unit) :
    ActionCall → Prop
  | stim {range : CFloat} (htype : (unit.unitType, range) ∈ stimRanges)
      (hresearched : s.own.stimResearched = true) (hfights : isDoing .attack unit = true)
      (hnear : IsNear (v.getUnits .enemy) unit range) (hbuff : BuffID.stimpack ∉ unit.buffs) :
      Casts v s unit (.unitCommand (some unit.tag) .effectStim false)
  | cloak (htype : unit.unitType = .terranGhost ∨ unit.unitType = .terranBanshee)
      (hnear : IsNear (v.getUnits .enemy) unit 7) (henergy : 50 < unit.energy) :
      Casts v s unit (.unitCommand (some unit.tag) .behaviorCloakOn false)
  | nuke {enemy : Unit} (htype : unit.unitType = .terranGhost) (hbuilt : s.own.nukeBuilt = true)
      (henemy : enemy ∈ v.getUnits .enemy) (hleast : ∀ other ∈ v.getUnits .enemy,
        distanceSquared2D enemy.pos.toPoint2D unit.pos.toPoint2D ≤
          distanceSquared2D other.pos.toPoint2D unit.pos.toPoint2D) :
      Casts v s unit
        (.unitCommandPoint (some unit.tag) .effectNukeCalldown enemy.pos.toPoint2D false)
  | snipe (htype : unit.unitType = .terranGhost) (henergy : 50 < unit.energy)
      (hfights : isDoing .attack unit = true) :
      Casts v s unit (.unitCommandTarget (some unit.tag) .effectGhostSnipe (some unit.tag) false)
  | burrowDown (htype : unit.unitType = .terranWidowMine)
      (hnear : IsNear (v.getUnits .enemy) unit 6) :
      Casts v s unit (.unitCommand (some unit.tag) .burrowDown false)
  | siege (htype : unit.unitType = .terranSiegeTank)
      (hnear : IsNear (v.getUnits .enemy) unit 11) :
      Casts v s unit (.unitCommand (some unit.tag) .morphSiegeMode false)
  | unsiege (htype : unit.unitType = .terranSiegeTankSieged)
      (hfar : ∀ enemy ∈ v.getUnits .enemy,
        13 ^ 2 < distanceSquared2D enemy.pos.toPoint2D unit.pos.toPoint2D) :
      Casts v s unit (.unitCommand (some unit.tag) .morphUnsiege false)
  | heal {patient : Unit} (htype : unit.unitType = .terranMedivac) (hidle : unit.orders = [])
      (hpatient : patient ∈ v.getUnits .self (isUnits bioTypes))
      (hhurt : patient.health < patient.healthMax) :
      Casts v s unit (.unitCommandTarget (some unit.tag) .effectHeal (some patient.tag) false)
  | follow {front : Unit} (htype : unit.unitType = .terranMedivac) (hidle : unit.orders = [])
      (hfront : front ∈ v.getUnits .self (isUnits bioTypes)) :
      Casts v s unit (.unitCommandTarget (some unit.tag) .attack (some front.tag) false)
  | escort {front : Unit} (htype : unit.unitType = .terranMedivac) (hidle : unit.orders = [])
      (hfront : front ∈ v.getUnits .self (isUnits bioTypes)) :
      Casts v s unit (.unitCommandPoint (some unit.tag) .attack front.pos.toPoint2D false)
  | land (htype : unit.unitType = .terranVikingFighter)
      (hnone : v.getUnits .enemy isFlying = []) :
      Casts v s unit (.unitCommand (some unit.tag) .morphVikingAssaultMode false)
  | takeOff (htype : unit.unitType = .terranVikingAssault)
      (hsome : v.getUnits .enemy isFlying ≠ []) :
      Casts v s unit (.unitCommand (some unit.tag) .morphVikingFighterMode false)
  | lockOn {enemy : Unit} (htype : unit.unitType = .terranCyclone)
      (henemy : enemy ∈ v.getUnits .enemy isFlying)
      (hfree : unit.orders = [] ∨ doesOtherThan unit .effectLockon = true) :
      Casts v s unit (.unitCommandTarget (some unit.tag) .effectLockon (some enemy.tag) false)
  | hellbat (htype : unit.unitType = .terranHellion)
      (harmory : v.getUnits .self (isUnit .terranArmory) ≠ []) :
      Casts v s unit (.unitCommand (some unit.tag) .morphHellbat false)
  | missile {enemy : Unit} (htype : unit.unitType = .terranRaven) (henergy : 125 < unit.energy)
      (henemy : enemy ∈ v.getUnits .enemy) :
      Casts v s unit
        (.unitCommandTarget (some unit.tag) .effectHunterSeekerMissile (some enemy.tag) false)
  | gatherAt {front : Unit} (htype : unit.unitType = .terranRaven) (hidle : unit.orders = [])
      (hfront : IsArmy v front) :
      Casts v s unit (.unitCommandPoint (some unit.tag) .attack front.pos.toPoint2D false)

/-- A nuke of its own alarms the bot as one that is detected does. -/
def Flees (v : BotView) (s : BotState TerranMultiplayerBot) : Prop :=
  s.base.nukeDetected = true ∨ v.getUnits .self (isUnit .terranNuke) ≠ []

inductive StepCall (v : BotView) (s : BotState TerranMultiplayerBot) (call : ActionCall) : Prop
  | army (hcalm : ¬Flees v s) (h : ArmyCall v s (Casts v s) call)
  | retreat (hflees : Flees v s) (h : RetreatCall v s call)
  | economy (h : EconomyCall economy v s call)
  | plant (h : PlantCall v s call)

/-! ## What the army needs -/

/-- All units are on one map: the distance to an enemy is a number below the greatest. -/
def OnMap (v : BotView) : Prop :=
  ∀ unit ∈ v.getUnits .self, ∀ enemy ∈ v.getUnits .enemy,
    distanceSquared2D enemy.pos.toPoint2D unit.pos.toPoint2D < floatMax ^ 2

/-- A medivac that is to escort someone, and there is nobody. -/
structure Stranded (v : BotView) (unit : Unit) : Prop where
  army : IsArmy v unit
  type : unit.unitType = .terranMedivac
  idle : unit.orders = []
  alone : v.getUnits .self (isUnits bioTypes) = []

/-- The supply at which the army goes out to scout. -/
def waitTilSupply (mechBuild : Bool) : Int32 := if mechBuild then 110 else 100

/-! ## The army -/

section Army

variable {v : BotView} {s : BotState TerranMultiplayerBot} {F : BotFault → Prop}
  {P : ActionCall → Prop} {unit : Unit}

/-- The nearest enemy is not found only off the map. -/
theorem not_onMap_of_nearest (hunit : IsArmy v unit) (henemies : v.getUnits .enemy ≠ [])
    (h : (nearest (v.getUnits .enemy) unit).2 = none) : ¬OnMap v := by
  intro hmap
  obtain ⟨-, hfar⟩ | ⟨enemy, -, hscan, -⟩ := nearest_cases (v.getUnits .enemy) unit
  · obtain ⟨enemy, henemy⟩ := List.exists_mem_of_ne_nil _ henemies
    exact absurd (hmap unit hunit.own enemy henemy) (hfar enemy henemy).not_gt
  · rw [hscan] at h
    cases h

theorem stim_keeps {range : CFloat} (htype : (unit.unitType, range) ∈ stimRanges)
    (hrange : 0 ≤ range ∧ range ≤ floatMax)
    (h : ∀ call, ArmyCall v s (Casts v s) call → P call) (hunit : IsArmy v unit) :
    Respects v F (Unchanged s) P (stim range (v.getUnits .enemy) unit) fun _ => True := by
  refine .gets_bind fun s' hs' => .ite (fun hready => ?_) fun _ => ?_
  · obtain ⟨hresearched, hfights, hnear, hbuff⟩ := hready
    rw [hs'.2] at hresearched
    refine .emit (h _ (.cast hunit (.stim htype hresearched hfights ?_ hbuff))) trivial
    exact isNear_of_nearest hrange hnear
  · exact attackWithUnit_keeps (allowsAttack_army h hunit)

theorem sneak_keeps (htype : unit.unitType = .terranGhost) (hmap : ¬OnMap v → ∀ e, F e)
    (h : ∀ call, ArmyCall v s (Casts v s) call → P call) (hunit : IsArmy v unit)
    (henemies : v.getUnits .enemy ≠ []) :
    Respects v F (Unchanged s) P (sneak (v.getUnits .enemy) unit) fun _ => True := by
  refine .gets_bind fun s' hs' => ?_
  rw [hs'.2]
  refine .ite (fun hcloak => ?_) fun _ => .ite (fun hbuilt => ?_) fun _ =>
    .ite (fun hsnipe => .when fun hfights => ?_) fun _ => ?_
  · refine .emit (h _ (.cast hunit (.cloak (.inl htype) ?_ hcloak.2.2))) trivial
    exact isNear_of_nearest (by decide +kernel) hcloak.2.1
  · refine (readVariable_keeps fun hnone => ?_).bind fun closest hclosest => ?_
    · exact hmap (not_onMap_of_nearest hunit henemies hnone) _
    obtain ⟨henemy, hleast⟩ := nearest_least hclosest
    refine .emit_bind (h _ (.cast hunit (.nuke htype hbuilt henemy hleast))) ?_
    exact attackWithUnit_keeps (allowsAttack_army h hunit)
  · exact .emit (h _ (.cast hunit (.snipe htype hsnipe.1 hfights))) trivial
  · exact attackWithUnit_keeps (allowsAttack_army h hunit)

theorem heal_keeps (htype : unit.unitType = .terranMedivac)
    (h : ∀ call, ArmyCall v s (Casts v s) call → P call) (hunit : IsArmy v unit) :
    Respects v F (Unchanged s) P (heal unit) fun _ => True := by
  refine .ask_bind (.ite (fun _ => .pure trivial) fun horders => ?_)
  have hidle : unit.orders = [] := by simpa using horders
  refine Keeps.bind (Q := fun _ => True) ?_ fun _ _ => ?_
  · cases hwounded : (v.getUnits .self (isUnits bioTypes)).find?
        fun bioUnit => bioUnit.health < bioUnit.healthMax with
    | none => exact .pure trivial
    | some patient =>
      refine .emit (h _ (.cast hunit (.heal htype hidle ?_ ?_))) trivial
      · exact List.mem_of_find?_eq_some hwounded
      · simpa using List.find?_some hwounded
  · cases hbio : v.getUnits .self (isUnits bioTypes) with
    | nil => exact .pure trivial
    | cons front others =>
      exact .emit (h _ (.cast hunit (.follow htype hidle (hbio ▸ List.mem_cons_self)))) trivial

theorem intercept_keeps
    (htype : unit.unitType ∈ [.terranVikingFighter, .terranVikingAssault, .terranCyclone])
    (h : ∀ call, ArmyCall v s (Casts v s) call → P call) (hunit : IsArmy v unit) :
    Respects v F (Unchanged s) P (intercept unit) fun _ => True := by
  have hattack : Respects v F (Unchanged s) P (attackWithUnit unit) fun _ => True :=
    attackWithUnit_keeps (allowsAttack_army h hunit)
  refine .ask_bind (.ite (fun hfighter => ?_) fun hfighter => .ite (fun hassault => ?_)
    fun hassault => ?_)
  · cases hflying : v.getUnits .enemy isFlying with
    | nil => exact .emit (h _ (.cast hunit (.land hfighter hflying))) trivial
    | cons enemy others =>
      have henemy : enemy ∈ v.getUnits .enemy isFlying := hflying ▸ List.mem_cons_self
      obtain ⟨hmem, halliance, -⟩ := mem_getUnits_iff.1 henemy
      exact .emit (h _ (.attackUnit hunit (mem_getUnits_iff.2 ⟨hmem, halliance, rfl⟩))) trivial
  · refine .ite (fun hsome => .emit (h _ (.cast hunit (.takeOff hassault ?_))) trivial)
      fun _ => hattack
    intro hnone
    rw [hnone] at hsome
    exact Bool.false_ne_true hsome
  · have hcyclone : unit.unitType = .terranCyclone := by
      simpa [hfighter, hassault] using htype
    cases hflying : v.getUnits .enemy isFlying with
    | nil => exact hattack
    | cons enemy others =>
      refine .when fun hfree => .emit (h _ (.cast hunit (.lockOn hcyclone ?_ ?_))) trivial
      · exact hflying ▸ List.mem_cons_self
      · exact hfree.imp_left List.isEmpty_iff.1

theorem morphAndAttack_keeps (h : ∀ call, ArmyCall v s (Casts v s) call → P call)
    (hunit : IsArmy v unit) :
    Respects v F (Unchanged s) P (morphAndAttack (v.getUnits .enemy) unit) fun _ => True := by
  refine .gets_bind fun s' hs' => countUnitType_keeps.bind fun armories harmories => ?_
  refine (Keeps.when fun hhellion => ?_).bind fun _ _ => (Keeps.when fun hbanshee => ?_).bind
    fun _ _ => attackWithUnit_keeps (allowsAttack_army h hunit)
  · refine .emit (h _ (.cast hunit (.hellbat hhellion.1 fun hnone => ?_))) trivial
    rw [hnone, List.length_nil] at harmories
    omega
  · refine .emit (h _ (.cast hunit (.cloak (.inr hbanshee.1) ?_ hbanshee.2.2.2))) trivial
    exact isNear_of_nearest (by decide +kernel) hbanshee.2.2.1

theorem fight_keeps (hmap : ¬OnMap v → ∀ e, F e)
    (h : ∀ call, ArmyCall v s (Casts v s) call → P call)
    {army : List Unit} (harmy : ∀ unit, unit ∈ army ↔ IsArmy v unit) (hunit : IsArmy v unit)
    (henemies : v.getUnits .enemy ≠ []) :
    Respects v F (Unchanged s) P (fight army (v.getUnits .enemy) unit) fun _ => True := by
  have hattack : Respects v F (Unchanged s) P (attackWithUnit unit) fun _ => True :=
    attackWithUnit_keeps (allowsAttack_army h hunit)
  unfold fight
  refine .ite (fun htype => .when fun hnear => ?_) fun _ => .ite (fun htype => ?_) fun _ =>
    .ite (fun htype => ?_) fun _ => .ite (fun htype => sneak_keeps htype hmap h hunit henemies)
    fun _ => .ite (fun htype => .ite (fun hnear => ?_) fun _ => hattack) fun _ =>
    .ite (fun htype => .ite (fun hfar => ?_) fun _ => hattack) fun _ =>
    .ite (fun htype => heal_keeps htype h hunit) fun _ =>
    .ite (fun htype => intercept_keeps htype h hunit) fun _ =>
    .ite (fun _ => morphAndAttack_keeps h hunit) fun _ =>
    .ite (fun htype => .ite (fun henergy => ?_) fun _ => .when fun hidle => ?_) fun _ => hattack
  · refine .emit (h _ (.cast hunit (.burrowDown htype ?_))) trivial
    exact isNear_of_nearest (by decide +kernel) hnear
  · refine stim_keeps ?_ (by decide +kernel) h hunit
    rw [htype]
    exact List.mem_cons_self
  · refine stim_keeps ?_ (by decide +kernel) h hunit
    rw [htype]
    exact List.mem_cons_of_mem _ List.mem_cons_self
  · refine .emit (h _ (.cast hunit (.siege htype ?_))) trivial
    exact isNear_of_nearest (by decide +kernel) hnear
  · refine .emit (h _ (.cast hunit (.unsiege htype fun other hother => ?_))) trivial
    exact hfar.trans_le (nearest_le hother)
  · cases hsome : v.getUnits .enemy with
    | nil => exact absurd hsome henemies
    | cons first others =>
      exact .emit (h _ (.cast hunit (.missile htype henergy (hsome ▸ List.mem_cons_self)))) trivial
  · cases hsome : army with
    | nil =>
      have hmem := (harmy unit).2 hunit
      rw [hsome] at hmem
      exact absurd hmem List.not_mem_nil
    | cons front others =>
      have hfront : IsArmy v front := (harmy front).1 (hsome ▸ List.mem_cons_self)
      exact .emit (h _ (.cast hunit (.gatherAt htype (List.isEmpty_iff.1 hidle) hfront))) trivial

/-- What a sieged tank is told while there are no enemies. -/
theorem unsiege_keeps {J : MultiplayerBot → TerranMultiplayerBot → Prop}
    (htype : unit.unitType = .terranSiegeTankSieged)
    (h : ∀ call, ArmyCall v s (Casts v s) call → P call) (hunit : IsArmy v unit)
    (hnone : v.getUnits .enemy = []) :
    Respects v F J P (unitCommand unit .morphUnsiege) fun _ => True := by
  refine .emit (h _ (.cast hunit (.unsiege htype fun enemy henemy => ?_))) trivial
  rw [hnone] at henemy
  exact absurd henemy List.not_mem_nil

theorem escort_keeps {J : MultiplayerBot → TerranMultiplayerBot → Prop}
    (htype : unit.unitType = .terranMedivac)
    (h : ∀ call, ArmyCall v s (Casts v s) call → P call) (hunit : IsArmy v unit)
    (hstranded : Stranded v unit → ∀ e, F e) :
    Respects v F J P (escort unit) fun _ => True := by
  refine .ask_bind (.when fun horders => ?_)
  have hidle : unit.orders = [] := List.isEmpty_iff.1 horders
  refine (at_keeps fun hshort => ?_).bind fun front hfront => ?_
  · exact hstranded ⟨hunit, htype, hidle, List.length_eq_zero_iff.1 (Nat.le_zero.1 hshort)⟩ _
  · exact .emit (h _ (.cast hunit (.escort htype hidle (List.mem_of_getElem? hfront)))) trivial

/-- The turn of the loop over the army for a unit. -/
theorem command_keeps (hmap : ¬OnMap v → ∀ e, F e)
    (h : ∀ call, ArmyCall v s (Casts v s) call → P call)
    {army : List Unit} (harmy : ∀ unit, unit ∈ army ↔ IsArmy v unit) (hunit : IsArmy v unit)
    {wait : Int32} (hstranded : v.getUnits .enemy = [] → ¬v.foodArmy < wait → Stranded v unit →
      ∀ e, F e) :
    Respects v F (Unchanged s) P
      (if (v.getUnits .enemy).isEmpty = true ∧ v.foodArmy < wait then
        if unit.unitType = .terranSiegeTankSieged then unitCommand unit .morphUnsiege
        else retreatWithUnit unit s.base.stagingLocation.toPoint2D
      else if (!(v.getUnits .enemy).isEmpty) = true then fight army (v.getUnits .enemy) unit
      else if unit.unitType = .terranSiegeTankSieged then unitCommand unit .morphUnsiege
      else if unit.unitType = .terranMedivac then escort unit
      else scoutWithUnit unit : TerranM PUnit) fun _ => True := by
  refine .ite (fun hwaits => .ite (fun htype => ?_) fun _ => ?_) fun hgoes =>
    .ite (fun hsome => ?_) fun hsome => .ite (fun htype => ?_) fun _ =>
    .ite (fun htype => ?_) fun _ => scoutWithUnit_keeps (allowsAttack_army h hunit)
  · exact unsiege_keeps htype h hunit (List.isEmpty_iff.1 hwaits.1)
  · exact retreatWithUnit_keeps (h _ (.stop hunit)) (h _ (.gather hunit))
  · refine fight_keeps hmap h harmy hunit fun hnone => ?_
    rw [hnone] at hsome
    exact Bool.false_ne_true hsome
  all_goals have hnone : v.getUnits .enemy = [] := by simpa using hsome
  · exact unsiege_keeps htype h hunit hnone
  · refine escort_keeps htype h hunit (hstranded hnone fun hfood => hgoes ⟨?_, hfood⟩)
    rw [hnone]
    rfl

theorem manageArmy_keeps (hself : ¬KnowsTypes v .self → ∀ e, F e) (hmap : ¬OnMap v → ∀ e, F e)
    (hstranded : v.getUnits .enemy = [] → ¬v.foodArmy < waitTilSupply s.own.mechBuild →
      ∀ unit, Stranded v unit → ∀ e, F e)
    (h : ∀ call, ArmyCall v s (Casts v s) call → P call) :
    Respects v F (Unchanged s) P manageArmy fun _ => True := by
  refine .ask_bind (.gets_bind fun s' hs' => .ask_bind ((army_keeps hself).bind
    fun army harmy => .gets_bind fun s₁ hs₁ => .forEach fun unit hmem => ?_))
  rw [hs'.2, hs₁.1]
  exact command_keeps hmap h harmy ((harmy unit).1 hmem)
    fun hnone hfood => hstranded hnone hfood unit

/-! ## Failures -/

theorem escort_fails (h : Stranded v unit) : Fails v s (escort unit) := by
  have hidle : unit.orders.isEmpty = true := by rw [h.idle]; rfl
  refine .ask_bind ?_
  rw [when, if_pos hidle, h.alone]
  exact .first ⟨.outOfRange, rfl⟩

theorem manageArmy_fails (hnone : v.getUnits .enemy = [])
    (hfood : ¬v.foodArmy < waitTilSupply s.own.mechBuild) (h : Stranded v unit) :
    Fails v s manageArmy := by
  have harmy : Respects v (fun _ => True) (Unchanged s) (fun _ => True) (getUnitsIf .self isArmy)
      fun army => ∀ unit, unit ∈ army ↔ IsArmy v unit := army_keeps fun _ _ => trivial
  refine .ask_bind (.gets_bind (.ask_bind (.bind (harmy s ⟨rfl, rfl⟩) fun army s' hs' harmy =>
    .gets_bind (.forEach (I := fun s' => Unchanged s s'.base s'.own) (F := fun _ => True)
      (P := fun _ => True) ((harmy unit).2 h.army) (fun other hother => ?_) (fun s₁ _ => ?_) hs'))))
  · rw [hs'.1]
    exact command_keeps (fun _ _ => trivial) (fun _ _ => trivial) harmy ((harmy other).1 hother)
      fun _ _ _ _ => trivial
  · refine .of_not (fun hwaits => hfood hwaits.2) (.of_not ?_ (.of_not ?_ ?_))
    · rw [hnone]
      exact Bool.false_ne_true
    · rw [h.type]
      decide
    · rw [if_pos h.type]
      exact escort_fails h

end Army

/-! ## Buildings -/

section Plants

variable {v : BotView} {s : BotState TerranMultiplayerBot} {F : BotFault → Prop}
  {J : MultiplayerBot → TerranMultiplayerBot → Prop} {P : ActionCall → Prop} {building : Unit}
  {ability : AbilityID}

/-- The scan for the nearest structure finds none at the location. -/
theorem isClear_of_scan {p : Unit → Prop} {units : List Unit} {location : Point2D}
    (hunits : ∀ unit ∈ v.getUnits .self, IsStructure v unit true → p unit → unit ∈ units)
    (hfar : ¬(leastBelow (fun u : Unit => distanceSquared2D u.pos.toPoint2D location)
      (floatMax ^ 2) units).1 < 6 ^ 2) : IsClear v p location := by
  intro unit hown hstruct hp
  have hmem := hunits unit hown hstruct hp
  obtain ⟨hscan, hall⟩ | ⟨x, -, hscan, -, hleast⟩ := leastBelow_spec
    (fun u : Unit => distanceSquared2D u.pos.toPoint2D location) (floatMax ^ 2) units
  · rw [hscan] at hfar
    exact (not_lt.1 hfar).trans (hall unit hmem)
  · rw [hscan] at hfar
    exact (not_lt.1 hfar).trans (hleast unit hmem)

theorem tryBuildAddOn_keeps (hself : ¬KnowsTypes v .self → ∀ e, F e)
    (h : ∀ call, PlantCall v s call → P call) (hmem : building ∈ v.units)
    (hextensible : building.buildProgress = 1 → Extensible v ability building) :
    Respects v F J P (tryBuildAddOn ability building.tag) fun _ => True := by
  have hfound := getUnit_of_mem hmem
  have hfifteen (c : CFloat) {r : CFloat} (hr : -1 ≤ r ∧ r ≤ 1) : |c + r * 15 - c| ≤ 15 :=
    (abs_sub_le_of_scalar hr).trans_eq (abs_of_pos (by norm_num))
  refine getRandomScalar_keeps.bind fun rx hrx => getRandomScalar_keeps.bind fun ry hry => ?_
  refine .ask_bind ((dereference_keeps fun hnone => ?_).bind fun unit hunit => ?_)
  · rw [hfound] at hnone
    cases hnone
  rw [hfound] at hunit
  cases hunit
  refine .ite (fun _ => .pure trivial) fun hcomplete => ?_
  have hextensible := hextensible (not_not.1 hcomplete)
  refine (structures_keeps hself).bind fun units hunits => ?_
  refine placement_answers.bind fun yes hplaced => .ite (fun hyes => ?_) fun _ => ?_
  · rw [hyes] at hplaced
    exact .emit_bind (h _ (.extend hextensible hplaced)) (.pure trivial)
  refine .ite (fun _ => .pure trivial) fun hfar => ?_
  refine placement_answers.bind fun yes hplaced => .ite (fun hyes => ?_) fun _ => .pure trivial
  rw [hyes] at hplaced
  refine .emit_bind (h _ (.extendAt hextensible hplaced ?_ (hfifteen _ hrx) (hfifteen _ hry)))
    (.pure trivial)
  exact isClear_of_scan (fun unit hown hstruct _ => (hunits unit).2 ⟨hown, hstruct⟩) hfar

theorem tryBuildStructureRandom_keeps (hself : ¬KnowsTypes v .self → ∀ e, F e)
    (hJ : FixesEconomy s J)
    (h : ∀ call, PlantCall v s call → P call) (hbuilding : ability ∈ buildings) :
    Respects v F J P (tryBuildStructureRandom ability .terranScv) fun _ => True := by
  refine getRandomScalar_keeps.bind fun rx _ => getRandomScalar_keeps.bind fun ry _ => ?_
  refine .gets_bind fun s' _ => (structures_keeps hself).bind fun units hunits => ?_
  refine .ite (fun _ => .pure trivial) fun hfar => ?_
  refine (tryBuildStructure_keeps fun worker hworker hplaced hoff => h _ ?_).mono
    fun _ _ => trivial
  obtain ⟨bot, own, hbot, hoff⟩ := hoff.resolve_left Bool.false_ne_true
  refine .build hbuilding hworker hplaced (hJ.expansions hbot ▸ hoff) (isClear_of_scan ?_ hfar)
  intro unit hown hstruct htype
  exact List.mem_filter.2 ⟨(hunits unit).2 ⟨hown, hstruct⟩, decide_eq_true htype⟩

/-- The loops over the buildings that may get add-ons. -/
theorem alsoTryBuildAddOn_keeps (hself : ¬KnowsTypes v .self → ∀ e, F e)
    (h : ∀ call, PlantCall v s call → P call) {types : List UnitTypeID}
    (haddOn : (ability, types) ∈ addOns) (hmem : building ∈ v.getUnits .self (isUnits types))
    (hidle : building.orders.isEmpty = true) (hbare : v.getUnit building.addOnTag = none) :
    Respects v F J P (alsoTryBuildAddOn ability building.tag) fun _ => True := by
  refine (tryBuildAddOn_keeps hself h (mem_getUnits_iff.1 hmem).1 fun hcomplete => ?_).bind
    fun _ _ => .pure trivial
  exact ⟨⟨types, haddOn, hmem⟩, List.isEmpty_iff.1 hidle, hcomplete, hbare⟩

theorem extendBarracks_keeps (hself : ¬KnowsTypes v .self → ∀ e, F e)
    (h : ∀ call, PlantCall v s call → P call) :
    Respects v F J P (extendBarracks (v.getUnits .self (isUnits barrackTypes)))
      fun _ => True := by
  refine .ask_bind (.forEach fun barrack hmem => .ask_bind (.when fun hready => ?_))
  refine .ite (fun _ => ?_) fun _ => ?_
  · exact alsoTryBuildAddOn_keeps hself h (by decide) hmem hready.1 hready.2.2
  · exact alsoTryBuildAddOn_keeps hself h (by decide) hmem hready.1 hready.2.2

theorem extendFactories_keeps (hself : ¬KnowsTypes v .self → ∀ e, F e)
    (h : ∀ call, PlantCall v s call → P call) :
    Respects v F J P (extendFactories (v.getUnits .self (isUnits factoryTypes)))
      fun _ => True := by
  refine .gets_bind fun _ _ => .ask_bind (countUnitType_keeps.bind fun _ _ =>
    .forEach fun factory hmem => .ask_bind (.when fun hready => ?_))
  refine .ite (fun _ => ?_) fun _ => ?_
  · exact alsoTryBuildAddOn_keeps hself h (by decide) hmem hready.1 hready.2
  · exact alsoTryBuildAddOn_keeps hself h (by decide) hmem hready.1 hready.2

theorem extendStarports_keeps (hself : ¬KnowsTypes v .self → ∀ e, F e)
    (h : ∀ call, PlantCall v s call → P call) :
    Respects v F J P (extendStarports (v.getUnits .self (isUnits starportTypes)))
      fun _ => True := by
  refine .gets_bind fun _ _ => countUnitType_keeps.bind fun _ _ =>
    .forEach fun starport hmem => .ask_bind (.when fun hready => ?_)
  refine .ite (fun _ => ?_) fun _ => ?_
  · exact alsoTryBuildAddOn_keeps hself h (by decide) hmem hready.1 hready.2
  · exact alsoTryBuildAddOn_keeps hself h (by decide) hmem hready.1 hready.2

theorem buildStructures_keeps (hself : ¬KnowsTypes v .self → ∀ e, F e) (hJ : FixesEconomy s J)
    (h : ∀ call, PlantCall v s call → P call) {bases barracks factorys starports : Nat} :
    Respects v F J P (buildStructures bases barracks factorys starports) fun _ => True := by
  have hbuild {c : Prop} [Decidable c] {ability : AbilityID} (hbuilding : ability ∈ buildings) :
      Respects v F J P (when c (alsoTryBuildRandom ability)) fun _ => True := by
    refine .when fun _ => ?_
    exact (tryBuildStructureRandom_keeps hself hJ h hbuilding).bind fun _ _ => .pure trivial
  refine .ask_bind (.gets_bind fun _ _ => .gets_bind fun _ _ => ?_)
  refine (hbuild (by decide)).bind fun _ _ => (hbuild (by decide)).bind fun _ _ => ?_
  refine (hbuild (by decide)).bind fun _ _ => countUnitType_keeps.bind fun _ _ => ?_
  refine countUnitType_keeps.bind fun _ _ => countUnitType_keeps.bind fun _ _ => ?_
  refine (hbuild (by decide)).bind fun _ _ => (hbuild (by decide)).bind fun _ _ => ?_
  refine (hbuild (by decide)).bind fun _ _ => countUnitType_keeps.bind fun _ _ => ?_
  exact hbuild (by decide)

theorem tryBuildExpansionCom_keeps (hJ : FixesEconomy s J)
    (h : ∀ call, EconomyCall economy v s call → P call) :
    Respects v F J P tryBuildExpansionCom fun _ => True := by
  refine .ask_bind (.gets_bind fun _ _ => .ask_bind (getExpectedWorkers_keeps.bind fun _ _ => ?_))
  refine .ite (fun _ => .pure trivial) fun _ => .ite (fun _ => ?_) fun _ => .pure trivial
  exact tryExpand_economy economy hJ h

theorem buildOrder_keeps (hself : ¬KnowsTypes v .self → ∀ e, F e) (hJ : FixesEconomy s J)
    (h : ∀ call, EconomyCall economy v s call → P call)
    (hplant : ∀ call, PlantCall v s call → P call) :
    Respects v F J P buildOrder fun _ => True := by
  refine .ask_bind (.ask_bind (.ask_bind (.ask_bind (.ask_bind (.ask_bind
    (countUnitType_keeps.bind fun _ _ => .ite (fun _ => ?_) fun _ => ?_))))))
  · exact (tryBuildExpansionCom_keeps hJ h).bind fun _ _ => .pure trivial
  refine (Keeps.forEach fun depot hdepot => .emit (hplant _ (.lower hdepot)) trivial).bind
    fun _ _ => ?_
  refine (Keeps.when fun hbarracks => .forEach fun base hbase => .when fun hcenter => ?_).bind
    fun _ _ => ?_
  · refine .emit (hplant _ (.orbital hbase hcenter.1 hcenter.2 fun hnone => ?_)) trivial
    rw [hnone] at hbarracks
    exact Bool.false_ne_true hbarracks
  refine (extendBarracks_keeps hself hplant).bind fun _ _ => ?_
  refine (extendFactories_keeps hself hplant).bind fun _ _ => ?_
  refine (extendStarports_keeps hself hplant).bind fun _ _ => ?_
  exact buildStructures_keeps hself hJ hplant

theorem tryBuildSupplyDepot_keeps (hJ : FixesEconomy s J)
    (h : ∀ call, EconomyCall economy v s call → P call) :
    Respects v F J P tryBuildSupplyDepot fun _ => True := by
  refine .ask_bind (.ite (fun _ => .pure trivial) fun _ => .ask_bind
    (.ite (fun _ => .pure trivial) fun _ => ?_))
  refine getRandomScalar_keeps.bind fun _ _ => getRandomScalar_keeps.bind fun _ _ => ?_
  exact .gets_bind fun _ _ => tryBuildStructure_economy economy hJ h (by decide)

theorem buildRefinery_keeps (h : ∀ call, EconomyCall economy v s call → P call) :
    Respects v F J P buildRefinery fun _ => True := by
  refine .ask_bind (countUnitType_keeps.bind fun _ _ => .ite (fun _ => .pure trivial) fun _ => ?_)
  refine .tryEach fun base hbase => .ite (fun hfull => ?_) fun _ => .pure trivial
  exact tryBuildGas_economy economy h hbase hfull.2

theorem tryBuildSCV_keeps (h : ∀ call, EconomyCall economy v s call → P call)
    (hplant : ∀ call, PlantCall v s call → P call) :
    Respects v F J P tryBuildSCV fun _ => True := by
  refine .ask_bind (.gets_bind fun _ _ => .ask_bind ?_)
  refine (Keeps.forEach fun base hbase => .when fun hready => ?_).bind fun _ _ =>
    .ite (fun _ => .pure trivial) fun _ => getExpectedWorkers_keeps.bind fun _ _ =>
    .ite (fun _ => .pure trivial) fun _ => ?_
  · refine findNearestMineralPatch_keeps.bind fun found hfound => .when fun hsome => ?_
    obtain ⟨patch, hpatch⟩ := Option.isSome_iff_exists.1 hsome
    exact .emit (hplant _ (.mule hbase hready.1 hready.2 (hfound patch hpatch))) trivial
  cases hbase : (v.getUnits .self isTownHall).find? fun base =>
      base.assignedHarvesters < base.idealHarvesters ∧ base.buildProgress = 1 with
  | none => exact .pure trivial
  | some base =>
    refine .ite (fun _ => tryBuildUnit_economy h ?_) fun _ => .pure trivial
    obtain ⟨-, -, htownHall⟩ := mem_getUnits_iff.1 (List.mem_of_find?_eq_some hbase)
    exact List.mem_append_left _ (List.mem_map_of_mem (of_decide_eq_true htownHall))

/-! ## Production -/

/-- The game says that a ghost of the player can call down a nuke. -/
def OffersNuke (v : BotView) : Prop :=
  ∃ ghost ∈ v.getUnits .self (isUnit .terranGhost), ∃ n, ∃ available ∈ v.abilities n ghost.tag,
    available.abilityId = .effectNukeCalldown

/-- The invariant lets a nuke be built once the game offers it. -/
def AllowsNuke (v : BotView) (J : MultiplayerBot → TerranMultiplayerBot → Prop) : Prop :=
  ∀ bot own, OffersNuke v → J bot own → J bot { own with nukeBuilt := true }

theorem buildNukes_keeps (hJ : AllowsNuke v J) (h : ∀ call, EconomyCall economy v s call → P call) :
    Respects v F J P buildNukes fun _ => True := by
  refine .ask_bind (.gets_bind fun _ _ => countUnitType_keeps.bind fun _ _ =>
    countUnitType_keeps.bind fun _ _ => .ask_bind (.when fun _ => ?_))
  refine (Keeps.when fun _ => alsoTryBuildUnit_economy h (by decide)).bind fun _ _ => ?_
  cases hghosts : v.getUnits .self (isUnit .terranGhost) with
  | nil => exact .pure trivial
  | cons ghost others =>
    refine getAbilitiesForUnit_keeps.bind fun abilities ⟨n, habilities⟩ => .when fun hoffers => ?_
    obtain ⟨available, hmem, hability⟩ := List.any_eq_true.1 hoffers
    refine .modify (fun s' hs' => hJ _ _ ⟨ghost, ?_, n, available, ?_, ?_⟩ hs') trivial
    · rw [hghosts]
      exact List.mem_cons_self
    · rw [← habilities]
      exact hmem
    · exact of_decide_eq_true hability

/-- An order for a building that has none. -/
theorem trainIdle_keeps (h : ∀ call, PlantCall v s call → P call) {unitType : UnitTypeID}
    (hmem : building ∈ v.getUnits .self (isUnit unitType))
    (hmakes : (ability, unitType) ∈ trained) (hidle : building.orders.isEmpty = true) :
    Respects v F J P (unitCommand building ability) fun _ => True :=
  .emit (h _ (.train hmakes hmem (.idle (List.isEmpty_iff.1 hidle)))) trivial

/-- An order for a building with a reactor. -/
theorem trainNext_keeps (h : ∀ call, PlantCall v s call → P call) {unitType : UnitTypeID}
    (hmem : building ∈ v.getUnits .self (isUnit unitType))
    (hmakes : (ability, unitType) ∈ trained) (hreactor : HasReactor v building)
    (hfree : decide (building.orders.length < 2) = true) :
    Respects v F J P (unitCommand building ability) fun _ => True :=
  .emit (h _ (.train hmakes hmem (.reactor hreactor (of_decide_eq_true hfree)))) trivial

theorem trainAtStarport_keeps (h : ∀ call, PlantCall v s call → P call)
    (hmem : building ∈ v.getUnits .self (isUnit .terranStarport)) :
    Respects v F J P (trainAtStarport building) fun _ => True := by
  refine .gets_bind fun _ _ => countUnitTypeTotal_keeps.bind fun _ _ =>
    countUnitTypeTotal_keeps.bind fun _ _ => countUnitTypeTotal_keeps.bind fun _ _ =>
    countUnitTypeTotal_keeps.bind fun _ _ => countUnitTypeTotal_keeps.bind fun _ _ =>
    countUnitType_keeps.bind fun _ _ => .ask_bind ?_
  cases haddOn : v.getUnit building.addOnTag with
  | none =>
    refine Keeps.bind (Q := fun _ => True) (.ite (fun _ => .when fun hready => ?_)
      fun _ => .when fun hready => ?_) fun _ _ => .pure trivial
    · exact trainIdle_keeps h hmem (by decide) hready.1
    · exact trainIdle_keeps h hmem (by decide) hready.1
  | some addOn =>
    refine .ite (fun htype => ?_) fun _ => ?_
    · have hreactor : HasReactor v building := by
        refine ⟨addOn, haddOn, ?_⟩
        rw [htype]
        decide
      refine (Keeps.when fun hready => ?_).bind fun _ _ => (Keeps.when fun hready => ?_).bind
        fun _ _ => (Keeps.when fun hready => ?_).bind fun _ _ => .pure trivial
      all_goals exact trainNext_keeps h hmem (by decide) hreactor hready.2.1
    · refine (Keeps.when fun hready => trainIdle_keeps h hmem (by decide) hready.1).bind
        fun _ _ => (Keeps.when fun hlarge => ?_).bind fun _ _ =>
        .ite (fun _ => .pure trivial) fun _ => (Keeps.when fun hready => ?_).bind
        fun _ _ => .pure trivial
      · exact trainIdle_keeps h hmem (by decide) (Bool.and_eq_true_iff.1 hlarge).2
      · exact trainIdle_keeps h hmem (by decide) hready.2.1

theorem trainAtBarracks_keeps (h : ∀ call, PlantCall v s call → P call)
    (hmem : building ∈ v.getUnits .self (isUnit .terranBarracks)) :
    Respects v F J P (trainAtBarracks building) fun _ => True := by
  refine .ask_bind (.gets_bind fun _ _ => countUnitTypeTotal_keeps.bind fun _ _ =>
    countUnitTypeTotal_keeps.bind fun _ _ => countUnitTypeTotal_keeps.bind fun _ _ =>
    countUnitTypeTotal_keeps.bind fun _ _ => .ask_bind ?_)
  cases haddOn : v.getUnit building.addOnTag with
  | none => exact .when fun hready => trainIdle_keeps h hmem (by decide) hready.2.1
  | some addOn =>
    refine .ite (fun htype => ?_) fun _ => .when fun hready => ?_
    · have hreactor : HasReactor v building := by
        refine ⟨addOn, haddOn, ?_⟩
        rw [htype]
        decide
      refine .ite (fun _ => .when fun hready => ?_) fun _ => .when fun hready => ?_
      · exact trainNext_keeps h hmem (by decide) hreactor hready.1
      · rcases hready with hroom | hfloats
        · exact trainNext_keeps h hmem (by decide) hreactor hroom.1
        · exact .emit (h _ (.train (by decide) hmem (.surplus rfl hreactor hfloats))) trivial
    · refine .ite (fun _ => ?_) fun _ => .ite (fun _ => ?_) fun _ => .ite (fun _ => ?_)
        fun _ => ?_
      all_goals exact trainIdle_keeps h hmem (by decide) hready.2

theorem trainHellion_keeps
    (h : ∀ {ability}, (ability, UnitTypeID.terranFactory) ∈ trained →
      Respects v F J P (unitCommand building ability) fun _ => True) :
    Respects v F J P (trainHellion building) fun _ => True :=
  countUnitType_keeps.bind fun _ _ => .ite (fun _ => h (by decide)) fun _ => h (by decide)

theorem trainAtFactory_keeps (h : ∀ call, PlantCall v s call → P call)
    (hmem : building ∈ v.getUnits .self (isUnit .terranFactory)) :
    Respects v F J P (trainAtFactory building) fun _ => True := by
  refine .ask_bind (.gets_bind fun _ _ => countUnitTypeTotal_keeps.bind fun _ _ =>
    countUnitTypeTotal_keeps.bind fun _ _ => countUnitTypeBuilding_keeps.bind fun _ _ =>
    countUnitTypeTotal_keeps.bind fun _ _ => countUnitType_keeps.bind fun _ _ =>
    countUnitType_keeps.bind fun _ _ => countUnitType_keeps.bind fun _ _ => .ask_bind ?_)
  cases haddOn : v.getUnit building.addOnTag with
  | none =>
    refine (Keeps.when fun hready => ?_).bind fun _ _ => .pure trivial
    exact trainHellion_keeps fun hmakes => trainIdle_keeps h hmem hmakes hready.2.1
  | some addOn =>
    refine .ite (fun htype => ?_) fun _ => ?_
    · have hreactor : HasReactor v building := by
        refine ⟨addOn, haddOn, ?_⟩
        rw [htype]
        decide
      refine (Keeps.when fun hready => ?_).bind fun _ _ => (Keeps.when fun hready => ?_).bind
        fun _ _ => (Keeps.when fun hready => ?_).bind fun _ _ => (Keeps.when fun hready => ?_).bind
        fun _ _ => .pure trivial
      · exact trainNext_keeps h hmem (by decide) hreactor hready.1
      · exact trainNext_keeps h hmem (by decide) hreactor hready.2.1
      · exact trainHellion_keeps fun hmakes =>
          trainNext_keeps h hmem hmakes hreactor hready.2.1
      · exact trainNext_keeps h hmem (by decide) hreactor hready.2.1
    · refine (Keeps.when fun hlarge => ?_).bind fun _ _ => .ite (fun _ => .pure trivial) fun _ =>
        (Keeps.when fun hready => ?_).bind fun _ _ => (Keeps.when fun hready => ?_).bind
        fun _ _ => .pure trivial
      · obtain ⟨hidle, -⟩ := Bool.and_eq_true_iff.1 hlarge
        exact trainIdle_keeps h hmem (by decide) (Bool.and_eq_true_iff.1 hidle).2
      · exact trainIdle_keeps h hmem (by decide) hready.2.1
      · exact trainIdle_keeps h hmem (by decide) hready.2.1

theorem buildArmy_keeps (hJ : AllowsNuke v J) (h : ∀ call, EconomyCall economy v s call → P call)
    (hplant : ∀ call, PlantCall v s call → P call) :
    Respects v F J P buildArmy fun _ => True := by
  refine .ask_bind (.ask_bind (.ask_bind ((buildNukes_keeps hJ h).bind fun _ _ => ?_)))
  refine (Keeps.tryEach fun starport hmem => trainAtStarport_keeps hplant hmem).bind fun _ _ =>
    .ite (fun _ => .pure trivial) fun _ => ?_
  refine (Keeps.forEach fun barrack hmem => trainAtBarracks_keeps hplant hmem).bind fun _ _ => ?_
  exact (Keeps.tryEach fun factory hmem => trainAtFactory_keeps hplant hmem).bind
    fun _ _ => .pure trivial

theorem continueVehicleUpgrade_keeps (h : ∀ call, EconomyCall economy v s call → P call)
    {baseCount : Nat} {upgrade : UpgradeID} :
    Respects v F J P (continueVehicleUpgrade baseCount upgrade) fun _ => True := by
  have hresearch {ability : AbilityID} {unitType : UnitTypeID}
      (hmakes : (ability, unitType) ∈ economy.makers) :
      Respects v F J P (alsoTryBuildUnit ability unitType) fun _ => True :=
    alsoTryBuildUnit_economy h hmakes
  refine .ite (fun _ => hresearch (by decide)) fun _ => .ite (fun _ => hresearch (by decide))
    fun _ => .ite (fun _ => hresearch (by decide)) fun _ => .ite (fun _ => hresearch (by decide))
    fun _ => .ite (fun _ => hresearch (by decide)) fun _ => ?_
  refine (hresearch (by decide)).bind fun _ _ => (hresearch (by decide)).bind fun _ _ => ?_
  exact (hresearch (by decide)).bind fun _ _ => hresearch (by decide)

theorem continueInfantryUpgrade_keeps (h : ∀ call, EconomyCall economy v s call → P call)
    {baseCount : Nat} {upgrade : UpgradeID} :
    Respects v F J P (continueInfantryUpgrade baseCount upgrade) fun _ => True := by
  have hresearch {ability : AbilityID} {unitType : UnitTypeID}
      (hmakes : (ability, unitType) ∈ economy.makers) :
      Respects v F J P (alsoTryBuildUnit ability unitType) fun _ => True :=
    alsoTryBuildUnit_economy h hmakes
  refine countUnitType_keeps.bind fun _ _ => ?_
  refine (Keeps.when fun _ => hresearch (by decide)).bind fun _ _ => ?_
  refine (Keeps.when fun _ => hresearch (by decide)).bind fun _ _ => ?_
  refine (Keeps.when fun _ => hresearch (by decide)).bind fun _ _ => ?_
  refine (Keeps.when fun _ => hresearch (by decide)).bind fun _ _ => ?_
  refine (hresearch (by decide)).bind fun _ _ => (hresearch (by decide)).bind fun _ _ => ?_
  refine (hresearch (by decide)).bind fun _ _ => (hresearch (by decide)).bind fun _ _ => ?_
  refine (hresearch (by decide)).bind fun _ _ => (hresearch (by decide)).bind fun _ _ => ?_
  exact (hresearch (by decide)).bind fun _ _ => hresearch (by decide)

theorem manageUpgrades_keeps (h : ∀ call, EconomyCall economy v s call → P call) :
    Respects v F J P manageUpgrades fun _ => True := by
  refine .ask_bind (.ask_bind (.gets_bind fun _ _ => .ite (fun _ => .ite (fun _ => ?_) fun _ => ?_)
    fun _ => .forEach fun upgrade _ => .ite (fun _ => ?_) fun _ => ?_))
  · exact alsoTryBuildUnit_economy h (by decide)
  · exact alsoTryBuildUnit_economy h (by decide)
  · exact continueVehicleUpgrade_keeps h
  · exact continueInfantryUpgrade_keeps h

theorem manageEconomy_keeps (hself : ¬KnowsTypes v .self → ∀ e, F e) (hJ : FixesEconomy s J)
    (hnuke : AllowsNuke v J) (h : ∀ call, EconomyCall economy v s call → P call)
    (hplant : ∀ call, PlantCall v s call → P call) :
    Respects v F J P manageEconomy fun _ => True := by
  refine (buildOrder_keeps hself hJ h hplant).bind fun _ _ => ?_
  refine (manageWorkers_economy economy h).bind fun _ _ => ?_
  refine (manageUpgrades_keeps h).bind fun _ _ => ?_
  refine (tryBuildSCV_keeps h hplant).bind fun _ _ => .ite (fun _ => .pure trivial) fun _ => ?_
  refine (tryBuildSupplyDepot_keeps hJ h).bind fun _ _ =>
    .ite (fun _ => .pure trivial) fun _ => ?_
  refine (buildArmy_keeps hnuke h hplant).bind fun _ _ => ?_
  refine (buildRefinery_keeps h).bind fun _ _ => .ite (fun _ => .pure trivial) fun _ => ?_
  exact (tryBuildExpansionCom_keeps hJ h).bind fun _ _ => .pure trivial

end Plants

end TerranMultiplayerBot

end Sc2Api
