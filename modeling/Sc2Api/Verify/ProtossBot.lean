import Sc2Api.ProtossBot
import Sc2Api.Verify.BotCalls

/-!
# The calls of the Protoss bot

Every call that a callback makes is one that the bot may make in its state on what it sees, and
no callback fails.
-/

namespace Sc2Api

open Lib Program BotM MultiplayerBot

namespace ProtossMultiplayerBot

/-! ## Legal calls -/

/-- What the bot trains, researches and builds. -/
def economy : Race.Economy where
  worker := .protossProbe
  vespeneBuilding := .protossAssimilator
  makers := [
    (.trainProbe, .protossNexus), (.trainMothershipCore, .protossNexus),
    (.morphMothership, .protossMothershipCore),
    (.trainZealot, .protossGateway), (.trainAdept, .protossGateway),
    (.trainCarrier, .protossStargate), (.trainTempest, .protossStargate),
    (.trainVoidray, .protossStargate), (.trainOracle, .protossStargate),
    (.trainPhoenix, .protossStargate),
    (.trainObserver, .protossRoboticsFacility), (.trainColossus, .protossRoboticsFacility),
    (.trainDisruptor, .protossRoboticsFacility), (.trainImmortal, .protossRoboticsFacility),
    (.researchWarpGate, .protossCyberneticsCore),
    (.researchProtossAirWeapons, .protossCyberneticsCore),
    (.researchProtossAirArmor, .protossCyberneticsCore),
    (.researchProtossShields, .protossForge), (.researchProtossGroundWeapons, .protossForge),
    (.researchProtossGroundArmor, .protossForge),
    (.researchAdeptResonatingGlaives, .protossTwilightCouncil),
    (.researchBlink, .protossTwilightCouncil), (.researchCharge, .protossTwilightCouncil),
    (.researchInterceptorGravitonCatapult, .protossFleetBeacon),
    (.researchExtendedThermalLance, .protossRoboticsBay)]
  buildings := [.buildPylon, .buildCyberneticsCore, .buildGateway, .buildForge, .buildStargate,
    .buildFleetBeacon, .buildRoboticsFacility, .buildRoboticsBay, .buildTwilightCouncil,
    .buildTemplarArchive]
  townHall := .buildNexus
  vespene := .buildAssimilator

/-- The abilities that units of the army use on their enemies. -/
inductive Casts (v : BotView) (unit : Unit) : ActionCall → Prop
  | guardianShield (htype : unit.unitType = .protossSentry) (henergy : 75 ≤ unit.energy)
      (hnear : IsNear (v.getUnits .enemy) unit 6) :
      Casts v unit (.unitCommand (some unit.tag) .effectGuardianShield false)
  | prismaticAlignment (htype : unit.unitType = .protossVoidray)
      (hnear : IsNear (v.getUnits .enemy) unit 8) :
      Casts v unit (.unitCommand (some unit.tag) .effectVoidrayPrismaticAlignment false)
  | pulsarBeam (htype : unit.unitType = .protossOracle) (henergy : 25 ≤ unit.energy)
      (hnear : IsNear (v.getUnits .enemy) unit 6) :
      Casts v unit (.unitCommand (some unit.tag) .behaviorPulsarBeamOn false)
  | purificationNova {point : Point2D} (htype : unit.unitType = .protossDisruptor)
      (hnear : IsNear (v.getUnits .enemy) unit 7)
      (hpoint : Closest (floatMax ^ 2) (v.getUnits .enemy) unit point) :
      Casts v unit (.unitCommandPoint (some unit.tag) .effectPurificationNova point false)
  | approach {point : Point2D} (htype : unit.unitType = .protossDisruptor)
      (hpoint : Closest (floatMax ^ 2) (v.getUnits .enemy) unit point) :
      Casts v unit (.unitCommandPoint (some unit.tag) .attack point false)
  | seek {point : Point2D} (htype : unit.unitType = .protossDisruptorPhased)
      (hpoint : Closest floatMax (v.getUnits .enemy fun u => !u.isFlying) unit point) :
      Casts v unit (.unitCommandPoint (some unit.tag) .move point false)

/-- The units that are warped in. -/
def warpedIn : List AbilityID :=
  [.trainwarpZealot, .trainwarpSentry, .trainwarpHighTemplar, .trainwarpStalker, .trainwarpAdept]

/-- What a step does besides training and building. -/
inductive WarpCall (v : BotView) (s : BotState ProtossMultiplayerBot) : ActionCall → Prop
  | warpIn {warpgate : Unit} {ability : AbilityID} {location : Point2D} {source : PowerSource}
      (hresearched : s.own.warpgateReasearched = true) (hability : ability ∈ warpedIn)
      (hgate : warpgate ∈ v.getUnits .self (isUnit .protossWarpGate))
      (hcomplete : warpgate.buildProgress = 1)
      (havailable : ∃ n, ∃ available ∈ v.abilities n warpgate.tag, available.abilityId = ability)
      (hsource : source ∈ v.powerSources)
      (hx : |location.x - source.position.x| ≤ |source.radius|)
      (hy : |location.y - source.position.y| ≤ |source.radius|) :
      WarpCall v s (.unitCommandPoint (some warpgate.tag) ability location false)
  | morph {gateway : Unit} (hresearched : s.own.warpgateReasearched = true)
      (hgateway : gateway ∈ v.getUnits .self (isUnit .protossGateway))
      (hcomplete : gateway.buildProgress = 1) :
      WarpCall v s (.unitCommand (some gateway.tag) .morphWarpGate false)
  | merge {first second : Unit}
      (hfirst : first ∈ v.getUnits .self (isUnit .protossHighTemplar))
      (hsecond : second ∈ v.getUnits .self (isUnit .protossHighTemplar))
      (hne : first.tag ≠ second.tag) :
      WarpCall v s (.unitsCommand [some first.tag, some second.tag] .morphArchon false)

inductive StepCall (v : BotView) (s : BotState ProtossMultiplayerBot) (call : ActionCall) : Prop
  | army (hcalm : s.base.nukeDetected = false) (h : ArmyCall v s (Casts v) call)
  | retreat (hnuke : s.base.nukeDetected = true) (h : RetreatCall v s call)
  | economy (h : EconomyCall economy v s call)
  | warp (h : WarpCall v s call)

/-- What the bot does with a unit that has become idle. -/
inductive IdleCall (v : BotView) (s : BotState ProtossMultiplayerBot) (unit : Unit) :
    ActionCall → Prop
  | gather {call : ActionCall} (htype : unit.unitType = .protossProbe)
      (h : EconomyCall economy v s call) : IdleCall v s unit call
  | research (htype : unit.unitType = .protossCyberneticsCore)
      (hresearched : s.own.warpgateReasearched = false) :
      IdleCall v s unit (.unitCommand (some unit.tag) .researchWarpGate false)
  | timeWarp {nexus : Unit} (htype : unit.unitType = .protossCyberneticsCore)
      (hresearched : s.own.warpgateReasearched = false)
      (hnexus : nexus ∈ v.getUnits .self (isUnit .protossNexus)) :
      IdleCall v s unit
        (.unitCommandTarget (some nexus.tag) .effectTimeWarp (some unit.tag) false)

/-! ## The army -/

section Army

variable {v : BotView} {s : BotState ProtossMultiplayerBot} {F : BotFault → Prop}
  {J : MultiplayerBot → ProtossMultiplayerBot → Prop} {P : ActionCall → Prop}

theorem useAbilities_keeps (h : ∀ call, ArmyCall v s (Casts v) call → P call)
    {unit : Unit} (hunit : IsArmy v unit) (henemies : v.getUnits .enemy ≠ []) :
    Respects v F J P (useAbilities (v.getUnits .enemy) unit) fun _ => True := by
  have hcast {call : ActionCall} (hcall : Casts v unit call) : P call := h _ (.cast hunit hcall)
  have hclosest := closest_leastBelow (floatMax ^ 2) (v.getUnits .enemy) unit
  unfold useAbilities
  refine .ite (fun _ => ?_) fun _ => .ite (fun htype => ?_) fun _ => .ite (fun htype => ?_)
    fun _ => .ite (fun htype => ?_) fun _ => .ite (fun htype => ?_) fun _ =>
    .ite (fun htype => ?_) fun _ => .pure trivial
  · cases hsome : v.getUnits .enemy with
    | nil => exact absurd hsome henemies
    | cons enemy enemies =>
      exact .emit (h _ (.attack hunit (hsome ▸ List.mem_cons_self))) trivial
  · refine .when fun ⟨_, hnear, henergy⟩ => .emit (hcast (.guardianShield htype henergy ?_)) trivial
    exact isNear_of_nearest (by decide +kernel) hnear
  · refine .when fun ⟨_, hnear⟩ => .emit (hcast (.prismaticAlignment htype ?_)) trivial
    exact isNear_of_nearest (by decide +kernel) hnear
  · refine .when fun ⟨_, hnear, henergy⟩ => .emit (hcast (.pulsarBeam htype henergy ?_)) trivial
    exact isNear_of_nearest (by decide +kernel) hnear
  · refine .ite (fun hnear => ?_) fun _ => .emit (hcast (.approach htype hclosest)) trivial
    refine .emit (hcast (.purificationNova htype ?_ hclosest)) trivial
    exact isNear_of_nearest (by decide +kernel) hnear
  · refine .emit (hcast (.seek htype ?_)) trivial
    rw [filter_getUnits]
    exact closest_leastBelow floatMax _ unit

theorem manageArmy_leads (hknows : ¬KnowsTypes v .self → ∀ e, F e)
    (h : ∀ call, ArmyCall v s (Casts v) call → P call) :
    Leads v s F (fun s' => Unchanged s s'.base s'.own) P manageArmy fun _ => True := by
  have hkeeps : Respects v F (Unchanged s) P manageArmy fun _ => True := by
    refine .ask_bind (.ask_bind ((army_keeps hknows).bind fun army harmy => .gets_bind ?_))
    rintro s' ⟨hbase, -⟩
    rw [hbase]
    refine .ite (fun _ => .forEach fun unit hmem => ?_) fun _ =>
      .ite (fun hsome => .forEach fun unit hmem => ?_) fun _ => .forEach fun unit hmem => ?_
    · have hunit := (harmy unit).1 hmem
      exact retreatWithUnit_keeps (h _ (.stop hunit)) (h _ (.gather hunit))
    · have hunit := (harmy unit).1 hmem
      refine (attackWithUnit_keeps (allowsAttack_army h hunit)).bind fun _ _ => ?_
      refine useAbilities_keeps h hunit fun hnone => ?_
      rw [hnone] at hsome
      exact Bool.false_ne_true hsome
    · exact scoutWithUnit_keeps (allowsAttack_army h ((harmy unit).1 hmem))
  exact hkeeps s ⟨rfl, rfl⟩

end Army

/-! ## The economy -/

section Economy

variable {v : BotView} {s : BotState ProtossMultiplayerBot} {F : BotFault → Prop}
  {J : MultiplayerBot → ProtossMultiplayerBot → Prop} {P : ActionCall → Prop}

theorem buildAirUnits_keeps (h : ∀ call, EconomyCall economy v s call → P call)
    {carrierCount mothershipCount : Nat} :
    Respects v F J P (buildAirUnits carrierCount mothershipCount) fun _ => True := by
  refine .ask_bind (.gets_bind fun _ _ => countUnitType_keeps.bind fun _ _ => ?_)
  refine .ite (fun _ => countUnitType_keeps.bind fun _ _ => .ite (fun _ => ?_) fun _ =>
    .ite (fun _ => ?_) fun _ => countUnitType_keeps.bind fun _ _ => .ite (fun _ => ?_) fun _ =>
      .ite (fun _ => .pure trivial) fun _ => .pure trivial) fun _ => ?_
  · exact (tryBuildUnit_economy h (by decide)).bind fun _ _ => .pure trivial
  · refine (tryBuildUnit_economy h (by decide)).bind fun _ _ => ?_
    exact .ite (fun _ => .pure trivial) fun _ => .pure trivial
  · exact (alsoTryBuildUnit_economy h (by decide)).bind fun _ _ => .pure trivial
  · refine (Keeps.when fun _ => alsoTryBuildUnit_economy h (by decide)).bind fun _ _ => ?_
    refine countUnitType_keeps.bind fun _ _ => countUnitType_keeps.bind fun _ _ =>
      countUnitType_keeps.bind fun _ _ => ?_
    refine (Keeps.when fun _ => alsoTryBuildUnit_economy h (by decide)).bind fun _ _ => ?_
    refine (Keeps.when fun _ => alsoTryBuildUnit_economy h (by decide)).bind fun _ _ => ?_
    exact .pure trivial

theorem buildRoboticsUnits_keeps (h : ∀ call, EconomyCall economy v s call → P call)
    {colossusCount : Nat} :
    Respects v F J P (buildRoboticsUnits colossusCount) fun _ => True := by
  refine .ask_bind (.gets_bind fun _ _ => countUnitType_keeps.bind fun _ _ => ?_)
  refine (Keeps.when fun _ => alsoTryBuildUnit_economy h (by decide)).bind fun _ _ => ?_
  refine countUnitType_keeps.bind fun _ _ => .ite (fun _ => .ite (fun _ => ?_) fun _ => ?_)
    fun _ => .ite (fun _ => ?_) fun _ => .pure trivial
  · refine (tryBuildUnit_economy h (by decide)).bind fun _ _ => ?_
    exact .ite (fun _ => .pure trivial) fun _ => .pure trivial
  · refine countUnitTypeTotal_keeps.bind fun _ _ => ?_
    exact (Keeps.when fun _ => alsoTryBuildUnit_economy h (by decide)).bind
      fun _ _ => .pure trivial
  · refine (tryBuildUnit_economy h (by decide)).bind fun _ _ => ?_
    exact .ite (fun _ => .pure trivial) fun _ => .pure trivial

theorem tryWarpInUnit_keeps (h : ∀ call, WarpCall v s call → P call) {ability : AbilityID}
    (hability : ability ∈ warpedIn) (hresearched : s.own.warpgateReasearched = true) :
    Respects v F J P (tryWarpInUnit ability) fun _ => True := by
  refine .ask_bind (.ask_bind (.ite (fun _ => .pure trivial) fun hsources => ?_))
  refine (getRandomEntry_keeps fun hnone => ?_).bind fun source hsource => ?_
  · rw [List.isEmpty_iff] at hsources
    exact absurd hnone hsources
  refine getRandomScalar_keeps.bind fun rx hrx => getRandomScalar_keeps.bind fun ry hry => ?_
  refine .gets_bind fun _ _ => pathingDistance_keeps.bind fun _ _ =>
    .ite (fun _ => .pure trivial) fun _ => .tryEach fun warpgate hgate => ?_
  refine .ite (fun _ => .pure trivial) fun hcomplete => getAbilitiesForUnit_keeps.bind
    fun abilities ⟨n, habilities⟩ => .ite (fun havailable => ?_) fun _ => .pure trivial
  refine .emit_bind (h _ ?_) (.pure trivial)
  obtain ⟨available, hmem, hid⟩ := List.any_eq_true.1 havailable
  exact .warpIn hresearched hability hgate (not_not.1 hcomplete)
    ⟨n, available, habilities ▸ hmem, of_decide_eq_true hid⟩ hsource
    (abs_sub_le_of_scalar hrx) (abs_sub_le_of_scalar hry)

theorem buildGatewayUnits_keeps (hown : ∀ bot own, J bot own → own = s.own)
    (h : ∀ call, EconomyCall economy v s call → P call)
    (hwarp : ∀ call, WarpCall v s call → P call) :
    Respects v F J P buildGatewayUnits fun _ => True := by
  refine .ask_bind (.gets_bind fun s' hs' => countUnitType_keeps.bind fun _ _ => ?_)
  rw [hown _ _ hs']
  refine .ite (fun hwarpgates => ?_) fun _ => .ite (fun _ => ?_) fun _ => .ite (fun _ => ?_)
    fun _ => .pure trivial
  · have hwarpIn {ability : AbilityID} (hability : ability ∈ warpedIn) :
        Respects v F J P (tryWarpInUnit ability) fun _ => True :=
      tryWarpInUnit_keeps hwarp hability hwarpgates.1
    refine .ite (fun _ => hwarpIn (by decide)) fun _ => ?_
    refine countUnitType_keeps.bind fun _ _ => countUnitType_keeps.bind fun _ _ =>
      .ite (fun _ => .pure trivial) fun _ => ?_
    refine countUnitType_keeps.bind fun _ _ => countUnitType_keeps.bind fun _ _ =>
      countUnitType_keeps.bind fun _ _ => countUnitType_keeps.bind fun _ _ => ?_
    refine .ite (fun _ => hwarpIn (by decide)) fun _ => .ite (fun _ => hwarpIn (by decide))
      fun _ => .ite (fun _ => hwarpIn (by decide)) fun _ => hwarpIn (by decide)
  · refine countUnitType_keeps.bind fun _ _ => ?_
    exact .ite (fun _ => tryBuildUnit_economy h (by decide)) fun _ => .pure trivial
  · exact tryBuildUnit_economy h (by decide)

theorem at_pair {templar : List Unit} (hnodup : (templar.map (·.tag)).Nodup) {first second : Unit}
    (hfirst : templar[0]? = some first) (hsecond : templar[1]? = some second) :
    first.tag ≠ second.tag := by
  match templar with
  | [] => cases hfirst
  | [_] => cases hsecond
  | a :: b :: rest =>
    cases hfirst
    cases hsecond
    rw [List.map_cons, List.map_cons, List.nodup_cons, List.mem_cons, not_or] at hnodup
    exact hnodup.1.1

theorem nodup_getUnits {alliance : Alliance} {filter : Unit → Bool} :
    ((v.getUnits alliance filter).map (·.tag)).Nodup :=
  v.tags_nodup.sublist (List.filter_sublist.map _)

theorem tryBuildArmy_keeps (hown : ∀ bot own, J bot own → own = s.own)
    (h : ∀ call, EconomyCall economy v s call → P call)
    (hwarp : ∀ call, WarpCall v s call → P call) :
    Respects v F J P tryBuildArmy fun _ => True := by
  refine .ask_bind (.gets_bind fun _ _ => .ite (fun _ => .pure trivial) fun _ => ?_)
  refine countUnitType_keeps.bind fun _ _ => .ite (fun _ => .pure trivial) fun _ => ?_
  refine countUnitType_keeps.bind fun _ _ => countUnitType_keeps.bind fun _ _ =>
    countUnitType_keeps.bind fun _ _ => ?_
  refine (Keeps.when fun _ => alsoTryBuildUnit_economy h (by decide)).bind fun _ _ => ?_
  refine countUnitType_keeps.bind fun _ _ => countUnitType_keeps.bind fun _ _ => .ask_bind ?_
  refine (Keeps.when fun hlength => ?_).bind fun _ _ => .gets_bind fun _ _ => ?_
  · refine (at_keeps fun hshort => absurd hshort (by omega)).bind fun first hfirst =>
      (at_keeps fun hshort => absurd hshort (by omega)).bind fun second hsecond => ?_
    refine .emit (hwarp _ ?_) trivial
    exact .merge (List.mem_of_getElem? hfirst) (List.mem_of_getElem? hsecond)
      (at_pair nodup_getUnits hfirst hsecond)
  refine (Keeps.ite (fun _ => buildAirUnits_keeps h) fun _ => buildRoboticsUnits_keeps h).bind
    fun returned _ => ?_
  cases returned with
  | some result => exact .pure trivial
  | none => exact buildGatewayUnits_keeps hown h hwarp

theorem tryBuildStructureNearPylon_keeps (hJ : FixesEconomy s J)
    (h : ∀ call, EconomyCall economy v s call → P call) {ability : AbilityID}
    (hbuilding : ability ∈ economy.buildings) :
    Respects v F J P (tryBuildStructureNearPylon ability) fun _ => True := by
  refine .ask_bind (.ite (fun _ => .pure trivial) fun hsources => ?_)
  refine (getRandomEntry_keeps fun hnone => ?_).bind fun source _ => .ask_bind ?_
  · rw [List.isEmpty_iff] at hsources
    exact absurd hnone hsources
  cases v.getUnit source.tag with
  | none => exact .pure trivial
  | some powered =>
    refine .ite (fun _ => .pure trivial) fun _ => ?_
    refine getRandomScalar_keeps.bind fun _ _ => getRandomScalar_keeps.bind fun _ _ => ?_
    exact tryBuildStructure_economy economy hJ h hbuilding

theorem alsoTryBuildNearPylon_keeps (hJ : FixesEconomy s J)
    (h : ∀ call, EconomyCall economy v s call → P call) {ability : AbilityID}
    (hbuilding : ability ∈ economy.buildings) :
    Respects v F J P (alsoTryBuildNearPylon ability) fun _ => True :=
  (tryBuildStructureNearPylon_keeps hJ h hbuilding).bind fun _ _ => .pure trivial

theorem tryBuildExpansionNexus_keeps (hJ : FixesEconomy s J)
    (h : ∀ call, EconomyCall economy v s call → P call) :
    Respects v F J P tryBuildExpansionNexus fun _ => True := by
  refine .ask_bind (.gets_bind fun _ _ => getExpectedWorkers_keeps.bind fun _ _ => ?_)
  refine .ite (fun _ => .pure trivial) fun _ => countUnitType_keeps.bind fun _ _ => ?_
  exact .ite (fun _ => tryExpand_economy economy hJ h) fun _ => .pure trivial

theorem buildOrder_keeps (hJ : FixesEconomy s J)
    (h : ∀ call, EconomyCall economy v s call → P call) :
    Respects v F J P buildOrder fun _ => True := by
  have hbuild {c : Prop} [Decidable c] {ability : AbilityID}
      (hbuilding : ability ∈ economy.buildings) :
      Respects v F J P (when c (alsoTryBuildNearPylon ability)) fun _ => True :=
    .when fun _ => alsoTryBuildNearPylon_keeps hJ h hbuilding
  have hgateways {a b c : Nat} : Respects v F J P (buildGateways a b c) fun _ => True := by
    refine .ask_bind (.gets_bind fun _ _ => .ite (fun _ => .pure trivial) fun _ => ?_)
    refine .ite (fun _ => ?_) fun _ => .ite (fun _ => ?_) fun _ => ?_
    · exact (alsoTryBuildNearPylon_keeps hJ h (by decide)).bind fun _ _ => .pure trivial
    · exact (tryBuildExpansionNexus_keeps hJ h).bind fun _ _ => .pure trivial
    · exact (hbuild (by decide)).bind fun _ _ => .pure trivial
  have hstargates {a b c : Nat} : Respects v F J P (buildStargates a b c) fun _ => True := by
    refine .ask_bind (countUnitType_keeps.bind fun _ _ => countUnitType_keeps.bind fun _ _ => ?_)
    exact .when fun _ => .ite (fun _ => hbuild (by decide)) fun _ => hbuild (by decide)
  have hrobotics {a b c : Nat} : Respects v F J P (buildRobotics a b c) fun _ => True := by
    refine .ask_bind (countUnitType_keeps.bind fun _ _ => countUnitType_keeps.bind fun _ _ => ?_)
    exact .when fun _ => .ite (fun _ => hbuild (by decide)) fun _ => hbuild (by decide)
  refine countUnitType_keeps.bind fun _ _ => countUnitType_keeps.bind fun _ _ =>
    countUnitType_keeps.bind fun _ _ => countUnitType_keeps.bind fun _ _ =>
    countUnitType_keeps.bind fun _ _ => countUnitType_keeps.bind fun _ _ =>
    countUnitType_keeps.bind fun _ _ => ?_
  refine hgateways.bind fun _ _ => .ite (fun _ => .pure trivial) fun _ => ?_
  refine (hbuild (by decide)).bind fun _ _ => .gets_bind fun _ _ => ?_
  refine (Keeps.ite (fun _ => hstargates) fun _ => hrobotics).bind fun _ _ => ?_
  exact (hbuild (by decide)).bind fun _ _ => hbuild (by decide)

theorem manageUpgrades_keeps (h : ∀ call, EconomyCall economy v s call → P call) :
    Respects v F J P manageUpgrades fun _ => True := by
  have hresearch {ability : AbilityID} {unitType : UnitTypeID}
      (hmakes : (ability, unitType) ∈ economy.makers) :
      Respects v F J P (alsoTryBuildUnit ability unitType) fun _ => True :=
    alsoTryBuildUnit_economy h hmakes
  refine .ask_bind (.ask_bind (.gets_bind fun _ _ => .ite (fun _ => hresearch (by decide))
    fun _ => .forEach fun upgrade _ => (Keeps.when fun _ => ?_).bind fun _ _ => ?_))
  · unfold continueAirUpgrade
    refine .ite (fun _ => hresearch (by decide)) fun _ => .ite (fun _ => hresearch (by decide))
      fun _ => .ite (fun _ => hresearch (by decide)) fun _ => .ite (fun _ => hresearch (by decide))
      fun _ => .ite (fun _ => hresearch (by decide)) fun _ => ?_
    exact .when fun _ => hresearch (by decide)
  · unfold continueGroundUpgrade
    refine .ite (fun _ => hresearch (by decide)) fun _ => .ite (fun _ => hresearch (by decide))
      fun _ => .ite (fun _ => hresearch (by decide)) fun _ => .ite (fun _ => hresearch (by decide))
      fun _ => .ite (fun _ => ?_) fun _ => ?_
    · refine (hresearch (by decide)).bind fun _ _ => (hresearch (by decide)).bind fun _ _ => ?_
      refine (hresearch (by decide)).bind fun _ _ => (hresearch (by decide)).bind fun _ _ => ?_
      exact hresearch (by decide)
    · refine (hresearch (by decide)).bind fun _ _ => (hresearch (by decide)).bind fun _ _ => ?_
      refine (hresearch (by decide)).bind fun _ _ => (hresearch (by decide)).bind fun _ _ => ?_
      exact hresearch (by decide)

theorem tryBuildPylon_keeps (hJ : FixesEconomy s J)
    (h : ∀ call, EconomyCall economy v s call → P call) :
    Respects v F J P tryBuildPylon fun _ => True := by
  refine .ask_bind (.ite (fun _ => .pure trivial) fun _ => .ask_bind (.ite
    (fun _ => .pure trivial) fun _ => ?_))
  refine getRandomScalar_keeps.bind fun _ _ => getRandomScalar_keeps.bind fun _ _ =>
    .gets_bind fun _ _ => ?_
  exact tryBuildStructure_economy economy hJ h (by decide)

theorem tryBuildAssimilator_keeps (h : ∀ call, EconomyCall economy v s call → P call) :
    Respects v F J P tryBuildAssimilator fun _ => True := by
  refine .ask_bind (countUnitType_keeps.bind fun _ _ => .ite (fun _ => .pure trivial) fun _ => ?_)
  refine .tryEach fun base hbase => .ite (fun hfull => ?_) fun _ => .pure trivial
  exact tryBuildGas_economy economy h hbase hfull.2

theorem tryBuildProbe_keeps (h : ∀ call, EconomyCall economy v s call → P call) :
    Respects v F J P tryBuildProbe fun _ => True := by
  refine .ask_bind (.gets_bind fun _ _ => .ask_bind (.ite (fun _ => .pure trivial) fun _ => ?_))
  refine getExpectedWorkers_keeps.bind fun _ _ => .ite (fun _ => .pure trivial) fun _ => ?_
  exact .ite (fun _ => tryBuildUnit_economy h (by decide)) fun _ => .pure trivial

theorem manageEconomy_keeps (hJ : FixesEconomy s J) (hown : ∀ bot own, J bot own → own = s.own)
    (h : ∀ call, EconomyCall economy v s call → P call)
    (hwarp : ∀ call, WarpCall v s call → P call) :
    Respects v F J P manageEconomy fun _ => True := by
  have hconvert : Respects v F J P convertGateWayToWarpGate fun _ => True := by
    refine .ask_bind (.gets_bind fun s' hs' => .when fun hresearched => .forEach
      fun gateway hgateway => .when fun hcomplete => .emit (hwarp _ ?_) trivial)
    rw [hown _ _ hs'] at hresearched
    exact .morph hresearched hgateway hcomplete
  refine hconvert.bind fun _ _ => (manageWorkers_economy economy h).bind fun _ _ =>
    (manageUpgrades_keeps h).bind fun _ _ => (buildOrder_keeps hJ h).bind fun _ _ => ?_
  refine (tryBuildPylon_keeps hJ h).bind fun _ _ => .ite (fun _ => .pure trivial) fun _ => ?_
  refine (tryBuildAssimilator_keeps h).bind fun _ _ => .ite (fun _ => .pure trivial) fun _ => ?_
  refine (tryBuildProbe_keeps h).bind fun _ _ => .ite (fun _ => .pure trivial) fun _ => ?_
  refine (tryBuildArmy_keeps hown h hwarp).bind fun _ _ => .ite (fun _ => .pure trivial) fun _ => ?_
  exact (tryBuildExpansionNexus_keeps hJ h).bind fun _ _ => .pure trivial

end Economy

end ProtossMultiplayerBot

end Sc2Api
