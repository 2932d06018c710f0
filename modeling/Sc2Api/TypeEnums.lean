import Sc2Api.GameTypes

/-!
# Enumerators of the game's types

Those of `UNIT_TYPEID`, `ABILITY_ID`, `UPGRADE_ID` and `BUFF_ID` that the bots name.
-/

namespace Sc2Api

/-! ## Units -/

namespace UnitTypeID

def neutralMineralField : UnitTypeID := 341
def neutralVespeneGeyser : UnitTypeID := 342
def neutralSpacePlatformGeyser : UnitTypeID := 343
def neutralProtossVespeneGeyser : UnitTypeID := 608

def protossColossus : UnitTypeID := 4
def protossMothership : UnitTypeID := 10
def protossNexus : UnitTypeID := 59
def protossPylon : UnitTypeID := 60
def protossAssimilator : UnitTypeID := 61
def protossGateway : UnitTypeID := 62
def protossForge : UnitTypeID := 63
def protossFleetBeacon : UnitTypeID := 64
def protossTwilightCouncil : UnitTypeID := 65
def protossStargate : UnitTypeID := 67
def protossTemplarArchive : UnitTypeID := 68
def protossRoboticsBay : UnitTypeID := 70
def protossRoboticsFacility : UnitTypeID := 71
def protossCyberneticsCore : UnitTypeID := 72
def protossStalker : UnitTypeID := 74
def protossHighTemplar : UnitTypeID := 75
def protossSentry : UnitTypeID := 77
def protossPhoenix : UnitTypeID := 78
def protossCarrier : UnitTypeID := 79
def protossVoidray : UnitTypeID := 80
def protossWarpPrism : UnitTypeID := 81
def protossObserver : UnitTypeID := 82
def protossProbe : UnitTypeID := 84
def protossWarpGate : UnitTypeID := 133
def protossArchon : UnitTypeID := 141
def protossAdept : UnitTypeID := 311
def protossMothershipCore : UnitTypeID := 488
def protossOracle : UnitTypeID := 495
def protossTempest : UnitTypeID := 496
def protossDisruptor : UnitTypeID := 694
def protossDisruptorPhased : UnitTypeID := 733

def terranCommandCenter : UnitTypeID := 18
def terranSupplyDepot : UnitTypeID := 19
def terranRefinery : UnitTypeID := 20
def terranBarracks : UnitTypeID := 21
def terranEngineeringBay : UnitTypeID := 22
def terranGhostAcademy : UnitTypeID := 26
def terranFactory : UnitTypeID := 27
def terranStarport : UnitTypeID := 28
def terranArmory : UnitTypeID := 29
def terranFusionCore : UnitTypeID := 30
def terranSiegeTankSieged : UnitTypeID := 32
def terranSiegeTank : UnitTypeID := 33
def terranVikingAssault : UnitTypeID := 34
def terranVikingFighter : UnitTypeID := 35
def terranBarracksTechlab : UnitTypeID := 37
def terranBarracksReactor : UnitTypeID := 38
def terranFactoryTechlab : UnitTypeID := 39
def terranFactoryReactor : UnitTypeID := 40
def terranStarportTechlab : UnitTypeID := 41
def terranStarportReactor : UnitTypeID := 42
def terranFactoryFlying : UnitTypeID := 43
def terranStarportFlying : UnitTypeID := 44
def terranScv : UnitTypeID := 45
def terranBarracksFlying : UnitTypeID := 46
def terranSupplyDepotLowered : UnitTypeID := 47
def terranMarine : UnitTypeID := 48
def terranReaper : UnitTypeID := 49
def terranGhost : UnitTypeID := 50
def terranMarauder : UnitTypeID := 51
def terranThor : UnitTypeID := 52
def terranHellion : UnitTypeID := 53
def terranMedivac : UnitTypeID := 54
def terranBanshee : UnitTypeID := 55
def terranRaven : UnitTypeID := 56
def terranNuke : UnitTypeID := 58
def terranPlanetaryFortress : UnitTypeID := 130
def terranOrbitalCommand : UnitTypeID := 132
def terranOrbitalCommandFlying : UnitTypeID := 134
def terranMule : UnitTypeID := 268
def terranHellionTank : UnitTypeID := 484
def terranWidowMine : UnitTypeID := 498
def terranWidowMineBurrowed : UnitTypeID := 500
def terranCyclone : UnitTypeID := 692

def zergBanelingCocoon : UnitTypeID := 8
def zergBaneling : UnitTypeID := 9
def zergHatchery : UnitTypeID := 86
def zergExtractor : UnitTypeID := 88
def zergSpawningPool : UnitTypeID := 89
def zergEvolutionChamber : UnitTypeID := 90
def zergHydraliskDen : UnitTypeID := 91
def zergSpire : UnitTypeID := 92
def zergUltraliskCavern : UnitTypeID := 93
def zergInfestationPit : UnitTypeID := 94
def zergBanelingNest : UnitTypeID := 96
def zergRoachWarren : UnitTypeID := 97
def zergLair : UnitTypeID := 100
def zergHive : UnitTypeID := 101
def zergGreaterSpire : UnitTypeID := 102
def zergEgg : UnitTypeID := 103
def zergDrone : UnitTypeID := 104
def zergZergling : UnitTypeID := 105
def zergOverlord : UnitTypeID := 106
def zergHydralisk : UnitTypeID := 107
def zergUltralisk : UnitTypeID := 109
def zergRoach : UnitTypeID := 110
def zergInfestor : UnitTypeID := 111
def zergCorruptor : UnitTypeID := 112
def zergBroodLordCocoon : UnitTypeID := 113
def zergBroodLord : UnitTypeID := 114
def zergQueen : UnitTypeID := 126
def zergOverlordCocoon : UnitTypeID := 128
def zergOverseer : UnitTypeID := 129
def zergLarva : UnitTypeID := 151
def zergSwarmHostMp : UnitTypeID := 494
def zergViper : UnitTypeID := 499
def zergLurkerMpEgg : UnitTypeID := 501
def zergLurkerMp : UnitTypeID := 502
def zergLurkerMpBurrowed : UnitTypeID := 503
def zergLurkerDenMp : UnitTypeID := 504
def zergRavagerCocoon : UnitTypeID := 687
def zergRavager : UnitTypeID := 688

end UnitTypeID

/-! ## Abilities -/

namespace AbilityID

def attack : AbilityID := 3674
def behaviorCloakOn : AbilityID := 3676
def behaviorPulsarBeamOn : AbilityID := 2375
def buildArmory : AbilityID := 331
def buildAssimilator : AbilityID := 882
def buildBanelingNest : AbilityID := 1162
def buildBarracks : AbilityID := 321
def buildCommandCenter : AbilityID := 318
def buildCyberneticsCore : AbilityID := 894
def buildEngineeringBay : AbilityID := 322
def buildEvolutionChamber : AbilityID := 1156
def buildExtractor : AbilityID := 1154
def buildFactory : AbilityID := 328
def buildFleetBeacon : AbilityID := 885
def buildForge : AbilityID := 884
def buildFusionCore : AbilityID := 333
def buildGateway : AbilityID := 883
def buildGhostAcademy : AbilityID := 327
def buildHatchery : AbilityID := 1152
def buildHydraliskDen : AbilityID := 1157
def buildInfestationPit : AbilityID := 1160
def buildNexus : AbilityID := 880
def buildNuke : AbilityID := 710
def buildPylon : AbilityID := 881
def buildReactorBarracks : AbilityID := 422
def buildReactorFactory : AbilityID := 455
def buildReactorStarport : AbilityID := 488
def buildRefinery : AbilityID := 320
def buildRoachWarren : AbilityID := 1165
def buildRoboticsBay : AbilityID := 892
def buildRoboticsFacility : AbilityID := 893
def buildSpawningPool : AbilityID := 1155
def buildSpire : AbilityID := 1158
def buildStargate : AbilityID := 889
def buildStarport : AbilityID := 329
def buildSupplyDepot : AbilityID := 319
def buildTechlabBarracks : AbilityID := 421
def buildTechlabFactory : AbilityID := 454
def buildTechlabStarport : AbilityID := 487
def buildTemplarArchive : AbilityID := 890
def buildTwilightCouncil : AbilityID := 886
def buildUltraliskCavern : AbilityID := 1159
def burrowDown : AbilityID := 3661
def burrowUp : AbilityID := 3662
def effectBlindingCloud : AbilityID := 2063
def effectCalldownMule : AbilityID := 171
def effectCausticSpray : AbilityID := 2324
def effectCorrosiveBile : AbilityID := 2338
def effectFungalGrowth : AbilityID := 74
def effectGhostSnipe : AbilityID := 2714
def effectGuardianShield : AbilityID := 76
def effectHeal : AbilityID := 386
def effectHunterSeekerMissile : AbilityID := 169
def effectInjectLarva : AbilityID := 251
def effectLockon : AbilityID := 2350
def effectNukeCalldown : AbilityID := 1622
def effectParasiticBomb : AbilityID := 2542
def effectPurificationNova : AbilityID := 2346
def effectSpawnLocusts : AbilityID := 2704
def effectStim : AbilityID := 3675
def effectTimeWarp : AbilityID := 2244
def effectViperConsume : AbilityID := 2073
def effectVoidrayPrismaticAlignment : AbilityID := 2393
def harvestGather : AbilityID := 3666
def morphArchon : AbilityID := 1766
def morphBroodLord : AbilityID := 1372
def morphGreaterSpire : AbilityID := 1220
def morphHellbat : AbilityID := 1998
def morphHive : AbilityID := 1218
def morphLair : AbilityID := 1216
def morphLurker : AbilityID := 2332
def morphLurkerDen : AbilityID := 2112
def morphMothership : AbilityID := 1847
def morphOrbitalCommand : AbilityID := 1516
def morphOverseer : AbilityID := 1448
def morphRavager : AbilityID := 2330
def morphSiegeMode : AbilityID := 388
def morphSupplyDepotLower : AbilityID := 556
def morphUnsiege : AbilityID := 390
def morphVikingAssaultMode : AbilityID := 403
def morphVikingFighterMode : AbilityID := 405
def morphWarpGate : AbilityID := 1518
def move : AbilityID := 16
def researchAdeptResonatingGlaives : AbilityID := 1594
def researchBansheeCloakingField : AbilityID := 790
def researchBlink : AbilityID := 1593
def researchCentrifugalHooks : AbilityID := 1482
def researchCharge : AbilityID := 1592
def researchChitinousPlating : AbilityID := 265
def researchCombatShield : AbilityID := 731
def researchConcussiveShells : AbilityID := 732
def researchExtendedThermalLance : AbilityID := 1097
def researchGlialRegeneration : AbilityID := 216
def researchInfernalPreigniter : AbilityID := 761
def researchInterceptorGravitonCatapult : AbilityID := 44
def researchMuscularAugments : AbilityID := 1283
def researchPersonalCloaking : AbilityID := 820
def researchPneumatizedCarapace : AbilityID := 1223
def researchProtossAirArmor : AbilityID := 3692
def researchProtossAirWeapons : AbilityID := 3693
def researchProtossGroundArmor : AbilityID := 3694
def researchProtossGroundWeapons : AbilityID := 3695
def researchProtossShields : AbilityID := 3696
def researchStimpack : AbilityID := 730
def researchTerranInfantryArmor : AbilityID := 3697
def researchTerranInfantryWeapons : AbilityID := 3698
def researchTerranShipWeapons : AbilityID := 3699
def researchTerranVehicleAndShipPlating : AbilityID := 3700
def researchTerranVehicleWeapons : AbilityID := 3701
def researchWarpGate : AbilityID := 1568
def researchZergFlyerArmor : AbilityID := 3702
def researchZergFlyerAttack : AbilityID := 3703
def researchZergGroundArmor : AbilityID := 3704
def researchZerglingAdrenalGlands : AbilityID := 1252
def researchZerglingMetabolicBoost : AbilityID := 1253
def researchZergMeleeWeapons : AbilityID := 3705
def researchZergMissileWeapons : AbilityID := 3706
def smart : AbilityID := 1
def stop : AbilityID := 3665
def trainwarpAdept : AbilityID := 1419
def trainwarpHighTemplar : AbilityID := 1416
def trainwarpSentry : AbilityID := 1418
def trainwarpStalker : AbilityID := 1414
def trainwarpZealot : AbilityID := 1413
def trainAdept : AbilityID := 922
def trainBaneling : AbilityID := 80
def trainBanshee : AbilityID := 621
def trainBattlecruiser : AbilityID := 623
def trainCarrier : AbilityID := 948
def trainColossus : AbilityID := 978
def trainCorruptor : AbilityID := 1353
def trainCyclone : AbilityID := 597
def trainDisruptor : AbilityID := 994
def trainDrone : AbilityID := 1342
def trainGhost : AbilityID := 562
def trainHellbat : AbilityID := 596
def trainHellion : AbilityID := 595
def trainHydralisk : AbilityID := 1345
def trainImmortal : AbilityID := 979
def trainInfestor : AbilityID := 1352
def trainMarauder : AbilityID := 563
def trainMarine : AbilityID := 560
def trainMedivac : AbilityID := 620
def trainMothershipCore : AbilityID := 1853
def trainMutalisk : AbilityID := 1346
def trainObserver : AbilityID := 977
def trainOracle : AbilityID := 954
def trainOverlord : AbilityID := 1344
def trainPhoenix : AbilityID := 946
def trainProbe : AbilityID := 1006
def trainQueen : AbilityID := 1632
def trainRaven : AbilityID := 622
def trainReaper : AbilityID := 561
def trainRoach : AbilityID := 1351
def trainScv : AbilityID := 524
def trainSiegeTank : AbilityID := 591
def trainSwarmHost : AbilityID := 1356
def trainTempest : AbilityID := 955
def trainThor : AbilityID := 594
def trainUltralisk : AbilityID := 1348
def trainVikingFighter : AbilityID := 624
def trainViper : AbilityID := 1354
def trainVoidray : AbilityID := 950
def trainWidowMine : AbilityID := 614
def trainZealot : AbilityID := 916
def trainZergling : AbilityID := 1343

end AbilityID

/-! ## Upgrades -/

namespace UpgradeID

def bansheeCloak : UpgradeID := 20
def blinkTech : UpgradeID := 87
def personalCloaking : UpgradeID := 25
def protossAirArmorsLevel1 : UpgradeID := 81
def protossAirArmorsLevel2 : UpgradeID := 82
def protossAirWeaponsLevel1 : UpgradeID := 78
def protossAirWeaponsLevel2 : UpgradeID := 79
def protossGroundArmorsLevel1 : UpgradeID := 42
def protossGroundArmorsLevel2 : UpgradeID := 43
def protossGroundWeaponsLevel1 : UpgradeID := 39
def protossGroundWeaponsLevel2 : UpgradeID := 40
def protossShieldsLevel1 : UpgradeID := 45
def protossShieldsLevel2 : UpgradeID := 46
def stimpack : UpgradeID := 15
def terranInfantryArmorsLevel1 : UpgradeID := 11
def terranInfantryArmorsLevel2 : UpgradeID := 12
def terranInfantryWeaponsLevel1 : UpgradeID := 7
def terranInfantryWeaponsLevel2 : UpgradeID := 8
def terranShipWeaponsLevel1 : UpgradeID := 36
def terranVehicleAndShipArmorsLevel1 : UpgradeID := 116
def terranVehicleAndShipArmorsLevel2 : UpgradeID := 117
def terranVehicleWeaponsLevel1 : UpgradeID := 30
def terranVehicleWeaponsLevel2 : UpgradeID := 31
def warpGateResearch : UpgradeID := 84
def zergFlyerArmorsLevel1 : UpgradeID := 71
def zergFlyerArmorsLevel2 : UpgradeID := 72
def zergFlyerWeaponsLevel1 : UpgradeID := 68
def zergFlyerWeaponsLevel2 : UpgradeID := 69
def zergGroundArmorsLevel1 : UpgradeID := 56
def zergGroundArmorsLevel2 : UpgradeID := 57
def zergMissileWeaponsLevel1 : UpgradeID := 59
def zergMissileWeaponsLevel2 : UpgradeID := 60

end UpgradeID

/-! ## Buffs -/

namespace BuffID

def stimpack : BuffID := 27

end BuffID

end Sc2Api
