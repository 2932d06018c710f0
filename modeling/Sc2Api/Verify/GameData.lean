import Sc2Api.GameData
import Mathlib.Data.List.Forall2
import Mathlib.Tactic.Common

/-!
# Reading game data

An entry `Matches` its message when every member has the value of the field of its name, an
absent field counting as the default of the protocol. Fresh entries match but for two
members: a flag that is present and false, and costs that an `int` cannot hold.
-/

namespace Sc2Api

/-! ## Enumerations

Their values are told by the names of the enumerators. -/

def Proto.AbilityData.Target.name : Proto.AbilityData.Target → String
  | .none => "None"
  | .point => "Point"
  | .unit => "Unit"
  | .pointOrUnit => "PointOrUnit"
  | .pointOrNone => "PointOrNone"

def AbilityData.Target.name : AbilityData.Target → String
  | .none => "None"
  | .point => "Point"
  | .unit => "Unit"
  | .pointOrUnit => "PointOrUnit"
  | .pointOrNone => "PointOrNone"

@[simp] theorem name_convertAbilityTarget (target : Proto.AbilityData.Target) :
    (convertAbilityTarget target).name = target.name := by
  cases target <;> rfl

def Proto.Attribute.name : Proto.Attribute → String
  | .light => "Light"
  | .armored => "Armored"
  | .biological => "Biological"
  | .mechanical => "Mechanical"
  | .robotic => "Robotic"
  | .psionic => "Psionic"
  | .massive => "Massive"
  | .struct => "Structure"
  | .hover => "Hover"
  | .heroic => "Heroic"
  | .summoned => "Summoned"

def Attribute.name : Attribute → String
  | .light => "Light"
  | .armored => "Armored"
  | .biological => "Biological"
  | .mechanical => "Mechanical"
  | .robotic => "Robotic"
  | .psionic => "Psionic"
  | .massive => "Massive"
  | .struct => "Structure"
  | .hover => "Hover"
  | .heroic => "Heroic"
  | .summoned => "Summoned"
  | .invalid => "Invalid"

@[simp] theorem name_convertAttributeEnum (attr : Proto.Attribute) :
    (convertAttributeEnum attr).name = attr.name := by
  cases attr <;> rfl

def Proto.Weapon.TargetType.name : Proto.Weapon.TargetType → String
  | .ground => "Ground"
  | .air => "Air"
  | .any => "Any"

def Weapon.TargetType.name : Weapon.TargetType → String
  | .ground => "Ground"
  | .air => "Air"
  | .any => "Any"
  | .invalid => "Invalid"

@[simp] theorem name_convertTargetTypeEnum (type : Proto.Weapon.TargetType) :
    (convertTargetTypeEnum type).name = type.name := by
  cases type <;> rfl

/-- The three races keep their names; anything else is random. -/
inductive Race.Matches : Proto.Race → Race → Prop
  | terran : Race.Matches .terran .terran
  | zerg : Race.Matches .zerg .zerg
  | protoss : Race.Matches .protoss .protoss
  | other {race : Proto.Race} (terran : race ≠ .terran) (zerg : race ≠ .zerg)
      (protoss : race ≠ .protoss) : Race.Matches race .random

theorem Race.matches_convertRaceFromProto (race : Proto.Race) :
    Race.Matches race (convertRaceFromProto race) := by
  cases race with
  | terran => exact .terran
  | zerg => exact .zerg
  | protoss => exact .protoss
  | noRace => exact .other (by decide) (by decide) (by decide)
  | random => exact .other (by decide) (by decide) (by decide)

/-! ## Entries and messages -/

/-- The members of an entry of the ability table that the message has. -/
structure AbilityData.Matches (data : Proto.AbilityData) (entry : AbilityData) : Prop where
  abilityId : entry.abilityId = data.abilityId.getD 0
  linkName : entry.linkName = data.linkName.getD ""
  linkIndex : entry.linkIndex = data.linkIndex.getD 0
  buttonName : entry.buttonName = data.buttonName.getD ""
  friendlyName : entry.friendlyName = data.friendlyName.getD ""
  hotkey : entry.hotkey = data.hotkey.getD ""
  remapsToAbilityId : entry.remapsToAbilityId = data.remapsToAbilityId.getD 0
  available : entry.available = data.available.getD false
  target : entry.target.name = (data.target.getD .none).name
  allowMinimap : entry.allowMinimap = data.allowMinimap.getD false
  allowAutocast : entry.allowAutocast = data.allowAutocast.getD false
  isBuilding : entry.isBuilding = data.isBuilding.getD false
  footprintRadius : entry.footprintRadius = data.footprintRadius.getD 0
  isInstantPlacement : entry.isInstantPlacement = data.isInstantPlacement.getD false
  castRange : entry.castRange = data.castRange.getD 0

structure DamageBonus.Matches (data : Proto.DamageBonus) (entry : DamageBonus) : Prop where
  attr : entry.attr.name = (data.attr.getD .light).name
  bonus : entry.bonus = data.bonus.getD 0

structure Weapon.Matches (data : Proto.Weapon) (entry : Weapon) : Prop where
  type : entry.type.name = (data.type.getD .ground).name
  damage : entry.damage = data.damage.getD 0
  damageBonus : List.Forall₂ DamageBonus.Matches data.damageBonus entry.damageBonus
  attacks : entry.attacks = data.attacks.getD 0
  range : entry.range = data.range.getD 0
  speed : entry.speed = data.speed.getD 0

/-- Costs are compared as numbers. -/
structure UnitTypeData.Matches (data : Proto.UnitTypeData) (entry : UnitTypeData) : Prop where
  unitTypeId : entry.unitTypeId = data.unitId.getD 0
  name : entry.name = data.name.getD ""
  available : entry.available = data.available.getD false
  cargoSize : entry.cargoSize = data.cargoSize.getD 0
  mineralCost : entry.mineralCost.toInt = (data.mineralCost.getD 0).toNat
  vespeneCost : entry.vespeneCost.toInt = (data.vespeneCost.getD 0).toNat
  foodRequired : entry.foodRequired = data.foodRequired.getD 0
  foodProvided : entry.foodProvided = data.foodProvided.getD 0
  abilityId : entry.abilityId = data.abilityId.getD 0
  race : Race.Matches (data.race.getD .noRace) entry.race
  buildTime : entry.buildTime = data.buildTime.getD 0
  hasVespene : entry.hasVespene = data.hasVespene.getD false
  hasMinerals : entry.hasMinerals = data.hasMinerals.getD false
  sightRange : entry.sightRange = data.sightRange.getD 0
  techAlias : entry.techAlias = data.techAlias
  unitAlias : entry.unitAlias = data.unitAlias.getD 0
  techRequirement : entry.techRequirement = data.techRequirement.getD 0
  requireAttached : entry.requireAttached = data.requireAttached.getD false
  attributes : entry.attributes.map (·.name) = data.attributes.map (·.name)
  movementSpeed : entry.movementSpeed = data.movementSpeed.getD 0
  armor : entry.armor = data.armor.getD 0
  weapons : List.Forall₂ Weapon.Matches data.weapons entry.weapons

structure UpgradeData.Matches (data : Proto.UpgradeData) (entry : UpgradeData) : Prop where
  upgradeId : entry.upgradeId = data.upgradeId.getD 0
  name : entry.name = data.name.getD ""
  mineralCost : entry.mineralCost = data.mineralCost.getD 0
  vespeneCost : entry.vespeneCost = data.vespeneCost.getD 0
  researchTime : entry.researchTime = data.researchTime.getD 0
  abilityId : entry.abilityId = data.abilityId.getD 0

structure BuffData.Matches (data : Proto.BuffData) (entry : BuffData) : Prop where
  buffId : entry.buffId = data.buffId.getD 0
  name : entry.name = data.name.getD ""

structure EffectData.Matches (data : Proto.EffectData) (entry : EffectData) : Prop where
  effectId : entry.effectId = data.effectId.getD 0
  name : entry.name = data.name.getD ""
  friendlyName : entry.friendlyName = data.friendlyName.getD ""
  radius : entry.radius = data.radius.getD 0

structure Effect.Matches (data : Proto.Effect) (entry : Effect) : Prop where
  effectId : entry.effectId = data.effectId.getD 0
  positions : entry.positions = data.pos.map (·.toPoint2D)

/-! ## What is read -/

/-- The flag says whether the message has the flag. -/
theorem AbilityData.readFromProto_matches_iff (data : Proto.AbilityData) :
    Matches data (readFromProto {} data) ↔ data.isInstantPlacement ≠ some false := by
  constructor
  · intro h hfalse
    have hflag := h.isInstantPlacement
    simp [readFromProto, hfalse] at hflag
  · intro h
    have hflag : data.isInstantPlacement.isSome = data.isInstantPlacement.getD false := by
      match hdata : data.isInstantPlacement with
      | none => rfl
      | some true => rfl
      | some false => exact absurd hdata h
    have htarget : (readFromProto {} data).target.name = (data.target.getD .none).name := by
      show ((data.target.map convertAbilityTarget).getD .none).name = _
      cases data.target with
      | none => rfl
      | some target => exact name_convertAbilityTarget target
    exact ⟨rfl, rfl, rfl, rfl, rfl, rfl, rfl, rfl, htarget, rfl, rfl, rfl, rfl, hflag, rfl⟩

theorem DamageBonus.readFromProto_matches (data : Proto.DamageBonus) :
    Matches data (readFromProto data) :=
  ⟨name_convertAttributeEnum _, rfl⟩

theorem Weapon.readFromProto_matches (data : Proto.Weapon) :
    Matches data (readFromProto [] data) where
  type := name_convertTargetTypeEnum _
  damage := rfl
  damageBonus := by
    show List.Forall₂ _ _ (data.damageBonus.map DamageBonus.readFromProto)
    rw [List.forall₂_map_right_iff, List.forall₂_same]
    exact fun bonus _ => DamageBonus.readFromProto_matches bonus
  attacks := rfl
  range := rfl
  speed := rfl

/-- An unsigned number is kept by an `int` when it is small enough. -/
theorem toInt_toInt32_iff (n : UInt32) : n.toInt32.toInt = n.toNat ↔ n.toNat < 2 ^ 31 := by
  have hn : n.toNat < 2 ^ 32 := n.toNat_lt
  have hvalue : n.toInt32.toInt = (n.toNat : Int).bmod (2 ^ 32) := by
    show n.toBitVec.toInt = _
    rw [BitVec.toInt_eq_toNat_bmod]
    rfl
  rw [hvalue, Int.bmod_def]
  split <;> omega

/-- Both costs fit into an `int`. -/
def Proto.UnitTypeData.CostsFit (data : Proto.UnitTypeData) : Prop :=
  (data.mineralCost.getD 0).toNat < 2 ^ 31 ∧ (data.vespeneCost.getD 0).toNat < 2 ^ 31

theorem UnitTypeData.readFromProto_matches_iff (data : Proto.UnitTypeData) :
    Matches data (readFromProto {} data) ↔ data.CostsFit := by
  constructor
  · exact fun h => ⟨(toInt_toInt32_iff _).mp h.mineralCost, (toInt_toInt32_iff _).mp h.vespeneCost⟩
  · rintro ⟨hmineral, hvespene⟩
    have hattributes : (data.attributes.map convertAttributeEnum).map (·.name) =
        data.attributes.map (·.name) := by
      simp
    have hweapons : List.Forall₂ Weapon.Matches data.weapons
        (data.weapons.map (Weapon.readFromProto [])) := by
      rw [List.forall₂_map_right_iff, List.forall₂_same]
      exact fun weapon _ => Weapon.readFromProto_matches weapon
    exact {
      unitTypeId := rfl
      name := rfl
      available := rfl
      cargoSize := rfl
      mineralCost := (toInt_toInt32_iff _).mpr hmineral
      vespeneCost := (toInt_toInt32_iff _).mpr hvespene
      foodRequired := rfl
      foodProvided := rfl
      abilityId := rfl
      race := Race.matches_convertRaceFromProto _
      buildTime := rfl
      hasVespene := rfl
      hasMinerals := rfl
      sightRange := rfl
      techAlias := rfl
      unitAlias := rfl
      techRequirement := rfl
      requireAttached := rfl
      attributes := hattributes
      movementSpeed := rfl
      armor := rfl
      weapons := hweapons }

theorem UpgradeData.readFromProto_matches (data : Proto.UpgradeData) :
    Matches data (readFromProto data) :=
  ⟨rfl, rfl, rfl, rfl, rfl, rfl⟩

theorem BuffData.readFromProto_matches (data : Proto.BuffData) :
    Matches data (readFromProto data) :=
  ⟨rfl, rfl⟩

theorem EffectData.readFromProto_matches (data : Proto.EffectData) :
    Matches data (readFromProto data) :=
  ⟨rfl, rfl, rfl, rfl⟩

theorem Effect.readFromProto_matches (data : Proto.Effect) :
    Matches data (readFromProto [] data) :=
  ⟨rfl, rfl⟩

/-- The effects of an observation are read so. -/
theorem ObservationImp.effects_updateEffects (s : ObservationImp) (raw : Proto.ObservationRaw) :
    (s.updateEffects raw).effects = raw.effects.map (Effect.readFromProto []) := rfl

/-! ## All messages -/

/-- A message of game data. -/
inductive DataMessage
  | ability (data : Proto.AbilityData)
  | unitType (data : Proto.UnitTypeData)
  | weapon (data : Proto.Weapon)
  | upgrade (data : Proto.UpgradeData)
  | buff (data : Proto.BuffData)
  | effectData (data : Proto.EffectData)
  | effect (data : Proto.Effect)

namespace DataMessage

/-- The entry made from the message matches it. -/
def ReadRight : DataMessage → Prop
  | ability data => AbilityData.Matches data (.readFromProto {} data)
  | unitType data => UnitTypeData.Matches data (.readFromProto {} data)
  | weapon data => Weapon.Matches data (.readFromProto [] data)
  | upgrade data => UpgradeData.Matches data (.readFromProto data)
  | buff data => BuffData.Matches data (.readFromProto data)
  | effectData data => EffectData.Matches data (.readFromProto data)
  | effect data => Effect.Matches data (.readFromProto [] data)

/-- What the decoders rely on. -/
def Supported : DataMessage → Prop
  | ability data => data.isInstantPlacement ≠ some false
  | unitType data => data.CostsFit
  | _ => True

/-- A message is read right exactly when it is supported. -/
theorem readRight_iff (message : DataMessage) : message.ReadRight ↔ message.Supported := by
  cases message with
  | ability data => exact AbilityData.readFromProto_matches_iff data
  | unitType data => exact UnitTypeData.readFromProto_matches_iff data
  | weapon data => exact iff_of_true (Weapon.readFromProto_matches data) trivial
  | upgrade data => exact iff_of_true (UpgradeData.readFromProto_matches data) trivial
  | buff data => exact iff_of_true (BuffData.readFromProto_matches data) trivial
  | effectData data => exact iff_of_true (EffectData.readFromProto_matches data) trivial
  | effect data => exact iff_of_true (Effect.readFromProto_matches data) trivial

/-- An ability that says that it has no instant placement is read as one that has. -/
theorem instant_placement_misread :
    ¬(ability { abilityId := some 1, isInstantPlacement := some false }).ReadRight := by
  intro h
  have hflag := h.isInstantPlacement
  exact absurd hflag (by decide)

end DataMessage

end Sc2Api
