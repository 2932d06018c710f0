import Sc2Api.GameInfo

/-!
# Game data

What a client reads of the messages of a data response (`data.proto`) into the entries of
its tables (`sc2_data.h`), the abilities apart. `ReadFromProto` assigns every member except
the lists, which it appends to. `struct` is the attribute `Structure`, and `attr` the member
`attribute`.
-/

namespace Sc2Api

/-! ## Messages -/

namespace Proto

inductive Attribute
  | light
  | armored
  | biological
  | mechanical
  | robotic
  | psionic
  | massive
  | struct
  | hover
  | heroic
  | summoned
  deriving DecidableEq, Repr, Inhabited

structure DamageBonus where
  attr : Option Attribute := none
  bonus : Option CFloat := none
  deriving DecidableEq, Repr

inductive Weapon.TargetType
  | ground
  | air
  | any
  deriving DecidableEq, Repr, Inhabited

structure Weapon where
  type : Option Weapon.TargetType := none
  damage : Option CFloat := none
  damageBonus : List DamageBonus := []
  attacks : Option UInt32 := none
  range : Option CFloat := none
  speed : Option CFloat := none
  deriving DecidableEq, Repr

structure UnitTypeData where
  unitId : Option UInt32 := none
  name : Option String := none
  available : Option Bool := none
  cargoSize : Option UInt32 := none
  mineralCost : Option UInt32 := none
  vespeneCost : Option UInt32 := none
  foodRequired : Option CFloat := none
  foodProvided : Option CFloat := none
  abilityId : Option UInt32 := none
  race : Option Race := none
  buildTime : Option CFloat := none
  hasVespene : Option Bool := none
  hasMinerals : Option Bool := none
  sightRange : Option CFloat := none
  techAlias : List UInt32 := []
  unitAlias : Option UInt32 := none
  techRequirement : Option UInt32 := none
  requireAttached : Option Bool := none
  attributes : List Attribute := []
  movementSpeed : Option CFloat := none
  armor : Option CFloat := none
  weapons : List Weapon := []
  deriving DecidableEq, Repr

structure UpgradeData where
  upgradeId : Option UInt32 := none
  name : Option String := none
  mineralCost : Option UInt32 := none
  vespeneCost : Option UInt32 := none
  researchTime : Option CFloat := none
  abilityId : Option UInt32 := none
  deriving DecidableEq, Repr

structure BuffData where
  buffId : Option UInt32 := none
  name : Option String := none
  deriving DecidableEq, Repr

structure EffectData where
  effectId : Option UInt32 := none
  name : Option String := none
  friendlyName : Option String := none
  radius : Option CFloat := none
  deriving DecidableEq, Repr

structure ResponseData where
  abilities : List AbilityData := []
  units : List UnitTypeData := []
  upgrades : List UpgradeData := []
  buffs : List BuffData := []
  effects : List EffectData := []
  deriving DecidableEq, Repr

end Proto

/-! ## Entries -/

inductive Attribute
  | light
  | armored
  | biological
  | mechanical
  | robotic
  | psionic
  | massive
  | struct
  | hover
  | heroic
  | summoned
  | invalid
  deriving DecidableEq, Repr, Inhabited

structure DamageBonus where
  attr : Attribute
  bonus : CFloat
  deriving DecidableEq, Repr

inductive Weapon.TargetType
  | ground
  | air
  | any
  | invalid
  deriving DecidableEq, Repr, Inhabited

structure Weapon where
  type : Weapon.TargetType
  damage : CFloat
  damageBonus : List DamageBonus := []
  attacks : UInt32
  range : CFloat
  speed : CFloat
  deriving DecidableEq, Repr

/-- The costs are of type `int` here, unsigned in the message. -/
structure UnitTypeData where
  unitTypeId : UnitTypeID
  name : String := ""
  available : Bool
  cargoSize : UInt32
  mineralCost : Int32
  vespeneCost : Int32
  attributes : List Attribute := []
  movementSpeed : CFloat
  armor : CFloat
  weapons : List Weapon := []
  foodRequired : CFloat
  foodProvided : CFloat
  abilityId : AbilityID
  race : Race
  buildTime : CFloat
  hasMinerals : Bool
  hasVespene : Bool
  sightRange : CFloat
  techAlias : List UnitTypeID := []
  unitAlias : UnitTypeID
  techRequirement : UnitTypeID
  requireAttached : Bool
  deriving DecidableEq, Repr

structure UpgradeData where
  upgradeId : UInt32
  name : String
  mineralCost : UInt32
  vespeneCost : UInt32
  abilityId : AbilityID
  researchTime : CFloat
  deriving DecidableEq, Repr

structure BuffData where
  buffId : UInt32
  name : String
  deriving DecidableEq, Repr

structure EffectData where
  effectId : UInt32
  name : String
  friendlyName : String
  radius : CFloat
  deriving DecidableEq, Repr

/-! ## Conversion -/

def convertAttributeEnum : Proto.Attribute → Attribute
  | .light => .light
  | .armored => .armored
  | .biological => .biological
  | .mechanical => .mechanical
  | .robotic => .robotic
  | .psionic => .psionic
  | .massive => .massive
  | .struct => .struct
  | .hover => .hover
  | .heroic => .heroic
  | .summoned => .summoned

def convertTargetTypeEnum : Proto.Weapon.TargetType → Weapon.TargetType
  | .ground => .ground
  | .air => .air
  | .any => .any

def DamageBonus.readFromProto (damageBonus : Proto.DamageBonus) : DamageBonus where
  attr := convertAttributeEnum (damageBonus.attr.getD .light)
  bonus := damageBonus.bonus.getD 0

/-- `damageBonus` is what the weapon has before. -/
def Weapon.readFromProto (damageBonus : List DamageBonus) (weapon : Proto.Weapon) : Weapon where
  type := convertTargetTypeEnum (weapon.type.getD .ground)
  damage := weapon.damage.getD 0
  damageBonus := damageBonus ++ weapon.damageBonus.map DamageBonus.readFromProto
  attacks := weapon.attacks.getD 0
  range := weapon.range.getD 0
  speed := weapon.speed.getD 0

/-- The members that `UnitTypeData::ReadFromProto` does not assign. -/
structure UnitTypeLists where
  attributes : List Attribute := []
  weapons : List Weapon := []
  techAlias : List UnitTypeID := []
  deriving DecidableEq, Repr

def UnitTypeData.readFromProto (lists : UnitTypeLists) (unitData : Proto.UnitTypeData) :
    UnitTypeData where
  unitTypeId := unitData.unitId.getD 0
  name := unitData.name.getD ""
  available := unitData.available.getD false
  cargoSize := unitData.cargoSize.getD 0
  mineralCost := (unitData.mineralCost.getD 0).toInt32
  vespeneCost := (unitData.vespeneCost.getD 0).toInt32
  attributes := lists.attributes ++ unitData.attributes.map convertAttributeEnum
  movementSpeed := unitData.movementSpeed.getD 0
  armor := unitData.armor.getD 0
  weapons := lists.weapons ++ unitData.weapons.map (Weapon.readFromProto [])
  foodProvided := unitData.foodProvided.getD 0
  foodRequired := unitData.foodRequired.getD 0
  abilityId := unitData.abilityId.getD 0
  race := convertRaceFromProto (unitData.race.getD .noRace)
  buildTime := unitData.buildTime.getD 0
  hasMinerals := unitData.hasMinerals.getD false
  hasVespene := unitData.hasVespene.getD false
  sightRange := unitData.sightRange.getD 0
  techAlias := lists.techAlias ++ unitData.techAlias
  unitAlias := unitData.unitAlias.getD 0
  techRequirement := unitData.techRequirement.getD 0
  requireAttached := unitData.requireAttached.getD false

def UpgradeData.readFromProto (upgradeData : Proto.UpgradeData) : UpgradeData where
  upgradeId := upgradeData.upgradeId.getD 0
  name := upgradeData.name.getD ""
  mineralCost := upgradeData.mineralCost.getD 0
  vespeneCost := upgradeData.vespeneCost.getD 0
  abilityId := upgradeData.abilityId.getD 0
  researchTime := upgradeData.researchTime.getD 0

def BuffData.readFromProto (buffData : Proto.BuffData) : BuffData where
  buffId := buffData.buffId.getD 0
  name := buffData.name.getD ""

def EffectData.readFromProto (effectData : Proto.EffectData) : EffectData where
  effectId := effectData.effectId.getD 0
  name := effectData.name.getD ""
  friendlyName := effectData.friendlyName.getD ""
  radius := effectData.radius.getD 0

/-- `positions` are those the effect has before. -/
def Effect.readFromProto (positions : List Point2D) (effect : Proto.Effect) : Effect where
  effectId := effect.effectId.getD 0
  positions := positions ++ effect.pos.map (·.toPoint2D)

end Sc2Api
