import Mathlib.Data.List.AList
import Sc2Api.GameTypes
import Sc2Api.Lib.Arena
import Sc2Api.Lib.Enumeration

/-!
# Units and the unit pool

`Unit` is the record a bot reads. `UnitPool` owns all units ever seen: records
live in blocks of `ENTRY_SIZE` that are never moved or freed, `tagToUnit` names
the slot of every tag ever created, `tagToExistingUnit` the slots of the units
of the latest observation. A `Unit*` of the source is the slot it points to.
-/

namespace Sc2Api

open Lib

structure UnitOrder where
  abilityId : AbilityID := 0
  targetUnitTag : Tag := 0
  targetPos : Point2D := {}
  progress : CFloat := 0
  deriving DecidableEq, Repr

structure PassengerUnit where
  tag : Tag := 0
  health : CFloat := 0
  healthMax : CFloat := 0
  shield : CFloat := 0
  shieldMax : CFloat := 0
  energy : CFloat := 0
  energyMax : CFloat := 0
  unitType : UnitTypeID := 0
  deriving DecidableEq, Repr

structure Unit where
  displayType : DisplayType
  alliance : Alliance
  tag : Tag
  unitType : UnitTypeID
  owner : Int32
  pos : Point3D
  facing : CFloat
  radius : CFloat
  buildProgress : CFloat
  cloak : CloakState
  detectRange : CFloat
  radarRange : CFloat
  isSelected : Bool
  isOnScreen : Bool
  isBlip : Bool
  health : CFloat
  healthMax : CFloat
  shield : CFloat
  shieldMax : CFloat
  energy : CFloat
  energyMax : CFloat
  mineralContents : Int32
  vespeneContents : Int32
  isFlying : Bool
  isBurrowed : Bool
  weaponCooldown : CFloat
  orders : List UnitOrder
  addOnTag : Tag
  passengers : List PassengerUnit
  cargoSpaceTaken : Int32
  cargoSpaceMax : Int32
  assignedHarvesters : Int32
  idealHarvesters : Int32
  engagedTargetTag : Tag
  buffs : List BuffID
  isPowered : Bool
  isAlive : Bool
  lastSeenGameLoop : GameLoop
  -- The constructor `Unit::Unit` leaves the scalars unset; `default` stands for what is there.
  deriving DecidableEq, Repr, Inhabited

abbrev PoolIndex := Slot

structure UnitPool where
  unitPool : Arena Unit := []
  availableIndex : PoolIndex := ⟨0, 0⟩
  tagToUnit : AList (fun _ : Tag => PoolIndex) := ∅
  tagToExistingUnit : AList (fun _ : Tag => PoolIndex) := ∅

namespace UnitPool

/-- `ENTRY_SIZE`, the number of units in a block. -/
def entrySize : Nat := 1000

def incrementIndex (p : UnitPool) : UnitPool :=
  let second := p.availableIndex.offset + 1
  if second = entrySize then
    { p with availableIndex := ⟨p.availableIndex.block + 1, 0⟩ }
  else
    { p with availableIndex := ⟨p.availableIndex.block, second⟩ }

def getUnit (p : UnitPool) (tag : Tag) : Option PoolIndex := p.tagToUnit.lookup tag

def getExistingUnit (p : UnitPool) (tag : Tag) : Option PoolIndex :=
  p.tagToExistingUnit.lookup tag

/-- The block that `CreateUnit` appends when the cursor stands past the last one. -/
def grow (p : UnitPool) : UnitPool :=
  if p.unitPool.isEmpty ∨ p.unitPool.length = p.availableIndex.block then
    { p with unitPool := p.unitPool ++ [List.replicate entrySize default] }
  else p

def createUnit (p : UnitPool) (tag : Tag) : PoolIndex × UnitPool :=
  match p.getUnit tag with
  | some existing =>
    (existing, { p with tagToExistingUnit := p.tagToExistingUnit.insert tag existing })
  | none =>
    let p := p.grow
    let unit := p.availableIndex
    let p := { p with
      tagToUnit := p.tagToUnit.insert tag unit
      tagToExistingUnit := p.tagToExistingUnit.insert tag unit }
    (unit, p.incrementIndex)

/-- A write through a `Unit*`. -/
def write (p : UnitPool) (unit : PoolIndex) (f : Unit → Unit) : UnitPool :=
  { p with unitPool := p.unitPool.modify unit f }

/-- A read through a `Unit*`. -/
def deref (p : UnitPool) (unit : PoolIndex) : Unit := (p.unitPool.read? unit).getD default

def markDead (p : UnitPool) (tag : Tag) : UnitPool :=
  match p.getUnit tag with
  | none => p
  | some unit =>
    let p := p.write unit fun u => { u with isAlive := false }
    { p with tagToExistingUnit := p.tagToExistingUnit.erase tag }

def clearExisting (p : UnitPool) : UnitPool := { p with tagToExistingUnit := ∅ }

def unitExists (p : UnitPool) (tag : Tag) : Bool := (p.tagToExistingUnit.lookup tag).isSome

/-- An enumeration order of `tag_to_existing_unit_`. -/
abbrev Order := Enumeration (Sigma fun _ : Tag => PoolIndex)

/-- The pointers `ForEachExistingUnit` visits, in the order of the hash table. -/
def existingUnits (p : UnitPool) (order : Order) : List PoolIndex :=
  (order.visit p.tagToExistingUnit.entries).map (·.2)

end UnitPool

end Sc2Api
