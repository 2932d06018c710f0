import Sc2Api.Actions
import Sc2Api.GameData
import Sc2Api.Lib.Programs
import Sc2Api.MapImages
import Sc2Api.Search
import Sc2Api.TypeEnums

/-!
# What a bot can do

A callback of a bot looks at an observation, asks the game and the random generator, and makes
calls of its `ActionInterface`. What it is told is an argument, one answer for each question. A
distance is compared by its square.
-/

namespace Sc2Api

open Lib

theorem neg_one_le_zero_le_one : (-1 : CFloat) ≤ 0 ∧ (0 : CFloat) ≤ 1 := by norm_num

theorem zero_le_zero_le_one : (0 : CFloat) ≤ 0 ∧ (0 : CFloat) ≤ 1 := by norm_num

/-- What a callback sees. The game may answer any question differently each time. -/
structure BotView where
  /-- The existing units, in the order in which `GetUnits` meets them. -/
  units : List Unit := []
  tags_nodup : (units.map (·.tag)).Nodup := by simp
  unitTypeData : List UnitTypeData := []
  gameInfo : GameInfo := {}
  startLocation : Point3D := {}
  gameLoop : GameLoop := 0
  minerals : Int32 := 0
  vespene : Int32 := 0
  foodCap : Int32 := 0
  foodUsed : Int32 := 0
  foodArmy : Int32 := 0
  foodWorkers : Int32 := 0
  upgrades : List UpgradeID := []
  powerSources : List PowerSource := []
  /-- The message of the observation, in which the creep is looked up. -/
  observation : Option Proto.Observation := none
  game : Nat → QueryGame := fun _ _ => .noResponse
  abilities : Nat → Tag → List AvailableAbility := fun _ _ => []
  /-- `GetRandomInteger(0, size - 1)` is this number modulo the size. -/
  randomInteger : Nat → Nat := fun _ => 0
  randomScalar : Nat → { x : CFloat // -1 ≤ x ∧ x ≤ 1 } := fun _ =>
    ⟨0, neg_one_le_zero_le_one⟩
  randomFraction : Nat → { x : CFloat // 0 ≤ x ∧ x ≤ 1 } := fun _ => ⟨0, zero_le_zero_le_one⟩

namespace BotView

def getUnits (v : BotView) (alliance : Alliance) (filter : Unit → Bool := fun _ => true) :
    List Unit :=
  v.units.filter fun unit => unit.alliance = alliance && filter unit

def getUnit (v : BotView) (tag : Tag) : Option Unit := v.units.find? fun unit => unit.tag = tag

end BotView

/-! ## The bot -/

/-- What ends a callback. -/
inductive BotFault
  | nullUnit
  | outOfRange
  /-- A local variable or a member is read that has not been set. -/
  | uninitialized
  | undefined (undefined : Undefined)
  | search (failure : Search.Failure)
  deriving DecidableEq, Repr

/-- The members of `MultiplayerBot`. -/
structure MultiplayerBot where
  nukeDetected : Bool := false
  /-- `none` until it is set. -/
  nukeDetectedFrame : Option GameLoop := none
  maxWorkerCount : Int32 := 70
  targetWorkerCount : Int32 := 15
  gameInfo : GameInfo := {}
  expansions : List Point3D := []
  startLocation : Point3D := {}
  stagingLocation : Point3D := {}
  deriving DecidableEq, Repr

/-- `own` are the members of the class of a race, `asked` the number of questions so far. -/
structure BotState (κ : Type) where
  base : MultiplayerBot := {}
  own : κ
  asked : Nat := 0
  deriving DecidableEq, Repr

abbrev BotM (κ : Type) := Program BotView (BotState κ) ActionCall BotFault

namespace BotM

variable {κ : Type}

/-! ## Questions -/

open Program

/-- The answer to the next question. -/
def answer {α : Type} (answers : BotView → Nat → α) : BotM κ α := do
  let n ← gets (·.asked)
  modify fun s => { s with asked := n + 1 }
  ask fun v => answers v n

def dereference {α : Type} (x : Option α) : BotM κ α :=
  match x with
  | none => fail .nullUnit
  | some x => pure x

/-- A variable that may not have been set. -/
def readVariable {α : Type} (x : Option α) : BotM κ α :=
  match x with
  | none => fail .uninitialized
  | some x => pure x

/-- `list.at(i)`, and `list.front()` for the index zero. -/
def at_ {α : Type} (list : List α) (i : Nat) : BotM κ α :=
  ofExcept ((elementAt list i).mapError fun _ => .outOfRange)

def getRandomEntry {α : Type} (container : List α) : BotM κ α := do
  let n ← answer (·.randomInteger)
  at_ container (n % container.length)

def getRandomScalar : BotM κ CFloat := do
  let x ← answer (·.randomScalar)
  return x

def getRandomFraction : BotM κ CFloat := do
  let x ← answer (·.randomFraction)
  return x

def pathingDistance (start end_ : Point2D) : BotM κ CFloat := do
  let game ← answer (·.game)
  ofExcept ((QueryInterface.pathingDistanceFrom start end_ game).mapError fun _ => .outOfRange)

def pathingDistanceFromUnit (unit : Unit) (end_ : Point2D) : BotM κ CFloat := do
  let game ← answer (·.game)
  ofExcept ((QueryInterface.pathingDistanceFromUnit unit.tag end_ game).mapError
    fun _ => .outOfRange)

def placement (ability : AbilityID) (targetPos : Point2D) (unit : Option Unit := none) :
    BotM κ Bool := do
  let game ← answer (·.game)
  ofExcept ((QueryInterface.placementOf ability targetPos (unit.map (·.tag)) game).mapError
    fun _ => .outOfRange)

def getAbilitiesForUnit (unit : Unit) : BotM κ (List AvailableAbility) := do
  let abilities ← answer (·.abilities)
  return abilities unit.tag

def hasCreep (point : Point2D) : BotM κ Bool := do
  let observation ← ask (·.observation)
  ofExcept ((Sc2Api.hasCreep observation point).mapError .undefined)

/-! ## Calls -/

def unitCommand (unit : Unit) (ability : AbilityID) : BotM κ PUnit :=
  emit (.unitCommand (some unit.tag) ability false)

def unitCommandPoint (unit : Unit) (ability : AbilityID) (point : Point2D) : BotM κ PUnit :=
  emit (.unitCommandPoint (some unit.tag) ability point false)

def unitCommandTarget (unit : Unit) (ability : AbilityID) (target : Option Unit) :
    BotM κ PUnit :=
  emit (.unitCommandTarget (some unit.tag) ability (target.map (·.tag)) false)

def unitsCommand (units : List Unit) (ability : AbilityID) : BotM κ PUnit :=
  emit (.unitsCommand (units.map fun unit => some unit.tag) ability false)

/-! ## Filters -/

/-- The loop over the attributes of the unit's type. -/
def isStructure (unit : Unit) : BotM κ Bool := do
  let unitTypeData ← ask (·.unitTypeData)
  let data ← at_ unitTypeData unit.unitType.toNat
  return .struct ∈ data.attributes

def isAttackable (unit : Unit) : Bool :=
  unit.unitType ∉ [.zergOverlord, .zergOverseer, .protossObserver]

def isFlying (unit : Unit) : Bool := unit.isFlying

/-- Ignores overlords, workers and structures. -/
def isArmy (unit : Unit) : BotM κ Bool := do
  if ← isStructure unit then return false
  return unit.unitType ∉ [.zergOverlord, .protossProbe, .zergDrone, .terranScv, .zergQueen,
    .zergLarva, .zergEgg, .terranMule, .terranNuke]

def isTownHall (unit : Unit) : Bool :=
  unit.unitType ∈ [.zergHatchery, .zergLair, .zergHive, .terranCommandCenter,
    .terranOrbitalCommand, .terranOrbitalCommandFlying, .terranPlanetaryFortress, .protossNexus]

def isVespeneGeyser (unit : Unit) : Bool :=
  unit.unitType ∈ [.neutralVespeneGeyser, .neutralSpacePlatformGeyser,
    .neutralProtossVespeneGeyser]

def isUnit (type : UnitTypeID) (unit : Unit) : Bool := unit.unitType = type

def isUnits (types : List UnitTypeID) (unit : Unit) : Bool := unit.unitType ∈ types

/-! ## The observation -/

def getUnits (alliance : Alliance) (filter : Unit → Bool := fun _ => true) :
    BotM κ (List Unit) :=
  ask (·.getUnits alliance filter)

/-- `GetUnits` with a filter that looks at the types of units. -/
def getUnitsIf (alliance : Alliance) (filter : Unit → BotM κ Bool) : BotM κ (List Unit) := do
  let units ← getUnits alliance
  filterEach filter units

def getUnit (tag : Tag) : BotM κ (Option Unit) := ask (·.getUnit tag)

end BotM

end Sc2Api
