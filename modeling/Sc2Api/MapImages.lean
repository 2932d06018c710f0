import Sc2Api.GameInfo
import Sc2Api.Lib.CheckedInt

/-!
# Sampling the images of a map

`SampleImageData` and the five questions that `ObservationImp` answers with it. What C++ leaves
undefined is an error here: an `int` that overflows, a byte that a string does not have.
-/

namespace Sc2Api

open Lib

inductive Undefined
  | overflow
  | outOfRange
  deriving DecidableEq, Repr

/-! ## Samples -/

/-- The conversion `int(x)`. -/
def intOfFloat (x : CFloat) : Except Undefined Int32 := checked .overflow (truncate x)

/-- `x + (height - 1 - y) * width` -/
def imageIndex (x y width height : Int32) : Except Undefined Int32 := do
  let top ← checked .overflow (height.toInt - 1)
  let row ← checked .overflow (top.toInt - y.toInt)
  let start ← checked .overflow (row.toInt * width.toInt)
  checked .overflow (x.toInt + start.toInt)

/-- `data[index]` of a string, which has a zero after its last byte. -/
def byteAt (data : List UInt8) (index : Int32) : Except Undefined UInt8 :=
  if index < 0 then .error .outOfRange
  else match (data ++ [0])[index.toInt.toNat]? with
    | none => .error .outOfRange
    | some byte => .ok byte

/-- The byte that is sampled, `none` where `SampleImageData` fails. -/
def sampleImageData (data : List UInt8) (width height : Int32) (point : Point2D) :
    Except Undefined (Option UInt8) := do
  let x ← intOfFloat point.x
  let y ← intOfFloat point.y
  if x < 0 ∨ x ≥ width ∨ y < 0 ∨ y ≥ height then return none
  let index ← imageIndex x y width height
  let byte ← byteAt data index
  return some byte

def Proto.ImageData.sample (data : Proto.ImageData) (point : Point2D) :
    Except Undefined (Option UInt8) :=
  sampleImageData (data.data.getD []) ((data.size.getD {}).x.getD 0)
    ((data.size.getD {}).y.getD 0) point

def ImageData.sample (data : ImageData) (point : Point2D) : Except Undefined (Option UInt8) :=
  sampleImageData data.data data.width data.height point

/-! ## Questions -/

inductive Visibility
  | hidden
  | fogged
  | visible
  | fullHidden
  deriving DecidableEq, Repr

/-- The map state of an observation, `none` if it `HasErrors()` or has no raw data. -/
def mapState? (observation : Option Proto.Observation) : Option Proto.MapState :=
  (observation.bind (·.rawData)).map fun observationRaw => observationRaw.mapState.getD {}

/-- `HasCreep` with the message of `observation_`, `none` if it `HasErrors()`. -/
def hasCreep (observation : Option Proto.Observation) (point : Point2D) :
    Except Undefined Bool :=
  match mapState? observation with
  | none => .ok false
  | some mapState => do
    match ← (mapState.creep.getD {}).sample point with
    | none => return false
    | some value => return value > 0

def getVisibility (observation : Option Proto.Observation) (point : Point2D) :
    Except Undefined Visibility :=
  match mapState? observation with
  | none => .ok .fullHidden
  | some mapState => do
    match ← (mapState.visibility.getD {}).sample point with
    | none => return .fullHidden
    | some value =>
      if value = 0 then return .hidden
      else if value = 1 then return .fogged
      else if value = 2 then return .visible
      else return .fullHidden

namespace GameClient

/-! The others ask `GetGameInfo`, whose round trip has this answer. -/

def isPathable (g : GameClient) (answer : Option Proto.ResponseGameInfo) (point : Point2D) :
    Except Undefined Bool × GameClient :=
  let (gameInfo, g) := g.getGameInfo answer
  (do
    match ← gameInfo.pathingGrid.sample point with
    | none => return false
    | some value => return value ≠ 255, g)

def isPlacable (g : GameClient) (answer : Option Proto.ResponseGameInfo) (point : Point2D) :
    Except Undefined Bool × GameClient :=
  let (gameInfo, g) := g.getGameInfo answer
  (do
    match ← gameInfo.placementGrid.sample point with
    | none => return false
    | some value => return value = 255, g)

/-- The `false` that it returns outside the map is the height zero. -/
def terrainHeight (g : GameClient) (answer : Option Proto.ResponseGameInfo) (point : Point2D) :
    Except Undefined CFloat × GameClient :=
  let (gameInfo, g) := g.getGameInfo answer
  (do
    match ← gameInfo.terrainHeight.sample point with
    | none => return 0
    | some value => return -100 + 200 * (value.toNat : ℚ) / 255, g)

end GameClient

end Sc2Api
