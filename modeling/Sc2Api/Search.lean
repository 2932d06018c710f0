import Mathlib.Algebra.Order.Floor.Ring
import Mathlib.Data.Rat.Floor
import Sc2Api.Debug
import Sc2Api.Lib.Nearest
import Sc2Api.Queries

/-!
# Searching for expansions

`Cluster`, `CalculateQueries` and `CalculateExpansionLocations`. The cosine and the sine are
parameters. Positions are counted without wrapping. A distance is compared by its square, which
for `Distance2D` is the comparison of the source.
-/

namespace Sc2Api

open Lib

/-- `std::numeric_limits<float>::max()` -/
def floatMax : CFloat := (2 ^ 24 - 1) * 2 ^ 104

/-! ## Points -/

namespace Point3D

instance : Add Point3D := ⟨fun lhs rhs => ⟨lhs.x + rhs.x, lhs.y + rhs.y, lhs.z + rhs.z⟩⟩

instance : Sub Point3D := ⟨fun lhs rhs => ⟨lhs.x - rhs.x, lhs.y - rhs.y, lhs.z - rhs.z⟩⟩

instance : HMul Point3D CFloat Point3D := ⟨fun lhs rhs => ⟨lhs.x * rhs, lhs.y * rhs, lhs.z * rhs⟩⟩

instance : HDiv Point3D CFloat Point3D := ⟨fun lhs rhs => ⟨lhs.x / rhs, lhs.y / rhs, lhs.z / rhs⟩⟩

/-- The conversion that the constructor `Point2D(Point3D a)` makes. -/
def toPoint2D (a : Point3D) : Point2D := ⟨a.x, a.y⟩

end Point3D

instance : Sub Point2D := ⟨fun lhs rhs => ⟨lhs.x - rhs.x, lhs.y - rhs.y⟩⟩

def dot2D (a b : Point2D) : CFloat := a.x * b.x + a.y * b.y

def dot3D (a b : Point3D) : CFloat := a.x * b.x + a.y * b.y + a.z * b.z

def distanceSquared2D (a b : Point2D) : CFloat :=
  let diff := a - b
  dot2D diff diff

def distanceSquared3D (a b : Point3D) : CFloat :=
  let diff := a - b
  dot3D diff diff

namespace Search

/-! ## Clusters -/

abbrev UnitCluster := Point3D × List Unit

/-- A null pointer to a cluster is followed. -/
inductive NullCluster
  | nullCluster
  deriving DecidableEq, Repr

/-- The unit at the end of its cluster, and the centre of mass of it. -/
def append (cluster : UnitCluster) (u : Unit) : UnitCluster :=
  let units := cluster.2 ++ [u]
  let size : CFloat := units.length
  (((cluster.1 * (size - 1)) + u.pos) / size, units)

/-- A turn of the loop over the units. `target_cluster` is the position of the cluster. -/
def clusterUnit (squaredDistanceApart : CFloat) (clusters : List UnitCluster) (u : Unit) :
    Except NullCluster (List UnitCluster) :=
  let (distance, targetCluster) :=
    leastBelow (fun entry => distanceSquared3D u.pos entry.1.1) floatMax clusters.zipIdx
  if distance > squaredDistanceApart then .ok (clusters ++ [(u.pos, [u])])
  else
    match targetCluster with
    | none => .error .nullCluster
    | some (_, index) => .ok (clusters.modify index (append · u))

def cluster (units : List Unit) (distanceApart : CFloat) :
    Except NullCluster (List UnitCluster) :=
  units.foldlM (clusterUnit (distanceApart * distanceApart)) []

/-! ## Queries -/

def buildCommandCenter : AbilityID := 318

def PI : CFloat := 3.1415927

section Circles

variable (cos sin : CFloat → CFloat)

def circlePoint (radius : CFloat) (center : Point2D) (loc : CFloat) : Point2D :=
  ⟨radius * cos (loc * PI / 180) + center.x, radius * sin (loc * PI / 180) + center.y⟩

def gridCell (point : Point2D) : Point2D := ⟨(⌊point.x⌋ : Int), (⌊point.y⌋ : Int)⟩

/-- The loop of `CalculateQueries` from `loc` on, with the queries so far and their number,
`none` if the turns are not enough. -/
def queriesLoop (radius stepSize : CFloat) (center : Point2D) :
    Nat → CFloat → Point2D → List PlacementQuery → Nat → Option (List PlacementQuery × Nat)
  | 0, _, _, _, _ => none
  | turns + 1, loc, previousGrid, queries, validQueries =>
    if loc < 360 then
      let point := circlePoint cos sin radius center loc
      let query : PlacementQuery := { ability := buildCommandCenter, targetPos := point }
      let currentGrid := gridCell point
      if previousGrid ≠ currentGrid then
        queriesLoop radius stepSize center turns (loc + stepSize) currentGrid
          (queries ++ [query]) (validQueries + 1)
      else
        queriesLoop radius stepSize center turns (loc + stepSize) currentGrid queries validQueries
    else some (queries, validQueries)

/-- The queries and the number of those that are new. -/
def calculateQueries (turns : Nat) (radius stepSize : CFloat) (center : Point2D)
    (queries : List PlacementQuery) : Option (List PlacementQuery × Nat) :=
  queriesLoop cos sin radius stepSize center turns 0 ⟨floatMax, floatMax⟩ queries 0

end Circles

/-! ## Expansions -/

def neutralResources : List UnitTypeID :=
  [341, 483, 146, 147, 884, 885, 796, 797, 665, 666, 886, 887, 342, 608, 343, 880, 881, 344]

/-- The filter of `GetUnits`: mineral fields and vespene geysers. -/
def isResource (unit : Unit) : Bool := unit.unitType ∈ neutralResources

structure ExpansionParameters where
  radiuses : List CFloat := [6.4, 5.3]
  circleStepSize : CFloat := 0.5
  clusterDistance : CFloat := 15
  /-- `debug_`, `none` if it is null. -/
  debug : Option DebugImp := none
  deriving DecidableEq, Repr

def green : Color := { r := 0, g := 255, b := 0 }

def red : Color := { r := 255, g := 0, b := 0 }

inductive Failure
  | nullCluster
  | outOfRange
  /-- `CalculateQueries` does not return in the turns it is given. -/
  | running
  deriving DecidableEq, Repr

section Expansions

variable (cos sin : CFloat → CFloat) (turns : Nat)

/-- The queries of one cluster behind those there are, with their number. -/
def clusterQueries (stepSize : CFloat) (center : Point2D) :
    List CFloat → List PlacementQuery → Nat → Option (List PlacementQuery × Nat)
  | [], queries, queryCount => some (queries, queryCount)
  | r :: radiuses, queries, queryCount => do
    let (queries, count) ← calculateQueries cos sin turns r stepSize center queries
    clusterQueries stepSize center radiuses queries (queryCount + count)

/-- The loop that makes the queries of all clusters, with the `query_size` of each. -/
def allQueries (stepSize : CFloat) (radiuses : List CFloat) :
    List UnitCluster → List PlacementQuery → List Nat → Option (List PlacementQuery × List Nat)
  | [], queries, querySize => some (queries, querySize)
  | cluster :: clusters, queries, querySize => do
    let (queries, queryCount) ←
      clusterQueries cos sin turns stepSize cluster.1.toPoint2D radiuses queries 0
    allQueries stepSize radiuses clusters queries (querySize ++ [queryCount])

/-- The spheres around a cluster. -/
def debugRadiuses (debug : Option DebugImp) (radiuses : List CFloat) (center : Point3D) :
    Option DebugImp :=
  debug.map fun d => radiuses.foldl (fun d r => d.debugSphereOut center r green) d

/-- A turn of the loop over the queries of a cluster, with the distance and the place of the
closest one so far. -/
def closestQuery (results : List Bool) (queries : List PlacementQuery) (center : Point2D)
    (best : CFloat × Point2D) (j : Nat) : Except OutOfRange (CFloat × Point2D) := do
  if !(← elementAt results j) then return best
  let p := (← elementAt queries j).targetPos
  let d := distanceSquared2D p center
  return if d < best.1 then (d, p) else best

/-- The expansion at a cluster whose queries are `size` many from `start` on. -/
def expansionLocation (results : List Bool) (queries : List PlacementQuery)
    (cluster : UnitCluster) (start size : Nat) : Except OutOfRange Point3D := do
  let (_, closest) ← (List.range' start size).foldlM
    (closestQuery results queries cluster.1.toPoint2D) (floatMax ^ 2, ({} : Point2D))
  let first ← elementAt cluster.2 0
  return ⟨closest.x, closest.y, first.pos.z⟩

/-- The loop over the clusters from `i` on. -/
def expansionLocations (results : List Bool) (queries : List PlacementQuery)
    (querySize : List Nat) : List UnitCluster → Nat → Nat → Except OutOfRange (List Point3D)
  | [], _, _ => .ok []
  | cluster :: clusters, i, startIndex => do
    let size ← elementAt querySize i
    let expansion ← expansionLocation results queries cluster startIndex size
    let rest ← expansionLocations results queries querySize clusters (i + 1) (startIndex + size)
    return expansion :: rest

/-- The expansions at the clusters, once `placement` has answered the queries. -/
def locateExpansions (placement : List PlacementQuery → List Bool)
    (parameters : ExpansionParameters) (clusters : List UnitCluster) :
    Except Failure (List Point3D) :=
  match allQueries cos sin turns parameters.circleStepSize parameters.radiuses clusters [] [] with
  | none => .error .running
  | some (queries, querySize) =>
    (expansionLocations (placement queries) queries querySize clusters 0 0).mapError
      fun _ => .outOfRange

/-- `units` are those of the observation, `placement` what the query interface answers. -/
def calculateExpansionLocations (units : List Unit)
    (placement : List PlacementQuery → List Bool) (parameters : ExpansionParameters) :
    Except Failure (List Point3D × Option DebugImp) :=
  match cluster (units.filter isResource) parameters.clusterDistance with
  | .error _ => .error .nullCluster
  | .ok clusters => do
    let locations ← locateExpansions cos sin turns placement parameters clusters
    let debug := clusters.foldl (fun debug cluster =>
      debugRadiuses debug parameters.radiuses cluster.1) parameters.debug
    return (locations, debug.map fun d =>
      locations.foldl (fun d expansion => d.debugSphereOut expansion 0.35 red) d)

end Expansions

end Search

end Sc2Api
