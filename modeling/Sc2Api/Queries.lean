import Sc2Api.AbilityIds

/-!
# Queries

The three batch operations of `QueryImp` and the forms for a single query, with the request
each builds: the game makes of the request what it likes. Reading an element that a list
does not have is the error `OutOfRange`.
-/

namespace Sc2Api

/-! ## Messages -/

namespace Proto

/-- The `oneof start` of a pathing query. -/
inductive PathingStart
  | startPos (pos : Point)
  | unitTag (tag : Tag)
  deriving DecidableEq, Repr

structure RequestQueryPathing where
  start : Option PathingStart := none
  endPos : Option Point := none
  deriving DecidableEq, Repr

structure RequestQueryAvailableAbilities where
  unitTag : Option Tag := none
  deriving DecidableEq, Repr

structure RequestQueryBuildingPlacement where
  abilityId : Option Int32 := none
  targetPos : Option Point := none
  placingUnitTag : Option Tag := none
  deriving DecidableEq, Repr

structure RequestQuery where
  pathing : List RequestQueryPathing := []
  abilities : List RequestQueryAvailableAbilities := []
  placements : List RequestQueryBuildingPlacement := []
  ignoreResourceRequirements : Option Bool := none
  deriving DecidableEq, Repr

end Proto

structure PathingQuery where
  startUnitTag : Tag := 0
  start : Point2D := {}
  end_ : Point2D := {}
  deriving DecidableEq, Repr

structure PlacementQuery where
  ability : AbilityID
  targetPos : Point2D
  placingUnitTag : Tag := 0
  deriving DecidableEq, Repr

/-- What becomes of the request of a query, with the error strings of a response. -/
inductive QueryOutcome
  | notSent
  | noResponse
  | response (error : List String) (query : Option Proto.ResponseQuery)
  deriving DecidableEq, Repr

namespace QueryOutcome

/-- The message, unless the response `HasErrors()`. -/
def message? : QueryOutcome → Option Proto.ResponseQuery
  | .response [] query => query
  | _ => none

/-- What is left when error strings are not looked at. -/
def answer : QueryOutcome → QueryAnswer
  | .notSent => .notSent
  | .noResponse => .noResponse
  | .response _ none => .otherResponse
  | .response _ (some query) => .response query

end QueryOutcome

/-- The game, which answers a request. -/
abbrev QueryGame := Proto.RequestQuery → QueryOutcome

/-! ## Reading elements -/

/-- A read of an element that is not there. -/
inductive OutOfRange
  | outOfRange
  deriving DecidableEq, Repr

/-- `list[i]`. -/
def elementAt {α : Type} (list : List α) (i : Nat) : Except OutOfRange α :=
  match list[i]? with
  | none => .error .outOfRange
  | some x => .ok x

namespace QueryInterface

/-! ## Abilities -/

/-- The loop of `GetAbilitiesForUnits` from the entry `i` on, which compares each entry with
the unit at its index. -/
def abilitiesLoop (units : List Tag) : Nat → List Proto.ResponseQueryAvailableAbilities →
    AbilityTable →
    Except OutOfRange ((List AvailableAbilities × List ClientError) × AbilityTable)
  | _, [], table => .ok (([], []), table)
  | i, entry :: entries, table => do
    let tag ← elementAt units i
    let errors := if entry.unitTag.getD 0 ≠ tag then [ClientError.errorSC2] else []
    let (abilities, table) := (QueryImp.convertAvailableAbilities entry).run table
    let ((rest, errors'), table) ← abilitiesLoop units (i + 1) entries table
    return ((abilities :: rest, errors ++ errors'), table)

def requestAbilities (units : List Tag) (ignoreResourceRequirements : Bool) :
    Proto.RequestQuery where
  ignoreResourceRequirements := some ignoreResourceRequirements
  abilities := units.map fun tag => { unitTag := some tag }

/-- Whether the response has error strings is not asked here. -/
def getAbilitiesForUnits (units : List Tag) (ignoreResourceRequirements : Bool)
    (game : QueryGame) (table : AbilityTable) :
    Except OutOfRange ((List AvailableAbilities × List ClientError) × AbilityTable) :=
  if units = [] then .ok (([], []), table)
  else
    match (game (requestAbilities units ignoreResourceRequirements)).answer with
    | .notSent | .noResponse => .ok (([], []), table)
    | .otherResponse => .ok (([], [.invalidResponse]), table)
    | .response query => abilitiesLoop units 0 query.abilities table

/-! ## Pathing and placement -/

/-- The batch operations for pathing and placement once a request for `n` results is built:
`results` are their messages in a response, of which `read` takes the value. -/
def checkedResults {μ ρ : Type} (results : Proto.ResponseQuery → List μ) (read : μ → ρ)
    (failure : ρ) (n : Nat) (outcome : QueryOutcome) : List ρ :=
  match outcome.message? with
  | none => List.replicate n failure
  | some responseQuery =>
    if (results responseQuery).length ≠ n then List.replicate n failure
    else (results responseQuery).map read

/-- A query starts at its unit, if it has one. -/
def pathingStart (query : PathingQuery) : Proto.PathingStart :=
  if query.startUnitTag ≠ 0 then .unitTag query.startUnitTag
  else .startPos { x := some query.start.x, y := some query.start.y }

def requestPathing (queries : List PathingQuery) : Proto.RequestQuery where
  pathing := queries.map fun query => {
    start := some (pathingStart query)
    endPos := some { x := some query.end_.x, y := some query.end_.y } }

def pathingDistance (queries : List PathingQuery) (game : QueryGame) : List CFloat :=
  checkedResults (·.pathing) (fun result => result.distance.getD 0) 0 queries.length
    (game (requestPathing queries))

def pathingDistanceFrom (start end_ : Point2D) (game : QueryGame) : Except OutOfRange CFloat :=
  elementAt (pathingDistance [{ start, end_ }] game) 0

def pathingDistanceFromUnit (startUnit : Tag) (end_ : Point2D) (game : QueryGame) :
    Except OutOfRange CFloat :=
  elementAt (pathingDistance [{ startUnitTag := startUnit, end_ }] game) 0

def requestPlacement (queries : List PlacementQuery) : Proto.RequestQuery where
  placements := queries.map fun query => {
    placingUnitTag := some query.placingUnitTag
    abilityId := some query.ability.toInt32
    targetPos := some { x := some query.targetPos.x, y := some query.targetPos.y } }

def placement (queries : List PlacementQuery) (game : QueryGame) : List Bool :=
  checkedResults (·.placements) (fun result => result.result.getD .success = .success) false
    queries.length (game (requestPlacement queries))

/-- `unit` may be a null pointer. -/
def placementOf (ability : AbilityID) (targetPos : Point2D) (unit : Option Tag)
    (game : QueryGame) : Except OutOfRange Bool :=
  elementAt (placement [{ ability, targetPos, placingUnitTag := unit.getD 0 }] game) 0

end QueryInterface

end Sc2Api
