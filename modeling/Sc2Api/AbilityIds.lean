import Sc2Api.ClientRuns
import Sc2Api.EventState

/-!
# The ability ids that a bot gets to see

Ability ids are shown in the orders of units, in the three lists of actions and in the
answers to queries. `fetches` and `abilityMachine` answer every observation and every query
with what they make a bot see.
-/

namespace Sc2Api

open Lib

/-- `GetGeneralizedAbilityID` with a table at hand. -/
def generalizedAbilityID (abilities : Abilities) (abilityId : UInt32) : AbilityID :=
  if abilityId = 0 then abilityId
  else
    match abilities[abilityId.toNat]? with
    | none => abilityId
    | some ability =>
      if ability.remapsToAbilityId ≠ 0 then ability.remapsToAbilityId else abilityId

/-- What `UseGeneralizedAbility(value)` promises of an id. -/
def promisedID (abilities : Abilities) (value : Bool) (abilityId : UInt32) : AbilityID :=
  if value then generalizedAbilityID abilities abilityId else abilityId

def UnitOrder.mapId (h : AbilityID → AbilityID) (order : UnitOrder) : UnitOrder :=
  { order with abilityId := h order.abilityId }

/-! ## Actions -/

def ActionRaw.mapId (h : AbilityID → AbilityID) (action : ActionRaw) : ActionRaw :=
  { action with abilityId := h action.abilityId }

def SpatialUnitCommand.mapId (h : AbilityID → AbilityID) (command : SpatialUnitCommand) :
    SpatialUnitCommand :=
  { command with abilityId := h command.abilityId }

/-- `GetRawActions()`, and the unit commands of `GetFeatureLayerActions()` and
`GetRenderedActions()`. -/
structure ShownActions where
  rawActions : List ActionRaw := []
  featureLayer : List SpatialUnitCommand := []
  rendered : List SpatialUnitCommand := []
  deriving DecidableEq, Repr

namespace ShownActions

def append (a b : ShownActions) : ShownActions :=
  ⟨a.rawActions ++ b.rawActions, a.featureLayer ++ b.featureLayer, a.rendered ++ b.rendered⟩

def mapIds (h : AbilityID → AbilityID) (a : ShownActions) : ShownActions :=
  ⟨a.rawActions.map (·.mapId h), a.featureLayer.map (·.mapId h), a.rendered.map (·.mapId h)⟩

def ids (a : ShownActions) : List AbilityID :=
  a.rawActions.map (·.abilityId) ++ a.featureLayer.map (·.abilityId) ++
    a.rendered.map (·.abilityId)

end ShownActions

def ObservationImp.shownActions (s : ObservationImp) : ShownActions :=
  ⟨s.rawActions, s.featureLayerActions.unitCommands, s.renderedActions.unitCommands⟩

/-! ## Fetching observations -/

/-- An observation that is fetched, with the orders in which the tables are walked. -/
structure Fetch where
  observation : Proto.Observation
  response : Proto.ResponseObservation := {}
  orders : UpdateOrders := {}

namespace Fetch

def op (f : Fetch) : ClientOp :=
  .getObservation f.orders (some (.ofObservation f.observation f.response))

def loop (f : Fetch) : GameLoop := f.observation.loop

/-- The actions that the game reports with an observation, as it reports them. -/
def reported (f : Fetch) : ShownActions where
  rawActions := convertRawActions f.response []
  featureLayer := (convertFeatureLayerActions f.response {}).unitCommands
  rendered := (convertRenderedActions f.response {}).unitCommands

/-- The actions reported with several observations, in their order. -/
def allReported (fs : List Fetch) : ShownActions where
  rawActions := fs.flatMap (·.reported.rawActions)
  featureLayer := fs.flatMap (·.reported.featureLayer)
  rendered := fs.flatMap (·.reported.rendered)

/-- Adds an observation to those of its game loop. -/
def joinFrame (frame : List Fetch) (f : Fetch) : List Fetch :=
  (if frame.getLast?.map (·.loop) = some f.loop then frame else []) ++ [f]

/-- The last of the observations, with those right before it of the same game loop. -/
def lastFrame (fs : List Fetch) : List Fetch := fs.foldl joinFrame []

/-- The actions reported in the game loop of the observation at an index, up to it. -/
def reportedInFrame (fs : List Fetch) (k : Nat) : ShownActions :=
  allReported (lastFrame (fs.take (k + 1)))

/-- The orders of the unit with a tag, as the game sends them. -/
def sentOrders (f : Fetch) (t : Tag) : List UnitOrder :=
  ((Proto.lastWith t f.observation.units).map (·.orders.map convertOrder)).getD []

end Fetch

/-- A client that fetches observations, with the actions it shows after each. -/
def fetches : Machine ControlImp Fetch ShownActions where
  step c f :=
    ((client.step c f.op).1, (client.step c f.op).1.observationImp.shownActions)

/-! ## Queries -/

structure AvailableAbility where
  abilityId : AbilityID := 0
  requiresPoint : Bool := false
  deriving DecidableEq, Repr

structure AvailableAbilities where
  abilities : List AvailableAbility := []
  unitTag : Tag := 0
  unitTypeId : UnitTypeID := 0
  deriving DecidableEq, Repr

/-- What becomes of the request of a query. -/
inductive QueryAnswer
  | notSent
  | noResponse
  | otherResponse
  | response (query : Proto.ResponseQuery)
  deriving DecidableEq, Repr

namespace QueryImp

def convertAvailableAbility (ability : Proto.AvailableAbility) :
    StateM AbilityTable AvailableAbility := do
  return {
    abilityId := ← getGeneralizedAbilityID (ability.abilityId.getD 0).toUInt32
    requiresPoint := ability.requiresPoint.getD false }

def convertAvailableAbilities (abilities : Proto.ResponseQueryAvailableAbilities) :
    StateM AbilityTable AvailableAbilities := do
  return {
    abilities := ← abilities.abilities.mapM convertAvailableAbility
    unitTag := abilities.unitTag.getD 0
    unitTypeId := abilities.unitTypeId.getD 0 }

/-- The units that the entries of a response are not about. An entry beyond the units asked
for, which the source compares with what lies behind them, counts as such. -/
def mismatches (units : List Tag) (query : Proto.ResponseQuery) : List ClientError :=
  query.abilities.zipIdx.filterMap fun (abilities, i) =>
    if units[i]? = some (abilities.unitTag.getD 0) then none else some .errorSC2

/-- `GetAbilitiesForUnits` with the errors it records itself. -/
def getAbilitiesForUnits (units : List Tag) (answer : QueryAnswer) :
    StateM AbilityTable (List AvailableAbilities × List ClientError) :=
  if units = [] then return ([], [])
  else
    match answer with
    | .notSent | .noResponse => return ([], [])
    | .otherResponse => return ([], [.invalidResponse])
    | .response query => do
      return (← query.abilities.mapM convertAvailableAbilities, mismatches units query)

end QueryImp

/-! ## Runs -/

/-- A call of `GetAbilitiesForUnits`. -/
structure AbilityQuery where
  units : List Tag
  answer : QueryAnswer
  deriving DecidableEq, Repr

namespace AbilityQuery

/-- The abilities that the game sends for the query, those that are read. -/
def sent (q : AbilityQuery) : List Proto.ResponseQueryAvailableAbilities :=
  match q.units, q.answer with
  | [], _ => []
  | _, .response query => query.abilities
  | _, _ => []

/-- The ids it sends. -/
def ids (q : AbilityQuery) : List AbilityID :=
  q.sent.flatMap fun abilities =>
    abilities.abilities.map fun ability => (ability.abilityId.getD 0).toUInt32

/-- What a bot should see of an answer. -/
def expected (h : AbilityID → AbilityID) (q : AbilityQuery) : List AvailableAbilities :=
  q.sent.map fun abilities => {
    abilities := abilities.abilities.map fun ability => {
      abilityId := h (ability.abilityId.getD 0).toUInt32
      requiresPoint := ability.requiresPoint.getD false }
    unitTag := abilities.unitTag.getD 0
    unitTypeId := abilities.unitTypeId.getD 0 }

end AbilityQuery

inductive AbilityOp
  | useGeneralizedAbility (value : Bool)
  | observe (fetch : Fetch)
  | query (query : AbilityQuery)

namespace AbilityOp

/-- The observations of a run, each with the setting under which it is fetched. -/
def observations : Bool → List AbilityOp → List (Bool × Fetch)
  | _, [] => []
  | _, useGeneralizedAbility value :: ops => observations value ops
  | value, observe f :: ops => (value, f) :: observations value ops
  | value, query _ :: ops => observations value ops

/-- The queries of a run, each with the setting under which it is made. -/
def queries : Bool → List AbilityOp → List (Bool × AbilityQuery)
  | _, [] => []
  | _, useGeneralizedAbility value :: ops => queries value ops
  | value, observe _ :: ops => queries value ops
  | value, query q :: ops => (value, q) :: queries value ops

end AbilityOp

/-- What an operation lets a bot see: the actions and the orders of every existing unit, or
the answer to its query. -/
inductive AbilitiesShown
  | nothing
  | observed (actions : ShownActions) (orders : Tag → List UnitOrder)
  | queried (abilities : List AvailableAbilities)

namespace AbilitiesShown

def actions? : AbilitiesShown → Option ShownActions
  | observed actions _ => some actions
  | _ => none

def orders? : AbilitiesShown → Option (Tag → List UnitOrder)
  | observed _ orders => some orders
  | _ => none

def answer? : AbilitiesShown → Option (List AvailableAbilities)
  | queried abilities => some abilities
  | _ => none

end AbilitiesShown

/-- The orders of an existing unit. -/
def ObservationImp.shownOrders (s : ObservationImp) (t : Tag) : List UnitOrder :=
  ((s.unitPool.existingUnit t).map (·.orders)).getD []

namespace ControlImp

/-- `UseGeneralizedAbility` -/
def useGeneralizedAbility (c : ControlImp) (value : Bool) : ControlImp :=
  { c with observationImp := { c.observationImp with useGeneralizedAbility := value } }

/-- A query of the ability table, which may load it. -/
def queryAbilities (c : ControlImp) (q : AbilityQuery) : List AvailableAbilities × ControlImp :=
  let ((abilities, _), abilityTable) :=
    (QueryImp.getAbilitiesForUnits q.units q.answer).run c.observationImp.abilityTable
  (abilities, { c with observationImp := { c.observationImp with abilityTable } })

end ControlImp

/-- A client whose bot changes the setting, fetches observations and queries abilities. -/
def abilityMachine : Machine ControlImp AbilityOp AbilitiesShown where
  step c
    | .useGeneralizedAbility value => (c.useGeneralizedAbility value, .nothing)
    | .observe f =>
      let (c, actions) := fetches.step c f
      (c, .observed actions c.observationImp.shownOrders)
    | .query q =>
      let (abilities, c) := c.queryAbilities q
      (c, .queried abilities)

end Sc2Api
