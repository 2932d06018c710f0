import Sc2Api.Control
import Sc2Api.GameData

/-!
# The tables of game data

The getters of `ObservationImp` that keep what a data request brings, each with its table
and its flag. What becomes of the request is an argument of the getter. A getter returns a
reference to its table, and here whether it makes the request.
-/

namespace Sc2Api

open Lib

/-- What becomes of a data request. -/
inductive DataAnswer
  | notSent
  | noResponse
  | response (error : List String) (data : Option Proto.ResponseData)
  deriving DecidableEq, Repr

/-- The message, unless the response `HasErrors()`. -/
def DataAnswer.data? : DataAnswer → Option Proto.ResponseData
  | .response [] data => data
  | _ => none

structure CachedTable (ε : Type) where
  entries : List ε := []
  cached : Bool := false
  deriving DecidableEq, Repr

/-- A getter whose messages are those that `messages` finds in a response; `load` makes
entries of them and records errors. -/
def CachedTable.get {μ ε : Type} (messages : Proto.ResponseData → List μ)
    (load : List μ → List ε × List ClientError) (table : CachedTable ε) (forceRefresh : Bool)
    (answer : DataAnswer) : Bool × CachedTable ε × List ClientError :=
  let cached := table.cached && !(forceRefresh || table.entries.length < 1)
  if cached then (false, table, [])
  else
    -- the table is cleared before the request is sent
    let cleared := ⟨[], false⟩
    match answer.data? with
    | none => (true, cleared, [])
    | some data =>
      if (messages data).length = 0 then (true, cleared, [])
      else
        let (entries, errors) := load (messages data)
        (true, ⟨entries, true⟩, errors)

/-- The two loops of `GetAbilityData`. -/
def loadAbilityData (messages : List Proto.AbilityData) : Abilities × List ClientError :=
  let entries := messages.mapIdx fun i data =>
    AbilityData.readFromProto { abilityId := UInt32.ofNat i } data
  (List.range entries.length).foldl remapAbility (entries, [])

structure DataTables where
  abilities : CachedTable AbilityData := {}
  unitTypes : CachedTable UnitTypeData := {}
  upgrades : CachedTable UpgradeData := {}
  buffs : CachedTable BuffData := {}
  effects : CachedTable EffectData := {}
  errors : List ClientError := []
  deriving DecidableEq, Repr

namespace DataTables

def getAbilityData (t : DataTables) (forceRefresh : Bool) (answer : DataAnswer) :
    Bool × DataTables :=
  let (requested, abilities, errors) :=
    t.abilities.get (·.abilities) loadAbilityData forceRefresh answer
  (requested, { t with abilities, errors := t.errors ++ errors })

/-- The position that an entry gets as its id is overwritten when the entry is read; the
same in the next two getters. -/
def getUnitTypeData (t : DataTables) (forceRefresh : Bool) (answer : DataAnswer) :
    Bool × DataTables :=
  let (requested, unitTypes, _) := t.unitTypes.get (·.units)
    (fun units => (units.map (UnitTypeData.readFromProto {}), [])) forceRefresh answer
  (requested, { t with unitTypes })

def getUpgradeData (t : DataTables) (forceRefresh : Bool) (answer : DataAnswer) :
    Bool × DataTables :=
  let (requested, upgrades, _) := t.upgrades.get (·.upgrades)
    (fun upgrades => (upgrades.map UpgradeData.readFromProto, [])) forceRefresh answer
  (requested, { t with upgrades })

def getBuffData (t : DataTables) (forceRefresh : Bool) (answer : DataAnswer) :
    Bool × DataTables :=
  let (requested, buffs, _) := t.buffs.get (·.buffs)
    (fun buffs => (buffs.map BuffData.readFromProto, [])) forceRefresh answer
  (requested, { t with buffs })

def getEffectData (t : DataTables) (forceRefresh : Bool) (answer : DataAnswer) :
    Bool × DataTables :=
  let (requested, effects, _) := t.effects.get (·.effects)
    (fun effects => (effects.map EffectData.readFromProto, [])) forceRefresh answer
  (requested, { t with effects })

/-- The getter of a table. -/
def get (t : DataTables) : DataTable → Bool → DataAnswer → Bool × DataTables
  | .abilities => t.getAbilityData
  | .unitTypes => t.getUnitTypeData
  | .upgrades => t.getUpgradeData
  | .buffs => t.getBuffData
  | .effects => t.getEffectData

/-- `ClearFlags`: the entries stay. -/
def clearFlags (t : DataTables) : DataTables :=
  { t with
    abilities := { t.abilities with cached := false }
    unitTypes := { t.unitTypes with cached := false }
    upgrades := { t.upgrades with cached := false }
    buffs := { t.buffs with cached := false }
    effects := { t.effects with cached := false } }

end DataTables

/-! ## Runs -/

inductive DataOp
  | get (table : DataTable) (forceRefresh : Bool) (answer : DataAnswer)
  | clearFlags
  deriving DecidableEq, Repr

/-- The tables under any order of calls, with whether a call makes a request. -/
def dataMachine : Machine DataTables DataOp Bool where
  step t
    | .get table forceRefresh answer =>
      let (requested, t) := t.get table forceRefresh answer
      (t, requested)
    | .clearFlags => (t.clearFlags, false)

end Sc2Api
