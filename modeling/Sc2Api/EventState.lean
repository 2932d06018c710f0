import Sc2Api.Events

/-!
# Events as differences

The purpose of observations and events, without the pool and its pointers: a
client remembers which units exist now, which existed at the observation before,
which tags it ever saw, and the two last upgrade lists. An observation shifts
this memory by one, and the events are the difference of its two halves.

`EventState.observe` and `EventState.deliver` say so over sets and functions;
`ControlImp.eventState` is what a client remembers in these terms.
-/

namespace Sc2Api

/-- What the events read of a unit. -/
structure UnitView where
  alliance : Alliance
  displayType : DisplayType
  complete : Bool
  ordered : Bool
  deriving DecidableEq, Repr

def Unit.view (u : Unit) : UnitView :=
  ⟨u.alliance, u.displayType, !(u.buildProgress < 1), !u.orders.isEmpty⟩

namespace Proto

def Unit.tagD (u : Unit) : Tag := u.tag.getD 0

def Unit.view (u : Unit) : UnitView :=
  ⟨convertAlliance (u.alliance.getD .self), convertDisplayType (u.displayType.getD .visible),
    !(u.buildProgress.getD 0 < 1), !u.orders.isEmpty⟩

/-- The last unit with a tag: the one whose record remains. -/
def lastWith (t : Tag) (units : List Unit) : Option Unit :=
  units.reverse.find? (·.tagD == t)

namespace Observation

def loop (o : Observation) : GameLoop := o.gameLoop.getD 0

def units (o : Observation) : List Unit := (o.rawData.getD {}).units

def deadUnits (o : Observation) : List Tag := (((o.rawData.getD {}).event).getD {}).deadUnits

/-- The upgrade list, when the parts that carry it are present. -/
def upgradeIds? (o : Observation) : Option (List UpgradeID) :=
  o.rawData.bind fun raw => raw.player.bind fun player =>
    player.camera.map fun _ => player.upgradeIds

def upgradeIds (o : Observation) : List UpgradeID := o.upgradeIds?.getD []

/-- What the observation shows of a tag. -/
def viewAt (o : Observation) (t : Tag) : Option UnitView := (lastWith t o.units).map (·.view)

/-- No optional part is missing. -/
def Complete (o : Observation) : Prop := o.score.isSome ∧ o.upgradeIds?.isSome

instance (o : Observation) : Decidable o.Complete :=
  inferInstanceAs (Decidable (_ ∧ _))

/-- A well-formed observation: every part is present and no tag occurs twice. -/
structure WellFormed (o : Observation) : Prop where
  playerCommon : o.playerCommon.isSome
  complete : o.Complete
  nodup : (o.units.map (·.tagD)).Nodup

theorem wellFormed_iff (o : Observation) : o.WellFormed ↔
    o.playerCommon.isSome ∧ o.Complete ∧ (o.units.map (·.tagD)).Nodup :=
  ⟨fun h => ⟨h.1, h.2, h.3⟩, fun h => ⟨h.1, h.2.1, h.2.2⟩⟩

instance (o : Observation) : Decidable o.WellFormed := decidable_of_iff _ o.wellFormed_iff.symm

/-- An observation with every part present. -/
def full (loop : GameLoop) (units : List Unit) (dead : List Tag)
    (upgrades : List UpgradeID) : Observation where
  gameLoop := some loop
  playerCommon := some { playerId := some 1 }
  score := some {}
  rawData := some {
    player := some { camera := some {}, upgradeIds := upgrades }
    units
    event := some { deadUnits := dead } }

end Observation

/-- A unit of the bot, finished and without orders. -/
def Unit.idleOwn (t : Tag) : Unit :=
  { tag := some t, alliance := some .self, buildProgress := some 1 }

end Proto

/-- What a client remembers between observations, as far as events read it. -/
structure EventState where
  loop : GameLoop
  previousLoop : GameLoop
  known : Tag → Bool
  units : Tag → Option UnitView
  before : Tag → Option UnitView
  upgrades : List UpgradeID
  upgradesPrevious : List UpgradeID
  dead : List Tag
  alerts : List Proto.Alert

namespace EventState

/-- Nothing has been seen. -/
def initial : EventState where
  loop := noGameLoop
  previousLoop := noGameLoop
  known _ := false
  units _ := none
  before _ := none
  upgrades := []
  upgradesPrevious := []
  dead := []
  alerts := []

/-! ## Observing -/

/-- Takes in an observation; a missing part stops the update where it is needed. -/
def observe (σ : EventState) (o : Proto.Observation) : EventState :=
  let σ := { σ with dead := o.deadUnits, alerts := o.alerts }
  if o.score.isNone then σ
  else
    let σ := { σ with previousLoop := σ.loop, loop := o.loop }
    if o.rawData.isNone then σ
    else
      let σ := { σ with
        before := σ.units
        units := o.viewAt
        known := fun t => (o.viewAt t).isSome || σ.known t }
      match o.upgradeIds? with
      | none => σ
      | some ids => { σ with upgradesPrevious := σ.upgrades, upgrades := ids }

/-! ## Delivering -/

/-- The units that died are no longer there. -/
def reap (σ : EventState) : EventState :=
  { σ with units := fun t => if t ∈ σ.dead then none else σ.units t }

def destroyedEvents (σ : EventState) : List Callback :=
  (σ.dead.filter σ.known).map .onUnitDestroyed

def addedEvents (t : Tag) (now : UnitView) (before : Option UnitView) : List Callback :=
  if before.isSome then []
  else if now.alliance = .enemy ∧ now.displayType = .visible then [.onUnitEnterVision t]
  else if now.alliance = .self then [.onUnitCreated t]
  else []

/-- A unit is idle anew: it is new, or it had orders, or it was unfinished, or it
was given a command. -/
def idleAnew (before : Option UnitView) (commanded : Bool) : Bool :=
  match before with
  | none => true
  | some view => view.ordered || !view.complete || commanded

def idleEvents (t : Tag) (now : UnitView) (before : Option UnitView) (commands : List Tag) :
    List Callback :=
  if !now.ordered && now.complete && idleAnew before (commands.contains t) then [.onUnitIdle t]
  else []

def completedEvents (t : Tag) (now : UnitView) (before : Option UnitView) : List Callback :=
  match before with
  | some view => if now.complete && !view.complete then [.onBuildingConstructionComplete t] else []
  | none => []

def ownEvents (t : Tag) (now : UnitView) (before : Option UnitView) (commands : List Tag) :
    List Callback :=
  if now.alliance = .self then
    idleEvents t now before commands ++ completedEvents t now before
  else []

def upgradeEvents (σ : EventState) : List Callback :=
  (σ.upgrades.filter (· ∉ σ.upgradesPrevious)).map .onUpgradeCompleted

/-- The events of an existing unit, by kind. -/
def unitEvents (σ : EventState) (event : Tag → UnitView → Option UnitView → List Callback)
    (t : Tag) : List Callback :=
  match σ.units t with
  | none => []
  | some now => event t now (σ.before t)

/-- The callbacks of one delivery, with the existing units met in a given order. -/
def callbacks (σ : EventState) (order commands : List Tag) : List Callback :=
  σ.destroyedEvents ++
    order.flatMap (σ.reap.unitEvents addedEvents) ++
    order.flatMap (σ.reap.unitEvents fun t now before => ownEvents t now before commands) ++
    σ.upgradeEvents ++
    σ.alerts.map ControlImp.alertEvent ++
    [.onStep]

/-- The tags of the units that exist, each once. -/
structure Lists (σ : EventState) (order : List Tag) : Prop where
  nodup : order.Nodup
  mem : ∀ t, t ∈ order ↔ (σ.units t).isSome

/-- A delivery that is due: the game loop moved with the last observation. -/
def Due (σ : EventState) : Prop := σ.loop ≠ σ.previousLoop

instance (σ : EventState) : Decidable σ.Due := inferInstanceAs (Decidable (_ ≠ _))

/-- Issuing events: a delivery that is due is made, over some listing of the existing
units, and forgets the dead; otherwise nothing happens. -/
inductive Issues (σ : EventState) (commands : List Tag) : List Callback → EventState → Prop
  | delivered (due : σ.Due) (order : List Tag) (lists : σ.reap.Lists order) :
    Issues σ commands (σ.callbacks order commands) σ.reap
  | skipped (notDue : ¬σ.Due) : Issues σ commands [] σ

theorem Issues.exists_order {σ σ' : EventState} {commands : List Tag} {log : List Callback}
    (h : σ.Issues commands log σ') (hdue : σ.Due) :
    ∃ order, σ.reap.Lists order ∧ log = σ.callbacks order commands ∧ σ' = σ.reap := by
  cases h with
  | delivered _ order lists => exact ⟨order, lists, rfl, rfl⟩
  | skipped notDue => exact absurd hdue notDue

theorem Issues.log_of_not_due {σ σ' : EventState} {commands : List Tag} {log : List Callback}
    (h : σ.Issues commands log σ') (hdue : ¬σ.Due) : log = [] := by
  cases h with
  | delivered due => exact absurd due hdue
  | skipped => rfl

end EventState

/-! ## The memory of a client -/

/-- The record of the existing unit with a tag. -/
def UnitPool.existingUnit (p : UnitPool) (t : Tag) : Option Unit :=
  (p.getExistingUnit t).bind p.unitPool.read?

/-- What a client remembers, read off its pool, its previous map and its lists. -/
def ControlImp.eventState (c : ControlImp) : EventState where
  loop := c.observationImp.currentGameLoop
  previousLoop := c.observationImp.previousGameLoop
  known t := (c.observationImp.unitPool.getUnit t).isSome
  units t := (c.observationImp.unitPool.existingUnit t).map (·.view)
  before t := (c.observationImp.unitsPreviousMap.lookup t).map (·.view)
  upgrades := c.observationImp.upgrades
  upgradesPrevious := c.observationImp.upgradesPrevious
  dead := (c.observation.getD {}).deadUnits
  alerts := (c.observation.getD {}).alerts

end Sc2Api
