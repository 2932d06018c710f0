import Sc2Api.EventState

/-!
# The difference of two observations

What the callbacks of a step should be, read off the observations alone: the
units that died, those that are new, those of the bot that fell idle or were
finished, the new upgrades and the alerts, in this order and then `OnStep`. The
units of the newer observation are met in some order of their own.
-/

namespace Sc2Api

namespace Proto

def Unit.progress (u : Unit) : CFloat := u.buildProgress.getD 0

def Unit.isOwn (u : Unit) : Bool := u.alliance.getD .self = .self

def Unit.isVisibleEnemy (u : Unit) : Bool :=
  u.alliance.getD .self = .enemy ∧ u.displayType.getD .visible = .visible

namespace Observation

/-- The units that are not reported dead. -/
def alive (o : Observation) : List Unit := o.units.filter (·.tagD ∉ o.deadUnits)

end Observation

end Proto

namespace Difference

/-- The units of the last observation before a step. -/
def previousUnits (earlier : List Proto.Observation) : List Proto.Unit :=
  (earlier.getLast?.map (·.alive)).getD []

def previousUpgrades (earlier : List Proto.Observation) : List UpgradeID :=
  (earlier.getLast?.map (·.upgradeIds)).getD []

/-- The tag occurred in one of the observations. -/
def Seen (observations : List Proto.Observation) (t : Tag) : Prop :=
  ∃ o ∈ observations, ∃ u ∈ o.units, u.tagD = t

instance (observations : List Proto.Observation) (t : Tag) : Decidable (Seen observations t) :=
  inferInstanceAs (Decidable (∃ o ∈ observations, ∃ u ∈ o.units, u.tagD = t))

/-- The unit was not there before. -/
def IsNew (previous : List Proto.Unit) (u : Proto.Unit) : Prop :=
  ∀ v ∈ previous, v.tagD ≠ u.tagD

/-- A finished unit without orders that is new, had orders, was unfinished or was
given a command. -/
def IsIdle (previous : List Proto.Unit) (commands : List Tag) (u : Proto.Unit) : Prop :=
  u.orders = [] ∧ 1 ≤ u.progress ∧
    (IsNew previous u ∨ (∃ v ∈ previous, v.tagD = u.tagD ∧ (v.orders ≠ [] ∨ v.progress < 1)) ∨
      u.tagD ∈ commands)

/-- A finished unit that was there unfinished. -/
def IsFinished (previous : List Proto.Unit) (u : Proto.Unit) : Prop :=
  1 ≤ u.progress ∧ ∃ v ∈ previous, v.tagD = u.tagD ∧ v.progress < 1

instance (previous : List Proto.Unit) (u : Proto.Unit) : Decidable (IsNew previous u) :=
  inferInstanceAs (Decidable (∀ v ∈ previous, v.tagD ≠ u.tagD))

instance (previous : List Proto.Unit) (commands : List Tag) (u : Proto.Unit) :
    Decidable (IsIdle previous commands u) :=
  inferInstanceAs (Decidable (_ ∧ _ ∧ _))

instance (previous : List Proto.Unit) (u : Proto.Unit) : Decidable (IsFinished previous u) :=
  inferInstanceAs (Decidable (_ ∧ _))

def addedCallbacks (previous : List Proto.Unit) (u : Proto.Unit) : List Callback :=
  if IsNew previous u then
    if u.isVisibleEnemy then [.onUnitEnterVision u.tagD]
    else if u.isOwn then [.onUnitCreated u.tagD]
    else []
  else []

def ownCallbacks (previous : List Proto.Unit) (commands : List Tag) (u : Proto.Unit) :
    List Callback :=
  (if IsIdle previous commands u then [.onUnitIdle u.tagD] else []) ++
    if IsFinished previous u then [.onBuildingConstructionComplete u.tagD] else []

/-- The callbacks of a step whose observation `o` follows the `earlier` ones, with
the units of `o` met in the order `units`. -/
def callbacks (earlier : List Proto.Observation) (o : Proto.Observation)
    (commands : List Tag) (units : List Proto.Unit) : List Callback :=
  (o.deadUnits.filter fun t => Seen (earlier ++ [o]) t).map .onUnitDestroyed ++
    units.flatMap (addedCallbacks (previousUnits earlier)) ++
    (units.filter (·.isOwn)).flatMap (ownCallbacks (previousUnits earlier) commands) ++
    (o.upgradeIds.filter (· ∉ previousUpgrades earlier)).map .onUpgradeCompleted ++
    o.alerts.map ControlImp.alertEvent ++
    [.onStep]

/-- The callbacks are the difference that `o` makes. -/
def IsDifference (earlier : List Proto.Observation) (o : Proto.Observation)
    (commands : List Tag) (log : List Callback) : Prop :=
  ∃ units, units.Perm o.alive ∧ log = callbacks earlier o commands units

end Difference

end Sc2Api
