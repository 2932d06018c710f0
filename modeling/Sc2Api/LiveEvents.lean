import Sc2Api.Actions
import Sc2Api.ClientRuns

/-!
# Events with the bot at work

`IssueEvents` gets the vector of `Commands()` itself, not a copy, and every callback may
send actions, which clears and refills that vector. Here the callbacks are made one by
one, each with what the bot does with its actions in it.
-/

namespace Sc2Api

/-- The actions of a bot, and what its callbacks still to come do with them. -/
structure LiveActions where
  actions : ActionImp
  turns : Stream' (List ActionCall)

namespace LiveActions

/-- `Commands()` -/
def commands (b : LiveActions) : List Tag := b.actions.commands

def callback (b : LiveActions) : LiveActions where
  actions := actionMachine.final b.actions b.turns.head
  turns := b.turns.tail

/-- After `n` callbacks. -/
def after : Nat → LiveActions → LiveActions
  | 0, b => b
  | n + 1, b => after n b.callback

/-- After these callbacks. -/
def made (b : LiveActions) (callbacks : List Callback) : LiveActions :=
  b.after callbacks.length

end LiveActions

namespace ControlImp

/-- The loop of `IssueEvents` over the records of the bot's own units. -/
def issueUnitEventsLive (previous : AList fun _ : Tag => Unit) :
    List Unit → LiveActions → List Callback × LiveActions
  | [], b => ([], b)
  | unit :: units, b =>
    let idle := issueIdleEvent previous unit b.commands
    let b := b.made idle
    let completed := issueBuildingCompletedEvent previous unit
    let b := b.made completed
    let (callbacks, b) := issueUnitEventsLive previous units b
    (idle ++ completed ++ callbacks, b)

/-- The records of `GetUnits(Unit::Alliance::Self)`. -/
def ownUnits (c : ControlImp) (order : UnitPool.Order) : List Unit :=
  (getUnits c.observationImp .self order).map c.observationImp.unitPool.deref

/-- `IssueEvents(Commands())` of a bot. -/
def issueEventsLive (c : ControlImp) (order : UnitPool.Order) (b : LiveActions) :
    Bool × List Callback × ControlImp × LiveActions :=
  if c.observationImp.currentGameLoop = c.observationImp.previousGameLoop then (false, [], c, b)
  else
    let (destroyed, c) := c.issueUnitDestroyedEvents
    let b := b.made destroyed
    let added := c.issueUnitAddedEvents order
    let b := b.made added
    let (units, b) :=
      issueUnitEventsLive c.observationImp.unitsPreviousMap (c.ownUnits order) b
    let upgrades := c.issueUpgradeEvents
    let alerts := c.issueAlertEvents
    let b := b.made (upgrades ++ alerts ++ [.onStep])
    (true, destroyed ++ added ++ units ++ upgrades ++ alerts ++ [.onStep], c, b)

end ControlImp

end Sc2Api
