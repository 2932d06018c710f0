import Sc2Api.Clients

/-!
# The batch of actions

`ActionImp` collects what a bot wants done in one request, which it makes when the first
action is added and drops when it is sent. A `Unit*` argument is the tag it points to,
`none` for a null pointer.
-/

namespace Sc2Api

namespace Proto

/-- `ActionChat.Channel` -/
inductive ChatChannel
  | broadcast
  | team
  deriving DecidableEq, Repr

structure ActionChat where
  channel : Option ChatChannel := none
  message : Option String := none
  deriving DecidableEq, Repr

/-- An `Action` as a client sends it, which may also be a chat message. -/
structure ActionSent extends Action where
  actionChat : Option ActionChat := none
  deriving DecidableEq, Repr

/-- `action_raw().unit_command().unit_tags()`, empty unless the action is a unit command. -/
def ActionSent.commandTags (action : ActionSent) : List Tag :=
  match action.actionRaw with
  | some (.unitCommand command) => command.unitTags
  | _ => []

end Proto

inductive ChatChannel
  | all
  | team
  deriving DecidableEq, Repr

def convertChatChannel : ChatChannel → Proto.ChatChannel
  | .all => .broadcast
  | .team => .team

/-- `requestActions` are the actions of the request held, `none` while there is none. -/
structure ActionImp where
  requestActions : Option (List Proto.ActionSent) := none
  commands : List Tag := []
  deriving DecidableEq, Repr

namespace ActionImp

/-! ## Adding actions -/

/-- `GetRequestAction()->add_actions()`, filled in. -/
def addAction (a : ActionImp) (action : Proto.ActionSent) : ActionImp :=
  { a with requestActions := some (a.requestActions.getD [] ++ [action]) }

def toggleAutocast (a : ActionImp) (unitTags : List Tag) (ability : AbilityID) : ActionImp :=
  a.addAction { actionRaw := some (.toggleAutocast (some ability.toInt32) unitTags) }

/-- `ToggleAutocast` for one unit. -/
def toggleAutocastUnit (a : ActionImp) (unitTag : Tag) (ability : AbilityID) : ActionImp :=
  a.toggleAutocast [unitTag] ability

def sendChat (a : ActionImp) (message : String) (channel : ChatChannel) : ActionImp :=
  a.addAction { actionChat := some {
    message := some message
    channel := some (convertChatChannel channel) } }

/-- What the `UnitCommand` overloads for several units have in common. -/
def addUnitCommand (a : ActionImp) (units : List (Option Tag)) (ability : AbilityID)
    (target : Option Proto.Target) (queuedCommand : Bool) : ActionImp :=
  a.addAction { actionRaw := some (.unitCommand {
    abilityId := some ability.toInt32
    target
    queueCommand := some queuedCommand
    unitTags := units.reduceOption }) }

def unitsCommand (a : ActionImp) (units : List (Option Tag)) (ability : AbilityID)
    (queuedCommand : Bool := false) : ActionImp :=
  a.addUnitCommand units ability none queuedCommand

def unitsCommandPoint (a : ActionImp) (units : List (Option Tag)) (ability : AbilityID)
    (point : Point2D) (queuedCommand : Bool := false) : ActionImp :=
  a.addUnitCommand units ability (some (.worldSpacePos { x := some point.x, y := some point.y }))
    queuedCommand

/-- The target of this overload is dereferenced without a check. -/
def unitsCommandTarget (a : ActionImp) (units : List (Option Tag)) (ability : AbilityID)
    (target : Tag) (queuedCommand : Bool := false) : ActionImp :=
  a.addUnitCommand units ability (some (.unitTag target)) queuedCommand

def unitCommand (a : ActionImp) (unit : Option Tag) (ability : AbilityID)
    (queuedCommand : Bool := false) : ActionImp :=
  match unit with
  | none => a
  | some _ => a.unitsCommand [unit] ability queuedCommand

def unitCommandPoint (a : ActionImp) (unit : Option Tag) (ability : AbilityID) (point : Point2D)
    (queuedCommand : Bool := false) : ActionImp :=
  match unit with
  | none => a
  | some _ => a.unitsCommandPoint [unit] ability point queuedCommand

def unitCommandTarget (a : ActionImp) (unit : Option Tag) (ability : AbilityID)
    (target : Option Tag) (queuedCommand : Bool := false) : ActionImp :=
  match unit, target with
  | some _, some target => a.unitsCommandTarget [unit] ability target queuedCommand
  | _, _ => a

/-! ## Sending -/

/-- `SendActions` of a client `c`: the request it sent, if any, and what became of both. -/
def sendActions (a : ActionImp) (c : Control) :
    Option (List Proto.ActionSent) × ActionImp × Control :=
  let a := { a with commands := [] }
  match a.requestActions with
  | none => (none, a, c)
  | some actions =>
    let (sent, c) := c.sendRequest .action
    if !sent then (none, a, c)
    else
      let a := { a with commands := actions.flatMap Proto.ActionSent.commandTags }
      (some actions, { a with requestActions := none }, c.waitForResponse.2)

end ActionImp

/-! ## Calls -/

/-- What a bot can do with its `ActionInterface`. The client at the time of a `SendActions`
may be in any state. -/
inductive ActionCall
  | toggleAutocast (unitTags : List Tag) (ability : AbilityID)
  | toggleAutocastUnit (unitTag : Tag) (ability : AbilityID)
  | sendChat (message : String) (channel : ChatChannel)
  | unitsCommand (units : List (Option Tag)) (ability : AbilityID) (queuedCommand : Bool)
  | unitsCommandPoint (units : List (Option Tag)) (ability : AbilityID) (point : Point2D)
      (queuedCommand : Bool)
  | unitsCommandTarget (units : List (Option Tag)) (ability : AbilityID) (target : Tag)
      (queuedCommand : Bool)
  | unitCommand (unit : Option Tag) (ability : AbilityID) (queuedCommand : Bool)
  | unitCommandPoint (unit : Option Tag) (ability : AbilityID) (point : Point2D)
      (queuedCommand : Bool)
  | unitCommandTarget (unit : Option Tag) (ability : AbilityID) (target : Option Tag)
      (queuedCommand : Bool)
  | sendActions (c : Control)

/-- The actions as a machine, which answers with the request that was sent. -/
def actionMachine : Lib.Machine ActionImp ActionCall (Option (List Proto.ActionSent)) where
  step a
    | .toggleAutocast unitTags ability => (a.toggleAutocast unitTags ability, none)
    | .toggleAutocastUnit unitTag ability => (a.toggleAutocastUnit unitTag ability, none)
    | .sendChat message channel => (a.sendChat message channel, none)
    | .unitsCommand units ability queued => (a.unitsCommand units ability queued, none)
    | .unitsCommandPoint units ability point queued =>
      (a.unitsCommandPoint units ability point queued, none)
    | .unitsCommandTarget units ability target queued =>
      (a.unitsCommandTarget units ability target queued, none)
    | .unitCommand unit ability queued => (a.unitCommand unit ability queued, none)
    | .unitCommandPoint unit ability point queued =>
      (a.unitCommandPoint unit ability point queued, none)
    | .unitCommandTarget unit ability target queued =>
      (a.unitCommandTarget unit ability target queued, none)
    | .sendActions c => ((a.sendActions c).2.1, (a.sendActions c).1)

end Sc2Api
