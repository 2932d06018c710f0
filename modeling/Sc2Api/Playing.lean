import Sc2Api.Actions
import Sc2Api.BotRuns
import Sc2Api.ClientRuns

/-!
# Bots at their clients

What the coordinator does with an agent while a game lasts. At its start the client has fetched
an observation, the bot is told of the game, and events are issued; in a later turn events are
issued and the actions are sent. The bot sees what its client has of the game.
-/

namespace Sc2Api

open Lib

/-- A callback of the client as the bots have it. In the others they do nothing. -/
def Callback.forBot (v : BotView) : Callback → Option BotCallback
  | .onUnitIdle unit => (v.getUnit unit).map .onUnitIdle
  | .onUpgradeCompleted upgrade => some (.onUpgradeCompleted upgrade)
  | .onNuclearLaunchDetected => some .onNuclearLaunchDetected
  | .onStep => some .onStep
  | _ => none

/-- The view has what `Observation()` returns. The existing units are met in this order. The
start location, which `ControlImp::OnGameStart` sets, and the info of the game may be any. -/
structure BotView.Shows (v : BotView) (c : ControlImp) (order : UnitPool.Order) : Prop where
  units : v.units =
    (c.observationImp.unitPool.existingUnits order).map c.observationImp.unitPool.deref
  gameLoop : v.gameLoop = c.observationImp.currentGameLoop
  minerals : v.minerals = c.observationImp.minerals
  vespene : v.vespene = c.observationImp.vespene
  foodCap : v.foodCap = c.observationImp.foodCap
  foodUsed : v.foodUsed = c.observationImp.foodUsed
  foodArmy : v.foodArmy = c.observationImp.foodArmy
  foodWorkers : v.foodWorkers = c.observationImp.foodWorkers
  upgrades : v.upgrades = c.observationImp.upgrades
  powerSources : v.powerSources = c.observationImp.powerSources
  observation : v.observation = c.observation

/-- `RequestJoinGame`, and what the bot sees in `OnGameStart`. -/
structure JoinedGame where
  setup : PlayerSetup
  settings : InterfaceSettings
  ports : Ports
  view : BotView

/-- A turn, in which a game may start. `answer` is what becomes of the request for an
observation, `view` what the bot sees while events are issued. -/
structure PlayTurn where
  start : Option JoinedGame := none
  orders : UpdateOrders := {}
  answer : Option Proto.Response
  order : UnitPool.Order := default
  view : BotView
  control : Control := {}

/-- What a turn has brought about. -/
structure PlayRecord where
  events : List (BotView × BotCallback)
  calls : List (List ActionCall)
  sent : Option (List Proto.ActionSent)

structure Player (κ : Type) where
  client : ControlImp
  state : BotState κ
  actions : ActionImp := {}

namespace PlayTurn

/-- The client once it has fetched the observation. -/
def fetch (t : PlayTurn) (c : ControlImp) : ControlImp :=
  let c := match t.start with
    | none => c
    | some start => (c.requestJoinGame start.setup start.settings start.ports true).2.2
  (c.getObservation t.orders t.answer).2

/-- `IssueEvents(Commands())` -/
def issue (t : PlayTurn) (c : ControlImp) (commands : List Tag) : List Callback × ControlImp :=
  ((t.fetch c).issueEvents t.order commands).2

/-- What the bot is told of, in order. -/
def events (t : PlayTurn) (callbacks : List Callback) : List (BotView × BotCallback) :=
  t.start.toList.map (fun start => (start.view, .onGameStart)) ++
    (callbacks.filterMap (·.forBot t.view)).map fun callback => (t.view, callback)

/-- `SendActions`, which the turn that starts a game is without. -/
def send (t : PlayTurn) (a : ActionImp) : Option (List Proto.ActionSent) × ActionImp :=
  if t.start.isSome then (none, a)
  else
    let (sent, a, _) := a.sendActions t.control
    (sent, a)

/-- The views show the client. -/
structure Shown (t : PlayTurn) (c : ControlImp) (commands : List Tag) : Prop where
  start : ∀ start, t.start = some start → start.view.Shows (t.fetch c) t.order
  view : t.view.Shows (t.issue c commands).2 t.order

end PlayTurn

namespace Player

/-- A client and a bot as they are constructed. -/
def initial {κ : Type} (answers : List (Option (List Proto.AbilityData))) (state : BotState κ) :
    Player κ where
  client := .withAnswers answers
  state

variable {κ : Type} (bot : BotClass κ) (cos sin : CFloat → CFloat) (turns : Nat)

def turn (p : Player κ) (t : PlayTurn) : Except BotFault (Player κ × PlayRecord) := do
  let (callbacks, client) := t.issue p.client p.actions.commands
  let events := t.events callbacks
  let (state, calls) ← bot.run cos sin turns p.state events
  let (sent, actions) := t.send (actionMachine.final p.actions calls.flatten)
  return ({ client, state, actions }, { events, calls, sent })

/-- One more turn, with the records of the turns so far. -/
def next (result : Player κ × List PlayRecord) (t : PlayTurn) :
    Except BotFault (Player κ × List PlayRecord) := do
  let (p, record) ← result.1.turn bot cos sin turns t
  return (p, result.2 ++ [record])

/-- A play ends at the first callback that is not defined. -/
def play (p : Player κ) (ts : List PlayTurn) : Except BotFault (Player κ × List PlayRecord) :=
  ts.foldlM (next bot cos sin turns) (p, [])

end Player

end Sc2Api
