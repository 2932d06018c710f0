import Sc2Api.GameSetup
import Sc2Api.Observation
import Mathlib.Data.Stream.Defs

/-!
# The connection to the game

`Connection` holds the queue of received responses next to what the other end
still has to answer. `World` is the other side of everything a client does that
it cannot decide by itself: what arrives while it waits, whether a connection
can be made, what the operating system says about a process.
-/

namespace Sc2Api

open Lib

namespace Proto

/-- `RequestCase` and `ResponseCase`, which the source asserts to be numbered alike. -/
inductive ResponseCase
  | responseNotSet
  | createGame
  | joinGame
  | restartGame
  | startReplay
  | leaveGame
  | quickSave
  | quickLoad
  | quit
  | gameInfo
  | observation
  | action
  | obsAction
  | step
  | data
  | query
  | saveReplay
  | replayInfo
  | availableMaps
  | saveMap
  | ping
  | debug
  deriving DecidableEq, Repr, Inhabited

/-- The members of `player_info` and of `player_result` are missing when these are. -/
structure PlayerInfoExtra where
  playerId : Option UInt32 := none
  raceActual : Option Race := none
  raceRequested : Option Race := none
  result : Option Result := none
  playerMmr : Int32 := 0
  playerApm : Int32 := 0
  deriving DecidableEq, Repr

structure ResponseReplayInfo where
  mapName : String := ""
  localMapPath : String := ""
  gameVersion : String := ""
  dataVersion : String := ""
  gameDurationSeconds : CFloat := 0
  gameDurationLoops : UInt32 := 0
  dataBuild : UInt32 := 0
  baseBuild : UInt32 := 0
  playerInfo : List PlayerInfoExtra := []
  deriving DecidableEq, Repr

end Proto

/-! ## Requests and responses -/

/-- A request on the wire; a client numbers its requests in the order of sending. -/
structure GameRequest where
  serial : Nat
  case : Proto.ResponseCase
  deriving DecidableEq, Repr

/-- What the game puts into a response. `kind` is set when the response is not of the
kind that was asked for; the members after it count for a response of their kind, and
`responseError` says that the member itself carries an `error`. -/
structure Answer where
  status : Option Status := none
  error : List String := []
  kind : Option Proto.ResponseCase := none
  observation : Proto.ResponseObservation := {}
  abilities : List Proto.AbilityData := []
  dataSize : Nat := 0
  query : Proto.ResponseQuery := {}
  playerId : UInt32 := 0
  responseError : Bool := false
  baseBuild : UInt32 := 0
  dataVersion : String := ""
  replayInfo : Proto.ResponseReplayInfo := {}
  deriving Repr

/-- A response with the request it answers. -/
structure GameResponse where
  request : GameRequest
  answer : Answer
  deriving Repr

/-- `response_case()`. -/
def GameResponse.case (r : GameResponse) : Proto.ResponseCase :=
  r.answer.kind.getD r.request.case

/-! ## The world -/

/-- What reaches a client: the answer to the oldest request of its connection, or the
end of the connection; the same for connections it has given up without closing them. -/
inductive Arrival
  | answer (answer : Answer)
  | closed
  | lateAnswer (connection : Nat) (answer : Answer)
  | lateClosed (connection : Nat)

/-- What arrives until a wait ends and, if it ends without a response, until the
connection is closed. -/
structure Delivery where
  waiting : List Arrival := []
  closing : List Arrival := []

/-- A request that a bot can send and wait for in its callbacks. -/
inductive BotRequest
  | gameInfo
  | data
  | query
  | action
  | obsAction
  | debug
  | quickSave
  | quickLoad
  | saveMap
  | saveReplay
  deriving DecidableEq, Repr

def BotRequest.case : BotRequest → Proto.ResponseCase
  | gameInfo => .gameInfo
  | data => .data
  | query => .query
  | action => .action
  | obsAction => .obsAction
  | debug => .debug
  | quickSave => .quickSave
  | quickLoad => .quickLoad
  | saveMap => .saveMap
  | saveReplay => .saveReplay

/-- The errors that a call records when it reads an answer. -/
inductive AnswerError
  | errorSC2
  | invalidAbilityRemap
  | invalidResponse
  | noAbilitiesForTag
  deriving DecidableEq, Repr

def AnswerError.toClientError : AnswerError → ClientError
  | errorSC2 => .errorSC2
  | invalidAbilityRemap => .invalidAbilityRemap
  | invalidResponse => .invalidResponse
  | noAbilitiesForTag => .noAbilitiesForTag

/-- What a bot does when its callbacks run: blocking requests of its own, with the errors
that reading their answers records, then the actions it leaves to be sent. -/
structure BotTurn where
  requests : List BotRequest := []
  errors : List AnswerError := []
  actions : Option (List Tag) := none
  featureActions : Bool := false

/-- The outcomes of everything a client does not decide, each in the order of use. -/
structure World where
  deliveries : Stream' Delivery := .const {}
  polls : Stream' (List Arrival) := .const []
  connects : Stream' Bool := .const true
  running : Stream' Bool := .const true
  kills : Stream' Bool := .const false
  dataRequests : Stream' Nat := .const 0
  updateOrders : Stream' UpdateOrders := .const {}
  orders : Stream' UnitPool.Order := .const default
  turns : Stream' BotTurn := .const {}

/-! ## Connection -/

/-- `open` and `flight` are the other end of the connection: whether it still stands, and
the requests it has not answered, oldest first. `abandoned` are the unanswered
requests of connections that were replaced without being closed. -/
structure Connection where
  connected : Bool := false
  queue : List GameResponse := []
  hasResponse : Bool := false
  closedCallback : Bool := false
  isOpen : Bool := false
  flight : List GameRequest := []
  abandoned : List (List GameRequest) := []
  deriving Repr

namespace Connection

/-- `Connect`: the pointer is overwritten, whatever it was. -/
def connect (c : Connection) (ok : Bool) : Connection :=
  { c with
    connected := ok
    isOpen := ok
    flight := []
    abandoned := if c.isOpen then c.abandoned ++ [c.flight] else c.abandoned }

def send (c : Connection) (request : GameRequest) : Connection :=
  if c.isOpen then { c with flight := c.flight ++ [request] } else c

def pushResponse (c : Connection) (response : GameResponse) : Connection :=
  { c with queue := c.queue ++ [response], hasResponse := true }

/-- What one arrival does to the connection. -/
def arrive (c : Connection) : Arrival → Connection
  | .answer a =>
    match c.flight with
    | [] => c
    | request :: flight => { c with flight }.pushResponse ⟨request, a⟩
  | .closed => { c with isOpen := false, flight := [] }
  | .lateAnswer i a =>
    match c.abandoned[i]? with
    | some (request :: flight) =>
      { c with abandoned := c.abandoned.set i flight }.pushResponse ⟨request, a⟩
    | _ => c
  | .lateClosed i => { c with abandoned := c.abandoned.eraseIdx i }

/-- The arrival runs `connection_closed_callback_`. -/
def reportsClosed (c : Connection) : Arrival → Bool
  | .closed => c.closedCallback && c.isOpen
  | .lateClosed i => c.closedCallback && (c.abandoned[i]?).isSome
  | _ => false

/-- `PopResponse` on a queue that is not empty. -/
def popResponse (c : Connection) (queue : List GameResponse) : Connection :=
  { c with queue, hasResponse := c.hasResponse && !queue.isEmpty }

def disconnect (c : Connection) : Connection :=
  { c with connected := false, isOpen := false, flight := [] }

def pollResponse (c : Connection) : Bool := c.hasResponse

/-- The serial numbers of the requests whose responses are still to be consumed. -/
def outstanding (c : Connection) : List Nat :=
  c.queue.map (·.request.serial) ++ c.flight.map (·.serial)

end Connection

end Sc2Api
