import Sc2Api.Connection

/-!
# Sending requests and waiting for responses

`ProtoInterface` keeps one marker for the response it expects. The log records
what goes over the wire, for statements about it; `world` is what will happen to
this client next.
-/

namespace Sc2Api

/-- What a client and its game exchange. -/
inductive Traffic
  | sent (request : GameRequest)
  | refused (case : Proto.ResponseCase)
  | received (response : GameResponse)
  | timedOut
  deriving Repr

structure ProtoInterface where
  connection : Connection := {}
  latestStatus : Status := .unknown
  responsePending : Proto.ResponseCase := .responseNotSet
  baseBuild : UInt32 := 0
  dataVersion : String := ""
  clientErrors : List ClientError := []
  protocolErrors : List String := []
  serial : Nat := 0
  log : List Traffic := []
  world : World := {}

namespace ProtoInterface

/-- `control_->Error`. -/
def error (p : ProtoInterface) (error : ClientError) (errors : List String := []) :
    ProtoInterface :=
  { p with
    clientErrors := p.clientErrors ++ [error]
    protocolErrors := p.protocolErrors ++ errors }

def hasResponsePending (p : ProtoInterface) : Bool := p.responsePending != .responseNotSet

/-- An arrival, with the error that the closing of a connection records. -/
def arrive (p : ProtoInterface) (arrival : Arrival) : ProtoInterface :=
  let reports := p.connection.reportsClosed arrival
  let p := { p with connection := p.connection.arrive arrival }
  if reports then p.error .connectionClosed else p

/-! ## Using the connection -/

/-- `connection_.Connect`. -/
def connect (p : ProtoInterface) : ProtoInterface :=
  { p with
    connection := p.connection.connect p.world.connects.head
    world := { p.world with connects := p.world.connects.tail } }

/-- `connection_.Disconnect`: the reading thread ends, which reports the closing. -/
def disconnect (p : ProtoInterface) : ProtoInterface :=
  let reports := p.connection.reportsClosed .closed
  let p := { p with connection := p.connection.disconnect }
  if reports then p.error .connectionClosed else p

/-- `connection_.Receive`. -/
def receive (p : ProtoInterface) : Option GameResponse × ProtoInterface :=
  let delivery := p.world.deliveries.head
  let p := { p with world := { p.world with deliveries := p.world.deliveries.tail } }
  let p := delivery.waiting.foldl arrive p
  match p.connection.queue with
  | response :: queue =>
    (some response, { p with
      connection := p.connection.popResponse queue
      log := p.log ++ [.received response] })
  | [] =>
    let p := (delivery.closing.foldl arrive p).disconnect
    (none, { p with
      connection := { p.connection with queue := [] }
      log := p.log ++ [.timedOut] })

/-- `PollResponse`, after what has arrived until then. -/
def pollResponse (p : ProtoInterface) : Bool × ProtoInterface :=
  let arrivals := p.world.polls.head
  let p := { p with world := { p.world with polls := p.world.polls.tail } }
  let p := arrivals.foldl arrive p
  (p.connection.pollResponse, p)

/-! ## Requests and responses -/

/-- `connection_.Send`, and the marker for the response. -/
def write (p : ProtoInterface) (case : Proto.ResponseCase) : ProtoInterface :=
  { p with
    connection := p.connection.send ⟨p.serial, case⟩
    responsePending := case
    serial := p.serial + 1
    log := p.log ++ [.sent ⟨p.serial, case⟩] }

def refuse (p : ProtoInterface) (case : Proto.ResponseCase) : ProtoInterface :=
  { p with log := p.log ++ [.refused case] }

/-- The connection is rebuilt when there is none. -/
def ensureConnection (p : ProtoInterface) : ProtoInterface :=
  if p.connection.connected then p else p.connect

def sendRequest (p : ProtoInterface) (case : Proto.ResponseCase)
    (ignorePendingRequests : Bool := false) : Bool × ProtoInterface :=
  let p := p.ensureConnection
  if !p.connection.connected then (false, p.refuse case)
  else if !ignorePendingRequests && p.hasResponsePending then
    (false, (p.error .responseNotConsumed).refuse case)
  else (true, p.write case)

def waitForResponseInternal (p : ProtoInterface) : Option GameResponse × ProtoInterface :=
  let (response, p) := { p with latestStatus := .unknown }.receive
  match response with
  | none => (none, p)
  | some response =>
    let p := { p with latestStatus := response.answer.status.getD p.latestStatus }
    let p :=
      if response.answer.error = [] ∧ p.responsePending ≠ response.case then
        p.error .responseMismatch
      else p
    (some response, { p with responsePending := .responseNotSet })

def pingGame (p : ProtoInterface) : Bool × ProtoInterface :=
  let (sent, p) := p.sendRequest .ping true
  if !sent then (false, p)
  else
    let (response, p) := p.waitForResponseInternal
    match response with
    | none => (false, p)
    | some response =>
      if response.case ≠ .ping then (false, p)
      else (true, { p with
        baseBuild := response.answer.baseBuild
        dataVersion := response.answer.dataVersion })

def connectToGame (p : ProtoInterface) : Bool × ProtoInterface :=
  let p := { p with latestStatus := .unknown }.connect
  if !p.connection.connected then (false, p)
  else { p with connection := { p.connection with closedCallback := true } }.pingGame

end ProtoInterface

end Sc2Api
