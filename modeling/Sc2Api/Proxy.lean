import Sc2Api.Server

/-!
# The proxy between clients and the game

The main loop of the proxy example takes a request of its server, writes it to the game, waits
for the response and gives it back. Civetweb calls the handlers of the server and of the
connection to the game while it runs: a step of a run is one of these calls, or the next call
that `main` makes.
-/

namespace Sc2Api

/-- `HasRequest` -/
def Server.hasRequest {Connection Request Response : Type}
    (server : Server Connection Request Response) : Bool :=
  !server.requests.isEmpty

/-! ## States -/

/-- What stops a proxy: the front of no connections, a read through a null response. -/
inductive ProxyFault
  | undefined (cause : Undefined)
  | nullResponse
  deriving DecidableEq, Repr

/-- The call that `main` makes next. Between `Receive` and `QueueResponse` it holds a response,
`none` if the pointer is null. -/
inductive ProxyCall (Response : Type)
  | hasRequest
  | sendRequest
  | receive
  | queueResponse (response : Option Response)
  | sendResponse
  deriving DecidableEq, Repr

/-- The other end of the connection to the game: the requests it has not answered, and those
whose answers have arrived, with these. -/
structure GameEnd (Request Response : Type) where
  isOpen : Bool := true
  flight : List Request := []
  answered : List (Request × Response) := []
  deriving DecidableEq, Repr

/-- `connection` and `queue` are `connection_` and `queue_` of the client. -/
structure Proxy (Connection Request Response : Type) where
  server : Server Connection Request (Option Response) := {}
  connection : Option Connection
  queue : List Response := []
  game : GameEnd Request Response := {}
  call : ProxyCall Response := .hasRequest
  deriving DecidableEq, Repr

/-- What happens to a proxy: calls of the server's handlers, a message of the game, `none` if
its bytes are no response, the end of the game's connection, the end of the time that
`Receive` waits, the next call of `main`. -/
inductive ProxyStep (Connection Request Response : Type)
  | connect (conn : Connection)
  | data (conn : Connection) (request : Option Request)
  | close (conn : Connection)
  | answer (response : Option Response)
  | hangUp
  | expire
  | main
  deriving DecidableEq, Repr

/-! ## The game -/

namespace GameEnd

variable {Request Response : Type}

/-- A request that is written to the connection. -/
def accept (game : GameEnd Request Response) (request : Request) : GameEnd Request Response :=
  if game.isOpen then { game with flight := game.flight ++ [request] } else game

/-- A response that the game has sent, for the oldest request if one is in flight. -/
def answer (game : GameEnd Request Response) (response : Response) : GameEnd Request Response :=
  match game.flight with
  | [] => game
  | request :: flight => { game with flight, answered := game.answered ++ [(request, response)] }

def hangUp (game : GameEnd Request Response) : GameEnd Request Response :=
  { game with isOpen := false, flight := [] }

end GameEnd

namespace Proxy

variable {Connection Request Response : Type}

/-- `DataHandler` of the connection to the game, which drops what it cannot parse. -/
def dataHandler (p : Proxy Connection Request Response) (response : Option Response) :
    Proxy Connection Request Response :=
  match response with
  | none => { p with game := { p.game with flight := p.game.flight.tail } }
  | some response => { p with queue := p.queue ++ [response], game := p.game.answer response }

/-! ## The calls of `main` -/

/-- What is written to the connection of the game reaches it. -/
def forward (p : Proxy Connection Request Response) (write : Option (Write Connection Request)) :
    GameEnd Request Response :=
  match p.connection, write with
  | some _, some write => p.game.accept write.message
  | _, _ => p.game

/-- `SendResponse` of a message that is a pointer: its size is asked before it is written. -/
def checkMessage : Option (Write Connection (Option Response)) → Except ProxyFault PUnit
  | some ⟨_, none⟩ => .error .nullResponse
  | _ => .ok ⟨⟩

/-- `Receive` blocks while its queue is empty. -/
def receive (p : Proxy Connection Request Response) : Proxy Connection Request Response :=
  match p.queue with
  | [] => p
  | response :: queue => { p with queue, call := .queueResponse (some response) }

/-- `Receive` past its time, which looks at the queue once more. -/
def expire (p : Proxy Connection Request Response) : Proxy Connection Request Response :=
  match p.call, p.queue with
  | .receive, [] =>
    { p with connection := none, game := p.game.hangUp, call := .queueResponse none }
  | _, _ => p

def main (p : Proxy Connection Request Response) :
    Except ProxyFault (Proxy Connection Request Response ×
      Written Connection Request (Option Response)) :=
  match p.call with
  | .hasRequest =>
    if p.server.hasRequest then .ok ({ p with call := .sendRequest }, {}) else .ok (p, {})
  | .sendRequest => do
    let (server, request) ← (p.server.sendRequest p.connection).mapError .undefined
    return ({ p with server, game := p.forward request, call := .receive }, { request })
  | .receive => .ok (p.receive, {})
  | .queueResponse response =>
    .ok ({ p with
      server := p.server.queueResponse p.connection response
      call := .sendResponse }, {})
  | .sendResponse => do
    let (server, response) ← (p.server.sendResponse none).mapError .undefined
    checkMessage response
    return ({ p with server, call := .hasRequest }, { response })

/-! ## Runs -/

variable [DecidableEq Connection]

def step (p : Proxy Connection Request Response) :
    ProxyStep Connection Request Response →
      Except ProxyFault (Proxy Connection Request Response ×
        Written Connection Request (Option Response))
  | .connect conn => .ok ({ p with server := (p.server.webSocketConnectHandler (some conn)).1 }, {})
  | .data conn request =>
    .ok ({ p with server := (p.server.webSocketDataHandler (some conn) request).1 }, {})
  | .close conn => .ok ({ p with server := p.server.webSocketCloseHandler (some conn) }, {})
  | .answer response => .ok (p.dataHandler response, {})
  | .hangUp => .ok ({ p with game := p.game.hangUp }, {})
  | .expire => .ok (p.expire, {})
  | .main => p.main

/-- A step of a run, with what the steps so far have written. -/
def advance (result : Proxy Connection Request Response ×
      List (Written Connection Request (Option Response)))
    (step : ProxyStep Connection Request Response) :
    Except ProxyFault (Proxy Connection Request Response ×
      List (Written Connection Request (Option Response))) := do
  let (p, written) ← result.1.step step
  return (p, result.2 ++ [written])

/-- A run from the start of the loop, with what each of its steps has written. `connection` is
what `Connect` has left, a null pointer if it failed. -/
def run (connection : Option Connection) (steps : List (ProxyStep Connection Request Response)) :
    Except ProxyFault (Proxy Connection Request Response ×
      List (Written Connection Request (Option Response))) :=
  steps.foldlM advance ({ connection }, [])

end Proxy

end Sc2Api
