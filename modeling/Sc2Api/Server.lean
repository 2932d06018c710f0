import Sc2Api.MapImages

/-!
# The websocket server

`Server` holds the connections that are open and two queues of messages. The handlers that
civetweb calls change the connections; `SendRequest` and `SendResponse` write the front of
their queue to the connection they are given, or to the first that is open.

A handler gets a pointer to its connection, and the server it was registered with. One step
is one handler or one method: each method holds the mutex of its queue to its end.
-/

namespace Sc2Api

open Lib

/-- `front()` of a vector, which an empty vector does not have. -/
def front {α : Type} : List α → Except Undefined α
  | [] => .error .outOfRange
  | a :: _ => .ok a

structure Server (Connection Request Response : Type) where
  connections : List Connection := []
  requests : List (Option Connection × Request) := []
  responses : List (Option Connection × Response) := []
  deriving DecidableEq, Repr

/-- A call of `mg_websocket_write`, with the message it is given the bytes of. -/
structure Write (Connection Message : Type) where
  conn : Connection
  message : Message
  deriving DecidableEq, Repr

section Queues

variable {Connection Message : Type}

/-- What is left of the queue, and what is written. The write is not asked how it went. -/
def sendMessage (conn : Connection) :
    List (Option Connection × Message) →
      List (Option Connection × Message) × Option (Write Connection Message)
  | [] => ([], none)
  | data :: messageQueue => (messageQueue, some ⟨conn, data.2⟩)

/-- `conn ? conn : connections_.front()`, with the send that follows. -/
def sendFirst (connections : List Connection) (conn : Option Connection)
    (messageQueue : List (Option Connection × Message)) :
    Except Undefined (List (Option Connection × Message) × Option (Write Connection Message)) := do
  let conn ← match conn with
    | some conn => pure conn
    | none => front connections
  return sendMessage conn messageQueue

end Queues

namespace Server

variable {Connection Request Response : Type}

/-! ## Handlers -/

def webSocketConnectHandler (conn : Option Connection)
    (server : Server Connection Request Response) : Server Connection Request Response × Int32 :=
  match conn with
  | none => (server, 0)
  | some conn => ({ server with connections := server.connections ++ [conn] }, 0)

/-- The loop erases the first connection that is equal to this one. -/
def webSocketCloseHandler [DecidableEq Connection] (conn : Option Connection)
    (server : Server Connection Request Response) : Server Connection Request Response :=
  match conn with
  | none => server
  | some conn => { server with connections := server.connections.erase conn }

/-! ## Methods -/

def queueRequest (server : Server Connection Request Response) (conn : Option Connection)
    (request : Request) : Server Connection Request Response :=
  { server with requests := server.requests ++ [(conn, request)] }

def queueResponse (server : Server Connection Request Response) (conn : Option Connection)
    (response : Response) : Server Connection Request Response :=
  { server with responses := server.responses ++ [(conn, response)] }

def sendRequest (server : Server Connection Request Response) (conn : Option Connection) :
    Except Undefined (Server Connection Request Response × Option (Write Connection Request)) := do
  let (requests, write) ← sendFirst server.connections conn server.requests
  return ({ server with requests }, write)

def sendResponse (server : Server Connection Request Response) (conn : Option Connection) :
    Except Undefined (Server Connection Request Response × Option (Write Connection Response)) := do
  let (responses, write) ← sendFirst server.connections conn server.responses
  return ({ server with responses }, write)

/-- A data frame, with the request that its bytes are parsed to. The result keeps the
connection open. -/
def webSocketDataHandler (conn : Option Connection) (request : Option Request)
    (server : Server Connection Request Response) : Server Connection Request Response × Int32 :=
  match conn with
  | none => (server, 0)
  | some conn =>
    match request with
    | none => (server, 0)
    | some request => (server.queueRequest (some conn) request, 1)

end Server

/-! ## Steps -/

/-- What happens to a server. Civetweb calls a handler with the connection it is about. -/
inductive ServerStep (Connection Request Response : Type)
  | connect (conn : Connection)
  | data (conn : Connection) (request : Option Request)
  | close (conn : Connection)
  | queueRequest (conn : Option Connection) (request : Request)
  | queueResponse (conn : Option Connection) (response : Response)
  | sendRequest (conn : Option Connection)
  | sendResponse (conn : Option Connection)
  deriving DecidableEq, Repr

/-- The writes of one step: a request, a response, or neither. -/
structure Written (Connection Request Response : Type) where
  request : Option (Write Connection Request) := none
  response : Option (Write Connection Response) := none
  deriving DecidableEq, Repr

namespace Server

variable {Connection Request Response : Type} [DecidableEq Connection]

def step (server : Server Connection Request Response) :
    ServerStep Connection Request Response →
      Except Undefined (Server Connection Request Response × Written Connection Request Response)
  | .connect conn => .ok ((webSocketConnectHandler (some conn) server).1, {})
  | .data conn request => .ok ((webSocketDataHandler (some conn) request server).1, {})
  | .close conn => .ok (webSocketCloseHandler (some conn) server, {})
  | .queueRequest conn request => .ok (server.queueRequest conn request, {})
  | .queueResponse conn response => .ok (server.queueResponse conn response, {})
  | .sendRequest conn => do
    let (server, request) ← server.sendRequest conn
    return (server, { request })
  | .sendResponse conn => do
    let (server, response) ← server.sendResponse conn
    return (server, { response })

/-- A run from a server without connections, with what each of its steps has written. It ends
at the first step that is undefined. -/
def run (steps : List (ServerStep Connection Request Response)) :
    Except Undefined (Server Connection Request Response ×
      List (Written Connection Request Response)) :=
  steps.foldlM (fun (server, writes) step => do
    let (server, written) ← server.step step
    return (server, writes ++ [written])) ({}, [])

end Server

end Sc2Api
