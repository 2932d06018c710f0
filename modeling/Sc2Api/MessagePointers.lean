import Sc2Api.Control

/-!
# Pointers to responses and messages

`GetObservation` once more, with each of its pointers and each read through one. A
`GameResponsePtr` is null when no response came, a `MessageResponsePtr` holds a response
and a message in it, each of which may be missing.
-/

namespace Sc2Api

open Lib

/-- A read through a pointer that is null, with what it should have pointed to. -/
inductive NullRead
  | response
  | message
  deriving DecidableEq, Repr

/-- `operator->` of a `GameResponsePtr`. -/
def derefResponse (response : Option GameResponse) : Except NullRead GameResponse :=
  match response with
  | none => .error .response
  | some response => .ok response

structure MessageResponsePtr (MessageType : Type) where
  message : Option MessageType := none
  response : Option GameResponse := none

namespace MessageResponsePtr

variable {MessageType SubmessageType : Type}

def hasResponse (p : MessageResponsePtr MessageType) : Bool := p.response.isSome

def hasMessage (p : MessageResponsePtr MessageType) : Bool := p.message.isSome

/-- `HasErrors`, which reads `error_size()` of the response once it knows that there is
one. -/
def hasErrors (p : MessageResponsePtr MessageType) : Except NullRead Bool := do
  if !p.hasResponse then return true
  let response ← derefResponse p.response
  if response.answer.error ≠ [] then return true
  return !p.hasMessage

/-- `operator->` of a `MessageResponsePtr`. -/
def deref (p : MessageResponsePtr MessageType) : Except NullRead MessageType :=
  match p.message with
  | none => .error .message
  | some message => .ok message

/-- `SET_MESSAGE_RESPONSE`, for a message of the kind `case`. -/
def ofResponse (response : Option GameResponse) (case : Proto.ResponseCase)
    (message : Answer → MessageType) : Except NullRead (MessageResponsePtr MessageType) := do
  match response with
  | none => return { response }
  | some _ =>
    let read ← derefResponse response
    if read.case = case then return { response, message := some (message read.answer) }
    else return { response }

/-- `SET_SUBMESSAGE_RESPONSE`. -/
def submessage (p : MessageResponsePtr MessageType) (field : MessageType → Option SubmessageType) :
    Except NullRead (MessageResponsePtr SubmessageType) := do
  if ← p.hasErrors then return { response := p.response }
  let message ← p.deref
  return { response := p.response, message := field message }

end MessageResponsePtr

namespace Control

/-- The end of `GetObservation`: `observation_` and `response_` are set, and the
observation is taken in. -/
def takeIn (c : Control) (response : GameResponse) : Bool × Control :=
  let world := c.proto.world
  let c := { c with proto := { c.proto with world := { world with
    dataRequests := world.dataRequests.tail
    updateOrders := world.updateOrders.tail } } }
  let imp := c.imp
  let (answers, c) := abilityAnswers world.dataRequests.head c
  let imp := { imp with observationImp := { imp.observationImp with
    abilityTable := { imp.observationImp.abilityTable with answers, errors := [] } } }
  let (updated, imp) := imp.getObservation world.updateOrders.head (some response.toProto)
  (updated, { c with imp := { imp with appState := c.appState } }.reportErrors
    imp.observationImp.abilityTable.errors)

/-- What `GetObservation` does once its wait is over. The branch for errors reads
`response_case()` and the error strings of the response for its message to `std::cerr`. -/
def readObservation (c : Control) (response : Option GameResponse) :
    Except NullRead (Bool × Control) := do
  let responseObservation ← MessageResponsePtr.ofResponse response .observation (·.observation)
  if ← responseObservation.hasErrors then
    let _ ← derefResponse response
    return (false, c)
  let observation ← responseObservation.submessage (·.observation)
  if ← observation.hasErrors then return (false, c)
  return c.takeIn (← derefResponse observation.response)

/-- `GetObservation` with its reads. -/
def getObservationRead (c : Control) : Except NullRead (Bool × Control) :=
  if c.appState ≠ .normal then .ok (false, c)
  else
    let (sent, c) := c.sendRequest .observation
    if !sent then .ok (false, c)
    else
      let (response, c) := c.waitForResponse
      c.readObservation response

end Control

end Sc2Api
