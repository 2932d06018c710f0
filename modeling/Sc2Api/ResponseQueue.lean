import Sc2Api.Lib.Machine

/-!
# The response queue of a connection, step by step

`Receive`, `PopResponse`, `PollResponse` and `PushResponse` of `Connection`, cut where
another thread can come in between. One thread consumes responses; any other pushes
them, under the mutex that the consumer holds while it looks at the condition and
while it pops.
-/

namespace Sc2Api

/-- Where the consumer is: outside of `Receive` and `PopResponse`, waiting for the
condition, past it, in `PopResponse` after its check, past a wait that timed out, or
there with the connection closed. -/
inductive Consumer
  | outside
  | waiting
  | woken
  | popping
  | timedOut
  | disconnected
  deriving DecidableEq, Repr

structure ResponseQueue (α : Type) where
  queue : List α := []
  hasResponse : Bool := false
  consumer : Consumer := .outside
  pushing : Bool := false
  deriving DecidableEq, Repr

/-- The steps of the consumer and of `PushResponse`. -/
inductive QueueStep (α : Type)
  | receive
  | wake
  | expire
  | disconnect
  | clear
  | popResponse
  | check
  | pop
  | pollResponse
  | push (response : α)
  | pushed
  deriving DecidableEq, Repr

/-- What a step returns to the caller of an operation. -/
inductive QueueResult (α : Type)
  | none
  | polled (hasResponse : Bool)
  | returned (response : Option α)
  deriving DecidableEq, Repr

namespace ResponseQueue

variable {α : Type}

/-- The first half of `PushResponse`, under the mutex. -/
def push (s : ResponseQueue α) (response : α) : ResponseQueue α :=
  { s with queue := s.queue ++ [response], pushing := true }

/-- The second half. -/
def pushed (s : ResponseQueue α) : ResponseQueue α :=
  { s with hasResponse := true, pushing := false }

/-- `PopResponse` under the mutex. -/
def pop (s : ResponseQueue α) (queue : List α) : ResponseQueue α :=
  { s with
    queue
    hasResponse := if queue.isEmpty then false else s.hasResponse
    consumer := .outside }

/-- One step; a step that cannot be taken where the threads are changes nothing. -/
def step (s : ResponseQueue α) : QueueStep α → ResponseQueue α × QueueResult α
  | .receive =>
    if s.consumer = .outside then ({ s with consumer := .waiting }, .none) else (s, .none)
  | .wake =>
    if s.consumer = .waiting ∧ !s.pushing ∧ !s.queue.isEmpty then
      ({ s with consumer := .woken }, .none)
    else (s, .none)
  | .expire =>
    if s.consumer = .waiting ∧ !s.pushing ∧ s.queue.isEmpty then
      ({ s with consumer := .timedOut }, .none)
    else (s, .none)
  | .disconnect =>
    if s.consumer = .timedOut then ({ s with consumer := .disconnected }, .none)
    else (s, .none)
  | .clear =>
    -- `queue_.clear()` takes no lock and leaves the flag alone
    if s.consumer = .disconnected then
      ({ s with queue := [], consumer := .outside }, .returned none)
    else (s, .none)
  | .popResponse =>
    if s.consumer = .outside then ({ s with consumer := .woken }, .none) else (s, .none)
  | .check =>
    if s.consumer = .woken then
      if s.queue.isEmpty then ({ s with consumer := .outside }, .returned none)
      else ({ s with consumer := .popping }, .none)
    else (s, .none)
  | .pop =>
    if s.consumer = .popping ∧ !s.pushing then
      match s.queue with
      | [] => (s, .none)
      | response :: queue => (s.pop queue, .returned (some response))
    else (s, .none)
  | .pollResponse =>
    if s.consumer = .outside then (s, .polled s.hasResponse) else (s, .none)
  | .push response => if s.pushing then (s, .none) else (s.push response, .none)
  | .pushed => if s.pushing then (s.pushed, .none) else (s, .none)

end ResponseQueue

/-- A connection, used by one thread while others push responses. -/
def responseQueue (α : Type) :
    Lib.Machine (ResponseQueue α) (QueueStep α) (QueueResult α) where
  step := ResponseQueue.step

end Sc2Api
