import Sc2Api.Events
import Sc2Api.Lib.Machine

/-!
# Runs of a client

What may happen to a `ControlImp` between its construction and its end, as far
as observations and events are concerned: fetching an observation, issuing
events, joining a game. `frames` is the run in which the two first alternate.
-/

namespace Sc2Api

open Lib

/-- A client as it is constructed, with what will become of its data requests. -/
def ControlImp.withAnswers (answers : List (Option (List Proto.AbilityData))) : ControlImp where
  observationImp := { abilityTable := { answers } }

inductive ClientOp
  | getObservation (orders : UpdateOrders) (answer : Option Proto.Response)
  | issueEvents (order : UnitPool.Order) (commands : List Tag)
  | requestJoinGame (setup : PlayerSetup) (settings : InterfaceSettings) (ports : Ports)
      (sent : Bool)

/-- A client answers every operation with the callbacks it makes. -/
def client : Machine ControlImp ClientOp (List Callback) where
  step c
    | .getObservation orders answer => ((c.getObservation orders answer).2, [])
    | .issueEvents order commands =>
      ((c.issueEvents order commands).2.2, (c.issueEvents order commands).2.1)
    | .requestJoinGame setup settings ports sent =>
      ((c.requestJoinGame setup settings ports sent).2.2, [])

/-- The answer of a round trip that brings an observation. -/
def Proto.Response.ofObservation (o : Proto.Observation) (r : Proto.ResponseObservation) :
    Proto.Response :=
  { observation := some { r with observation := some o } }

/-- An observation that arrives, with the orders in which the tables are walked and
the commands given to `IssueEvents`. -/
structure Frame where
  observation : Proto.Observation
  response : Proto.ResponseObservation := {}
  orders : UpdateOrders := {}
  order : UnitPool.Order := default
  commands : List Tag := []

def Frame.fetch (f : Frame) : ClientOp :=
  .getObservation f.orders (some (.ofObservation f.observation f.response))

def Frame.issue (f : Frame) : ClientOp := .issueEvents f.order f.commands

/-- Observations alternate with `IssueEvents`; a frame is answered with its callbacks. -/
def frames : Machine ControlImp Frame (List Callback) where
  step c f := client.step (client.step c f.fetch).1 f.issue

/-- The frames of a run are the operations of a run. -/
theorem final_frames (c : ControlImp) (fs : List Frame) :
    frames.final c fs = client.final c (fs.flatMap fun f => [f.fetch, f.issue]) := by
  induction fs generalizing c with
  | nil => rfl
  | cons f fs ih => exact ih _

end Sc2Api
