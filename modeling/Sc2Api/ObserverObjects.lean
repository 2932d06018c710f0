import Sc2Api.CoordinatorRuns

/-!
# The objects of a replay observer

`Reset` deletes the control of a client and makes a new one. Here every object that
was built on a control carries the identity of that control, which is never used
again; the observer itself is the `ReplayObserver` of the model.
-/

namespace Sc2Api

abbrev ControlId := Nat

/-- A `ControlImp` with the objects it makes for itself, each built on some control. -/
structure ControlObjects where
  id : ControlId
  observationImp : ControlId
  queryImp : ControlId
  debugImp : ControlId
  deriving DecidableEq, Repr

/-- `ControlImp::ControlImp`. -/
def ControlObjects.new (id : ControlId) : ControlObjects := ⟨id, id, id, id⟩

/-- `replayControlImp` and `observerActionImp` are the controls that the two objects of
`ReplayObserver` refer to, `deleted` those that are gone. -/
structure ObserverObjects where
  controlImp : ControlObjects := .new 0
  replayControlImp : ControlId := 0
  observerActionImp : ControlId := 0
  deleted : List ControlId := []
  next : ControlId := 1
  deriving DecidableEq, Repr

/-- What a user of the observer can get from it. -/
inductive ObserverInterface
  | replayControl
  | observerAction
  | observation
  | query
  | debug
  deriving DecidableEq, Repr

namespace ObserverObjects

/-- The control an interface was built on. -/
def builtOn (s : ObserverObjects) : ObserverInterface → ControlId
  | .replayControl => s.replayControlImp
  | .observerAction => s.observerActionImp
  | .observation => s.controlImp.observationImp
  | .query => s.controlImp.queryImp
  | .debug => s.controlImp.debugImp

/-- `Client::Reset`. -/
def reset (s : ObserverObjects) : ObserverObjects :=
  { s with
    controlImp := .new s.next
    deleted := s.deleted ++ [s.controlImp.id]
    next := s.next + 1 }

/-- `ReplayObserver::SetControl`. -/
def setControl (s : ObserverObjects) (control : ControlId) : ObserverObjects :=
  { s with replayControlImp := control }

end ObserverObjects

/-- A replay observer with its objects. -/
structure BoundObserver where
  observer : ReplayObserver := {}
  objects : ObserverObjects := {}

/-- What happens to an observer; `queueActions` are the camera functions of
`ObserverAction()`, called outside of a callback. -/
inductive ObserverOp
  | relaunch (processInfo : ProcessInfo) (timeoutMs : Int32)
  | queueActions
  | callback (event : ClientEvent)
  | issueEvents
  | sendActions
  | gatherReplayInfo (path : String)
  | loadReplay
  | waitForReplay
  | controlCall (call : ClientCall)

/-- What `Relaunch` does to its observer. -/
def ReplayObserver.relaunch (r : ReplayObserver) (processInfo : ProcessInfo)
    (timeoutMs : Int32) : ReplayObserver :=
  let r := { r with control := r.control.terminateProcess.2 }.reset
  { r with control := ((r.control.setProcessInfo processInfo).connect timeoutMs).2 }

namespace BoundObserver

def relaunch (s : BoundObserver) (processInfo : ProcessInfo) (timeoutMs : Int32) :
    BoundObserver where
  observer := s.observer.relaunch processInfo timeoutMs
  objects := s.objects.reset.setControl s.objects.reset.controlImp.id

/-- An operation; only `Relaunch` makes or deletes objects. -/
def run (s : BoundObserver) : ObserverOp → BoundObserver
  | .relaunch processInfo timeoutMs => s.relaunch processInfo timeoutMs
  | .queueActions => { s with observer := { s.observer with request := true } }
  | .callback event => { s with observer := s.observer.callback event }
  | .issueEvents => { s with observer := s.observer.issueEvents.2 }
  | .sendActions => { s with observer := s.observer.sendActions }
  | .gatherReplayInfo path => { s with observer := (s.observer.gatherReplayInfo path).2 }
  | .loadReplay => { s with observer := s.observer.loadReplay.2 }
  | .waitForReplay => { s with observer := s.observer.waitForReplay.2 }
  | .controlCall call =>
    { s with observer := { s.observer with control := call.run s.observer.control } }

end BoundObserver

/-- An observer to which anything happens, each time in a world of its own. -/
def observerMachine : Lib.Machine BoundObserver (World × ObserverOp) PUnit.{1} where
  step s input :=
    (BoundObserver.run { s with observer := { s.observer with
      control := s.observer.control.inWorld input.1 } } input.2, .unit)

end Sc2Api
