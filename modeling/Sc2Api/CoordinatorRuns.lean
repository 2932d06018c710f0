import Sc2Api.Coordinator
import Sc2Api.Lib.Machine

/-!
# Runs of a coordinator

Everything that can be called on a `Coordinator` and on its clients, in any order.
-/

namespace Sc2Api

/-- What the world has in store for a coordinator and for each of its clients. -/
structure Worlds where
  coordinator : CoordinatorWorld := {}
  agents : AgentId → World := fun _ => {}
  observers : ObserverId → World := fun _ => {}

/-- The coordinator when the world turns out to be `worlds`. -/
def CoordinatorImp.inWorlds (c : CoordinatorImp) (worlds : Worlds) : CoordinatorImp :=
  { c with
    world := worlds.coordinator
    agentOf := fun i =>
      { c.agentOf i with control := (c.agentOf i).control.inWorld (worlds.agents i) }
    observerOf := fun i =>
      { c.observerOf i with control := (c.observerOf i).control.inWorld (worlds.observers i) } }

/-- `configure` stands for the setters of the process settings, `setReplays` for the two
functions that fill the list of replays. -/
inductive CoordinatorCall
  | setParticipants (participants : List PlayerSetup)
  | addReplayObserver (observer : ObserverId)
  | configure (settings : ProcessSettings)
  | setInterfaceSettings (settings : InterfaceSettings)
  | setReplays (files : List String)
  | setReplayRecovery (value : Bool)
  | setUseGeneralizedAbilityId (value : Bool)
  | launchStarcraft
  | connect (port : Int32)
  | createGame
  | joinGame
  | startGame
  | leaveGame
  | update
  | clientCall (client : CoordinatorImp.ClientId) (call : ClientCall)
  | destroy

namespace CoordinatorCall

def run (call : CoordinatorCall) (c : CoordinatorImp) : CoordinatorImp :=
  match call with
  | setParticipants participants => c.setParticipants participants
  | addReplayObserver observer => c.addReplayObserver observer
  | configure settings => { c with
      processSettings := { settings with processInfo := c.processSettings.processInfo } }
  | setInterfaceSettings settings => { c with interfaceSettings := settings }
  | setReplays files => { c with replaySettings := ⟨files⟩ }
  | setReplayRecovery value => { c with replayRecovery := value }
  | setUseGeneralizedAbilityId value => { c with useGeneralizedAbilityId := value }
  | launchStarcraft => c.launchStarcraft
  | connect port => c.connect port
  | createGame => c.createGame.2
  | joinGame => c.joinGame.2
  | startGame => c.startGame.2
  | leaveGame => c.leaveGame
  | update => c.update.2
  | clientCall client call => c.onControl client call.run
  | destroy => { c.destroy with exited := true }

end CoordinatorCall

/-- Nothing is called on a coordinator that is gone. -/
def coordinatorMachine : Lib.Machine CoordinatorImp (Worlds × CoordinatorCall) PUnit.{1} where
  step c input := (if c.exited then c else input.2.run (c.inWorlds input.1), .unit)

/-- A coordinator that is updated again and again. -/
def updateMachine : Lib.Machine CoordinatorImp Worlds Bool where
  step c worlds := ((c.inWorlds worlds).update.2, (c.inWorlds worlds).update.1)

end Sc2Api
