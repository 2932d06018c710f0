import Sc2Api.Verify.Talks

/-!
# Every client keeps to its own process

Whatever is called on a client, and whatever a step of the coordinator does with
it, asks only after its own process.
-/

namespace Sc2Api

open Lib

namespace Control

variable {c c' : Control}

theorem proto_works (p : ProtoInterface) (hkills : p.world.kills = c.proto.world.kills) :
    c.Works { c with proto := p } := works_of_eq rfl hkills rfl

/-! ## Connecting -/

theorem kills_pingGame (p : ProtoInterface) : p.pingGame.2.world.kills = p.world.kills := by
  have hsend := p.kills_sendRequest .ping true
  unfold ProtoInterface.pingGame
  dsimp only
  split
  · exact hsend
  · have hwait := (p.sendRequest .ping true).2.kills_waitForResponseInternal.trans hsend
    split
    · exact hwait
    · split <;> exact hwait

theorem kills_connectToGame (p : ProtoInterface) :
    p.connectToGame.2.world.kills = p.world.kills := by
  unfold ProtoInterface.connectToGame
  dsimp only
  split
  · rfl
  · exact kills_pingGame _

theorem connectLoop_works (n : Nat) : c.Works (connectLoop n c).2 := by
  induction n generalizing c with
  | zero => exact .refl c
  | succ n ih =>
    have hconnect := proto_works (c := c) _ (kills_connectToGame c.proto)
    unfold connectLoop
    dsimp only
    split
    · exact hconnect
    · exact hconnect.trans ih

theorem connect_works (timeoutMs : Int32) : c.Works (c.connect timeoutMs).2 :=
  connectLoop_works _

/-! ## The steps of a game -/

theorem sendRequest_works (case : Proto.ResponseCase) : c.Works (c.sendRequest case).2 :=
  (sendRequest_waits case).toWorks

theorem waitForResponse_works : c.Works c.waitForResponse.2 := waitForResponse_waits.toWorks

theorem exchange_works (case : Proto.ResponseCase) : c.Works (c.exchange case).2 :=
  (exchange_waits case).toWorks

theorem step_waitStep_works : c.Works c.step.2.waitStep.2 := by
  have hstep : c.Works c.step.2 := by
    unfold step
    split
    · exact .refl c
    · exact sendRequest_works .step
  have hwait := hstep.trans waitForResponse_works
  unfold waitStep
  dsimp only
  split
  · exact hwait.trans getObservation_talks.works
  · exact hwait

theorem waitJoinGame_works : c.Works c.waitJoinGame.2 := by
  have hwait := waitForResponse_works (c := c)
  unfold waitJoinGame
  dsimp only
  split
  · exact hwait
  · split
    · exact hwait
    · exact hwait.trans (works_of_eq rfl rfl rfl)

theorem requestLeaveGame_waits : c.Waits c.requestLeaveGame.2 := by
  unfold requestLeaveGame
  split
  · exact .refl c
  · exact sendRequest_waits .leaveGame

theorem requestLeaveGame_works : c.Works c.requestLeaveGame.2 := requestLeaveGame_waits.toWorks

theorem pollLeaveGame_waits : c.Waits c.pollLeaveGame.2 := by
  unfold pollLeaveGame
  dsimp only
  split
  · exact .refl c
  · split
    · exact errorIf_waits _ _
    · have hpoll := pollResponse_waits (c := c)
      split
      · exact hpoll
      · exact hpoll.trans waitForResponse_waits

theorem pollLeaveGame_works : c.Works c.pollLeaveGame.2 := pollLeaveGame_waits.toWorks

theorem requestJoinGame_works (setup : PlayerSetup) (settings : InterfaceSettings)
    (ports : Ports) : c.Works (c.requestJoinGame setup settings ports).2.2 :=
  works_of_eq rfl (c.proto.kills_sendRequest _ _) rfl

theorem sendDebug_works (hasMoveCamera : Bool) : c.Works (c.sendDebug hasMoveCamera) := by
  have hdebug := (sendRequest_works (c := c) .debug).trans waitForResponse_works
  unfold sendDebug
  dsimp only
  split
  · exact (hdebug.trans (sendRequest_works .action)).trans waitForResponse_works
  · exact hdebug

end Control

/-! ## Agents -/

namespace Agent

variable (a : Agent)

theorem callOnStep_works : a.control.Works a.callOnStep.control := by
  unfold callOnStep
  split
  · exact (a.callback_talks .onGameEnd).works.trans Control.requestLeaveGame_works
  · exact ((a.issueEvents_talks.trans (sendActions_talks _)).trans
      (sendActionsFeatureLayer_talks _)).works

end Agent

namespace CoordinatorImp

theorem stepAgent_works (settings : ProcessSettings) (a : Agent) :
    a.control.Works (stepAgent settings a).control := by
  have hpoll := Control.pollLeaveGame_works (c := a.control)
  unfold stepAgent
  dsimp only
  split
  · exact .refl _
  · split
    · exact hpoll
    · split
      · exact hpoll
      · have hstep := hpoll.trans Control.step_waitStep_works
        split
        · exact hstep.trans (Agent.callOnStep_works
            { a with control := a.control.pollLeaveGame.2.step.2.waitStep.2 })
        · exact hstep

theorem callAgent_works (a : Agent) : a.control.Works (callAgent a).control := by
  have hpoll := Control.pollLeaveGame_works (c := a.control)
  unfold callAgent
  dsimp only
  split
  · exact .refl _
  · split
    · exact hpoll
    · exact hpoll.trans (Agent.callOnStep_works { a with control := a.control.pollLeaveGame.2 })

theorem stepAgentRealtime_works (a : Agent) :
    a.control.Works (stepAgentRealtime a).control := by
  have hpoll := Control.pollLeaveGame_works (c := a.control)
  unfold stepAgentRealtime
  dsimp only
  split
  · exact .refl _
  · split
    · exact hpoll
    · split
      · exact hpoll
      · let observed : Agent := { a with control := a.control.pollLeaveGame.2.getObservation.2 }
        have hobserved : a.control.Works observed.control :=
          hpoll.trans Control.getObservation_talks.works
        have hsent := hobserved.trans
          (observed.issueEvents_talks.trans (Agent.sendActions_talks _)).works
        split
        · exact (hsent.trans (Agent.callback_talks _ _).works).trans
            Control.requestLeaveGame_works
        · exact hsent

end CoordinatorImp

/-! ## Replay observers -/

namespace ReplayObserver

variable (r : ReplayObserver)

theorem waitForReplay_works : r.control.Works r.waitForReplay.2.control := by
  have hwait := Control.waitForResponse_works (c := r.control)
  unfold waitForReplay
  dsimp only
  split
  · exact hwait
  · split
    · exact hwait
    · split
      · exact hwait
      · split
        · exact hwait
        · split
          · exact hwait
          · exact (hwait.trans Control.getObservation_talks.works).trans
              (callback_talks { r with control := r.control.waitForResponse.2.getObservation.2 }
                .onGameStart).works

end ReplayObserver

namespace CoordinatorImp

theorem awaitReplay_works (several : Bool) (r : ReplayObserver) :
    r.control.Works (awaitReplay several r).2.control := by
  unfold awaitReplay
  dsimp only
  split
  · exact .refl _
  · split
    · have hpoll := (Control.pollResponse_waits (c := r.control)).toWorks
      split
      · exact hpoll
      · exact hpoll.trans
          (ReplayObserver.waitForReplay_works { r with control := r.control.pollResponse.2 })
    · exact r.waitForReplay_works

theorem callObserver_works (r : ReplayObserver) :
    r.control.Works (callObserver r).control := by
  unfold callObserver
  split
  · exact .refl _
  · exact (r.issueEvents_talks.trans (ReplayObserver.sendActions_talks _)).works

theorem callObserverRealtime_works (r : ReplayObserver) :
    r.control.Works (callObserverRealtime r).control := by
  unfold callObserverRealtime
  split
  · exact .refl _
  · exact r.issueEvents_talks.works

/-- The end of both versions of `run_replay`. -/
theorem endReplay_works {k : Control} {r : ReplayObserver} (h : k.Works r.control) :
    k.Works (if !r.control.isInGame then r.callback .onGameEnd else r).control := by
  split
  · exact h.trans (r.callback_talks .onGameEnd).works
  · exact h

theorem runReplay_works (settings : ProcessSettings) (several : Bool) (r : ReplayObserver) :
    r.control.Works (runReplay settings several r).control := by
  have hawait := awaitReplay_works several r
  unfold runReplay
  dsimp only
  split
  · exact .refl _
  · split
    · exact hawait
    · split
      · exact hawait
      · have hstep := hawait.trans Control.step_waitStep_works
        apply endReplay_works
        split
        · exact hstep.trans ((ReplayObserver.issueEvents_talks
            { (awaitReplay several r).2 with
              control := (awaitReplay several r).2.control.step.2.waitStep.2 }).trans
            (ReplayObserver.sendActions_talks _)).works
        · exact hstep

theorem runReplayRealtime_works (settings : ProcessSettings) (several : Bool)
    (r : ReplayObserver) :
    r.control.Works (runReplayRealtime settings several r).control := by
  have hawait := awaitReplay_works several r
  unfold runReplayRealtime
  dsimp only
  split
  · exact .refl _
  · split
    · exact hawait
    · split
      · exact hawait
      · have hstep := hawait.trans Control.getObservation_talks.works
        apply endReplay_works
        split
        · exact hstep.trans (ReplayObserver.issueEvents_talks
            { (awaitReplay several r).2 with
              control := (awaitReplay several r).2.control.getObservation.2 }).works
        · exact hstep

end CoordinatorImp

/-! ## Calls -/

theorem ClientCall.run_works (call : ClientCall) (c : Control) : c.Works (call.run c) := by
  cases call with
  | getObservation => exact Control.getObservation_talks.works
  | getData table forceRefresh => exact (Control.getData_talks table forceRefresh).works
  | getGameInfo => exact Control.getGameInfo_talks.works
  | query q => exact (Control.query_talks q).works
  | sendActions batch =>
    exact (Agent.sendActions_talks { control := c, requestActions := batch }).works
  | sendActionsFeatureLayer queued =>
    exact (Agent.sendActionsFeatureLayer_talks
      { control := c, requestActionsFeatureLayer := queued }).works
  | sendObserverActions queued =>
    exact (ReplayObserver.sendActions_talks { control := c, request := queued }).works
  | sendDebug hasMoveCamera => exact Control.sendDebug_works hasMoveCamera
  | save => exact Control.exchange_works .quickSave
  | load => exact Control.exchange_works .quickLoad
  | ping => exact Control.proto_works _ (Control.kills_pingGame c.proto)
  | stepAndWait =>
    unfold run
    dsimp only
    split
    · exact Control.pollLeaveGame_works.trans Control.step_waitStep_works
    · exact .refl c
  | connect timeoutMs => exact Control.connect_works timeoutMs
  | createGame => exact (Control.request_talks .createGame (by decide)).works
  | remoteSaveMap => exact (Control.request_talks .saveMap (by decide)).works
  | saveReplay => exact Control.exchange_works .saveReplay
  | restart => exact (Agent.restart_talks { control := c }).works
  | gatherReplayInfo path =>
    exact (ReplayObserver.gatherReplayInfo_talks { control := c } path).works
  | requestJoinGame setup settings ports => exact Control.requestJoinGame_works setup settings ports
  | waitJoinGame => exact Control.waitJoinGame_works
  | requestLeaveGame => exact Control.requestLeaveGame_works
  | pollLeaveGame => exact Control.pollLeaveGame_works
  | loadReplay => exact Control.sendRequest_works .startReplay
  | waitForReplay replayInfo =>
    exact ReplayObserver.waitForReplay_works { control := c, replayInfo }
  | consumeResponse => exact Control.waitForResponse_works
  | pollResponse => exact Control.pollResponse_waits.toWorks
  | issueEvents commands => exact (Agent.issueEvents_talks { control := c, commands }).works
  | useGeneralizedAbility value => exact Control.works_of_eq rfl rfl rfl

end Sc2Api
