import Sc2Api.Lib.Machine
import Sc2Api.Verify.OwnAnswers

/-!
# Runs of calls on a client

In a run that never sends or waits past a response that is still to come, every
blocking call hears the answers to its own requests.
-/

namespace Sc2Api

open Lib

namespace Control

variable {c : Control}

/-! ## The calls that do not look before they send -/

theorem CanSend.congr {c' : Control} (h : c.CanSend) (hline : c'.proto.line = c.proto.line) :
    c'.CanSend := by
  have hpending : c'.proto.responsePending = c.proto.responsePending :=
    congrArg Line.responsePending hline
  have hconnection : c'.proto.connection = c.proto.connection :=
    congrArg Line.connection hline
  have hconnects : c'.proto.world.connects = c.proto.world.connects :=
    congrArg Line.connects hline
  unfold CanSend
  rw [hpending, hconnection, hconnects]
  exact h

theorem CanSend.exchange (h : c.CanSend) (case : Proto.ResponseCase) :
    (c.sendRequest case).2.waitForResponse = c.exchange case := by
  rw [sendRequest_waitForResponse, if_pos ((sendRequest_sent_iff c case).2 h)]

theorem sendDebug_goesOn (h : c.proto.line.Tidy) {hasMoveCamera : Bool} (hdebug : c.CanSend)
    (hcamera : hasMoveCamera = true → (c.exchange .debug).2.CanSend) :
    c.GoesOnFrom .debug (c.sendDebug hasMoveCamera) := by
  unfold sendDebug
  rw [hdebug.exchange]
  dsimp only
  split
  next hmove =>
    rw [(hcamera hmove).exchange]
    exact .inr ⟨(sendRequest_sent_iff c _).2 hdebug,
      exchange_converses (exchange_tidy h _) (by decide)⟩
  · exact .inl rfl

theorem getObservation_converses (h : c.proto.line.Tidy) : c.Converses c.getObservation.2 := by
  rcases getObservation_goesOn h with hline | hline | ⟨-, hconverses⟩
  · exact converses_of_line h hline
  · have hexchange := exchange_converses h
      (show Proto.ResponseCase.observation ≠ .ping by decide)
    exact hexchange.trans (converses_of_line hexchange.1 hline)
  · exact (exchange_converses h (by decide)).trans hconverses

theorem step_waitStep_goesOn (h : c.proto.line.Tidy) (happ : c.appState = .normal)
    (hstep : c.CanSend) : c.GoesOnFrom .step c.step.2.waitStep.2 := by
  have htidy := exchange_tidy h .step
  unfold GoesOnFrom waitStep step
  rw [if_neg (not_not_intro happ), hstep.exchange]
  dsimp only
  split
  · exact .inr ⟨(sendRequest_sent_iff c _).2 hstep, getObservation_converses htidy⟩
  · exact .inl rfl

/-- Where no leave request is to be waited for, polling for one talks to nobody. -/
theorem pollLeaveGame_of_not (h : c.pollLeaveGame.1 = false) :
    c.pollLeaveGame.2.proto.line = c.proto.line := by
  unfold pollLeaveGame at h ⊢
  dsimp only at h ⊢
  split
  · rfl
  next hmultiplayer =>
    split
    · exact line_errorIf c _ _
    next hleave =>
      rw [if_neg hmultiplayer, if_neg hleave] at h
      split at h <;> cases h

/-! ## Pings -/

theorem line_pingGame (p : ProtoInterface) : p.pingGame.2.line =
    if (p.sendRequest .ping true).1 then
      (p.sendRequest .ping true).2.waitForResponseInternal.2.line
    else (p.sendRequest .ping true).2.line := by
  unfold ProtoInterface.pingGame
  dsimp only
  cases (p.sendRequest .ping true).1 with
  | false => rfl
  | true =>
    simp only [Bool.not_true, Bool.false_eq_true, if_false, if_true]
    cases (p.sendRequest .ping true).2.waitForResponseInternal.1 with
    | none => rfl
    | some response =>
      dsimp only
      split <;> rfl

/-- A ping that has nothing to wait for but its own answer. -/
theorem pingGame_spec {p : ProtoInterface} (h : p.line.Tidy)
    (hnil : p.connection.outstanding = []) :
    p.pingGame.2.line.Tidy ∧ p.pingGame.2.connection.outstanding = [] ∧
      ((p.pingGame.2.log = p.log ++ [.refused .ping] ∧
        p.pingGame.2.responsePending = p.responsePending) ∨
      ∃ heard, p.pingGame.2.log = p.log ++ [.sent ⟨p.serial, .ping⟩, heard] ∧
        Dialogue.ProperFrom (.waiting p.serial) [heard.turn]) := by
  have hline := line_pingGame p
  have hrequested := ProtoInterface.sendRequest_requested h .ping true fun _ => hnil
  generalize p.sendRequest .ping true = requested at hline hrequested
  cases hrequested with
  | refused tidy log pending outstanding =>
    exact ⟨hline ▸ tidy, (congrArg (·.connection.outstanding) hline).trans
      (outstanding.trans hnil), .inl ⟨(congrArg Line.log hline).trans log,
      (congrArg Line.responsePending hline).trans pending⟩⟩
  | @sent p' orderly log pending outstanding =>
    obtain ⟨htidy, hout, hend⟩ := p'.waitForResponseInternal_tidy orderly
    have hlog : p.pingGame.2.log = p'.waitForResponseInternal.2.log := congrArg Line.log hline
    refine ⟨hline ▸ htidy, (congrArg (·.connection.outstanding) hline).trans hout, .inr ?_⟩
    rcases hend with ⟨response, -, hmem, -, hreceived⟩ | ⟨-, hreceived⟩
    · have hserial := List.mem_singleton.1 (outstanding.subset hmem)
      refine ⟨.received response, by simp [hlog, hreceived, log], ?_⟩
      simp [Traffic.turn, hserial, Dialogue.ProperFrom, Dialogue.run, Dialogue.next]
    · exact ⟨.timedOut, by simp [hlog, hreceived, log], rfl⟩

theorem ping_ownAnswers (h : c.proto.line.Tidy)
    (hnil : c.proto.connection.outstanding = []) : c.OwnAnswers c.ping.2 := by
  obtain ⟨-, hout, ⟨hlog, hpending⟩ | ⟨heard, hlog, hproper⟩⟩ := pingGame_spec h hnil
  · have hsaid : c.said c.ping.2 = [.refused .ping] := said_of_log hlog
    refine ⟨by rw [hsaid]; decide, fun case rest hrest => ?_⟩
    rw [hsaid] at hrest
    exact ⟨(List.cons.inj hrest).2.symm, hpending, hout.trans hnil.symm⟩
  · have hsaid : c.said c.ping.2 = _ := said_of_log hlog
    refine ⟨?_, fun case rest hrest => by simp [hsaid] at hrest⟩
    rw [hsaid, List.map_cons]
    exact Dialogue.properFrom_cons (Traffic.next_sent _) hproper

/-! ## The other calls keep the line tidy -/

theorem connectToGame_tidy {p : ProtoInterface} (h : p.line.Tidy)
    (hnil : p.connection.outstanding = []) :
    p.connectToGame.2.line.Tidy ∧ p.connectToGame.2.connection.outstanding = [] := by
  have hconnect := Connection.outstanding_connect hnil p.world.connects.head
  have hsettled := Connection.Settled.connect h.settled
    (Connection.flight_of_outstanding hnil) p.world.connects.head
  unfold ProtoInterface.connectToGame
  dsimp only
  split
  · exact ⟨Line.tidy_of_nil hsettled hconnect, hconnect⟩
  · let q : ProtoInterface := { p.connect with
      latestStatus := .unknown
      connection := { p.connect.connection with closedCallback := true } }
    have htidy : q.line.Tidy := Line.tidy_of_nil hsettled hconnect
    have hping := pingGame_spec htidy hconnect
    exact ⟨hping.1, hping.2.1⟩

theorem connectLoop_tidy (n : Nat) (h : c.proto.line.Tidy)
    (hnil : c.proto.connection.outstanding = []) :
    (connectLoop n c).2.proto.line.Tidy := by
  induction n generalizing c with
  | zero => exact h
  | succ n ih =>
    obtain ⟨htidy, hnil'⟩ := connectToGame_tidy h hnil
    unfold connectLoop
    dsimp only
    split
    · exact htidy
    · exact ih (c := { c with proto := c.proto.connectToGame.2 }) htidy hnil'

theorem sendRequest_tidy (h : c.proto.line.Tidy) {case : Proto.ResponseCase}
    (hcase : case ≠ .responseNotSet) : (c.sendRequest case).2.proto.line.Tidy := by
  have hrequested := ProtoInterface.sendRequest_requested h case false (by simp)
  unfold sendRequest
  generalize c.proto.sendRequest case = requested at hrequested ⊢
  cases hrequested with
  | refused tidy => exact tidy
  | @sent p' orderly log pending outstanding =>
    exact ⟨orderly, fun hnone => absurd (pending.symm.trans hnone) hcase⟩

theorem waitForResponse_tidy (h : c.proto.line.Tidy) : c.waitForResponse.2.proto.line.Tidy :=
  (waitForResponse_hears h.toOrderly).1

theorem pollLeaveGame_tidy (h : c.proto.line.Tidy) : c.pollLeaveGame.2.proto.line.Tidy := by
  unfold pollLeaveGame
  dsimp only
  split
  · exact h
  · split
    · rw [line_errorIf]
      exact h
    · have hpoll : c.pollResponse.2.proto.line.Tidy := ProtoInterface.pollResponse_tidy h
      split
      · exact hpoll
      · exact waitForResponse_tidy hpoll

theorem request_tidy (h : c.proto.line.Tidy) (case : Proto.ResponseCase) :
    (c.request case).2.proto.line.Tidy := by
  have hexchange := exchange_tidy h case
  unfold request
  dsimp only
  split <;> exact hexchange

theorem waitJoinGame_tidy (h : c.proto.line.Tidy) : c.waitJoinGame.2.proto.line.Tidy := by
  have hwait := waitForResponse_tidy h
  unfold waitJoinGame
  dsimp only
  split
  · exact hwait
  · split <;> exact hwait

theorem takeTurn_tidy (turn : BotTurn) (h : c.proto.line.Tidy) :
    (c.takeTurn turn).proto.line.Tidy := by
  have hrequests (requests : List BotRequest) {c : Control} (h : c.proto.line.Tidy) :
      (requests.foldl (fun c request => (c.exchange request.case).2) c).proto.line.Tidy := by
    induction requests generalizing c with
    | nil => exact h
    | cons request requests ih => exact ih (exchange_tidy h request.case)
  exact hrequests turn.requests h

end Control

theorem Agent.takeTurn_tidy {a : Agent} (h : a.control.proto.line.Tidy) :
    a.takeTurn.control.proto.line.Tidy :=
  Control.takeTurn_tidy (c := { a.control with proto := { a.control.proto with
    world := { a.control.proto.world with turns := a.control.proto.world.turns.tail } } }) _
    (h.congr rfl rfl)

theorem ReplayObserver.takeTurn_tidy {r : ReplayObserver} (h : r.control.proto.line.Tidy) :
    r.takeTurn.control.proto.line.Tidy :=
  Control.takeTurn_tidy (c := { r.control with proto := { r.control.proto with
    world := { r.control.proto.world with turns := r.control.proto.world.turns.tail } } }) _
    (h.congr rfl rfl)

theorem Agent.issueEvents_tidy {a : Agent} (h : a.control.proto.line.Tidy) :
    a.issueEvents.2.control.proto.line.Tidy := by
  unfold Agent.issueEvents
  dsimp only
  split
  · exact Agent.takeTurn_tidy (h.congr rfl rfl)
  · exact h.congr rfl rfl

theorem Agent.restart_tidy {a : Agent} (h : a.control.proto.line.Tidy) :
    a.restart.2.control.proto.line.Tidy := by
  have hexchange := Control.exchange_tidy h .restartGame
  unfold Agent.restart
  dsimp only
  split
  · exact hexchange
  · split
    · exact hexchange
    · split
      · exact hexchange
      · exact Agent.takeTurn_tidy hexchange

theorem ReplayObserver.gatherReplayInfo_tidy {r : ReplayObserver} (path : String)
    (h : r.control.proto.line.Tidy) :
    (r.gatherReplayInfo path).2.control.proto.line.Tidy := by
  have hexchange := Control.exchange_tidy h .replayInfo
  unfold ReplayObserver.gatherReplayInfo
  dsimp only
  split
  · exact hexchange
  · repeat' split
    all_goals exact hexchange

theorem ReplayObserver.waitForReplay_tidy {r : ReplayObserver}
    (h : r.control.proto.line.Tidy) : r.waitForReplay.2.control.proto.line.Tidy := by
  have hwait := Control.waitForResponse_tidy h
  unfold ReplayObserver.waitForReplay
  dsimp only
  split
  · exact hwait
  · split
    · exact hwait
    · split
      · exact hwait
      · split
        · exact hwait
        · split
          · exact hwait
          · exact ReplayObserver.takeTurn_tidy (Control.getObservation_converses hwait).1

/-! ## Runs -/

namespace ClientCall

/-- The calls that do not look before they send come while nothing is owed to another
call: `SendDebug` and the step of `StepAgents` while their requests can be sent, pings
while no response is outstanding. -/
def InTurn (c : Control) : ClientCall → Prop
  | sendDebug hasMoveCamera =>
    c.CanSend ∧
      (hasMoveCamera = true → (c.sendRequest .debug).2.waitForResponse.2.CanSend)
  | stepAndWait => stepsNow c = true → c.CanSend
  | ping | connect _ => c.proto.connection.outstanding = []
  | _ => True

instance decidableInTurn (c : Control) : ∀ call : ClientCall, Decidable (call.InTurn c)
  | sendDebug _ => inferInstanceAs (Decidable (_ ∧ _))
  | stepAndWait => inferInstanceAs (Decidable (_ → _))
  | ping | connect _ => inferInstanceAs (Decidable (_ = _))
  | getObservation | getData .. | getGameInfo | query _ | sendActions _
  | sendActionsFeatureLayer _ | sendObserverActions _ | save | load | createGame
  | remoteSaveMap | saveReplay | restart | gatherReplayInfo _ | requestJoinGame ..
  | waitJoinGame | requestLeaveGame | pollLeaveGame | loadReplay | waitForReplay _
  | consumeResponse | pollResponse | issueEvents _ | useGeneralizedAbility _ => isTrue trivial

variable {c : Control}

theorem stepAndWait_spec (h : c.proto.line.Tidy) (hturn : stepAndWait.InTurn c) :
    (stepAndWait.run c).proto.line.Tidy ∧ c.OwnAnswers (stepAndWait.run c) := by
  unfold run
  dsimp only
  split
  next hsteps =>
    have hcan := hturn hsteps
    simp only [stepsNow, Bool.and_eq_true, Bool.not_eq_true'] at hsteps
    have hline := Control.pollLeaveGame_of_not hsteps.1.2
    have happ : c.pollLeaveGame.2.appState = .normal := by
      by_contra happ
      rw [Control.isFinishedGame, if_pos happ] at hsteps
      cases hsteps.2
    have hgoes := Control.step_waitStep_goesOn (hline ▸ h) happ (hcan.congr hline)
    obtain ⟨htidy, howns⟩ := hgoes.ownAnswers (hline ▸ h)
    exact ⟨htidy, howns.of_line hline⟩
  · exact ⟨h, Control.ownAnswers_of_line rfl⟩

/-- One call in turn keeps the line tidy, and hears its own answers if it blocks. -/
theorem run_spec (call : ClientCall) (h : c.proto.line.Tidy) (hturn : call.InTurn c) :
    (call.run c).proto.line.Tidy ∧ (call.Blocking → c.OwnAnswers (call.run c)) := by
  have hblocking {case : Proto.ResponseCase} {c' : Control}
      (hcall : c'.proto.line = c.proto.line ∨ c.GoesOnFrom case c') (P : Prop) :
      c'.proto.line.Tidy ∧ (P → c.OwnAnswers c') :=
    ⟨(Control.ownAnswers_of_goesOn h hcall).1,
      fun _ => (Control.ownAnswers_of_goesOn h hcall).2⟩
  cases call with
  | getObservation => exact hblocking (Control.getObservation_goesOn h) _
  | getData table forceRefresh => exact hblocking (Control.getData_goesOn table forceRefresh) _
  | getGameInfo => exact hblocking Control.getGameInfo_goesOn _
  | query q => exact hblocking (Control.query_goesOn h q) _
  | sendActions batch =>
    exact hblocking (Agent.sendActions_goesOn { control := c, requestActions := batch }) _
  | sendActionsFeatureLayer queued =>
    exact hblocking (Agent.sendActionsFeatureLayer_goesOn
      { control := c, requestActionsFeatureLayer := queued }) _
  | sendObserverActions queued =>
    exact hblocking (ReplayObserver.sendActions_goesOn { control := c, request := queued }) _
  | sendDebug hasMoveCamera =>
    obtain ⟨hdebug, hcamera⟩ := hturn
    rw [hdebug.exchange] at hcamera
    exact hblocking (.inr (Control.sendDebug_goesOn h hdebug hcamera)) _
  | save => exact hblocking (.inr (.inl rfl) : _ ∨ c.GoesOnFrom .quickSave _) _
  | load => exact hblocking (.inr (.inl rfl) : _ ∨ c.GoesOnFrom .quickLoad _) _
  | ping => exact ⟨(Control.pingGame_spec h hturn).1, fun _ => Control.ping_ownAnswers h hturn⟩
  | stepAndWait =>
    obtain ⟨htidy, howns⟩ := stepAndWait_spec h hturn
    exact ⟨htidy, fun _ => howns⟩
  | connect timeoutMs => exact ⟨Control.connectLoop_tidy _ h hturn, False.elim⟩
  | createGame => exact ⟨Control.request_tidy h _, False.elim⟩
  | remoteSaveMap => exact ⟨Control.request_tidy h _, False.elim⟩
  | saveReplay => exact ⟨Control.exchange_tidy h _, False.elim⟩
  | restart => exact ⟨Agent.restart_tidy h, False.elim⟩
  | gatherReplayInfo path => exact ⟨ReplayObserver.gatherReplayInfo_tidy path h, False.elim⟩
  | requestJoinGame setup settings ports =>
    exact ⟨Control.sendRequest_tidy h
      (show Proto.ResponseCase.joinGame ≠ .responseNotSet by decide), False.elim⟩
  | waitJoinGame => exact ⟨Control.waitJoinGame_tidy h, False.elim⟩
  | requestLeaveGame =>
    refine ⟨?_, False.elim⟩
    unfold run Control.requestLeaveGame
    dsimp only
    split
    · exact h
    · exact Control.sendRequest_tidy h (by decide)
  | pollLeaveGame => exact ⟨Control.pollLeaveGame_tidy h, False.elim⟩
  | loadReplay =>
    exact ⟨Control.sendRequest_tidy h
      (show Proto.ResponseCase.startReplay ≠ .responseNotSet by decide), False.elim⟩
  | waitForReplay replayInfo => exact ⟨ReplayObserver.waitForReplay_tidy h, False.elim⟩
  | consumeResponse => exact ⟨Control.waitForResponse_tidy h, False.elim⟩
  | pollResponse => exact ⟨ProtoInterface.pollResponse_tidy h, False.elim⟩
  | issueEvents commands => exact ⟨Agent.issueEvents_tidy h, False.elim⟩
  | useGeneralizedAbility value => exact ⟨h, False.elim⟩

end ClientCall

/-- In a run whose calls are all in turn, every blocking call hears the answers to its
own requests, and leaves the others to their waiters. -/
theorem blocking_calls_hear_own_answers (processInfo : Option ProcessInfo)
    (inputs : List (World × ClientCall))
    (h : clientMachine.Along (fun c input => input.2.InTurn (c.inWorld input.1))
      { processInfo } inputs) :
    clientMachine.Along (fun c input => input.2.Blocking →
      (c.inWorld input.1).OwnAnswers (clientMachine.step c input).1) { processInfo } inputs := by
  have hstart : ({ processInfo } : Control).proto.line.Tidy :=
    Line.tidy_of_nil (fun flight hflight => by cases hflight) rfl
  have htidy := h.strengthen (I := fun c => c.proto.line.Tidy)
    (fun c input hc hturn => (input.2.run_spec (c := c.inWorld input.1) (hc.congr rfl rfl)
      hturn).1) hstart
  exact htidy.imp fun c input hc =>
    (input.2.run_spec (c := c.inWorld input.1) (hc.1.congr rfl rfl) hc.2).2

/-- The game answers every request at once. -/
def answeringWorld (status : Status) : World where
  deliveries := .const { waiting := [.answer { status := some status }] }

theorem blocking_calls_in_turn :
    clientMachine.Along (fun c input => input.2.Blocking →
        (c.inWorld input.1).OwnAnswers (clientMachine.step c input).1) {}
      [(answeringWorld .launched, .connect 1000),
        (answeringWorld .initGame, .requestJoinGame {} {} {}),
        (answeringWorld .inGame, .waitJoinGame), (answeringWorld .inGame, .stepAndWait),
        (answeringWorld .inGame, .sendDebug true), (answeringWorld .inGame, .ping)] :=
  blocking_calls_hear_own_answers none _ (by decide +kernel)

/-- Called while a join request is pending, `SendDebug`, the step of `StepAgents` and
`Ping` hear its answer. -/
theorem blocking_calls_hear_join_answer :
    [ClientCall.sendDebug false, .stepAndWait, .ping].Forall fun call =>
      ¬ clientMachine.Along (fun c input => input.2.Blocking →
          (c.inWorld input.1).OwnAnswers (clientMachine.step c input).1) {}
        [(answeringWorld .launched, .connect 1000),
          (answeringWorld .initGame, .requestJoinGame {} {} {}),
          (answeringWorld .inGame, call)] := by
  refine List.forall_iff_forall_mem.2 fun call hcall h => ?_
  simp only [List.mem_cons, List.not_mem_nil, or_false] at hcall
  rcases hcall with rfl | rfl | rfl
  · exact absurd (h.2.2.1 trivial).own (by decide +kernel)
  · exact absurd (h.2.2.1 trivial).own (by decide +kernel)
  · exact absurd (h.2.2.1 trivial).own (by decide +kernel)

end Sc2Api
