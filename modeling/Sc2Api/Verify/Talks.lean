import Sc2Api.CoordinatorRuns
import Sc2Api.Verify.Wire

/-!
# What a client does between the steps of the coordinator

Fetching, sending actions and the turns of a bot are all round trips, none of them
to leave the game, with changes in between that the game does not see.
-/

namespace Sc2Api

open Lib

/-! ## The world beside the line -/

namespace ProtoInterface

variable (p : ProtoInterface)

@[simp] theorem world_foldl_arrive (arrivals : List Arrival) :
    (arrivals.foldl arrive p).world = p.world := by
  obtain ⟨errors, h⟩ := p.foldl_arrive_eq arrivals
  rw [h]

@[simp] theorem world_disconnect : p.disconnect.world = p.world := by
  obtain ⟨errors, h⟩ := p.disconnect_eq
  rw [h]

theorem kills_receive : p.receive.2.world.kills = p.world.kills := by
  unfold receive
  dsimp only
  split <;> simp

theorem kills_waitForResponseInternal :
    p.waitForResponseInternal.2.world.kills = p.world.kills := by
  have hreceive := kills_receive { p with latestStatus := .unknown }
  unfold waitForResponseInternal
  generalize receive { p with latestStatus := .unknown } = received at hreceive ⊢
  obtain ⟨response, q⟩ := received
  dsimp only at hreceive ⊢
  cases response with
  | none => exact hreceive
  | some response =>
    dsimp only
    split <;> exact hreceive

theorem kills_sendRequest (case : Proto.ResponseCase) (ignorePendingRequests : Bool) :
    (p.sendRequest case ignorePendingRequests).2.world.kills = p.world.kills := by
  have hensure : p.ensureConnection.world.kills = p.world.kills := by
    unfold ensureConnection
    split <;> rfl
  rcases p.sendRequest_cases case ignorePendingRequests with ⟨-, h⟩ | ⟨-, -, -, h⟩ | ⟨-, -, h⟩
  · rw [h]
    exact hensure
  · rw [h]
    exact hensure
  · rw [h]
    exact hensure

theorem kills_pollResponse : p.pollResponse.2.world.kills = p.world.kills := by
  unfold pollResponse
  simp

end ProtoInterface

/-! ## Waits -/

namespace Control

/-- No process is going to be killed. -/
def Spared (c : Control) : Prop := ∀ n, c.proto.world.kills.get n = false

/-- A call of a process function for the client's own process, which survives it. -/
def OwnCall (processInfo : Option ProcessInfo) (call : ProcessCall) : Prop :=
  call = .isProcessRunning (processInfo.map (·.processId)) ∨
    call = .terminateProcess (processInfo.map (·.processId)) false

/-- A client keeps to its own process and, if it is spared, kills nothing. -/
structure Works (c c' : Control) : Prop where
  processInfo : c'.processInfo = c.processInfo
  spared : c.Spared → c'.Spared
  calls : c.Spared → ∃ calls, c'.calls = c.calls ++ calls ∧
    ∀ call ∈ calls, OwnCall c.processInfo call

/-- Of what a client knows, a wait changes at most the state of the application. -/
structure Waits (c c' : Control) : Prop extends Works c c' where
  imp : ∃ appState, c'.imp = { c.imp with appState }
  tableSizes : c'.tableSizes = c.tableSizes

variable {c c' c'' : Control}

theorem Works.refl (c : Control) : c.Works c := ⟨rfl, id, fun _ => ⟨[], by simp, by simp⟩⟩

theorem Works.trans (h : c.Works c') (h' : c'.Works c'') : c.Works c'' where
  processInfo := h'.processInfo.trans h.processInfo
  spared hspared := h'.spared (h.spared hspared)
  calls hspared := by
    obtain ⟨calls, hcalls, hown⟩ := h.calls hspared
    obtain ⟨calls', hcalls', hown'⟩ := h'.calls (h.spared hspared)
    refine ⟨calls ++ calls', by rw [hcalls', hcalls, List.append_assoc], fun call hcall => ?_⟩
    rcases List.mem_append.1 hcall with hcall | hcall
    · exact hown call hcall
    · exact h.processInfo ▸ hown' call hcall

/-- What changes neither the calls nor the world's answers to them. -/
theorem works_of_eq (hinfo : c'.processInfo = c.processInfo)
    (hkills : c'.proto.world.kills = c.proto.world.kills) (hcalls : c'.calls = c.calls) :
    c.Works c' where
  processInfo := hinfo
  spared hspared n := by rw [hkills]; exact hspared n
  calls _ := ⟨[], by simp [hcalls], by simp⟩

theorem Waits.refl (c : Control) : c.Waits c := ⟨.refl c, ⟨c.imp.appState, rfl⟩, rfl⟩

theorem Waits.trans (h : c.Waits c') (h' : c'.Waits c'') : c.Waits c'' where
  toWorks := h.toWorks.trans h'.toWorks
  imp := by
    obtain ⟨appState, himp⟩ := h.imp
    obtain ⟨appState', himp'⟩ := h'.imp
    exact ⟨appState', by rw [himp', himp]⟩
  tableSizes := h'.tableSizes.trans h.tableSizes

theorem Waits.observationImp (h : c.Waits c') : c'.imp.observationImp = c.imp.observationImp := by
  obtain ⟨appState, himp⟩ := h.imp
  rw [himp]

theorem error_waits (error : ClientError) (errors : List String) :
    c.Waits (c.error error errors) := ⟨works_of_eq rfl rfl rfl, ⟨c.imp.appState, rfl⟩, rfl⟩

theorem errorIf_waits (condition : Bool) (error : ClientError) :
    c.Waits (c.errorIf condition error) := by
  unfold errorIf
  split
  · exact error_waits error []
  · exact .refl c

theorem reportErrors_waits (errors : List ClientError) : c.Waits (c.reportErrors errors) :=
  ⟨works_of_eq rfl rfl rfl, ⟨c.imp.appState, rfl⟩, rfl⟩

theorem setAppState_waits (appState : AppState) : c.Waits (c.setAppState appState) :=
  ⟨works_of_eq rfl rfl rfl, ⟨appState, rfl⟩, rfl⟩

theorem isProcessRunning_waits : c.Waits c.isProcessRunning.2 where
  processInfo := rfl
  spared hspared := hspared
  calls _ := ⟨_, rfl, fun _ hcall => .inl (List.mem_singleton.1 hcall)⟩
  imp := ⟨c.imp.appState, rfl⟩
  tableSizes := rfl

theorem terminateProcess_waits : c.Waits c.terminateProcess.2 where
  processInfo := rfl
  spared hspared n := hspared (n + 1)
  calls hspared := by
    refine ⟨_, rfl, fun call hcall => .inr ?_⟩
    rw [List.mem_singleton.1 hcall]
    congr 1
    exact hspared 0
  imp := ⟨c.imp.appState, rfl⟩
  tableSizes := rfl

theorem killLoop_waits (n : Nat) : c.Waits (killLoop n c) := by
  induction n generalizing c with
  | zero => exact .refl c
  | succ n ih =>
    unfold killLoop
    dsimp only
    split
    · exact (isProcessRunning_waits.trans terminateProcess_waits).trans ih
    · exact isProcessRunning_waits

theorem terminateHung_waits : c.Waits c.terminateHung := by
  have hloop : c.Waits (killLoop 10 (c.setAppState .timeout)).isProcessRunning.2 :=
    ((setAppState_waits .timeout).trans (killLoop_waits 10)).trans isProcessRunning_waits
  unfold terminateHung
  dsimp only
  split
  · exact (hloop.trans (setAppState_waits _)).trans (error_waits _ _)
  · exact hloop.trans (error_waits _ _)

theorem sendProto_waits (case : Proto.ResponseCase) (ignorePendingRequests : Bool) :
    c.Waits { c with proto := (c.proto.sendRequest case ignorePendingRequests).2 } :=
  ⟨works_of_eq rfl (c.proto.kills_sendRequest _ _) rfl, ⟨c.imp.appState, rfl⟩, rfl⟩

theorem waitProto_waits : c.Waits { c with proto := c.proto.waitForResponseInternal.2 } :=
  ⟨works_of_eq rfl c.proto.kills_waitForResponseInternal rfl, ⟨c.imp.appState, rfl⟩, rfl⟩

theorem diagnoseHang_waits : c.Waits c.diagnoseHang := by
  have hsend : c.Waits { c with proto := (c.proto.sendRequest .ping true).2 } :=
    sendProto_waits .ping true
  have hwait := hsend.trans waitProto_waits
  have hhung {c' : Control} (h : c.Waits c') :
      c.Waits ((c'.setAppState .timeout).error .sc2ProtocolTimeout).terminateHung :=
    ((h.trans (setAppState_waits _)).trans (error_waits _ _)).trans terminateHung_waits
  unfold diagnoseHang
  dsimp only
  split
  · exact hhung hsend
  · split
    · exact (hwait.trans (errorIf_waits _ _)).trans (error_waits _ _)
    · exact hhung hwait

theorem diagnose_waits : c.Waits c.diagnose := by
  unfold diagnose
  dsimp only
  split
  · exact (isProcessRunning_waits.trans (setAppState_waits _)).trans (error_waits _ _)
  · exact isProcessRunning_waits.trans diagnoseHang_waits

theorem waitForResponse_waits : c.Waits c.waitForResponse.2 := by
  unfold waitForResponse
  dsimp only
  split
  · split
    · exact waitProto_waits
    · exact waitProto_waits.trans (error_waits _ _)
  · exact waitProto_waits.trans diagnose_waits

theorem sendRequest_waits (case : Proto.ResponseCase) : c.Waits (c.sendRequest case).2 :=
  sendProto_waits case false

theorem exchange_waits (case : Proto.ResponseCase) : c.Waits (c.exchange case).2 := by
  unfold exchange
  dsimp only
  split
  · exact sendRequest_waits case
  · exact (sendRequest_waits case).trans waitForResponse_waits

theorem pollResponse_waits : c.Waits c.pollResponse.2 :=
  ⟨works_of_eq rfl c.proto.kills_pollResponse rfl, ⟨c.imp.appState, rfl⟩, rfl⟩

end Control

/-! ## Talks -/

theorem BotRequest.case_ne (request : BotRequest) : request.case ≠ .leaveGame := by
  cases request <;> decide

namespace Control

/-- Nothing that the game or the operating system sees is different. -/
structure Alike (c c' : Control) : Prop where
  line : c'.proto.line = c.proto.line
  kills : c'.proto.world.kills = c.proto.world.kills
  processInfo : c'.processInfo = c.processInfo
  calls : c'.calls = c.calls
  appState : c'.appState = c.appState
  isMultiplayer : c'.imp.isMultiplayer = c.imp.isMultiplayer

inductive Talks (c : Control) : Control → Prop
  | refl : Talks c c
  | exchange {c' : Control} (case : Proto.ResponseCase) (hcase : case ≠ .leaveGame)
      (talks : Talks c c') : Talks c (c'.exchange case).2
  | alike {c' c'' : Control} (talks : Talks c c') (alike : c'.Alike c'') : Talks c c''

variable {c c' c'' : Control}

theorem Talks.trans (h : c.Talks c') (h' : c'.Talks c'') : c.Talks c'' := by
  induction h' with
  | refl => exact h
  | exchange case hcase _ ih => exact .exchange case hcase ih
  | alike _ halike ih => exact .alike ih halike

theorem Alike.talks (h : c.Alike c') : c.Talks c' := .alike .refl h

theorem exchange_talks (case : Proto.ResponseCase) (hcase : case ≠ .leaveGame) :
    c.Talks (c.exchange case).2 := .exchange case hcase .refl

theorem Talks.works (h : c.Talks c') : c.Works c' := by
  induction h with
  | refl => exact .refl c
  | exchange case _ _ ih => exact ih.trans (exchange_waits case).toWorks
  | alike _ halike ih =>
    exact ih.trans (works_of_eq halike.processInfo halike.kills halike.calls)

theorem Talks.isMultiplayer (h : c.Talks c') : c'.imp.isMultiplayer = c.imp.isMultiplayer := by
  induction h with
  | refl => rfl
  | @exchange c' case _ _ ih =>
    obtain ⟨appState, himp⟩ := (exchange_waits (c := c') case).imp
    rw [himp]
    exact ih
  | alike _ halike ih => exact halike.isMultiplayer.trans ih

/-! ## Game data and observations -/

theorem requestAbilities_talks : c.Talks c.requestAbilities.2 := by
  unfold requestAbilities
  dsimp only
  split <;> exact exchange_talks .data (by decide)

theorem abilityAnswers_talks (n : Nat) : c.Talks (abilityAnswers n c).2 := by
  induction n generalizing c with
  | zero => exact .refl
  | succ n ih => exact requestAbilities_talks.trans ih

theorem storeTable_alike (table : DataTable) (size : Nat)
    (abilities : Option (List Proto.AbilityData)) :
    c.Alike (c.storeTable table size abilities) := ⟨rfl, rfl, rfl, rfl, rfl, rfl⟩

theorem getData_talks (table : DataTable) (forceRefresh : Bool) :
    c.Talks (c.getData table forceRefresh) := by
  unfold getData
  dsimp only
  split
  · exact .refl
  · exact .alike (exchange_talks .data (by decide)) (storeTable_alike table _ _)

theorem getGameInfo_talks : c.Talks c.getGameInfo := by
  have hexchange := exchange_talks (c := c) .gameInfo (by decide)
  unfold getGameInfo
  dsimp only
  split
  · exact .refl
  · split
    · exact .alike hexchange ⟨rfl, rfl, rfl, rfl, rfl, rfl⟩
    · exact hexchange

theorem isMultiplayer_getObservation (imp : ControlImp) (orders : UpdateOrders)
    (answer : Option Proto.Response) :
    (imp.getObservation orders answer).2.isMultiplayer = imp.isMultiplayer := by
  unfold ControlImp.getObservation
  dsimp only
  repeat' split
  all_goals rfl

/-- Fetching an observation goes on from a round trip for it. -/
theorem exchange_talks_getObservation (happ : c.appState = .normal) :
    (c.exchange .observation).2.Talks c.getObservation.2 := by
  unfold getObservation
  rw [sendRequest_waitForResponse, if_neg (not_not_intro happ)]
  dsimp only
  cases hsent : (c.sendRequest .observation).1 with
  | false => exact .refl
  | true =>
    generalize (c.sendRequest .observation).2.waitForResponse = waited
    obtain ⟨response, e⟩ := waited
    simp only [if_true, Bool.not_true, Bool.false_eq_true, if_false]
    cases response with
    | none => exact .refl
    | some response =>
      dsimp only
      split
      · exact .refl
      · let asked : Control := { e with proto := { e.proto with world := { e.proto.world with
            dataRequests := e.proto.world.dataRequests.tail
            updateOrders := e.proto.world.updateOrders.tail } } }
        have hasked : e.Alike asked := ⟨rfl, rfl, rfl, rfl, rfl, rfl⟩
        have hanswers : asked.Talks (abilityAnswers e.proto.world.dataRequests.head asked).2 :=
          abilityAnswers_talks _
        refine .alike (hasked.talks.trans hanswers) ⟨rfl, rfl, rfl, rfl, rfl, ?_⟩
        exact (isMultiplayer_getObservation _ _ _).trans hanswers.isMultiplayer.symm

theorem getObservation_talks : c.Talks c.getObservation.2 := by
  by_cases happ : c.appState = .normal
  · exact (exchange_talks .observation (by decide)).trans (exchange_talks_getObservation happ)
  · unfold getObservation
    rw [if_pos happ]
    exact .refl

theorem errorIf_alike (condition : Bool) (error : ClientError) :
    c.Alike (c.errorIf condition error) := by
  unfold errorIf
  split
  · exact ⟨rfl, rfl, rfl, rfl, rfl, rfl⟩
  · exact ⟨rfl, rfl, rfl, rfl, rfl, rfl⟩

theorem generalizeAbilityID_talks (abilityId : UInt32) :
    c.Talks (c.generalizeAbilityID abilityId) := by
  unfold generalizeAbilityID
  split
  · exact .refl
  · exact getData_talks .abilities false

theorem readAbilities_talks (units : List Tag)
    (entries : List Proto.ResponseQueryAvailableAbilities) :
    c.Talks (c.readAbilities units entries) := by
  induction entries generalizing c units with
  | nil => exact .refl
  | cons entry entries ih =>
    have hall (abilities : List Proto.AvailableAbility) (c : Control) :
        c.Talks (abilities.foldl
          (fun c ability => c.generalizeAbilityID (ability.abilityId.getD 0).toUInt32) c) := by
      induction abilities generalizing c with
      | nil => exact .refl
      | cons ability abilities ih => exact (generalizeAbilityID_talks _).trans (ih _)
    exact ((errorIf_alike _ _).talks.trans (hall entry.abilities _)).trans (ih units.tail)

theorem getAbilitiesForUnits_talks (units : List Tag) :
    c.Talks (c.getAbilitiesForUnits units).2 := by
  have hexchange := exchange_talks (c := c) .query (by decide)
  unfold getAbilitiesForUnits
  generalize c.exchange .query = exchanged at hexchange ⊢
  obtain ⟨response, e⟩ := exchanged
  dsimp only at hexchange ⊢
  split
  · exact .refl
  · cases response with
    | none => exact hexchange
    | some response =>
      dsimp only
      split
      · exact .alike hexchange ⟨rfl, rfl, rfl, rfl, rfl, rfl⟩
      · exact hexchange.trans (readAbilities_talks _ _)

theorem query_talks (q : Query) : c.Talks (c.query q) := by
  cases q with
  | pathingDistance => exact exchange_talks .query (by decide)
  | placement => exact exchange_talks .query (by decide)
  | abilitiesForUnits units => exact getAbilitiesForUnits_talks units
  | abilitiesForUnit unit => exact .alike (getAbilitiesForUnits_talks [unit]) (errorIf_alike _ _)

theorem request_talks (case : Proto.ResponseCase) (hcase : case ≠ .leaveGame) :
    c.Talks (c.request case).2 := by
  have hexchange := exchange_talks (c := c) case hcase
  unfold request
  dsimp only
  split <;> exact hexchange

/-! ## Bots -/

theorem takeTurn_talks (turn : BotTurn) : c.Talks (c.takeTurn turn) := by
  have hrequests (requests : List BotRequest) (c : Control) :
      c.Talks (requests.foldl (fun c request => (c.exchange request.case).2) c) := by
    induction requests generalizing c with
    | nil => exact .refl
    | cons request requests ih =>
      exact (exchange_talks request.case request.case_ne).trans (ih _)
  exact .alike (hrequests turn.requests c) ⟨rfl, rfl, rfl, rfl, rfl, rfl⟩

theorem takeTurn_waits (turn : BotTurn) : c.Waits (c.takeTurn turn) := by
  have hrequests (requests : List BotRequest) (c : Control) :
      c.Waits (requests.foldl (fun c request => (c.exchange request.case).2) c) := by
    induction requests generalizing c with
    | nil => exact .refl c
    | cons request requests ih => exact (exchange_waits request.case).trans (ih _)
  exact (hrequests turn.requests c).trans (reportErrors_waits _)

/-- A turn takes its entry from the world, and then talks. -/
theorem turns_waits : c.Waits { c with proto := { c.proto with
    world := { c.proto.world with turns := c.proto.world.turns.tail } } } :=
  ⟨works_of_eq rfl rfl rfl, ⟨c.imp.appState, rfl⟩, rfl⟩

theorem issueEvents_alike (order : UnitPool.Order) (commands : List Tag) :
    c.Alike { c with
      proto := { c.proto with
        world := { c.proto.world with orders := c.proto.world.orders.tail } }
      imp := (c.imp.issueEvents order commands).2.2 } where
  line := rfl
  kills := rfl
  processInfo := rfl
  calls := rfl
  appState := by
    unfold ControlImp.issueEvents ControlImp.issueUnitDestroyedEvents appState
    dsimp only
    repeat' split
    all_goals rfl
  isMultiplayer := by
    unfold ControlImp.issueEvents ControlImp.issueUnitDestroyedEvents
    dsimp only
    repeat' split
    all_goals rfl

end Control

namespace Agent

variable (a : Agent)

theorem takeTurn_talks : a.control.Talks a.takeTurn.control := by
  have halike : a.control.Alike { a.control with proto := { a.control.proto with
      world := { a.control.proto.world with turns := a.control.proto.world.turns.tail } } } :=
    ⟨rfl, rfl, rfl, rfl, rfl, rfl⟩
  exact halike.talks.trans (Control.takeTurn_talks _)

theorem callback_talks (event : ClientEvent) : a.control.Talks (a.callback event).control :=
  takeTurn_talks { a with events := a.events ++ [event] }

theorem callback_waits (event : ClientEvent) : a.control.Waits (a.callback event).control :=
  Control.turns_waits.trans (Control.takeTurn_waits _)

theorem issueEvents_talks : a.control.Talks a.issueEvents.2.control := by
  have halike := (Control.issueEvents_alike (c := a.control) a.control.proto.world.orders.head
    a.commands).talks
  unfold issueEvents
  dsimp only
  split
  · exact halike.trans (callback_talks { a with control := { a.control with
      proto := { a.control.proto with world := { a.control.proto.world with
        orders := a.control.proto.world.orders.tail } }
      imp := (a.control.imp.issueEvents a.control.proto.world.orders.head a.commands).2.2 } } _)
  · exact halike

theorem sendActions_talks : a.control.Talks a.sendActions.control := by
  have hexchange := Control.exchange_talks (c := a.control) .action (by decide)
  rw [Control.sendRequest_waitForResponse] at hexchange
  unfold sendActions
  dsimp only
  split
  · exact .refl
  · cases hsent : (a.control.sendRequest .action).1 with
    | false => simpa [hsent] using hexchange
    | true => simpa [hsent] using hexchange

theorem sendActionsFeatureLayer_talks : a.control.Talks a.sendActionsFeatureLayer.control := by
  have hexchange := Control.exchange_talks (c := a.control) .action (by decide)
  rw [Control.sendRequest_waitForResponse] at hexchange
  unfold sendActionsFeatureLayer
  dsimp only
  split
  · exact .refl
  · cases hsent : (a.control.sendRequest .action).1 with
    | false => simpa [hsent] using hexchange
    | true => simpa [hsent] using hexchange

theorem restart_talks : a.control.Talks a.restart.2.control := by
  have hexchange := Control.exchange_talks (c := a.control) .restartGame (by decide)
  unfold restart
  dsimp only
  split
  · exact hexchange
  · split
    · exact hexchange
    · split
      · exact hexchange
      · exact hexchange.trans
          (callback_talks { a with control := (a.control.exchange .restartGame).2 } _)

end Agent

namespace ReplayObserver

variable (r : ReplayObserver)

theorem takeTurn_talks : r.control.Talks r.takeTurn.control := by
  have halike : r.control.Alike { r.control with proto := { r.control.proto with
      world := { r.control.proto.world with turns := r.control.proto.world.turns.tail } } } :=
    ⟨rfl, rfl, rfl, rfl, rfl, rfl⟩
  exact halike.talks.trans (Control.takeTurn_talks _)

theorem callback_talks (event : ClientEvent) : r.control.Talks (r.callback event).control :=
  takeTurn_talks { r with events := r.events ++ [event] }

theorem issueEvents_talks : r.control.Talks r.issueEvents.2.control := by
  have halike := (Control.issueEvents_alike (c := r.control) r.control.proto.world.orders.head
    []).talks
  unfold issueEvents
  dsimp only
  split
  · exact halike.trans (callback_talks { r with control := { r.control with
      proto := { r.control.proto with world := { r.control.proto.world with
        orders := r.control.proto.world.orders.tail } }
      imp := (r.control.imp.issueEvents r.control.proto.world.orders.head []).2.2 } } _)
  · exact halike

theorem sendActions_talks : r.control.Talks r.sendActions.control := by
  have hexchange := Control.exchange_talks (c := r.control) .obsAction (by decide)
  rw [Control.sendRequest_waitForResponse] at hexchange
  unfold sendActions
  dsimp only
  split
  · exact .refl
  · cases hsent : (r.control.sendRequest .obsAction).1 with
    | false => simpa [hsent] using hexchange
    | true => simpa [hsent] using hexchange

theorem gatherReplayInfo_talks (path : String) :
    r.control.Talks (r.gatherReplayInfo path).2.control := by
  have hexchange := Control.exchange_talks (c := r.control) .replayInfo (by decide)
  unfold gatherReplayInfo
  dsimp only
  repeat' split
  all_goals exact hexchange

end ReplayObserver

end Sc2Api
