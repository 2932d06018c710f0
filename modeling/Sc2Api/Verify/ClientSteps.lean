import Mathlib.Logic.Relation
import Sc2Api.Verify.EventRefinement
import Sc2Api.Verify.RemapErrors
import Sc2Api.Verify.Works

/-!
# What the operations of a client are made of

Every operation of a client is a sequence of requests, waits, polls, pings,
connections, recorded errors and changes of what the client knows. `Control.Step`
is one of these, and a client meets only states that `Control.Steps` reaches, in
the middle of an operation as well as between two of them. By itself a client makes
`Control.OwnSteps`: that its version is wrong is what the coordinator finds.
-/

namespace Sc2Api

open Lib

/-! ## Steps -/

/-- What may become of what a client knows, as far as its units go. -/
inductive ObservationImp.Learns (s : ObservationImp) : ObservationImp → Prop
  | observes (table : AbilityTable) (orders : UpdateOrders) (o : Proto.Observation)
      (r : Proto.ResponseObservation) :
    Learns s ({ s with abilityTable := table }.updateObservation orders o r).2
  | reaps (deadUnits : List Tag) :
    Learns s { s with unitPool := (ControlImp.destroyUnits deadUnits s.unitPool).2 }
  | keeps {s' : ObservationImp} (pool : s'.unitPool = s.unitPool) : Learns s s'

/-- The client notices the error by itself, while it talks to a healthy application. -/
def ClientError.Own (error : ClientError) : Prop :=
  error ≠ .sc2AppFailure ∧ error ≠ .wrongGameVersion

instance (error : ClientError) : Decidable error.Own := inferInstanceAs (Decidable (_ ∧ _))

theorem AnswerError.own (error : AnswerError) : error.toClientError.Own := by
  cases error <;> decide

namespace Control

/-- A step of a client that records only errors of the kinds that are allowed. -/
inductive StepOf (allowed : ClientError → Prop) (c : Control) : Control → Prop
  | sends (case : Proto.ResponseCase) : StepOf allowed c (c.sendRequest case).2
  | waits : StepOf allowed c c.waitForResponse.2
  | polls : StepOf allowed c c.pollResponse.2
  | pings : StepOf allowed c { c with proto := c.proto.pingGame.2 }
  | connects : StepOf allowed c { c with proto := c.proto.connectToGame.2 }
  | errs (error : ClientError) (other : allowed error) : StepOf allowed c (c.error error)
  | lives (world : World) : StepOf allowed c (c.inWorld world)
  | learns (imp : ControlImp) (tableSizes : DataTable → Nat) (app : imp.appState = c.appState)
      (learns : c.imp.observationImp.Learns imp.observationImp) :
    StepOf allowed c { c with imp, tableSizes }

abbrev Step : Control → Control → Prop := StepOf (· ≠ .sc2AppFailure)

abbrev Steps : Control → Control → Prop := Relation.ReflTransGen Step

abbrev OwnStep : Control → Control → Prop := StepOf ClientError.Own

abbrev OwnSteps : Control → Control → Prop := Relation.ReflTransGen OwnStep

variable {c c' : Control}

theorem OwnStep.step (h : c.OwnStep c') : c.Step c' := by
  cases h with
  | sends case => exact .sends case
  | waits => exact .waits
  | polls => exact .polls
  | pings => exact .pings
  | connects => exact .connects
  | errs error other => exact .errs error other.1
  | lives world => exact .lives world
  | learns imp tableSizes app learns => exact .learns imp tableSizes app learns

theorem OwnSteps.steps (h : c.OwnSteps c') : c.Steps c' :=
  Relation.ReflTransGen.mono (fun _ _ => OwnStep.step) _ _ h

theorem sendRequest_steps (case : Proto.ResponseCase) : c.OwnSteps (c.sendRequest case).2 :=
  .single (.sends case)

theorem waitForResponse_steps : c.OwnSteps c.waitForResponse.2 := .single .waits

theorem inWorld_steps (world : World) : c.OwnSteps (c.inWorld world) := .single (.lives world)

theorem exchange_steps (case : Proto.ResponseCase) : c.OwnSteps (c.exchange case).2 := by
  rw [sendRequest_waitForResponse]
  split
  · exact (sendRequest_steps case).tail .waits
  · exact .single (.sends case)

theorem errorIf_steps (condition : Bool) {error : ClientError} (h : error.Own) :
    c.OwnSteps (c.errorIf condition error) := by
  unfold errorIf
  split
  · exact .single (.errs error h)
  · exact .refl

theorem reportErrors_steps {errors : List ClientError}
    (h : ∀ error ∈ errors, error.Own) : c.OwnSteps (c.reportErrors errors) := by
  induction errors generalizing c with
  | nil =>
    unfold reportErrors
    rw [List.append_nil]
  | cons error errors ih =>
    have hfirst : c.OwnStep (c.error error) := .errs error (h error List.mem_cons_self)
    have hmore : (c.error error).reportErrors errors = c.reportErrors (error :: errors) := by
      unfold reportErrors Control.error ProtoInterface.error
      simp only [List.append_assoc, List.append_nil, List.singleton_append]
    rw [← hmore]
    exact .head hfirst (ih fun other hother => h other (List.mem_cons_of_mem _ hother))

/-- What is learned from the game may come with errors about remaps. -/
theorem learns_steps {imp : ControlImp} {tableSizes : DataTable → Nat}
    {errors : List ClientError} (happ : imp.appState = c.appState)
    (hlearns : c.imp.observationImp.Learns imp.observationImp) (herrors : OnlyRemaps errors) :
    c.OwnSteps ({ c with imp, tableSizes }.reportErrors errors) := by
  refine .head (.learns imp tableSizes happ hlearns) (reportErrors_steps ?_)
  intro error herror
  rw [herrors error herror]
  decide

/-! ## Data, queries and observations -/

theorem abilityAnswers_waits (n : Nat) : c.Waits (abilityAnswers n c).2 := by
  induction n generalizing c with
  | zero => exact .refl c
  | succ n ih =>
    have hrequest : c.Waits c.requestAbilities.2 := by
      unfold requestAbilities
      dsimp only
      split <;> exact exchange_waits .data
    exact hrequest.trans ih

theorem abilityAnswers_steps (n : Nat) : c.OwnSteps (abilityAnswers n c).2 := by
  induction n generalizing c with
  | zero => exact .refl
  | succ n ih =>
    have hrequest : c.OwnSteps c.requestAbilities.2 := by
      unfold requestAbilities
      dsimp only
      split <;> exact exchange_steps .data
    exact hrequest.trans ih

theorem refreshTable_spec (s : ObservationImp) (table : DataTable) (size : Nat)
    (abilities : Option (List Proto.AbilityData)) :
    (refreshTable s table size abilities).1.unitPool = s.unitPool ∧
      OnlyRemaps (refreshTable s table size abilities).2 := by
  cases table with
  | abilities => exact ⟨rfl, AbilityTable.onlyRemaps_getAbilityData onlyRemaps_nil true⟩
  | unitTypes | upgrades | buffs | effects => exact ⟨rfl, onlyRemaps_nil⟩

theorem storeTable_steps (table : DataTable) (size : Nat)
    (abilities : Option (List Proto.AbilityData)) :
    c.OwnSteps (c.storeTable table size abilities) := by
  obtain ⟨hpool, herrors⟩ := refreshTable_spec c.imp.observationImp table size abilities
  exact learns_steps rfl (.keeps hpool) herrors

theorem getData_steps (table : DataTable) (forceRefresh : Bool) :
    c.OwnSteps (c.getData table forceRefresh) := by
  unfold getData
  dsimp only
  split
  · exact .refl
  · exact (exchange_steps .data).trans (storeTable_steps table _ _)

theorem getGameInfo_steps : c.OwnSteps c.getGameInfo := by
  unfold getGameInfo
  dsimp only
  split
  · exact .refl
  · split
    · exact (exchange_steps .gameInfo).tail (.learns _ _ rfl (.keeps rfl))
    · exact exchange_steps .gameInfo

theorem generalizeAbilityID_steps (abilityId : UInt32) :
    c.OwnSteps (c.generalizeAbilityID abilityId) := by
  unfold generalizeAbilityID
  split
  · exact .refl
  · exact getData_steps .abilities false

theorem readAbilities_steps (units : List Tag)
    (entries : List Proto.ResponseQueryAvailableAbilities) :
    c.OwnSteps (c.readAbilities units entries) := by
  induction entries generalizing c units with
  | nil => exact .refl
  | cons entry entries ih =>
    have hall (abilities : List Proto.AvailableAbility) (c : Control) :
        c.OwnSteps (abilities.foldl
          (fun c ability => c.generalizeAbilityID (ability.abilityId.getD 0).toUInt32) c) := by
      induction abilities generalizing c with
      | nil => exact .refl
      | cons ability abilities ih => exact (generalizeAbilityID_steps _).trans (ih _)
    exact ((errorIf_steps _ (by decide)).trans (hall entry.abilities _)).trans (ih units.tail)

theorem getAbilitiesForUnits_steps (units : List Tag) :
    c.OwnSteps (c.getAbilitiesForUnits units).2 := by
  have hexchange := exchange_steps (c := c) .query
  unfold getAbilitiesForUnits
  generalize c.exchange .query = exchanged at hexchange ⊢
  obtain ⟨response, e⟩ := exchanged
  dsimp only at hexchange ⊢
  split
  · exact .refl
  · cases response with
    | none => exact hexchange
    | some response =>
      dsimp only
      split
      · exact hexchange.tail (.errs .invalidResponse (by decide))
      · exact hexchange.trans (readAbilities_steps _ _)

theorem query_steps (q : Query) : c.OwnSteps (c.query q) := by
  cases q with
  | pathingDistance => exact exchange_steps .query
  | placement => exact exchange_steps .query
  | abilitiesForUnits units => exact getAbilitiesForUnits_steps units
  | abilitiesForUnit unit =>
    exact (getAbilitiesForUnits_steps [unit]).trans (errorIf_steps _ (by decide))

/-- A response that is taken in leaves what the client knows as an update does. -/
theorem learns_getObservation {imp : ControlImp} {table : AbilityTable} (orders : UpdateOrders)
    (answer : Option Proto.Response) :
    imp.observationImp.Learns (ControlImp.getObservation { imp with
      observationImp := { imp.observationImp with abilityTable := table } }
      orders answer).2.observationImp := by
  unfold ControlImp.getObservation
  split
  · exact .keeps rfl
  · split
    · exact .keeps rfl
    · split
      · split
        · exact .keeps rfl
        · exact .observes table orders _ _
      · exact .keeps rfl

theorem getObservation_steps : c.OwnSteps c.getObservation.2 := by
  unfold getObservation
  dsimp only
  split
  · exact .refl
  · split
    · exact .single (.sends .observation)
    · have hwait := (sendRequest_steps (c := c) .observation).tail .waits
      generalize (c.sendRequest .observation).2.waitForResponse = waited at hwait ⊢
      obtain ⟨response, e⟩ := waited
      dsimp only at hwait ⊢
      cases response with
      | none => exact hwait
      | some response =>
        dsimp only
        split
        · exact hwait
        · refine ((hwait.tail (.lives _)).trans (abilityAnswers_steps _)).trans
            (learns_steps rfl ?_ ?_)
          · rw [(abilityAnswers_waits _).observationImp]
            exact learns_getObservation _ _
          · exact ControlImp.onlyRemaps_getObservation onlyRemaps_nil _ _

/-! ## Steps of a game -/

theorem pollLeaveGame_steps : c.OwnSteps c.pollLeaveGame.2 := by
  unfold pollLeaveGame
  dsimp only
  split
  · exact .refl
  · split
    · exact errorIf_steps _ (by decide)
    · split
      · exact .single .polls
      · exact .tail (.single .polls) .waits

theorem waitStep_steps : c.OwnSteps c.waitStep.2 := by
  unfold waitStep
  dsimp only
  split
  · exact waitForResponse_steps.trans getObservation_steps
  · exact .single .waits

theorem step_steps : c.OwnSteps c.step.2 := by
  unfold step
  split
  · exact .refl
  · exact .single (.sends .step)

theorem request_steps (case : Proto.ResponseCase) : c.OwnSteps (c.request case).2 := by
  have hexchange := exchange_steps (c := c) case
  unfold request
  dsimp only
  split <;> exact hexchange

theorem waitJoinGame_steps : c.OwnSteps c.waitJoinGame.2 := by
  unfold waitJoinGame
  dsimp only
  split
  · exact .single .waits
  · split
    · exact .single .waits
    · exact waitForResponse_steps.tail (.learns _ _ rfl (.keeps rfl))

theorem requestJoinGame_steps (setup : PlayerSetup) (settings : InterfaceSettings)
    (ports : Ports) : c.OwnSteps (c.requestJoinGame setup settings ports).2.2 :=
  (sendRequest_steps .joinGame).tail (.learns _ _ rfl (.keeps rfl))

theorem requestLeaveGame_steps : c.OwnSteps c.requestLeaveGame.2 := by
  unfold requestLeaveGame
  split
  · exact .refl
  · exact .single (.sends .leaveGame)

theorem sendDebug_steps (hasMoveCamera : Bool) : c.OwnSteps (c.sendDebug hasMoveCamera) := by
  have hdebug := (sendRequest_steps (c := c) .debug).tail .waits
  unfold sendDebug
  dsimp only
  split
  · exact (hdebug.tail (.sends .action)).tail .waits
  · exact hdebug

theorem connectLoop_steps (n : Nat) : c.OwnSteps (connectLoop n c).2 := by
  induction n generalizing c with
  | zero => exact .refl
  | succ n ih =>
    unfold connectLoop
    dsimp only
    split
    · exact .single .connects
    · exact .head .connects ih

/-! ## Callbacks -/

theorem takeTurn_steps (turn : BotTurn) : c.OwnSteps (c.takeTurn turn) := by
  have hrequests (requests : List BotRequest) (c : Control) :
      c.OwnSteps (requests.foldl (fun c request => (c.exchange request.case).2) c) := by
    induction requests generalizing c with
    | nil => exact .refl
    | cons request requests ih => exact (exchange_steps request.case).trans (ih _)
  refine (hrequests turn.requests c).trans (reportErrors_steps fun error herror => ?_)
  obtain ⟨answerError, -, rfl⟩ := List.mem_map.1 herror
  exact answerError.own

theorem learns_issueEvents (imp : ControlImp) (order : UnitPool.Order) (commands : List Tag) :
    (imp.issueEvents order commands).2.2.appState = imp.appState ∧
      imp.observationImp.Learns (imp.issueEvents order commands).2.2.observationImp := by
  by_cases hdue : imp.eventState.Due
  · rw [issueEvents_of_due hdue, issueUnitDestroyedEvents_eq]
    exact ⟨rfl, .reaps _⟩
  · rw [issueEvents_of_not_due hdue]
    exact ⟨rfl, .keeps rfl⟩

theorem issueEvents_steps (order : UnitPool.Order) (commands : List Tag) :
    c.OwnSteps { c with
      proto := { c.proto with
        world := { c.proto.world with orders := c.proto.world.orders.tail } }
      imp := (c.imp.issueEvents order commands).2.2 } := by
  obtain ⟨happ, hlearns⟩ := learns_issueEvents c.imp order commands
  exact (inWorld_steps _).tail (.learns _ _ happ hlearns)

end Control

namespace Agent

variable (a : Agent)

theorem callback_steps (event : ClientEvent) : a.control.OwnSteps (a.callback event).control :=
  (Control.inWorld_steps _).trans (Control.takeTurn_steps _)

theorem issueEvents_steps : a.control.OwnSteps a.issueEvents.2.control := by
  have hissued := Control.issueEvents_steps (c := a.control) a.control.proto.world.orders.head
    a.commands
  unfold issueEvents
  dsimp only
  split
  · exact hissued.trans (callback_steps { a with control := { a.control with
      proto := { a.control.proto with world := { a.control.proto.world with
        orders := a.control.proto.world.orders.tail } }
      imp := (a.control.imp.issueEvents a.control.proto.world.orders.head a.commands).2.2 } } _)
  · exact hissued

theorem sendActions_steps : a.control.OwnSteps a.sendActions.control := by
  unfold sendActions
  dsimp only
  split
  · exact .refl
  · split
    · exact .single (.sends .action)
    · exact (Control.sendRequest_steps .action).tail .waits

theorem sendActionsFeatureLayer_steps : a.control.OwnSteps a.sendActionsFeatureLayer.control := by
  unfold sendActionsFeatureLayer
  dsimp only
  split
  · exact .refl
  · split
    · exact .single (.sends .action)
    · exact (Control.sendRequest_steps .action).tail .waits

theorem restart_steps : a.control.OwnSteps a.restart.2.control := by
  have hexchange := Control.exchange_steps (c := a.control) .restartGame
  unfold restart
  dsimp only
  split
  · exact hexchange
  · split
    · exact hexchange
    · split
      · exact hexchange
      · exact hexchange.trans
          (callback_steps { a with control := (a.control.exchange .restartGame).2 } _)

end Agent

namespace ReplayObserver

variable (r : ReplayObserver)

theorem callback_steps (event : ClientEvent) : r.control.OwnSteps (r.callback event).control :=
  (Control.inWorld_steps _).trans (Control.takeTurn_steps _)

theorem sendActions_steps : r.control.OwnSteps r.sendActions.control := by
  unfold sendActions
  dsimp only
  split
  · exact .refl
  · split
    · exact .single (.sends .obsAction)
    · exact (Control.sendRequest_steps .obsAction).tail .waits

theorem gatherReplayInfo_steps (path : String) :
    r.control.OwnSteps (r.gatherReplayInfo path).2.control := by
  have hexchange := Control.exchange_steps (c := r.control) .replayInfo
  unfold gatherReplayInfo
  dsimp only
  repeat' split
  all_goals exact hexchange

theorem waitForReplay_steps : r.control.OwnSteps r.waitForReplay.2.control := by
  have hwait : r.control.OwnSteps r.control.waitForResponse.2 := Control.waitForResponse_steps
  unfold waitForReplay
  dsimp only
  split
  · exact hwait
  · split
    · exact hwait
    · split
      · exact hwait
      · split
        · exact hwait
        · split
          · exact hwait
          · exact (hwait.trans Control.getObservation_steps).trans (callback_steps { r with
              control := r.control.waitForResponse.2.getObservation.2 } _)

end ReplayObserver

/-! ## Runs -/

/-- Every operation is made of steps. -/
theorem ClientCall.run_steps (call : ClientCall) (c : Control) : c.OwnSteps (call.run c) := by
  cases call with
  | getObservation => exact Control.getObservation_steps
  | getData table forceRefresh => exact Control.getData_steps table forceRefresh
  | getGameInfo => exact Control.getGameInfo_steps
  | query q => exact Control.query_steps q
  | sendActions batch =>
    exact Agent.sendActions_steps { control := c, requestActions := batch }
  | sendActionsFeatureLayer queued =>
    exact Agent.sendActionsFeatureLayer_steps
      { control := c, requestActionsFeatureLayer := queued }
  | sendObserverActions queued =>
    exact ReplayObserver.sendActions_steps { control := c, request := queued }
  | sendDebug hasMoveCamera => exact Control.sendDebug_steps hasMoveCamera
  | save => exact Control.exchange_steps .quickSave
  | load => exact Control.exchange_steps .quickLoad
  | ping => exact .single .pings
  | stepAndWait =>
    unfold run
    dsimp only
    split
    · exact (Control.pollLeaveGame_steps.trans Control.step_steps).trans Control.waitStep_steps
    · exact .refl
  | connect timeoutMs => exact Control.connectLoop_steps _
  | createGame => exact Control.request_steps .createGame
  | remoteSaveMap => exact Control.request_steps .saveMap
  | saveReplay => exact Control.exchange_steps .saveReplay
  | restart => exact Agent.restart_steps { control := c }
  | gatherReplayInfo path => exact ReplayObserver.gatherReplayInfo_steps { control := c } path
  | requestJoinGame setup settings ports =>
    exact Control.requestJoinGame_steps setup settings ports
  | waitJoinGame => exact Control.waitJoinGame_steps
  | requestLeaveGame => exact Control.requestLeaveGame_steps
  | pollLeaveGame => exact Control.pollLeaveGame_steps
  | loadReplay => exact .single (.sends .startReplay)
  | waitForReplay replayInfo =>
    exact ReplayObserver.waitForReplay_steps { control := c, replayInfo }
  | consumeResponse => exact .single .waits
  | pollResponse => exact .single .polls
  | issueEvents commands => exact Agent.issueEvents_steps { control := c, commands }
  | useGeneralizedAbility value =>
    exact .single (.learns (c.useGeneralizedAbility value).imp c.tableSizes rfl (.keeps rfl))

theorem clientMachine_steps (c : Control) (calls : List (World × ClientCall)) :
    c.Steps (clientMachine.final c calls) := by
  induction calls generalizing c with
  | nil => exact .refl
  | cons call calls ih =>
    have hcall : c.OwnSteps (call.2.run (c.inWorld call.1)) :=
      (Control.inWorld_steps call.1).trans (call.2.run_steps _)
    exact (Control.OwnSteps.steps hcall).trans (ih _)

/-! ## The pool -/

open UnitPool

theorem ObservationImp.Learns.tagged {s s' : ObservationImp} (h : s.Learns s')
    (htag : s.unitPool.Tagged) : s'.unitPool.Tagged := by
  cases h with
  | observes table orders o r =>
    exact (updateObservation_spec (s := { s with abilityTable := table }) htag orders o r
      [] []).1
  | reaps deadUnits => exact (destroyUnits_spec htag deadUnits).2.1
  | keeps pool => exact pool ▸ htag

/-- No operation of a client puts its pool out of order. -/
theorem Control.Steps.tagged {c c' : Control} (h : c.Steps c')
    (htag : c.imp.observationImp.unitPool.Tagged) : c'.imp.observationImp.unitPool.Tagged := by
  induction h with
  | refl => exact htag
  | tail _ step ih =>
    cases step with
    | sends case => exact ih
    | waits => rwa [(waitForResponse_waits).observationImp]
    | polls => exact ih
    | pings => exact ih
    | connects => exact ih
    | errs error other => exact ih
    | lives world => exact ih
    | learns imp tableSizes app learns => exact learns.tagged ih

end Sc2Api
