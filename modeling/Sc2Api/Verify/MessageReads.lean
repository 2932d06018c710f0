import Sc2Api.Lib.Failures
import Sc2Api.MessageReads
import Sc2Api.Verify.FailedFetches

/-!
# No missing message is read

`HasCreep` and `GetVisibility` look at their pointer before they read it. `IssueEvents` compares
the game loops only, but these start out equal and differ only once `GetObservation` has set the
pointers to messages of a response without errors, which nothing takes back.
-/

namespace Sc2Api

open Lib

/-! ## Questions -/

theorem mapStateRead_eq (observation : MessageResponsePtr Proto.Observation) :
    mapStateRead observation = .ok (mapState? observation.readable) := by
  unfold mapStateRead mapState?
  rw [MessageResponsePtr.submessage_eq]
  change (MessageResponsePtr.hasErrors _ >>= _) = _
  rw [MessageResponsePtr.hasErrors_bind, MessageResponsePtr.readable_submessage]
  cases observation.readable.bind (·.rawData) <;> rfl

theorem hasCreepRead_eq (observation : MessageResponsePtr Proto.Observation) (point : Point2D) :
    hasCreepRead observation point = .ok (hasCreep observation.readable point) := by
  unfold hasCreepRead hasCreep
  rw [mapStateRead_eq]
  cases mapState? observation.readable <;> rfl

theorem getVisibilityRead_eq (observation : MessageResponsePtr Proto.Observation)
    (point : Point2D) :
    getVisibilityRead observation point = .ok (getVisibility observation.readable point) := by
  unfold getVisibilityRead getVisibility
  rw [mapStateRead_eq]
  cases mapState? observation.readable <;> rfl

/-! ## Taking an observation in -/

namespace ObservationImp

variable {observation : MessageResponsePtr Proto.Observation}
  {response : MessageResponsePtr Proto.ResponseObservation} {o : Proto.Observation}
  {r : Proto.ResponseObservation}

theorem convertScoreRead_eq (h : observation.readable = some o) :
    convertScoreRead observation = .ok (convertScore o) := by
  unfold convertScoreRead
  rw [MessageResponsePtr.hasErrors_bind, h]
  rfl

/-- With messages that can be read, what is read is what `updateObservation` gets. -/
theorem updateObservationRead_eq (s : ObservationImp) (orders : UpdateOrders)
    (hobservation : observation.readable = some o) (hresponse : response.readable = some r) :
    s.updateObservationRead orders observation response =
      .ok (s.updateObservation orders o r) := by
  have ho := MessageResponsePtr.deref_of_message
    (MessageResponsePtr.message_of_readable hobservation)
  have hr := MessageResponsePtr.deref_of_message (MessageResponsePtr.message_of_readable hresponse)
  have hraw : observation.readable.bind (·.rawData) = o.rawData := by rw [hobservation]; rfl
  unfold updateObservationRead updateObservation
  rw [convertScoreRead_eq hobservation, MessageResponsePtr.submessage_eq, ho, hr]
  generalize convertScore o = converted
  obtain ⟨hasScore, score⟩ := converted
  cases hasScore with
  | false => rfl
  | true =>
    change (MessageResponsePtr.hasErrors _ >>= _) = _
    rw [MessageResponsePtr.hasErrors_bind, MessageResponsePtr.readable_submessage, hraw]
    cases o.rawData with
    | none => rfl
    | some raw =>
      dsimp only [Option.elim]
      cases raw.player with
      | none => rfl
      | some playerRaw =>
        dsimp only
        cases playerRaw.camera <;> rfl

end ObservationImp

/-! ## Fetching -/

namespace PointerControl

/-- The client whose pointers are set to a response. -/
def holding (c : PointerControl) (response : GameResponse) (observation : Proto.Observation) :
    PointerControl :=
  { c with
    observation := ⟨some observation, some response⟩
    response := ⟨some response.answer.observation, some response⟩ }

variable {c : PointerControl} {response : GameResponse} {o : Proto.Observation}

/-- Messages of a response that is taken in are taken in as by `takeIn`. -/
theorem updateObservation_holding (happ : c.control.appState = .normal)
    (ho : response.observation? = some o) : (c.holding response o).updateObservation =
      .ok { c.holding response o with control := (c.control.takeIn response).2 } := by
  obtain ⟨hsucceeded, ho⟩ := GameResponse.observation?_eq_some_iff.1 ho
  have herror : response.answer.error = [] := (Control.succeeded_iff.1 hsucceeded).1
  have hobservation : (c.holding response o).observation.readable = some o := if_pos herror
  have hresponse : (c.holding response o).response.readable = some response.answer.observation :=
    if_pos herror
  unfold updateObservation Control.takeIn
  dsimp only
  rw [ObservationImp.updateObservationRead_eq _ _ hobservation hresponse,
    Control.imp_getObservation (by exact happ) hsucceeded ho]
  rfl

/-- The client after it has taken in what there is in a response. -/
def received (c : PointerControl) (response : GameResponse) : Bool × PointerControl :=
  match response.observation? with
  | none => (false, c)
  | some o => (true, { c.holding response o with control := (c.control.takeIn response).2 })

theorem readObservation_some (happ : c.control.appState = .normal) (response : GameResponse) :
    c.readObservation (some response) = .ok (c.received response) := by
  unfold readObservation received
  rw [GameResponse.read_bind]
  cases ho : response.observation? with
  | none => rfl
  | some o =>
    have hupdate := updateObservation_holding happ ho
    unfold holding at hupdate
    dsimp only [Option.elim]
    rw [hupdate]
    rfl

/-- What a fetch that returns comes to: either the pointers are as they were and so is what is
known of the game, or they are set to a response. -/
inductive Fetches (c : PointerControl) : Bool × PointerControl → Prop
  | nothing (control : Control)
      (imp : control.imp = { c.control.imp with appState := control.appState }) :
      Fetches c (false, { c with control })
  | response (control : Control) (appState : control.appState = .normal)
      (response : GameResponse) (o : Proto.Observation)
      (observation : response.observation? = some o) :
      Fetches c (true, { c.holding response o with control := (control.takeIn response).2 })

theorem received_fetches {control : Control} (happ : control.appState = .normal)
    (himp : control.imp = { c.control.imp with appState := control.appState })
    (response : GameResponse) : c.Fetches ({ c with control }.received response) := by
  unfold received
  cases ho : response.observation? with
  | none => exact .nothing control himp
  | some o => exact .response control happ response o ho

/-- What `takeIn` returns, and the messages it leaves. -/
theorem takeIn_spec {control : Control} (happ : control.appState = .normal)
    (ho : response.observation? = some o) :
    (control.takeIn response).1 = true ∧
      (control.takeIn response).2.imp.observation = some o ∧
      (control.takeIn response).2.imp.response = some response.answer.observation := by
  obtain ⟨hsucceeded, ho⟩ := GameResponse.observation?_eq_some_iff.1 ho
  unfold Control.takeIn
  dsimp only
  rw [Control.imp_getObservation (by exact happ) hsucceeded ho]
  exact ⟨rfl, rfl, rfl⟩

/-- On the messages alone the same is received. -/
theorem readObservation_control (happ : c.control.appState = .normal) (response : GameResponse) :
    c.control.readObservation (some response) =
      .ok ((c.received response).1, (c.received response).2.control) := by
  rw [Control.readObservation_some]
  unfold received
  cases ho : response.observation? with
  | none =>
    rw [if_pos (GameResponse.observation?_eq_none_iff.1 ho)]
  | some o =>
    obtain ⟨hsucceeded, hsome⟩ := GameResponse.observation?_eq_some_iff.1 ho
    rw [if_neg (by simp [hsucceeded, hsome])]
    exact congrArg _ (Prod.ext (takeIn_spec happ ho).1 rfl)

/-- A fetch does what it does on the messages alone. -/
theorem getObservation_cases (c : PointerControl) :
    (c.getObservation = .error .response ∧ c.control.getObservationRead = .error .response) ∨
    ∃ result, c.getObservation = .ok result ∧ c.Fetches result ∧
      c.control.getObservationRead = .ok (result.1, result.2.control) := by
  unfold getObservation Control.getObservationRead
  by_cases happ : c.control.appState = .normal
  · rw [if_neg (not_not_intro happ), if_neg (not_not_intro happ)]
    dsimp only
    split
    · exact .inr ⟨_, rfl, .nothing _ rfl, rfl⟩
    · have happSent : (c.control.sendRequest .observation).2.appState = .normal := happ
      obtain ⟨appState, himp⟩ :=
        (Control.waitForResponse_waits (c := (c.control.sendRequest .observation).2)).imp
      have happWaited := Control.appState_waitForResponse
        (c := (c.control.sendRequest .observation).2)
      rw [happSent] at happWaited
      generalize (c.control.sendRequest .observation).2.waitForResponse = waited
        at himp happWaited ⊢
      obtain ⟨response, control⟩ := waited
      cases response with
      | none => exact .inl ⟨rfl, rfl⟩
      | some response =>
        have happNormal : control.appState = .normal := happWaited rfl
        have hkept : control.imp = { c.control.imp with appState := control.appState } := by
          unfold Control.appState
          rw [himp]
          rfl
        exact .inr ⟨_, readObservation_some (by exact happNormal) response,
          received_fetches happNormal hkept response,
          readObservation_control (c := { c with control }) happNormal response⟩
  · rw [if_pos happ, if_pos happ]
    exact .inr ⟨_, rfl, .nothing c.control rfl, rfl⟩

/-- A fetch returns unless it times out. -/
theorem exists_getObservation_iff (c : PointerControl) :
    (∃ result, c.getObservation = .ok result) ↔ ¬c.control.TimesOut := by
  have hread := c.control.getObservationRead_eq
  constructor
  · rintro ⟨result, hresult⟩ htimeout
    rw [if_pos htimeout] at hread
    rcases c.getObservation_cases with ⟨herror, -⟩ | ⟨_, -, -, hok⟩
    · rw [hresult] at herror
      cases herror
    · rw [hread] at hok
      cases hok
  · intro hanswered
    rw [if_neg hanswered] at hread
    rcases c.getObservation_cases with ⟨-, herror⟩ | ⟨result, hresult, -, -⟩
    · rw [hread] at herror
      cases herror
    · exact ⟨result, hresult⟩

theorem fetches_of_getObservation {result : Bool × PointerControl}
    (h : c.getObservation = .ok result) : c.Fetches result := by
  rcases c.getObservation_cases with ⟨herror, -⟩ | ⟨result', hresult, hfetches, -⟩
  · rw [h] at herror
    cases herror
  · rw [h] at hresult
    cases hresult
    exact hfetches

/-! ## Between two calls -/

/-- `observation_` and `response_` hold messages of one response, which has no errors. -/
def HoldsMessages (c : PointerControl) : Prop :=
  ∃ (response : GameResponse) (o : Proto.Observation), response.answer.error = [] ∧
    response.case = .observation ∧ response.answer.observation.observation = some o ∧
    c.response = ⟨some response.answer.observation, some response⟩ ∧
    c.observation = ⟨some o, some response⟩

/-- The client has the messages that its pointers hold, and if its game loops differ these are
messages of a response without errors. -/
structure Guarded (c : PointerControl) : Prop where
  observation : c.control.imp.observation = c.observation.message
  response : c.control.imp.response = c.response.message
  messages : c.control.imp.observationImp.currentGameLoop ≠
    c.control.imp.observationImp.previousGameLoop → c.HoldsMessages

theorem construct_guarded (proto : ProtoInterface) : (construct proto).Guarded where
  observation := rfl
  response := rfl
  messages hloops := absurd rfl hloops

/-- What neither sets a pointer nor changes a game loop. -/
structure Keeps (c c' : PointerControl) : Prop where
  observation : c'.observation = c.observation
  response : c'.response = c.response
  impObservation : c'.control.imp.observation = c.control.imp.observation
  impResponse : c'.control.imp.response = c.control.imp.response
  currentGameLoop : c'.control.imp.observationImp.currentGameLoop =
    c.control.imp.observationImp.currentGameLoop
  previousGameLoop : c'.control.imp.observationImp.previousGameLoop =
    c.control.imp.observationImp.previousGameLoop

variable {c' : PointerControl}

theorem Keeps.refl (c : PointerControl) : c.Keeps c := ⟨rfl, rfl, rfl, rfl, rfl, rfl⟩

theorem Guarded.keeps (h : c.Guarded) (hkeeps : c.Keeps c') : c'.Guarded where
  observation := by rw [hkeeps.impObservation, h.observation, hkeeps.observation]
  response := by rw [hkeeps.impResponse, h.response, hkeeps.response]
  messages hloops := by
    rw [hkeeps.currentGameLoop, hkeeps.previousGameLoop] at hloops
    obtain ⟨response, o, herror, hcase, ho, hresponse, hobservation⟩ := h.messages hloops
    exact ⟨response, o, herror, hcase, ho, hkeeps.response.trans hresponse,
      hkeeps.observation.trans hobservation⟩

/-! ## Events -/

/-- With a message to read, what is read is what `issueUnitDestroyedEvents` has. -/
theorem issueUnitDestroyedEvents_eq (hmessage : c.observation.message = some o)
    (himp : c.control.imp.observation = some o) : c.issueUnitDestroyedEvents =
      .ok (c.control.imp.issueUnitDestroyedEvents.1, { c with control := { c.control with
        imp := c.control.imp.issueUnitDestroyedEvents.2 } }) := by
  have hread : c.control.imp.observation.getD {} = o := by
    rw [himp]
    rfl
  unfold issueUnitDestroyedEvents ControlImp.issueUnitDestroyedEvents
  rw [MessageResponsePtr.deref_of_message hmessage, hread]
  dsimp only [bind, Except.bind]
  cases o.rawData with
  | none => rfl
  | some raw =>
    dsimp only
    cases raw.event <;> rfl

theorem issueEvents_eq (h : c.Guarded) (order : UnitPool.Order) (commands : List Tag) :
    c.issueEvents order commands = .ok ((c.control.imp.issueEvents order commands).1,
      (c.control.imp.issueEvents order commands).2.1, { c with control := { c.control with
        imp := (c.control.imp.issueEvents order commands).2.2 } }) := by
  unfold issueEvents ControlImp.issueEvents
  dsimp only
  by_cases hloops : c.control.imp.observationImp.currentGameLoop =
      c.control.imp.observationImp.previousGameLoop
  · rw [if_pos hloops, if_pos hloops]
    rfl
  · obtain ⟨response, o, -, -, -, -, hobservation⟩ := h.messages hloops
    have hmessage : c.observation.message = some o := by rw [hobservation]
    have himp : c.control.imp.observation = some o := h.observation.trans hmessage
    have himp' : c.control.imp.issueUnitDestroyedEvents.2.observation = some o := by
      rw [Sc2Api.issueUnitDestroyedEvents_eq]
      exact himp
    rw [if_neg hloops, if_neg hloops, issueUnitDestroyedEvents_eq hmessage himp]
    unfold issueAlertEvents ControlImp.issueAlertEvents
    rw [himp']
    dsimp only [bind, Except.bind]
    rw [MessageResponsePtr.deref_of_message hmessage]
    rfl

/-! ## Calls -/

theorem Fetches.guarded {result : Bool × PointerControl} (h : c.Fetches result)
    (hguarded : c.Guarded) : result.2.Guarded := by
  cases h with
  | nothing control imp =>
    refine hguarded.keeps ⟨rfl, rfl, ?_, ?_, ?_, ?_⟩ <;>
    · dsimp only
      rw [imp]
  | response control appState response o observation =>
    obtain ⟨-, himpObservation, himpResponse⟩ := takeIn_spec appState observation
    obtain ⟨hsucceeded, ho⟩ := GameResponse.observation?_eq_some_iff.1 observation
    obtain ⟨herror, hcase⟩ := Control.succeeded_iff.1 hsucceeded
    exact ⟨himpObservation, himpResponse, fun _ => ⟨response, o, herror, hcase, ho, rfl, rfl⟩⟩

theorem requestJoinGame_keeps (c : PointerControl) (setup : PlayerSetup)
    (settings : InterfaceSettings) (ports : Ports) :
    c.Keeps (c.requestJoinGame setup settings ports).2 :=
  ⟨rfl, rfl, rfl, rfl, rfl, rfl⟩

theorem onGameStart_keeps (c : PointerControl) (order : UnitPool.Order) :
    c.Keeps (c.onGameStart order) := by
  have himp : (c.onGameStart order).control.imp = c.control.imp := by
    unfold onGameStart GameClient.onGameStart
    dsimp only
    split <;> rfl
  refine ⟨rfl, rfl, ?_, ?_, ?_, ?_⟩ <;> rw [himp]

theorem issueEvents_keeps (c : PointerControl) (order : UnitPool.Order) (commands : List Tag) :
    c.Keeps { c with control := { c.control with
      imp := (c.control.imp.issueEvents order commands).2.2 } } := by
  obtain ⟨pool, hpool⟩ := exists_pool_issueEvents c.control.imp order commands
  rw [hpool]
  exact ⟨rfl, rfl, rfl, rfl, rfl, rfl⟩

/-- A call that returns leaves the client guarded. -/
theorem Guarded.step (h : c.Guarded) {call : ReadingCall} (hstep : c.step call = .ok c') :
    c'.Guarded := by
  cases call with
  | getObservation =>
    obtain ⟨result, hresult, hnext⟩ := bind_eq_ok_iff.1 hstep
    cases hnext
    exact (fetches_of_getObservation hresult).guarded h
  | requestJoinGame setup settings ports =>
    cases hstep
    exact h.keeps (c.requestJoinGame_keeps setup settings ports)
  | onGameStart order =>
    cases hstep
    exact h.keeps (c.onGameStart_keeps order)
  | hasCreep point =>
    obtain ⟨answer, -, hnext⟩ := bind_eq_ok_iff.1 hstep
    cases hnext
    exact h
  | getVisibility point =>
    obtain ⟨answer, -, hnext⟩ := bind_eq_ok_iff.1 hstep
    cases hnext
    exact h
  | issueEvents order commands =>
    obtain ⟨result, hresult, hnext⟩ := bind_eq_ok_iff.1 hstep
    rw [issueEvents_eq h] at hresult
    cases hresult
    cases hnext
    exact h.keeps (c.issueEvents_keeps order commands)

/-- A guarded client reads nothing that is not there, unless it is in a fetch. -/
theorem Guarded.exists_step (h : c.Guarded) (call : ReadingCall)
    (hreturns : call = .getObservation → ∃ result, c.getObservation = .ok result) :
    ∃ c', c.step call = .ok c' := by
  cases call with
  | getObservation =>
    obtain ⟨result, hresult⟩ := hreturns rfl
    exact ⟨_, bind_eq_ok_iff.2 ⟨result, hresult, rfl⟩⟩
  | requestJoinGame setup settings ports => exact ⟨_, rfl⟩
  | onGameStart order => exact ⟨_, rfl⟩
  | hasCreep point => exact ⟨_, bind_eq_ok_iff.2 ⟨_, hasCreepRead_eq _ _, rfl⟩⟩
  | getVisibility point => exact ⟨_, bind_eq_ok_iff.2 ⟨_, getVisibilityRead_eq _ _, rfl⟩⟩
  | issueEvents order commands =>
    exact ⟨_, bind_eq_ok_iff.2 ⟨_, issueEvents_eq h order commands, rfl⟩⟩

/-! ## Runs -/

theorem inWorld_guarded (h : c.Guarded) (world : World) : (c.inWorld world).Guarded :=
  h.keeps ⟨rfl, rfl, rfl, rfl, rfl, rfl⟩

theorem guarded_of_run (h : c.Guarded) {calls : List (World × ReadingCall)}
    (hrun : c.run calls = .ok c') : c'.Guarded :=
  foldlM_invariant (I := fun _ c => c.Guarded) h
    (fun _ call _ _ hbefore hstep => (inWorld_guarded hbefore call.1).step hstep) hrun

/-- Every `GetObservation` of the run returns. -/
def FetchesReturn (c : PointerControl) (calls : List (World × ReadingCall)) : Prop :=
  ∀ past world later before, calls = past ++ (world, .getObservation) :: later →
    c.run past = .ok before → ∃ result, (before.inWorld world).getObservation = .ok result

/-- If the game loops differ, the pointers hold messages of a response without errors, and in no
case is a message read that is not there. -/
structure ReadsSafely (c : PointerControl) : Prop where
  messages : c.control.imp.observationImp.currentGameLoop ≠
    c.control.imp.observationImp.previousGameLoop → c.HoldsMessages
  hasCreep : ∀ point, ∃ answer, hasCreepRead c.observation point = .ok answer
  getVisibility : ∀ point, ∃ answer, getVisibilityRead c.observation point = .ok answer
  issueEvents : ∀ order commands, ∃ result, c.issueEvents order commands = .ok result

theorem Guarded.readsSafely (h : c.Guarded) : c.ReadsSafely where
  messages := h.messages
  hasCreep point := ⟨_, hasCreepRead_eq c.observation point⟩
  getVisibility point := ⟨_, getVisibilityRead_eq c.observation point⟩
  issueEvents order commands := ⟨_, issueEvents_eq h order commands⟩

/-- However calls follow each other from construction on, as long as every fetch returns no
message is read that is not there. -/
theorem run_readsSafely (proto : ProtoInterface) (calls : List (World × ReadingCall))
    (hreturns : FetchesReturn (construct proto) calls) :
    ∃ c, (construct proto).run calls = .ok c ∧ c.ReadsSafely := by
  have hrun : ∃ c, (construct proto).run calls = .ok c := by
    refine exists_foldlM fun past call later before hsplit hbefore => ?_
    have hguarded := inWorld_guarded (guarded_of_run (construct_guarded proto) hbefore) call.1
    refine hguarded.exists_step call.2 fun hcall => ?_
    obtain ⟨world, _⟩ := call
    obtain rfl : _ = ReadingCall.getObservation := hcall
    exact hreturns past world later before hsplit hbefore
  obtain ⟨c, hrun⟩ := hrun
  exact ⟨c, hrun, (guarded_of_run (construct_guarded proto) hrun).readsSafely⟩

/-- A first observation and its events. -/
def observedOnce : List (World × ReadingCall) :=
  [({ deliveries := .const { waiting := [.answer { observation :=
      { observation := some { gameLoop := some 5, score := some {} } } }] } }, .getObservation),
    ({}, .issueEvents default [])]

/-- The events are issued, so the message is read. -/
theorem observedOnce_readsSafely :
    ((construct {}).run observedOnce).toOption.any (fun c =>
      c.control.imp.observationImp.currentGameLoop !=
        c.control.imp.observationImp.previousGameLoop) ∧
    ∃ c, (construct {}).run observedOnce = .ok c ∧ c.ReadsSafely := by
  refine ⟨by decide +kernel, run_readsSafely {} observedOnce ?_⟩
  intro past world later before hsplit hbefore
  unfold observedOnce at hsplit
  rcases past with _ | ⟨first, _ | ⟨second, past⟩⟩
  · cases hsplit
    cases hbefore
    exact (exists_getObservation_iff _).2 (by decide +kernel)
  · simp at hsplit
  · simp at hsplit

end PointerControl

end Sc2Api
