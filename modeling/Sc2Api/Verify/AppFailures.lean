import Sc2Api.Verify.ClientSteps

/-!
# No failure of the application goes unrecorded

What `WaitForResponse` records when no response comes, over everything a client can
do. The two diagnoses that give up on the application are the only places that change
its state, and each of them records the failure.
-/

namespace Sc2Api

/-! ## Errors of the line -/

/-- What sending and receiving records by itself. -/
def ClientError.OfLine (error : ClientError) : Prop :=
  error = .connectionClosed ∨ error = .responseNotConsumed ∨ error = .responseMismatch

namespace ProtoInterface

/-- Only errors of the line were recorded. -/
structure Notes (p p' : ProtoInterface) : Prop where
  clientErrors : ∃ errors, p'.clientErrors = p.clientErrors ++ errors ∧ ∀ e ∈ errors, e.OfLine
  protocolErrors : p'.protocolErrors = p.protocolErrors

variable {p p' p'' : ProtoInterface}

theorem Notes.of_eq (h : p'.clientErrors = p.clientErrors)
    (h' : p'.protocolErrors = p.protocolErrors) : p.Notes p' := ⟨⟨[], by simp [h], by simp⟩, h'⟩

theorem Notes.refl (p : ProtoInterface) : p.Notes p := .of_eq rfl rfl

theorem Notes.trans (h : p.Notes p') (h' : p'.Notes p'') : p.Notes p'' where
  clientErrors := by
    obtain ⟨errors, he, hline⟩ := h.clientErrors
    obtain ⟨errors', he', hline'⟩ := h'.clientErrors
    refine ⟨errors ++ errors', by rw [he', he, List.append_assoc], fun e hmem => ?_⟩
    rcases List.mem_append.1 hmem with hmem | hmem
    · exact hline e hmem
    · exact hline' e hmem
  protocolErrors := h'.protocolErrors.trans h.protocolErrors

theorem notes_error {error : ClientError} (h : error.OfLine) : p.Notes (p.error error) where
  clientErrors := ⟨[error], rfl, by simpa using h⟩
  protocolErrors := List.append_nil _

theorem notes_arrive (arrival : Arrival) : p.Notes (p.arrive arrival) := by
  unfold arrive
  dsimp only
  split
  · exact (notes_error (.inl rfl)).trans (.of_eq rfl rfl)
  · exact .of_eq rfl rfl

theorem notes_foldl_arrive (arrivals : List Arrival) : p.Notes (arrivals.foldl arrive p) := by
  induction arrivals generalizing p with
  | nil => exact .refl p
  | cons arrival arrivals ih => exact (notes_arrive arrival).trans ih

theorem notes_disconnect : p.Notes p.disconnect := by
  unfold disconnect
  dsimp only
  split
  · exact (notes_error (.inl rfl)).trans (.of_eq rfl rfl)
  · exact .of_eq rfl rfl

theorem notes_receive : p.Notes p.receive.2 := by
  have htaken : p.Notes { p with
      world := { p.world with deliveries := p.world.deliveries.tail } } := .of_eq rfl rfl
  have hwaiting := htaken.trans (notes_foldl_arrive p.world.deliveries.head.waiting)
  unfold receive
  dsimp only
  split
  · exact hwaiting.trans (.of_eq rfl rfl)
  · exact ((hwaiting.trans (notes_foldl_arrive _)).trans notes_disconnect).trans (.of_eq rfl rfl)

theorem notes_waitForResponseInternal : p.Notes p.waitForResponseInternal.2 := by
  have hunknown : p.Notes { p with latestStatus := .unknown } := .of_eq rfl rfl
  have hreceive := hunknown.trans notes_receive
  unfold waitForResponseInternal
  dsimp only
  split
  · exact hreceive
  · split
    · exact hreceive.trans ⟨⟨[.responseMismatch], rfl, by simp [ClientError.OfLine]⟩,
        List.append_nil _⟩
    · exact hreceive.trans (.of_eq rfl rfl)

theorem notes_sendRequest (case : Proto.ResponseCase) (ignorePendingRequests : Bool) :
    p.Notes (p.sendRequest case ignorePendingRequests).2 := by
  have hensure : p.Notes p.ensureConnection := by
    unfold ensureConnection
    split
    · exact .refl p
    · exact .of_eq rfl rfl
  rcases p.sendRequest_cases case ignorePendingRequests with ⟨-, h⟩ | ⟨-, -, -, h⟩ | ⟨-, -, h⟩
  · rw [h]
    exact hensure.trans (.of_eq rfl rfl)
  · rw [h]
    exact (hensure.trans (notes_error (.inr (.inl rfl)))).trans (.of_eq rfl rfl)
  · rw [h]
    exact hensure.trans (.of_eq rfl rfl)

theorem notes_pollResponse : p.Notes p.pollResponse.2 := by
  have hpolled : p.Notes { p with
      world := { p.world with polls := p.world.polls.tail } } := .of_eq rfl rfl
  exact hpolled.trans (notes_foldl_arrive _)

theorem notes_pingGame : p.Notes p.pingGame.2 := by
  have hsend : p.Notes (p.sendRequest .ping true).2 := notes_sendRequest .ping true
  have hwait := hsend.trans notes_waitForResponseInternal
  unfold pingGame
  dsimp only
  split
  · exact hsend
  · split
    · exact hwait
    · split
      · exact hwait
      · exact hwait.trans (.of_eq rfl rfl)

theorem notes_connectToGame : p.Notes p.connectToGame.2 := by
  have hconnect : p.Notes ({ p with latestStatus := .unknown } : ProtoInterface).connect :=
    .of_eq rfl rfl
  unfold connectToGame
  dsimp only
  split
  · exact hconnect
  · refine Notes.trans ?_ notes_pingGame
    exact hconnect.trans (.of_eq rfl rfl)

end ProtoInterface

namespace Control

variable {c c' : Control}

/-! ## What a wait records -/

/-- The application is given up on. -/
def GivenUp (c : Control) : Prop :=
  c.appState = .crashed ∨ c.appState = .timeout ∨ c.appState = .timeoutZombie

theorem GivenUp.not_normal (h : c.GivenUp) : c.appState ≠ .normal := by
  rcases h with h | h | h <;> rw [h] <;> decide

/-- What became of a wait without a response: the application answered a ping and is left
as it was, or it was given up on, and either is recorded. -/
inductive Diagnosis (c : Control) : Control → Prop
  | responsive {c' : Control} (app : c'.appState = c.appState)
      (errors : List ClientError)
      (clientErrors : c'.proto.clientErrors = c.proto.clientErrors ++ errors)
      (recorded : .sc2UnknownStatus ∈ errors) (other : .sc2AppFailure ∉ errors)
      (pending : c'.proto.responsePending = .responseNotSet) : Diagnosis c c'
  | givenUp {c' : Control} (app : c'.GivenUp) (recorded : .sc2AppFailure ∈ c'.proto.clientErrors) :
    Diagnosis c c'

theorem killLoop_app (n : Nat) : (killLoop n c).appState = c.appState := (killLoop_spec c n).2

theorem terminateHung_givenUp :
    c.terminateHung.GivenUp ∧ .sc2AppFailure ∈ c.terminateHung.proto.clientErrors := by
  have happ : (killLoop 10 (c.setAppState .timeout)).appState = .timeout := killLoop_app 10
  refine ⟨?_, List.mem_append_right _ (List.mem_singleton_self _)⟩
  unfold terminateHung GivenUp
  dsimp only
  split
  · exact .inr (.inr rfl)
  · exact .inr (.inl happ)

theorem responsePending_waitForResponseInternal {p : ProtoInterface}
    (h : p.waitForResponseInternal.1.isSome) :
    p.waitForResponseInternal.2.responsePending = .responseNotSet := by
  rcases p.waitForResponseInternal_cases with ⟨_, _, _, _, hline⟩ | ⟨_, hnone, _⟩
  · exact congrArg Line.responsePending hline
  · rw [hnone] at h
    cases h

theorem sc2AppFailure_not_ofLine : ¬ClientError.OfLine .sc2AppFailure := by
  simp [ClientError.OfLine]

theorem diagnoseHang_diagnosis : c.Diagnosis c.diagnoseHang := by
  unfold diagnoseHang
  dsimp only
  split
  · exact .givenUp terminateHung_givenUp.1 terminateHung_givenUp.2
  · split
    next response hresponse =>
      have hnotes : c.proto.Notes
          (c.proto.sendRequest .ping true).2.waitForResponseInternal.2 :=
        (ProtoInterface.notes_sendRequest .ping true).trans
          ProtoInterface.notes_waitForResponseInternal
      have hpending := responsePending_waitForResponseInternal
        (p := (c.proto.sendRequest .ping true).2) (Option.isSome_of_eq_some hresponse)
      generalize (c.proto.sendRequest .ping true).2.waitForResponseInternal.2 = p
        at hnotes hpending
      obtain ⟨errors, herrors, hline⟩ := hnotes.clientErrors
      -- the status of a ping that was answered may be unknown, which is recorded twice
      by_cases hstatus : p.latestStatus = .unknown
      · refine .responsive ?_ (errors ++ [.sc2UnknownStatus] ++ [.sc2UnknownStatus]) ?_ (by simp)
          ?_ ?_
        · rw [appState_error, appState_errorIf]
          rfl
        · simp [errorIf, hstatus, error, ProtoInterface.error, herrors]
        · simpa using fun h => sc2AppFailure_not_ofLine (hline _ h)
        · simpa [errorIf, hstatus, error, ProtoInterface.error] using hpending
      · refine .responsive ?_ (errors ++ [.sc2UnknownStatus]) ?_ (by simp) ?_ ?_
        · rw [appState_error, appState_errorIf]
          rfl
        · simp [errorIf, hstatus, error, ProtoInterface.error, herrors]
        · simpa using fun h => sc2AppFailure_not_ofLine (hline _ h)
        · simpa [errorIf, hstatus, error, ProtoInterface.error] using hpending
    · exact .givenUp terminateHung_givenUp.1 terminateHung_givenUp.2

theorem diagnose_diagnosis : c.Diagnosis c.diagnose := by
  unfold diagnose
  dsimp only
  split
  · exact .givenUp (.inl rfl) (List.mem_append_right _ (List.mem_singleton_self _))
  · cases diagnoseHang_diagnosis (c := c.isProcessRunning.2) with
    | responsive app errors clientErrors recorded other pending =>
      exact .responsive app errors clientErrors recorded other pending
    | givenUp app recorded => exact .givenUp app recorded

/-- What became of a wait. -/
inductive Waited (c : Control) : Option GameResponse × Control → Prop
  | answered {response : GameResponse} {c' : Control} (app : c'.appState = c.appState)
      (errors : List ClientError) (line : ∀ e ∈ errors, e.OfLine)
      (clientErrors : c'.proto.clientErrors = c.proto.clientErrors ++ errors ++
        if response.answer.error = [] then [] else [.sc2ProtocolError])
      (protocolErrors :
        c'.proto.protocolErrors = c.proto.protocolErrors ++ response.answer.error) :
    Waited c (some response, c')
  | diagnosed {c' : Control} (diagnosis : c.Diagnosis c') : Waited c (none, c')

theorem waitForResponse_waited : c.Waited c.waitForResponse := by
  have hnotes : c.proto.Notes c.proto.waitForResponseInternal.2 :=
    ProtoInterface.notes_waitForResponseInternal
  obtain ⟨errors, herrors, hline⟩ := hnotes.clientErrors
  have hprotocol := hnotes.protocolErrors
  unfold waitForResponse
  dsimp only
  generalize c.proto.waitForResponseInternal = waited at herrors hprotocol ⊢
  obtain ⟨response, p⟩ := waited
  dsimp only at herrors hprotocol ⊢
  cases response with
  | none =>
    refine .diagnosed ?_
    cases diagnose_diagnosis (c := { c with proto := p }) with
    | responsive app errors' clientErrors recorded other pending =>
      refine .responsive app (errors ++ errors') ?_ (List.mem_append_right _ recorded) ?_ pending
      · rw [clientErrors, herrors, List.append_assoc]
      · rw [List.mem_append, not_or]
        exact ⟨fun h => sc2AppFailure_not_ofLine (hline _ h), other⟩
    | givenUp app recorded => exact .givenUp app recorded
  | some response =>
    dsimp only
    split
    next hnone =>
      exact .answered rfl errors hline (by simp [herrors, hnone]) (by simp [hprotocol, hnone])
    next hsome =>
      refine .answered rfl errors hline ?_ ?_
      · simp [error, ProtoInterface.error, herrors, hsome]
      · simp [error, ProtoInterface.error, hprotocol]

/-! ## Runs -/

/-- The failure of the application is recorded, if it failed. -/
def Recorded (c : Control) : Prop :=
  .sc2AppFailure ∈ c.proto.clientErrors ↔ c.appState ≠ .normal

theorem Recorded.of_errors (h : c.Recorded) (happ : c'.appState = c.appState)
    {errors : List ClientError} (herrors : c'.proto.clientErrors = c.proto.clientErrors ++ errors)
    (hother : .sc2AppFailure ∉ errors) : c'.Recorded := by
  unfold Recorded
  rw [herrors, happ, List.mem_append, or_iff_left hother]
  exact h

theorem Recorded.of_notes (h : c.Recorded) (happ : c'.appState = c.appState)
    (hnotes : c.proto.Notes c'.proto) : c'.Recorded := by
  obtain ⟨errors, herrors, hline⟩ := hnotes.clientErrors
  exact h.of_errors happ herrors fun hmem => sc2AppFailure_not_ofLine (hline _ hmem)

theorem Recorded.waitForResponse (h : c.Recorded) : c.waitForResponse.2.Recorded := by
  have hwaited := waitForResponse_waited (c := c)
  generalize c.waitForResponse = waited at hwaited
  cases hwaited with
  | answered app errors line clientErrors protocolErrors =>
    rw [List.append_assoc] at clientErrors
    refine h.of_errors app clientErrors ?_
    rw [List.mem_append, not_or]
    refine ⟨fun hmem => sc2AppFailure_not_ofLine (line _ hmem), ?_⟩
    split <;> simp
  | diagnosed diagnosis =>
    cases diagnosis with
    | responsive app errors clientErrors recorded other pending =>
      exact h.of_errors app clientErrors other
    | givenUp app recorded => exact ⟨fun _ => app.not_normal, fun _ => recorded⟩

theorem Recorded.step (h : c.Recorded) (hstep : c.Step c') : c'.Recorded := by
  cases hstep with
  | sends case => exact h.of_notes rfl (ProtoInterface.notes_sendRequest case false)
  | waits => exact h.waitForResponse
  | polls => exact h.of_notes rfl ProtoInterface.notes_pollResponse
  | pings => exact h.of_notes rfl ProtoInterface.notes_pingGame
  | connects => exact h.of_notes rfl ProtoInterface.notes_connectToGame
  | errs error other =>
    have hother : .sc2AppFailure ∉ [error] := by simpa using other.symm
    exact h.of_errors rfl rfl hother
  | lives world => exact h
  | learns imp tableSizes app learns =>
    exact h.of_errors app (List.append_nil _).symm List.not_mem_nil

theorem Steps.recorded (h : c.Steps c') (hrecorded : c.Recorded) : c'.Recorded := by
  induction h with
  | refl => exact hrecorded
  | tail _ step ih => exact ih.step step

/-- An application that is given up on is so for good. -/
theorem Step.not_normal (h : c.Step c') (happ : c.appState ≠ .normal) : c'.appState ≠ .normal := by
  cases h with
  | waits =>
    have hwaited := waitForResponse_waited (c := c)
    generalize c.waitForResponse = waited at hwaited
    cases hwaited with
    | answered app => rwa [app]
    | diagnosed diagnosis =>
      cases diagnosis with
      | responsive app => rwa [app]
      | givenUp app => exact app.not_normal
  | sends case => exact happ
  | polls => exact happ
  | pings => exact happ
  | connects => exact happ
  | errs error other => exact happ
  | lives world => exact happ
  | learns imp tableSizes app learns =>
    show imp.appState ≠ .normal
    rwa [app]

theorem Steps.not_normal (h : c.Steps c') (happ : c.appState ≠ .normal) :
    c'.appState ≠ .normal := by
  induction h with
  | refl => exact happ
  | tail _ step ih => exact step.not_normal ih

/-- A client accounts for its failures: those of its application, and those of the waits
it may begin. -/
structure Accounts (c : Control) : Prop where
  recorded : .sc2AppFailure ∈ c.proto.clientErrors ↔ c.appState ≠ .normal
  forGood : ∀ c', c.Steps c' → c.appState ≠ .normal → c'.appState ≠ .normal
  /-- A wait in vain leaves a healthy client with nothing pending, or gives it up. -/
  unanswered : ∀ c', c.waitForResponse = (none, c') →
    (c'.appState = .normal ∧ c'.proto.responsePending = .responseNotSet ∧
      ∃ errors, c'.proto.clientErrors = c.proto.clientErrors ++ errors ∧
        .sc2UnknownStatus ∈ errors) ∨
    ((c'.appState = .crashed ∨ c'.appState = .timeout ∨ c'.appState = .timeoutZombie) ∧
      .sc2AppFailure ∈ c'.proto.clientErrors)
  /-- A response is recorded as an error exactly when it reports some. -/
  answered : ∀ response c', c.waitForResponse = (some response, c') →
    ∃ errors, c'.proto.clientErrors = c.proto.clientErrors ++ errors ∧
      (.sc2ProtocolError ∈ errors ↔ response.answer.error ≠ []) ∧
      c'.proto.protocolErrors = c.proto.protocolErrors ++ response.answer.error

theorem givenUp_iff : c.GivenUp ↔ c.appState ≠ .normal := by
  unfold GivenUp
  cases c.appState <;> simp

theorem Recorded.accounts (h : c.Recorded) : c.Accounts where
  recorded := h
  forGood c' := Steps.not_normal
  unanswered c' hwait := by
    have hwaited := waitForResponse_waited (c := c)
    have hafter := h.waitForResponse
    rw [hwait] at hwaited hafter
    by_cases happ : c'.appState = .normal
    · cases hwaited with
      | diagnosed diagnosis =>
        cases diagnosis with
        | responsive app errors clientErrors recorded other pending =>
          exact .inl ⟨happ, pending, errors, clientErrors, recorded⟩
        | givenUp app recorded => exact absurd happ app.not_normal
    · exact .inr ⟨givenUp_iff.2 happ, hafter.2 happ⟩
  answered response c' hwait := by
    have hwaited := waitForResponse_waited (c := c)
    rw [hwait] at hwaited
    cases hwaited with
    | answered app errors line clientErrors protocolErrors =>
      rw [List.append_assoc] at clientErrors
      refine ⟨_, clientErrors, ?_, protocolErrors⟩
      have hline : .sc2ProtocolError ∉ errors := fun hmem => by
        simpa [ClientError.OfLine] using line _ hmem
      by_cases hnone : response.answer.error = [] <;> simp [hline, hnone]

end Control

/-- In every state that the operations of a client pass through, its failures are
accounted for. -/
theorem failures_are_accounted_for (processInfo : Option ProcessInfo)
    (calls : List (World × ClientCall)) :
    Control.Steps { processInfo } (clientMachine.final { processInfo } calls) ∧
      ∀ c, Control.Steps { processInfo } c → c.Accounts :=
  ⟨clientMachine_steps _ calls, fun _ hsteps =>
    (hsteps.recorded (by simp [Control.Recorded, Control.appState])).accounts⟩

/-- A game that hangs, and whose process cannot be killed. -/
theorem failures_of_a_hang :
    let c := clientMachine.final {} [({}, .getObservation)]
    c.appState = .timeoutZombie ∧ c.Accounts :=
  ⟨by decide +kernel, (failures_are_accounted_for none [({}, .getObservation)]).2 _
    (failures_are_accounted_for none [({}, .getObservation)]).1⟩

end Sc2Api
