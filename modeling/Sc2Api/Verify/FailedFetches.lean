import Sc2Api.MessagePointers
import Sc2Api.Verify.Fetching

/-!
# Fetching an observation that does not come

`GetObservation` changes nothing but errors and the state of the application when its
round trip fails, if it survives: the branch for errors reads the response, which is
not there when the wait timed out. The pointers to messages are read behind their tests.
-/

namespace Sc2Api

/-! ## Pointers -/

namespace MessageResponsePtr

variable {MessageType SubmessageType : Type} {p : MessageResponsePtr MessageType}
  {message : MessageType}

/-- The message of a pointer that has no errors. -/
def readable (p : MessageResponsePtr MessageType) : Option MessageType :=
  match p.response with
  | none => none
  | some response => if response.answer.error = [] then p.message else none

theorem hasErrors_eq (p : MessageResponsePtr MessageType) :
    p.hasErrors = .ok p.readable.isNone := by
  obtain ⟨message, response⟩ := p
  cases response with
  | none => rfl
  | some response =>
    unfold hasErrors readable
    by_cases herror : response.answer.error = []
    · cases message <;>
        simp [hasResponse, hasMessage, derefResponse, herror, bind, Except.bind, pure, Except.pure]
    · simp [hasResponse, derefResponse, herror, bind, Except.bind, pure, Except.pure]

theorem message_of_readable (h : p.readable = some message) : p.message = some message := by
  unfold readable at h
  split at h
  · cases h
  · split at h
    · exact h
    · cases h

theorem deref_of_message (h : p.message = some message) : p.deref = .ok message := by
  unfold deref
  rw [h]

theorem submessage_eq (p : MessageResponsePtr MessageType)
    (field : MessageType → Option SubmessageType) :
    p.submessage field = .ok ⟨p.readable.bind field, p.response⟩ := by
  unfold submessage
  rw [hasErrors_eq]
  cases h : p.readable with
  | none => rfl
  | some message =>
    have hderef := deref_of_message (message_of_readable h)
    simp [hderef, bind, Except.bind, pure, Except.pure]

/-- A message in a message that can be read can be read. -/
theorem readable_submessage (p : MessageResponsePtr MessageType)
    (field : MessageType → Option SubmessageType) :
    (⟨p.readable.bind field, p.response⟩ : MessageResponsePtr SubmessageType).readable =
      p.readable.bind field := by
  unfold readable
  cases p.response with
  | none => rfl
  | some response =>
    dsimp only
    split
    · rfl
    · rfl

/-- A read behind the test for errors. -/
theorem hasErrors_bind {β : Type} (p : MessageResponsePtr MessageType) (absent : Except NullRead β)
    (read : MessageType → Except NullRead β) :
    (p.hasErrors >>= fun errors => if errors = true then absent else p.deref >>= read) =
      p.readable.elim absent read := by
  rw [hasErrors_eq]
  cases h : p.readable with
  | none => rfl
  | some message =>
    rw [deref_of_message (message_of_readable h)]
    rfl

theorem ofResponse_some (response : GameResponse) :
    ofResponse (some response) .observation (·.observation) = .ok
      ⟨if response.case = .observation then some response.answer.observation else none,
        some response⟩ := by
  unfold ofResponse
  by_cases hcase : response.case = .observation <;>
    simp [hcase, derefResponse, bind, Except.bind, pure, Except.pure]

theorem readable_ofResponse (response : GameResponse) :
    (⟨if response.case = .observation then some response.answer.observation else none,
        some response⟩ : MessageResponsePtr Proto.ResponseObservation).readable =
      if Control.succeeded (some response) .observation then some response.answer.observation
      else none := by
  unfold readable Control.succeeded
  by_cases herror : response.answer.error = [] <;> simp [herror]

end MessageResponsePtr

/-! ## Fetches -/

namespace GameResponse

variable {response : GameResponse} {o : Proto.Observation}

/-- The observation of a response that `GetObservation` takes in. -/
def observation? (response : GameResponse) : Option Proto.Observation :=
  if Control.succeeded (some response) .observation then response.answer.observation.observation
  else none

theorem observation?_eq_some_iff : response.observation? = some o ↔
    Control.succeeded (some response) .observation = true ∧
      response.answer.observation.observation = some o := by
  unfold observation?
  split
  next hsucceeded => simp [hsucceeded]
  next hrefused => simp [hrefused]

theorem observation?_eq_none_iff : response.observation? = none ↔
    !Control.succeeded (some response) .observation ∨
      response.answer.observation.observation.isNone := by
  unfold observation?
  split
  next hsucceeded => simp [hsucceeded]
  next hrefused => simp [hrefused]

/-- The tests of `GetObservation` on a response, with what it does where both pointers can be
read. -/
theorem read_bind {β : Type} (response : GameResponse) (absent : Except NullRead β)
    (read : MessageResponsePtr Proto.ResponseObservation → MessageResponsePtr Proto.Observation →
      Except NullRead β) :
    (MessageResponsePtr.ofResponse (some response) .observation (·.observation) >>= fun r =>
      r.hasErrors >>= fun errors =>
        if errors = true then derefResponse (some response) >>= fun _ => absent
        else r.submessage (·.observation) >>= fun o =>
          o.hasErrors >>= fun errors => if errors = true then absent else read r o) =
      response.observation?.elim absent fun o =>
        read ⟨some response.answer.observation, some response⟩ ⟨some o, some response⟩ := by
  rw [MessageResponsePtr.ofResponse_some]
  dsimp only [bind, Except.bind]
  rw [MessageResponsePtr.hasErrors_eq, MessageResponsePtr.submessage_eq,
    MessageResponsePtr.readable_ofResponse]
  unfold observation?
  cases hsucceeded : Control.succeeded (some response) .observation with
  | false => rfl
  | true =>
    obtain ⟨herror, hcase⟩ := Control.succeeded_iff.1 hsucceeded
    have hobservation : (⟨response.answer.observation.observation, some response⟩ :
        MessageResponsePtr Proto.Observation).readable =
          response.answer.observation.observation := if_pos herror
    simp only [hcase, if_true, Option.isNone_some, Bool.false_eq_true, if_false,
      Option.bind_some, MessageResponsePtr.hasErrors_eq, hobservation]
    cases response.answer.observation.observation <;> rfl

end GameResponse

namespace Control

variable (c : Control)

/-- The request for an observation is sent, and the wait for the response ends without
one. -/
def TimesOut : Prop :=
  c.appState = .normal ∧ (c.sendRequest .observation).1 = true ∧
    (c.sendRequest .observation).2.proto.awaited.queue = []

instance : Decidable c.TimesOut := inferInstanceAs (Decidable (_ ∧ _ ∧ _))

/-- What the round trip of an observation can fail in. -/
inductive TripFails : Prop
  | notSent (sent : (c.sendRequest .observation).1 = false)
  | noResponse (none : (c.sendRequest .observation).2.waitForResponse.1 = none)
  | errors (response : GameResponse)
      (some : (c.sendRequest .observation).2.waitForResponse.1 = some response)
      (errors : response.answer.error ≠ [])
  | otherKind (response : GameResponse)
      (some : (c.sendRequest .observation).2.waitForResponse.1 = some response)
      (kind : response.case ≠ .observation)
  | noObservation (response : GameResponse)
      (some : (c.sendRequest .observation).2.waitForResponse.1 = some response)
      (observation : response.answer.observation.observation = none)

/-- `GetObservation` returns false, reads no missing response or message, and changes
nothing that the client knows of its game. -/
def FailsSafely : Prop :=
  ∃ c', c.getObservationRead = .ok (false, c') ∧
    c'.imp = { c.imp with appState := c'.appState } ∧ c'.tableSizes = c.tableSizes

theorem waitForResponse_none_iff :
    c.waitForResponse.1 = none ↔ c.proto.awaited.queue = [] := by
  rw [waitForResponse_fst]
  rcases c.proto.waitForResponseInternal_cases with ⟨response, queue, hq, h, -⟩ | ⟨hq, h, -⟩
  · simp [hq, h]
  · simp [hq, h]

/-- Without a response the branch for errors reads a null pointer. -/
theorem readObservation_none : c.readObservation none = .error .response := rfl

/-- With one, nothing is read that is not there. -/
theorem readObservation_some (response : GameResponse) : c.readObservation (some response) =
    .ok (if !succeeded (some response) .observation ∨
        response.answer.observation.observation.isNone then (false, c)
      else c.takeIn response) := by
  unfold readObservation
  rw [GameResponse.read_bind]
  cases ho : response.observation? with
  | none =>
    rw [if_pos (GameResponse.observation?_eq_none_iff.1 ho)]
    rfl
  | some o =>
    obtain ⟨hsucceeded, hsome⟩ := GameResponse.observation?_eq_some_iff.1 ho
    rw [if_neg (by simp [hsucceeded, hsome])]
    rfl

/-- A fetch that does not time out reads only what is there, and does what
`getObservation` does. -/
theorem getObservationRead_eq :
    c.getObservationRead = if c.TimesOut then .error .response else .ok c.getObservation := by
  split
  next htimeout =>
    obtain ⟨happ, hsent, hqueue⟩ := htimeout
    have hnone := (waitForResponse_none_iff (c.sendRequest .observation).2).2 hqueue
    unfold getObservationRead
    simp [happ, hsent, hnone, readObservation_none]
  next hanswered =>
    by_cases happ : c.appState = .normal
    · cases hsent : (c.sendRequest .observation).1 with
      | false => simp [getObservationRead, getObservation, happ, hsent]
      | true =>
        have hsome : (c.sendRequest .observation).2.waitForResponse.1 ≠ none := fun hnone =>
          hanswered ⟨happ, hsent, (waitForResponse_none_iff _).1 hnone⟩
        unfold getObservationRead getObservation
        generalize c.sendRequest .observation = request at hsent hsome ⊢
        obtain ⟨sent, c'⟩ := request
        obtain rfl : sent = true := hsent
        dsimp only at hsome ⊢
        generalize c'.waitForResponse = waited at hsome ⊢
        obtain ⟨response, c'⟩ := waited
        cases response with
        | none => exact absurd rfl hsome
        | some response =>
          simp only [happ, ne_eq, not_true_eq_false, if_false, Bool.not_true, Bool.false_eq_true,
            readObservation_some]
          rfl
    · simp [getObservationRead, getObservation, happ]

variable {c}

/-- A response that fails the round trip is not taken in. -/
theorem TripFails.refused (h : c.TripFails) (hsent : (c.sendRequest .observation).1 = true)
    {response : GameResponse}
    (hsome : (c.sendRequest .observation).2.waitForResponse.1 = some response) :
    !succeeded (some response) .observation ∨
      response.answer.observation.observation.isNone := by
  cases h with
  | notSent sent =>
    rw [hsent] at sent
    cases sent
  | noResponse none =>
    rw [hsome] at none
    cases none
  | errors response' some errors =>
    obtain rfl : response = response' := Option.some.inj (hsome.symm.trans some)
    simp [succeeded, errors]
  | otherKind response' some kind =>
    obtain rfl : response = response' := Option.some.inj (hsome.symm.trans some)
    simp [succeeded, kind]
  | noObservation response' some observation =>
    obtain rfl : response = response' := Option.some.inj (hsome.symm.trans some)
    simp [observation]

theorem TripFails.getObservation (h : c.TripFails) : ∃ c', c.getObservation = (false, c') ∧
    c'.imp = { c.imp with appState := c'.appState } ∧ c'.tableSizes = c.tableSizes := by
  unfold Control.getObservation
  by_cases happ : c.appState = .normal
  · cases hsent : (c.sendRequest .observation).1 with
    | false => exact ⟨(c.sendRequest .observation).2, by simp [happ, hsent], rfl, rfl⟩
    | true =>
      have hrefused (response : GameResponse)
          (hsome : (c.sendRequest .observation).2.waitForResponse.1 = some response) :=
        h.refused hsent hsome
      have hwaits := (sendRequest_waits (c := c) .observation).trans waitForResponse_waits
      obtain ⟨appState, himp⟩ := hwaits.imp
      have hsizes := hwaits.tableSizes
      clear hwaits
      generalize c.sendRequest .observation = request at hsent hrefused himp hsizes ⊢
      obtain ⟨sent, c'⟩ := request
      obtain rfl : sent = true := hsent
      dsimp only at hrefused himp hsizes ⊢
      generalize c'.waitForResponse = waited at hrefused himp hsizes ⊢
      obtain ⟨response, c'⟩ := waited
      have hkept : c'.imp = { c.imp with appState := c'.imp.appState } := by
        rw [himp]
      refine ⟨c', ?_, hkept, hsizes⟩
      cases response with
      | none => simp [happ]
      | some response =>
        rw [if_neg (not_not_intro happ), if_neg (by simp)]
        exact if_pos (hrefused response rfl)
  · exact ⟨c, by simp [happ], rfl, rfl⟩

/-- If the round trip of an observation fails, it fails safely, unless the wait for the
response ends without one. -/
theorem fails_safely_iff (c : Control) : (c.TripFails → c.FailsSafely) ↔ ¬c.TimesOut := by
  constructor
  · intro hsafe htimeout
    obtain ⟨c', hread, -⟩ := hsafe (.noResponse ((waitForResponse_none_iff _).2 htimeout.2.2))
    rw [getObservationRead_eq, if_pos htimeout] at hread
    cases hread
  · intro hanswered hfails
    obtain ⟨c', hget, hkept⟩ := hfails.getObservation
    refine ⟨c', ?_, hkept⟩
    rw [getObservationRead_eq, if_neg hanswered, hget]

/-- A game that does not answer. -/
theorem silent_game_fails : ({} : Control).TripFails ∧ ¬({} : Control).FailsSafely := by
  have htimeout : ({} : Control).TimesOut := by decide +kernel
  refine ⟨.noResponse ((waitForResponse_none_iff _).2 htimeout.2.2), ?_⟩
  rintro ⟨c', hread, -⟩
  rw [getObservationRead_eq, if_pos htimeout] at hread
  cases hread

end Control

end Sc2Api
