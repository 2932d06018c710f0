import Sc2Api.Control

/-!
# What a request and a wait can do

One inversion lemma for each of the two, from which everything about the wire
follows.
-/

namespace Sc2Api

namespace ProtoInterface

variable (p : ProtoInterface)

@[simp] theorem responsePending_ensureConnection :
    p.ensureConnection.responsePending = p.responsePending := by
  unfold ensureConnection
  split <;> rfl

/-- A request is refused without a connection, refused while a response is pending, or
written. -/
theorem sendRequest_cases (case : Proto.ResponseCase) (ignorePendingRequests : Bool) :
    (p.ensureConnection.connection.connected = false ∧
      p.sendRequest case ignorePendingRequests = (false, p.ensureConnection.refuse case)) ∨
    (p.ensureConnection.connection.connected = true ∧ ignorePendingRequests = false ∧
      p.hasResponsePending = true ∧
      p.sendRequest case ignorePendingRequests =
        (false, (p.ensureConnection.error .responseNotConsumed).refuse case)) ∨
    (p.ensureConnection.connection.connected = true ∧
      (ignorePendingRequests = true ∨ p.hasResponsePending = false) ∧
      p.sendRequest case ignorePendingRequests = (true, p.ensureConnection.write case)) := by
  have hpending : p.ensureConnection.hasResponsePending = p.hasResponsePending := by
    unfold hasResponsePending
    rw [responsePending_ensureConnection]
  unfold sendRequest
  simp only [hpending]
  cases hconnected : p.ensureConnection.connection.connected with
  | false => exact .inl ⟨rfl, rfl⟩
  | true =>
    cases ignorePendingRequests with
    | true => exact .inr (.inr ⟨rfl, .inl rfl, rfl⟩)
    | false =>
      cases hp : p.hasResponsePending with
      | true => exact .inr (.inl ⟨rfl, rfl, rfl, rfl⟩)
      | false => exact .inr (.inr ⟨rfl, .inr rfl, rfl⟩)

/-- A request that respects a pending response is sent exactly when there is none and
the connection stands or can be rebuilt. -/
theorem sendRequest_fst (case : Proto.ResponseCase) :
    (p.sendRequest case).1 =
      (!p.hasResponsePending && p.ensureConnection.connection.connected) := by
  rcases p.sendRequest_cases case false with ⟨hc, h⟩ | ⟨hc, -, hp, h⟩ | ⟨hc, hp, h⟩
  · simp [h, hc]
  · simp [h, hc, hp]
  · simp only [Bool.false_eq_true, false_or] at hp
    simp [h, hc, hp]

theorem sendRequest_snd_of_sent {case : Proto.ResponseCase} {ignorePendingRequests : Bool}
    (h : (p.sendRequest case ignorePendingRequests).1 = true) :
    (p.sendRequest case ignorePendingRequests).2 = p.ensureConnection.write case := by
  rcases p.sendRequest_cases case ignorePendingRequests with ⟨-, he⟩ | ⟨-, -, -, he⟩ | ⟨-, -, he⟩
  · simp [he] at h
  · simp [he] at h
  · rw [he]

end ProtoInterface

/-! ## The line -/

/-- The part of a `ProtoInterface` that its requests and responses go through, with what
the world still holds for it. -/
structure Line where
  connection : Connection
  responsePending : Proto.ResponseCase
  latestStatus : Status
  serial : Nat
  log : List Traffic
  deliveries : Stream' Delivery
  polls : Stream' (List Arrival)
  connects : Stream' Bool

def ProtoInterface.line (p : ProtoInterface) : Line where
  connection := p.connection
  responsePending := p.responsePending
  latestStatus := p.latestStatus
  serial := p.serial
  log := p.log
  deliveries := p.world.deliveries
  polls := p.world.polls
  connects := p.world.connects

namespace ProtoInterface

variable (p : ProtoInterface)

/-- An arrival changes the connection and perhaps the list of errors. -/
theorem arrive_eq (arrival : Arrival) : ∃ errors, p.arrive arrival =
    { p with connection := p.connection.arrive arrival, clientErrors := errors } := by
  unfold arrive
  dsimp only
  split
  · exact ⟨p.clientErrors ++ [.connectionClosed], by simp [error]⟩
  · exact ⟨_, rfl⟩

theorem foldl_arrive_eq (arrivals : List Arrival) : ∃ errors, arrivals.foldl arrive p =
    { p with
      connection := arrivals.foldl Connection.arrive p.connection
      clientErrors := errors } := by
  induction arrivals generalizing p with
  | nil => exact ⟨_, rfl⟩
  | cons arrival arrivals ih =>
    obtain ⟨errors, h⟩ := p.arrive_eq arrival
    obtain ⟨errors', h'⟩ := ih (p.arrive arrival)
    refine ⟨errors', ?_⟩
    rw [List.foldl_cons, h', h]
    rfl

theorem disconnect_eq : ∃ errors, p.disconnect =
    { p with connection := p.connection.disconnect, clientErrors := errors } := by
  unfold disconnect
  dsimp only
  split
  · exact ⟨p.clientErrors ++ [.connectionClosed], by simp [error]⟩
  · exact ⟨_, rfl⟩

/-- The connection once the arrivals of the next wait are in. -/
def awaited : Connection :=
  p.world.deliveries.head.waiting.foldl Connection.arrive p.connection

/-- The connection after a wait in vain. -/
def dropped : Connection :=
  { (p.world.deliveries.head.closing.foldl Connection.arrive p.awaited).disconnect with
    queue := [] }

/-- A wait takes the first response of the queue, or drops the connection. -/
theorem receive_cases :
    (∃ response queue, p.awaited.queue = response :: queue ∧ p.receive.1 = some response ∧
      p.receive.2.line = { p.line with
        connection := p.awaited.popResponse queue
        deliveries := p.world.deliveries.tail
        log := p.log ++ [.received response] }) ∨
    (p.awaited.queue = [] ∧ p.receive.1 = none ∧
      p.receive.2.line = { p.line with
        connection := p.dropped
        deliveries := p.world.deliveries.tail
        log := p.log ++ [.timedOut] }) := by
  unfold receive
  dsimp only
  obtain ⟨errors, hwaiting⟩ := foldl_arrive_eq { p with world := { p.world with
    deliveries := p.world.deliveries.tail } } p.world.deliveries.head.waiting
  rw [hwaiting]
  cases hqueue : p.awaited.queue with
  | cons response queue =>
    refine .inl ⟨response, queue, rfl, ?_⟩
    split
    next response' queue' hqueue' =>
      obtain ⟨rfl, rfl⟩ := List.cons.inj (hqueue'.symm.trans hqueue)
      exact ⟨rfl, rfl⟩
    next hqueue' => cases hqueue.symm.trans hqueue'
  | nil =>
    refine .inr ⟨rfl, ?_⟩
    split
    next response' queue' hqueue' => cases hqueue.symm.trans hqueue'
    next =>
      refine ⟨rfl, ?_⟩
      obtain ⟨errors', hclosing⟩ := foldl_arrive_eq
        { p with
          connection := p.awaited
          clientErrors := errors
          world := { p.world with deliveries := p.world.deliveries.tail } }
        p.world.deliveries.head.closing
      obtain ⟨errors'', hdisconnect⟩ := disconnect_eq
        { p with
          connection := p.world.deliveries.head.closing.foldl Connection.arrive p.awaited
          clientErrors := errors'
          world := { p.world with deliveries := p.world.deliveries.tail } }
      have hall := (congrArg disconnect hclosing).trans hdisconnect
      exact congrArg (fun q : ProtoInterface => ({ q with
        connection := { q.connection with queue := [] }
        log := q.log ++ [.timedOut] } : ProtoInterface).line) hall

/-- The status is that of the response, unknown without one. -/
theorem waitForResponseInternal_cases :
    (∃ response queue, p.awaited.queue = response :: queue ∧
      p.waitForResponseInternal.1 = some response ∧
      p.waitForResponseInternal.2.line = { p.line with
        connection := p.awaited.popResponse queue
        responsePending := .responseNotSet
        latestStatus := response.answer.status.getD .unknown
        deliveries := p.world.deliveries.tail
        log := p.log ++ [.received response] }) ∨
    (p.awaited.queue = [] ∧ p.waitForResponseInternal.1 = none ∧
      p.waitForResponseInternal.2.line = { p.line with
        connection := p.dropped
        latestStatus := .unknown
        deliveries := p.world.deliveries.tail
        log := p.log ++ [.timedOut] }) := by
  unfold waitForResponseInternal
  dsimp only
  rcases receive_cases { p with latestStatus := .unknown } with
    ⟨response, queue, hqueue, hfst, hline⟩ | ⟨hqueue, hfst, hline⟩
  · refine .inl ⟨response, queue, hqueue, ?_⟩
    generalize receive { p with latestStatus := .unknown } = received at hfst hline
    obtain ⟨answer, p'⟩ := received
    obtain rfl : answer = some response := hfst
    have hset (q : ProtoInterface) (hq : q.line = p'.line) :
        ({ q with
          latestStatus := response.answer.status.getD q.latestStatus
          responsePending := .responseNotSet } : ProtoInterface).line =
        { p'.line with
          latestStatus := response.answer.status.getD p'.latestStatus
          responsePending := .responseNotSet } := by
      rw [← hq, ← show q.latestStatus = p'.latestStatus from congrArg Line.latestStatus hq]
      rfl
    have hstatus : p'.latestStatus = .unknown := congrArg Line.latestStatus hline
    refine ⟨rfl, ?_⟩
    dsimp only
    split
    · refine (hset p' rfl).trans ?_
      rw [hline, hstatus]
      rfl
    · refine (hset p' rfl).trans ?_
      rw [hline, hstatus]
      rfl
  · refine .inr ⟨hqueue, ?_⟩
    generalize receive { p with latestStatus := .unknown } = received at hfst hline
    obtain ⟨answer, p'⟩ := received
    obtain rfl : answer = none := hfst
    exact ⟨rfl, hline⟩

/-- Polling takes in what has arrived. -/
theorem pollResponse_spec :
    let connection := p.world.polls.head.foldl Connection.arrive p.connection
    p.pollResponse.1 = connection.hasResponse ∧
      p.pollResponse.2.line =
        { p.line with connection, polls := p.world.polls.tail } := by
  unfold pollResponse
  dsimp only
  obtain ⟨errors, h⟩ := foldl_arrive_eq { p with world := { p.world with
    polls := p.world.polls.tail } } p.world.polls.head
  rw [h]
  exact ⟨rfl, rfl⟩

theorem line_ensureConnection : p.ensureConnection.line =
    if p.connection.connected then p.line
    else { p.line with
      connection := p.connection.connect p.world.connects.head
      connects := p.world.connects.tail } := by
  unfold ensureConnection
  split <;> rfl

end ProtoInterface

namespace Control

variable (c : Control)

@[simp] theorem line_error (error : ClientError) (errors : List String) :
    (c.error error errors).proto.line = c.proto.line := rfl

@[simp] theorem appState_setAppState (appState : AppState) :
    (c.setAppState appState).appState = appState := rfl

@[simp] theorem appState_error (error : ClientError) (errors : List String) :
    (c.error error errors).appState = c.appState := rfl

@[simp] theorem line_isProcessRunning : c.isProcessRunning.2.proto.line = c.proto.line := rfl

@[simp] theorem appState_isProcessRunning : c.isProcessRunning.2.appState = c.appState := rfl

/-- A request is sent exactly if the client can send one. -/
theorem sendRequest_sent_iff (case : Proto.ResponseCase) :
    (c.sendRequest case).1 = true ↔ c.CanSend := by
  have hconnected : c.proto.ensureConnection.connection.connected = true ↔
      c.proto.connection.connected = true ∨ c.proto.world.connects.head = true := by
    unfold ProtoInterface.ensureConnection
    split
    next hyes => simp [hyes]
    next hno => simp [hno, ProtoInterface.connect, Connection.connect]
  have hpending : c.proto.hasResponsePending = false ↔
      c.proto.responsePending = .responseNotSet := by
    simp [ProtoInterface.hasResponsePending]
  have hsent : (c.sendRequest case).1 = (!c.proto.hasResponsePending &&
      c.proto.ensureConnection.connection.connected) := c.proto.sendRequest_fst case
  rw [hsent, Bool.and_eq_true, Bool.not_eq_true', hconnected, hpending]
  exact Iff.rfl

@[simp] theorem line_errorIf (condition : Bool) (error : ClientError) :
    (c.errorIf condition error).proto.line = c.proto.line := by
  unfold errorIf
  split <;> rfl

@[simp] theorem line_storeTable (table : DataTable) (size : Nat)
    (abilities : Option (List Proto.AbilityData)) :
    (c.storeTable table size abilities).proto.line = c.proto.line := rfl

@[simp] theorem appState_errorIf (condition : Bool) (error : ClientError) :
    (c.errorIf condition error).appState = c.appState := by
  unfold errorIf
  split <;> rfl

theorem killLoop_spec (n : Nat) :
    (killLoop n c).proto.line = c.proto.line ∧ (killLoop n c).appState = c.appState := by
  induction n generalizing c with
  | zero => exact ⟨rfl, rfl⟩
  | succ n ih =>
    unfold killLoop
    dsimp only
    split
    · exact ih _
    · exact ⟨rfl, rfl⟩

theorem terminateHung_spec :
    c.terminateHung.proto.line = c.proto.line ∧ c.terminateHung.appState ≠ .normal := by
  obtain ⟨hline, happ⟩ := killLoop_spec (c.setAppState .timeout) 10
  unfold terminateHung
  dsimp only
  rw [line_error, appState_error]
  split
  · exact ⟨hline, by simp⟩
  · refine ⟨hline, ?_⟩
    rw [appState_isProcessRunning, happ]
    simp

/-- What the diagnosis of a missing response can come to: the game crashed; it answers
a ping; it hangs, whether the ping could be sent or not. -/
inductive Diagnosed (c : Control) : Control → Prop
  | crashed {c' : Control} (line : c'.proto.line = c.proto.line) (app : c'.appState ≠ .normal) :
    Diagnosed c c'
  | unsent {p : ProtoInterface} {c' : Control} (before : p.line = c.proto.line)
      (ping : (p.sendRequest .ping true).1 = false)
      (line : c'.proto.line = (p.sendRequest .ping true).2.line) (app : c'.appState ≠ .normal) :
    Diagnosed c c'
  | waited {p : ProtoInterface} {c' : Control} (before : p.line = c.proto.line)
      (ping : (p.sendRequest .ping true).1 = true)
      (line : c'.proto.line = (p.sendRequest .ping true).2.waitForResponseInternal.2.line)
      (app : if (p.sendRequest .ping true).2.waitForResponseInternal.1.isSome then
        c'.appState = c.appState else c'.appState ≠ .normal) :
    Diagnosed c c'

theorem diagnoseHang_spec : c.Diagnosed c.diagnoseHang := by
  unfold diagnoseHang
  dsimp only
  split
  next hsent =>
    have hspec := terminateHung_spec ((setAppState
      { c with proto := (c.proto.sendRequest .ping true).2 } .timeout).error .sc2ProtocolTimeout)
    exact .unsent rfl (by simpa using hsent) hspec.1 hspec.2
  next hsent =>
    have hsent : (c.proto.sendRequest .ping true).1 = true := by simpa using hsent
    split
    next response hresponse =>
      refine .waited rfl hsent (by rw [line_error, line_errorIf]) ?_
      rw [hresponse]
      simp only [Option.isSome_some, if_true, appState_error, appState_errorIf]
      rfl
    next hresponse =>
      have hspec := terminateHung_spec ((setAppState { c with
        proto := (c.proto.sendRequest .ping true).2.waitForResponseInternal.2 } .timeout).error
          .sc2ProtocolTimeout)
      refine .waited rfl hsent hspec.1 ?_
      rw [hresponse]
      exact hspec.2

theorem diagnose_spec : c.Diagnosed c.diagnose := by
  unfold diagnose
  dsimp only
  split
  · refine .crashed (line_isProcessRunning c) ?_
    rw [appState_error, appState_setAppState]
    decide
  · cases diagnoseHang_spec c.isProcessRunning.2 with
    | crashed line app => exact .crashed (line.trans (line_isProcessRunning c)) app
    | unsent before ping line app =>
      exact .unsent (before.trans (line_isProcessRunning c)) ping line app
    | waited before ping line app =>
      exact .waited (before.trans (line_isProcessRunning c)) ping line app

/-- What waiting for a response can come to. -/
theorem waitForResponse_cases :
    (∃ response, c.waitForResponse.1 = some response ∧
      c.proto.waitForResponseInternal.1 = some response ∧
      c.waitForResponse.2.proto.line = c.proto.waitForResponseInternal.2.line ∧
      c.waitForResponse.2.appState = c.appState) ∨
    (c.waitForResponse.1 = none ∧ c.proto.waitForResponseInternal.1 = none ∧
      Diagnosed { c with proto := c.proto.waitForResponseInternal.2 } c.waitForResponse.2) := by
  unfold waitForResponse
  dsimp only
  split
  next response hresponse =>
    refine .inl ⟨response, ?_⟩
    split
    · exact ⟨rfl, hresponse, rfl, rfl⟩
    · exact ⟨rfl, hresponse, rfl, rfl⟩
  next hresponse => exact .inr ⟨rfl, hresponse, diagnose_spec _⟩

theorem waitForResponse_fst : c.waitForResponse.1 = c.proto.waitForResponseInternal.1 := by
  rcases c.waitForResponse_cases with ⟨response, h, h', -⟩ | ⟨h, h', -⟩
  · rw [h, h']
  · rw [h, h']

variable {c} in
/-- With a response the state of the application is as before. -/
theorem appState_waitForResponse (h : c.waitForResponse.1.isSome = true) :
    c.waitForResponse.2.appState = c.appState := by
  rcases c.waitForResponse_cases with ⟨_, -, -, -, happ⟩ | ⟨hnone, -, -⟩
  · exact happ
  · rw [hnone] at h
    cases h

/-- A round trip is a request and, if it was sent, a wait. -/
theorem sendRequest_waitForResponse (case : Proto.ResponseCase) : c.exchange case =
    if (c.sendRequest case).1 then (c.sendRequest case).2.waitForResponse
    else (none, (c.sendRequest case).2) := by
  unfold exchange
  dsimp only
  cases (c.sendRequest case).1 <;> rfl

theorem sent_of_response {case : Proto.ResponseCase} {response : GameResponse}
    (h : (c.exchange case).1 = some response) : (c.sendRequest case).1 = true := by
  rw [sendRequest_waitForResponse] at h
  cases hsent : (c.sendRequest case).1 with
  | true => rfl
  | false => simp [hsent] at h

theorem isSome_of_succeeded {response : Option GameResponse} {case : Proto.ResponseCase}
    (h : succeeded response case = true) : response.isSome = true := by
  cases response with
  | none => cases h
  | some response => rfl

end Control

end Sc2Api
