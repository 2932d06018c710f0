import Sc2Api.Lib.Machine
import Sc2Api.Verify.Outstanding

/-!
# Runs of a protocol interface

A `ProtoInterface` by itself, whose requests are sent, waited for and polled in any
order. `Sequential` relates the marker for the pending response to what the game
still owes.
-/

namespace Sc2Api

open Lib

/-! ## Calls -/

inductive ProtoCall
  | sendRequest (case : Proto.ResponseCase)
  | waitForResponseInternal
  | pollResponse
  deriving DecidableEq, Repr

namespace ProtoInterface

/-- A call, with the response it hands to the caller. -/
def call (p : ProtoInterface) : ProtoCall → ProtoInterface × Option GameResponse
  | .sendRequest case => ((p.sendRequest case).2, none)
  | .waitForResponseInternal => (p.waitForResponseInternal.2, p.waitForResponseInternal.1)
  | .pollResponse => (p.pollResponse.2, none)

/-- The case of the last request that was sent. -/
def lastSent (log : List Traffic) : Option Proto.ResponseCase :=
  (log.filterMap fun
    | .sent request => some request.case
    | _ => none).getLast?

/-- The requests that are sent and whose responses the caller has not got, on every
connection. -/
def unanswered (p : ProtoInterface) : List GameRequest :=
  p.connection.queue.map (·.request) ++ p.connection.flight ++ p.connection.abandoned.flatten

def mismatches (p : ProtoInterface) : Nat := p.clientErrors.count .responseMismatch

end ProtoInterface

/-- A protocol interface that is used in any way. -/
def protoMachine : Machine ProtoInterface ProtoCall (Option GameResponse) where
  step := ProtoInterface.call

/-! ## Matching answers -/

def Arrival.Matching : Arrival → Prop
  | .answer a => a.kind = none
  | .lateAnswer _ a => a.kind = none
  | _ => True

/-- The game answers with the cases it is asked for. -/
structure World.Matching (w : World) : Prop where
  waiting : ∀ n, ∀ arrival ∈ (w.deliveries.get n).waiting, arrival.Matching
  closing : ∀ n, ∀ arrival ∈ (w.deliveries.get n).closing, arrival.Matching
  polls : ∀ n, ∀ arrival ∈ w.polls.get n, arrival.Matching

namespace Connection

/-- What is outstanding is of one case. -/
structure Awaits (c : Connection) (case : Proto.ResponseCase) : Prop where
  queue : ∀ response ∈ c.queue, response.request.case = case ∧ response.answer.kind = none
  flight : ∀ request ∈ c.flight, request.case = case

variable {c : Connection} {case : Proto.ResponseCase}

theorem Awaits.arrive (h : c.Awaits case) (hsettled : c.Settled) {arrival : Arrival}
    (harrival : arrival.Matching) : (c.arrive arrival).Awaits case := by
  cases arrival with
  | answer a =>
    unfold Connection.arrive
    dsimp only
    split
    · exact h
    next request flight hflight =>
      refine ⟨forall_mem_concat h.queue ?_, fun request' hrequest =>
        h.flight request' (hflight ▸ List.mem_cons_of_mem _ hrequest)⟩
      exact ⟨h.flight request (hflight ▸ List.mem_cons_self), harrival⟩
  | closed => exact ⟨h.queue, fun _ hrequest => nomatch hrequest⟩
  | lateAnswer i a =>
    unfold Connection.arrive
    dsimp only
    split
    next request flight hflight => cases hsettled _ (List.mem_of_getElem? hflight)
    · exact h
  | lateClosed i => exact ⟨h.queue, h.flight⟩

theorem Awaits.foldl_arrive (h : c.Awaits case) (hsettled : c.Settled)
    {arrivals : List Arrival} (harrivals : ∀ arrival ∈ arrivals, arrival.Matching) :
    (arrivals.foldl Connection.arrive c).Awaits case := by
  induction arrivals generalizing c with
  | nil => exact h
  | cons arrival arrivals ih =>
    exact ih (h.arrive hsettled (harrivals arrival List.mem_cons_self)) (hsettled.arrive arrival)
      fun arrival' h' => harrivals arrival' (List.mem_cons_of_mem _ h')

theorem awaits_of_nil (h : c.outstanding = []) : c.Awaits case where
  queue response hresponse := by rw [queue_of_outstanding h] at hresponse; cases hresponse
  flight request hrequest := by rw [flight_of_outstanding h] at hrequest; cases hrequest

theorem awaits_send (h : c.outstanding = []) (request : GameRequest) :
    (c.send request).Awaits request.case := by
  unfold Connection.send
  split
  · refine ⟨fun response hresponse => ?_, fun request' hrequest => ?_⟩
    · rw [queue_of_outstanding h] at hresponse
      cases hresponse
    · rw [flight_of_outstanding h] at hrequest
      rw [List.mem_singleton.1 hrequest]
  · exact awaits_of_nil h

end Connection

/-! ## Mismatches -/

namespace ProtoInterface

variable (p : ProtoInterface)

theorem mismatches_error {error : ClientError} (h : error ≠ .responseMismatch) :
    (p.error error).mismatches = p.mismatches := by
  unfold mismatches ProtoInterface.error
  rw [List.count_append, List.count_singleton, if_neg (by simpa using h), Nat.add_zero]

theorem mismatches_arrive (arrival : Arrival) :
    (p.arrive arrival).mismatches = p.mismatches := by
  unfold arrive
  dsimp only
  split
  · exact mismatches_error _ (by decide)
  · rfl

theorem mismatches_foldl_arrive (arrivals : List Arrival) :
    (arrivals.foldl arrive p).mismatches = p.mismatches := by
  induction arrivals generalizing p with
  | nil => rfl
  | cons arrival arrivals ih => exact (ih _).trans (p.mismatches_arrive arrival)

theorem mismatches_disconnect : p.disconnect.mismatches = p.mismatches := by
  unfold disconnect
  dsimp only
  split
  · exact mismatches_error _ (by decide)
  · rfl

theorem mismatches_receive : p.receive.2.mismatches = p.mismatches := by
  have hwaiting := mismatches_foldl_arrive { p with world := { p.world with
    deliveries := p.world.deliveries.tail } } p.world.deliveries.head.waiting
  unfold receive
  dsimp only
  split
  · exact hwaiting
  · refine (mismatches_disconnect _).trans ?_
    exact (mismatches_foldl_arrive _ _).trans hwaiting

theorem mismatches_sendRequest (case : Proto.ResponseCase) :
    (p.sendRequest case).2.mismatches = p.mismatches := by
  have hensure : p.ensureConnection.mismatches = p.mismatches := by
    unfold ensureConnection
    split <;> rfl
  rcases p.sendRequest_cases case false with ⟨-, h⟩ | ⟨-, -, -, h⟩ | ⟨-, -, h⟩
  · rw [h]
    exact hensure
  · rw [h]
    exact (mismatches_error p.ensureConnection (by decide)).trans hensure
  · rw [h]
    exact hensure

theorem mismatches_pollResponse : p.pollResponse.2.mismatches = p.mismatches :=
  mismatches_foldl_arrive { p with world := { p.world with polls := p.world.polls.tail } } _

/-- A wait raises `ResponseMismatch` only for a response of another case. -/
theorem mismatches_waitForResponseInternal
    (h : ∀ response, p.waitForResponseInternal.1 = some response →
      p.responsePending = response.case) :
    p.waitForResponseInternal.2.mismatches = p.mismatches := by
  have hreceive := mismatches_receive { p with latestStatus := .unknown }
  have hpending : ({ p with latestStatus := .unknown } : ProtoInterface).receive.2.responsePending
      = p.responsePending := by
    rcases receive_cases { p with latestStatus := .unknown } with
      ⟨_, _, -, -, hline⟩ | ⟨-, -, hline⟩
    · exact congrArg Line.responsePending hline
    · exact congrArg Line.responsePending hline
  unfold waitForResponseInternal at h ⊢
  generalize receive { p with latestStatus := .unknown } = received at hreceive hpending h ⊢
  obtain ⟨response, q⟩ := received
  dsimp only at hreceive hpending h ⊢
  cases response with
  | none => exact hreceive
  | some response =>
    have hcase := h response rfl
    dsimp only
    rw [if_neg (fun hne => hne.2 (hpending.trans hcase))]
    exact hreceive

/-! ## The invariant -/

/-- What the marker says is what the game still owes, and what was asked last. -/
structure Sequential (p : ProtoInterface) : Prop where
  tidy : p.line.Tidy
  awaits : p.connection.Awaits p.responsePending
  last : p.responsePending ≠ .responseNotSet → lastSent p.log = some p.responsePending
  matching : p.world.Matching

variable {p}

theorem lastSent_concat (log : List Traffic) (entry : Traffic) :
    lastSent (log ++ [entry]) = match entry with
      | .sent request => some request.case
      | _ => lastSent log := by
  unfold lastSent
  rw [List.filterMap_append]
  cases entry <;> simp

theorem Sequential.sendRequest (h : p.Sequential) {case : Proto.ResponseCase}
    (hcase : case ≠ .responseNotSet) : (p.sendRequest case).2.Sequential := by
  obtain ⟨htidy, hout⟩ := tidy_ensureConnection h.tidy
  have hworld : p.ensureConnection.world.Matching := by
    unfold ensureConnection
    split
    · exact h.matching
    · exact ⟨h.matching.waiting, h.matching.closing, h.matching.polls⟩
  have hawaits : p.ensureConnection.connection.Awaits p.responsePending := by
    unfold ensureConnection at hout ⊢
    split
    · exact h.awaits
    next hconnected =>
      rw [if_neg hconnected] at hout
      exact Connection.awaits_of_nil
        (hout.trans (h.tidy.unconnected (Bool.eq_false_of_not_eq_true hconnected)))
  have hpending := p.responsePending_ensureConnection
  have hlast {q : ProtoInterface} (hq : q.responsePending = p.responsePending)
      (hlog : q.log = p.log ++ [.refused case]) (hset : q.responsePending ≠ .responseNotSet) :
      lastSent q.log = some q.responsePending := by
    rw [hlog, lastSent_concat, hq]
    exact h.last (hq ▸ hset)
  have hrefused : p.ensureConnection.log ++ [.refused case] = p.log ++ [.refused case] := by
    rw [log_ensureConnection]
  rcases p.sendRequest_cases case false with ⟨-, he⟩ | ⟨-, -, -, he⟩ | ⟨-, hfree, he⟩
  · rw [he]
    exact ⟨htidy.congr rfl rfl, hpending ▸ hawaits, hlast hpending hrefused, hworld⟩
  · rw [he]
    exact ⟨htidy.congr rfl rfl, hpending ▸ hawaits, hlast hpending hrefused, hworld⟩
  · have hfree : p.hasResponsePending = false := by simpa using hfree
    have hnil : p.ensureConnection.connection.outstanding = [] :=
      hout.trans (h.tidy.awaited (bne_eq_false_iff_eq.1 hfree))
    have hsent := sendRequest_requested h.tidy case false (by simp)
    rw [he] at hsent ⊢
    cases hsent with
    | sent orderly log pending outstanding =>
      refine ⟨⟨orderly, fun hset => absurd hset hcase⟩, Connection.awaits_send hnil _,
        fun _ => ?_, hworld⟩
      exact (congrArg lastSent log).trans (lastSent_concat _ _)

/-- The response that a wait ends with is of the case that was marked. -/
theorem Sequential.case_eq (h : p.Sequential) {response : GameResponse}
    (hresponse : p.waitForResponseInternal.1 = some response) :
    p.responsePending = response.case ∧ p.responsePending ≠ .responseNotSet := by
  have hawaited : p.awaited.Awaits p.responsePending :=
    h.awaits.foldl_arrive h.tidy.settled (h.matching.waiting 0)
  rcases p.waitForResponseInternal_cases with ⟨response', queue, hqueue, hsome, -⟩ | ⟨-, hnone, -⟩
  · obtain rfl : response' = response := Option.some.inj (hsome.symm.trans hresponse)
    obtain ⟨hrequest, hkind⟩ := hawaited.queue response' (hqueue ▸ List.mem_cons_self)
    refine ⟨?_, fun hnotSet => ?_⟩
    · unfold GameResponse.case
      rw [hkind]
      exact hrequest.symm
    · have harrived := Connection.Settled.foldl_arrive h.tidy.settled
        p.world.deliveries.head.waiting
      have hnil := List.sublist_nil.1 (h.tidy.awaited hnotSet ▸ harrived.2.1)
      have hempty : p.awaited.queue = [] := Connection.queue_of_outstanding hnil
      rw [hempty] at hqueue
      cases hqueue
  · cases hnone.symm.trans hresponse

theorem Sequential.waitForResponseInternal (h : p.Sequential) :
    p.waitForResponseInternal.2.Sequential := by
  obtain ⟨htidy, hnil, -⟩ := waitForResponseInternal_tidy h.tidy.toOrderly
  have hworld {q : ProtoInterface} (hd : q.world.deliveries = p.world.deliveries.tail)
      (hp : q.world.polls = p.world.polls) : q.world.Matching :=
    ⟨fun n => by rw [hd]; exact h.matching.waiting (n + 1),
      fun n => by rw [hd]; exact h.matching.closing (n + 1),
      fun n => by rw [hp]; exact h.matching.polls n⟩
  rcases p.waitForResponseInternal_cases with ⟨response, queue, -, -, hline⟩ | ⟨-, -, hline⟩
  · refine ⟨htidy, Connection.awaits_of_nil hnil, fun hpending => ?_,
      hworld (congrArg Line.deliveries hline) (congrArg Line.polls hline)⟩
    exact absurd (congrArg Line.responsePending hline) hpending
  · have hpending : p.waitForResponseInternal.2.responsePending = p.responsePending :=
      congrArg Line.responsePending hline
    refine ⟨htidy, Connection.awaits_of_nil hnil, fun hset => ?_,
      hworld (congrArg Line.deliveries hline) (congrArg Line.polls hline)⟩
    have hlog : p.waitForResponseInternal.2.log = p.log ++ [.timedOut] :=
      congrArg Line.log hline
    rw [hlog, lastSent_concat, hpending]
    exact h.last (hpending ▸ hset)

theorem Sequential.pollResponse (h : p.Sequential) : p.pollResponse.2.Sequential := by
  have hline := p.pollResponse_spec.2
  have hpending : p.pollResponse.2.responsePending = p.responsePending :=
    congrArg Line.responsePending hline
  refine ⟨pollResponse_tidy h.tidy, ?_, ?_, ?_⟩
  · have hconnection : p.pollResponse.2.connection =
        p.world.polls.head.foldl Connection.arrive p.connection :=
      congrArg Line.connection hline
    rw [hpending, hconnection]
    exact h.awaits.foldl_arrive h.tidy.settled (h.matching.polls 0)
  · have hlog : p.pollResponse.2.log = p.log := congrArg Line.log hline
    rw [hpending, hlog]
    exact h.last
  · have hdeliveries : p.pollResponse.2.world.deliveries = p.world.deliveries :=
      congrArg Line.deliveries hline
    have hpolls : p.pollResponse.2.world.polls = p.world.polls.tail :=
      congrArg Line.polls hline
    exact ⟨hdeliveries ▸ h.matching.waiting, hdeliveries ▸ h.matching.closing,
      fun n => by rw [hpolls]; exact h.matching.polls (n + 1)⟩

/-- No call raises `ResponseMismatch`. -/
theorem Sequential.call (h : p.Sequential) (call : ProtoCall)
    (hcall : call ≠ .sendRequest .responseNotSet) :
    (p.call call).1.Sequential ∧ (p.call call).1.mismatches = p.mismatches := by
  cases call with
  | sendRequest case =>
    exact ⟨h.sendRequest fun hcase => hcall (hcase ▸ rfl), p.mismatches_sendRequest case⟩
  | waitForResponseInternal =>
    exact ⟨h.waitForResponseInternal,
      p.mismatches_waitForResponseInternal fun _ hresponse => (h.case_eq hresponse).1⟩
  | pollResponse => exact ⟨h.pollResponse, p.mismatches_pollResponse⟩

/-- What the invariant says of what is still unanswered. -/
theorem Sequential.unanswered (h : p.Sequential) : p.unanswered.length ≤ 1 ∧
    (p.unanswered ≠ [] → p.hasResponsePending = true) := by
  have hflatten : p.connection.abandoned.flatten = [] :=
    List.flatten_eq_nil_iff.2 h.tidy.settled
  have hserials : p.unanswered.map (·.serial) = p.connection.outstanding := by
    unfold ProtoInterface.unanswered Connection.outstanding
    rw [hflatten, List.append_nil, List.map_append, List.map_map]
    rfl
  refine ⟨?_, fun hne => ?_⟩
  · rw [← List.length_map (fun request : GameRequest => request.serial), hserials]
    exact h.tidy.single
  · refine bne_iff_ne.2 fun hpending => hne ?_
    exact List.map_eq_nil_iff.1 (hserials.trans (h.tidy.awaited hpending))

end ProtoInterface

/-! ## Runs -/

/-- Requests that have a case are asked one at a time and get their own answers. -/
theorem requests_one_at_a_time (p : ProtoInterface) (calls : List ProtoCall)
    (hpending : p.responsePending = .responseNotSet) (hunanswered : p.unanswered = [])
    (hmatching : p.world.Matching) (hcalls : .sendRequest .responseNotSet ∉ calls) :
    (protoMachine.final p calls).unanswered.length ≤ 1 ∧
      ((protoMachine.final p calls).unanswered ≠ [] →
        (protoMachine.final p calls).hasResponsePending = true) ∧
      (∀ call response, (protoMachine.step (protoMachine.final p calls) call).2 = some response →
        response.answer.error = [] →
          ProtoInterface.lastSent (protoMachine.final p calls).log = some response.case) ∧
      (protoMachine.final p calls).mismatches = p.mismatches := by
  have hnil := List.append_eq_nil_iff.1 hunanswered
  have hsettled : p.connection.Settled := List.flatten_eq_nil_iff.1 hnil.2
  have houtstanding : p.connection.outstanding = [] := by
    have hboth := List.append_eq_nil_iff.1 hnil.1
    unfold Connection.outstanding
    rw [List.map_eq_nil_iff.1 hboth.1, hboth.2]
    rfl
  have hstart : p.Sequential := ⟨Line.tidy_of_nil hsettled houtstanding,
    Connection.awaits_of_nil houtstanding, fun hset => absurd hpending hset, hmatching⟩
  have hrun := Machine.invariant (m := protoMachine)
    (I := fun q => q.Sequential ∧ q.mismatches = p.mismatches)
    (C := fun _ call => call ≠ .sendRequest .responseNotSet)
    (fun q call hq hcall => by
      obtain ⟨hsequential, hmismatches⟩ := hq.1.call call hcall
      exact ⟨hsequential, hmismatches.trans hq.2⟩)
    ⟨hstart, rfl⟩
    (Machine.along_of_mem (P := fun call => call ≠ ProtoCall.sendRequest .responseNotSet)
      (fun call hmem heq => hcalls (heq ▸ hmem)) p)
  obtain ⟨hsequential, hmismatches⟩ := hrun
  refine ⟨hsequential.unanswered.1, hsequential.unanswered.2, ?_, hmismatches⟩
  intro call response hresponse _
  cases call with
  | sendRequest case => cases hresponse
  | waitForResponseInternal =>
    obtain ⟨hcase, hset⟩ := hsequential.case_eq hresponse
    exact (hsequential.last hset).trans (congrArg some hcase)
  | pollResponse => cases hresponse

/-- A game that answers every request once it is waited for. -/
def promptWorld : World := { deliveries := .const { waiting := [.answer {}] } }

theorem requests_one_at_a_time_polled :
    (protoMachine.final { world := promptWorld }
      [.sendRequest .step, .sendRequest .observation, .pollResponse]).unanswered.length ≤ 1 ∧
    ∀ call response, (protoMachine.step (protoMachine.final { world := promptWorld }
        [.sendRequest .step, .sendRequest .observation, .pollResponse]) call).2 =
          some response → response.answer.error = [] →
        ProtoInterface.lastSent (protoMachine.final { world := promptWorld }
          [.sendRequest .step, .sendRequest .observation, .pollResponse]).log =
            some response.case := by
  have hrun := requests_one_at_a_time { world := promptWorld }
    [.sendRequest .step, .sendRequest .observation, .pollResponse] rfl rfl
    ⟨fun _ arrival harrival => by rw [List.mem_singleton.1 harrival]; rfl,
      fun _ _ harrival => (nomatch harrival), fun _ _ harrival => (nomatch harrival)⟩
    (by decide)
  exact ⟨hrun.1, hrun.2.2.1⟩

/-- Requests without a case are not marked, so that two can be unanswered. -/
theorem requests_without_case :
    (protoMachine.final { world := promptWorld }
      [.sendRequest .responseNotSet, .sendRequest .responseNotSet]).unanswered.length = 2 ∧
    (protoMachine.final { world := promptWorld }
      [.sendRequest .responseNotSet, .sendRequest .responseNotSet]).hasResponsePending =
        false := by
  decide +kernel

end Sc2Api
