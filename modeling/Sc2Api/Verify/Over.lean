import Sc2Api.Verify.Talks

/-!
# Games that are over

What a game that is over for a client looks like from its line, and why a client
that only talks to it does not see it in play again.
-/

namespace Sc2Api

open Lib

/-- A game is running. -/
def Status.inPlay (status : Status) : Bool := status = .inGame || status = .inReplay

/-! ## Quiet lines -/

/-- The answer does not say that a game is running. -/
def Answer.Quiet (answer : Answer) : Prop := ∀ status ∈ answer.status, status.inPlay = false

def Arrival.Quiet : Arrival → Prop
  | .answer a => a.Quiet
  | .closed => True
  | .lateAnswer _ a => a.Quiet
  | .lateClosed _ => True

def Connection.Quiet (c : Connection) : Prop := ∀ response ∈ c.queue, response.answer.Quiet

/-- Nothing that has arrived, or will, says that a game is running. -/
structure Line.Quiet (l : Line) : Prop where
  queue : l.connection.Quiet
  waiting : ∀ n, ∀ arrival ∈ (l.deliveries.get n).waiting, arrival.Quiet
  closing : ∀ n, ∀ arrival ∈ (l.deliveries.get n).closing, arrival.Quiet
  polls : ∀ n, ∀ arrival ∈ l.polls.get n, arrival.Quiet

/-- Nor does the status. -/
structure Line.Over (l : Line) : Prop extends Line.Quiet l where
  status : l.latestStatus.inPlay = false

theorem Line.Quiet.congr {l l' : Line} (h : l.Quiet)
    (hqueue : l'.connection.queue = l.connection.queue)
    (hdeliveries : l'.deliveries = l.deliveries) (hpolls : l'.polls = l.polls) : l'.Quiet where
  queue := by
    unfold Connection.Quiet
    rw [hqueue]
    exact h.queue
  waiting := hdeliveries ▸ h.waiting
  closing := hdeliveries ▸ h.closing
  polls := hpolls ▸ h.polls

theorem Connection.Quiet.arrive {c : Connection} (h : c.Quiet) {arrival : Arrival}
    (harrival : arrival.Quiet) : (c.arrive arrival).Quiet := by
  have hpush {c' : Connection} (hqueue : c'.queue = c.queue) {request : GameRequest}
      {answer : Answer} (hanswer : answer.Quiet) : (c'.pushResponse ⟨request, answer⟩).Quiet :=
    forall_mem_concat (fun response hresponse => h response (hqueue ▸ hresponse)) hanswer
  cases arrival with
  | answer a =>
    unfold Connection.arrive
    dsimp only
    split
    · exact h
    · exact hpush rfl harrival
  | closed => exact h
  | lateAnswer i a =>
    unfold Connection.arrive
    dsimp only
    split
    · exact hpush rfl harrival
    · exact h
  | lateClosed i => exact h

theorem Connection.Quiet.foldl_arrive {c : Connection} (h : c.Quiet) {arrivals : List Arrival}
    (harrivals : ∀ arrival ∈ arrivals, arrival.Quiet) :
    (arrivals.foldl Connection.arrive c).Quiet := by
  induction arrivals generalizing c with
  | nil => exact h
  | cons arrival arrivals ih =>
    exact ih (h.arrive (harrivals arrival List.mem_cons_self))
      fun arrival' h' => harrivals arrival' (List.mem_cons_of_mem _ h')

namespace ProtoInterface

variable {p : ProtoInterface}

theorem ensureConnection_keeps : p.ensureConnection.connection.queue = p.connection.queue ∧
    p.ensureConnection.latestStatus = p.latestStatus ∧
    p.ensureConnection.world.deliveries = p.world.deliveries ∧
    p.ensureConnection.world.polls = p.world.polls := by
  unfold ensureConnection
  split
  · exact ⟨rfl, rfl, rfl, rfl⟩
  · exact ⟨rfl, rfl, rfl, rfl⟩

theorem queue_send (c : Connection) (request : GameRequest) :
    (c.send request).queue = c.queue := by
  unfold Connection.send
  split <;> rfl

theorem sendRequest_keeps (case : Proto.ResponseCase) (ignorePendingRequests : Bool) :
    (p.sendRequest case ignorePendingRequests).2.connection.queue = p.connection.queue ∧
    (p.sendRequest case ignorePendingRequests).2.latestStatus = p.latestStatus ∧
    (p.sendRequest case ignorePendingRequests).2.world.deliveries = p.world.deliveries ∧
    (p.sendRequest case ignorePendingRequests).2.world.polls = p.world.polls := by
  obtain ⟨hqueue, hstatus, hdeliveries, hpolls⟩ := p.ensureConnection_keeps
  rcases p.sendRequest_cases case ignorePendingRequests with ⟨-, h⟩ | ⟨-, -, -, h⟩ | ⟨-, -, h⟩
  · rw [h]
    exact ⟨hqueue, hstatus, hdeliveries, hpolls⟩
  · rw [h]
    exact ⟨hqueue, hstatus, hdeliveries, hpolls⟩
  · rw [h]
    exact ⟨(queue_send _ _).trans hqueue, hstatus, hdeliveries, hpolls⟩

theorem sendRequest_quiet (h : p.line.Quiet) (case : Proto.ResponseCase)
    (ignorePendingRequests : Bool) :
    (p.sendRequest case ignorePendingRequests).2.line.Quiet := by
  obtain ⟨hqueue, -, hdeliveries, hpolls⟩ := p.sendRequest_keeps case ignorePendingRequests
  exact h.congr hqueue hdeliveries hpolls

theorem sendRequest_over (h : p.line.Over) (case : Proto.ResponseCase)
    (ignorePendingRequests : Bool) :
    (p.sendRequest case ignorePendingRequests).2.line.Over :=
  ⟨sendRequest_quiet h.toQuiet case _,
    (congrArg Status.inPlay (p.sendRequest_keeps case ignorePendingRequests).2.1).trans h.status⟩

/-- After a wait the status is that of a quiet answer, or unknown. -/
theorem waitForResponseInternal_over (h : p.line.Quiet) :
    p.waitForResponseInternal.2.line.Over := by
  have hawaited : p.awaited.Quiet := Connection.Quiet.foldl_arrive h.queue (h.waiting 0)
  rcases p.waitForResponseInternal_cases with
    ⟨response, queue, hqueue, -, hline⟩ | ⟨-, -, hline⟩
  · rw [hline]
    refine ⟨⟨fun response' hresponse' => ?_, fun n => h.waiting (n + 1),
      fun n => h.closing (n + 1), h.polls⟩, ?_⟩
    · exact hawaited response' (hqueue ▸ List.mem_cons_of_mem _ hresponse')
    · have hanswer := hawaited response (hqueue ▸ List.mem_cons_self)
      cases hstatus : response.answer.status with
      | none => rfl
      | some status => exact hanswer status hstatus
  · rw [hline]
    exact ⟨⟨fun response hresponse => (nomatch hresponse), fun n => h.waiting (n + 1),
      fun n => h.closing (n + 1), h.polls⟩, rfl⟩

theorem pollResponse_over (h : p.line.Over) : p.pollResponse.2.line.Over := by
  rw [p.pollResponse_spec.2]
  exact ⟨⟨Connection.Quiet.foldl_arrive h.queue (h.polls 0), h.waiting, h.closing,
    fun n => h.polls (n + 1)⟩, h.status⟩

end ProtoInterface

namespace Control

variable {c c' : Control}

theorem isInGame_eq (c : Control) :
    c.isInGame = (decide (c.appState = .normal) && c.proto.latestStatus.inPlay) := by
  simp [isInGame, Status.inPlay]

theorem isInGame_of_over (h : c.proto.line.Over) : c.isInGame = false := by
  rw [isInGame_eq]
  exact (congrArg _ h.status).trans (Bool.and_false _)

/-- What requests for a ping and waits preserve, waiting for a response preserves. -/
theorem waitForResponse_preserves {P : Line → Prop}
    (hping : ∀ p : ProtoInterface, P p.line → P (p.sendRequest .ping true).2.line)
    (hwait : ∀ p : ProtoInterface, P p.line → P p.waitForResponseInternal.2.line)
    (h : P c.proto.line) : P c.waitForResponse.2.proto.line := by
  have hfirst := hwait c.proto h
  rcases c.waitForResponse_cases with ⟨response, -, -, hline, -⟩ | ⟨-, -, hdiagnosed⟩
  · exact hline ▸ hfirst
  · cases hdiagnosed with
    | crashed line app => exact line ▸ hfirst
    | unsent before ping line app => exact line ▸ hping _ (before ▸ hfirst)
    | waited before ping line app => exact line ▸ hwait _ (hping _ (before ▸ hfirst))

theorem exchange_preserves {P : Line → Prop} (case : Proto.ResponseCase)
    (hsend : ∀ p : ProtoInterface, P p.line → P (p.sendRequest case).2.line)
    (hping : ∀ p : ProtoInterface, P p.line → P (p.sendRequest .ping true).2.line)
    (hwait : ∀ p : ProtoInterface, P p.line → P p.waitForResponseInternal.2.line)
    (h : P c.proto.line) : P (c.exchange case).2.proto.line := by
  rw [sendRequest_waitForResponse]
  split
  · exact waitForResponse_preserves (c := (c.sendRequest case).2) hping hwait (hsend c.proto h)
  · exact hsend c.proto h

theorem Talks.preserves {P : Line → Prop}
    (hsend : ∀ (p : ProtoInterface) (case : Proto.ResponseCase), case ≠ .leaveGame →
      P p.line → P (p.sendRequest case).2.line)
    (hping : ∀ p : ProtoInterface, P p.line → P (p.sendRequest .ping true).2.line)
    (hwait : ∀ p : ProtoInterface, P p.line → P p.waitForResponseInternal.2.line)
    (htalks : c.Talks c') (h : P c.proto.line) : P c'.proto.line := by
  induction htalks with
  | refl => exact h
  | exchange case hcase _ ih =>
    exact exchange_preserves case (fun p => hsend p case hcase) hping hwait ih
  | alike _ halike ih => exact halike.line ▸ ih

theorem waitForResponse_over (h : c.proto.line.Over) : c.waitForResponse.2.proto.line.Over :=
  waitForResponse_preserves (fun _ hp => ProtoInterface.sendRequest_over hp .ping true)
    (fun _ hp => ProtoInterface.waitForResponseInternal_over hp.toQuiet) h

theorem Talks.over (htalks : c.Talks c') (h : c.proto.line.Over) : c'.proto.line.Over :=
  htalks.preserves (fun _ case _ hp => ProtoInterface.sendRequest_over hp case false)
    (fun _ hp => ProtoInterface.sendRequest_over hp .ping true)
    (fun _ hp => ProtoInterface.waitForResponseInternal_over hp.toQuiet) h

end Control

end Sc2Api
