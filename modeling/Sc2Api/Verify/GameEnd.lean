import Sc2Api.Verify.Over
import Sc2Api.Verify.UpdateFrames

/-!
# The end of a game

What an update does to an agent whose game ends in it, and to one whose game is
over already.
-/

namespace Sc2Api

open Lib

/-! ## Leave requests -/

/-- A request to leave the game that was sent. -/
def Traffic.isLeave : Traffic → Bool
  | .sent request => request.case = .leaveGame
  | _ => false

def Line.leaves (l : Line) : Nat := l.log.countP Traffic.isLeave

namespace ProtoInterface

variable (p : ProtoInterface)

theorem log_ensureConnection_line : p.ensureConnection.line.log = p.line.log := by
  rw [line_ensureConnection]
  split <;> rfl

theorem leaves_sendRequest {case : Proto.ResponseCase} (hcase : case ≠ .leaveGame)
    (ignorePendingRequests : Bool) :
    (p.sendRequest case ignorePendingRequests).2.line.leaves = p.line.leaves := by
  have hlog : p.ensureConnection.log = p.log := p.log_ensureConnection_line
  unfold Line.leaves
  rcases p.sendRequest_cases case ignorePendingRequests with ⟨-, h⟩ | ⟨-, -, -, h⟩ | ⟨-, -, h⟩
  · simp [h, line, refuse, hlog, Traffic.isLeave]
  · simp [h, line, refuse, error, hlog, Traffic.isLeave]
  · simp [h, line, write, hlog, Traffic.isLeave, hcase]

theorem leaves_sent (h : (p.sendRequest .leaveGame).1 = true) :
    (p.sendRequest .leaveGame).2.line.leaves = p.line.leaves + 1 := by
  have hlog : p.ensureConnection.log = p.log := p.log_ensureConnection_line
  rw [p.sendRequest_snd_of_sent h]
  simp [Line.leaves, line, write, hlog, Traffic.isLeave]

theorem leaves_waitForResponseInternal :
    p.waitForResponseInternal.2.line.leaves = p.line.leaves := by
  rcases p.waitForResponseInternal_cases with ⟨response, queue, -, -, hline⟩ | ⟨-, -, hline⟩
  · rw [hline]
    simp [Line.leaves, line, Traffic.isLeave]
  · rw [hline]
    simp [Line.leaves, line, Traffic.isLeave]

end ProtoInterface

namespace Control

variable {c c' : Control}

theorem leaves_waitForResponse : c.waitForResponse.2.proto.line.leaves = c.proto.line.leaves :=
  waitForResponse_preserves (P := fun l => l.leaves = c.proto.line.leaves)
    (fun p hp => (p.leaves_sendRequest (by decide) true).trans hp)
    (fun p hp => p.leaves_waitForResponseInternal.trans hp) rfl

theorem Talks.leaves (h : c.Talks c') : c'.proto.line.leaves = c.proto.line.leaves :=
  h.preserves (P := fun l => l.leaves = c.proto.line.leaves)
    (fun p _ hcase hp => (p.leaves_sendRequest hcase false).trans hp)
    (fun p hp => (p.leaves_sendRequest (by decide) true).trans hp)
    (fun p hp => p.leaves_waitForResponseInternal.trans hp) rfl

/-! ## Settled clients -/

/-- No response is pending while the application runs. -/
def Settled (c : Control) : Prop :=
  c.appState = .normal → c.proto.responsePending = .responseNotSet

theorem responsePending_received {p : ProtoInterface} {response : GameResponse}
    (h : p.waitForResponseInternal.1 = some response) :
    p.waitForResponseInternal.2.line.responsePending = .responseNotSet := by
  rcases p.waitForResponseInternal_cases with ⟨response', queue, -, -, hline⟩ | ⟨-, hnone, -⟩
  · rw [hline]
  · cases h.symm.trans hnone

/-- After a wait, either nothing is pending or the application is given up. -/
theorem waitForResponse_settled (c : Control) : c.waitForResponse.2.Settled := by
  intro happ
  rcases c.waitForResponse_cases with ⟨response, -, hsome, hline, -⟩ | ⟨-, -, hdiagnosed⟩
  · exact (congrArg Line.responsePending hline).trans (responsePending_received hsome)
  · cases hdiagnosed with
    | crashed line app => exact absurd happ app
    | unsent before ping line app => exact absurd happ app
    | @waited p c' before ping line app =>
      refine (congrArg Line.responsePending line).trans ?_
      cases hanswer : (p.sendRequest .ping true).2.waitForResponseInternal.1 with
      | none =>
        rw [hanswer] at app
        exact absurd happ app
      | some response => exact responsePending_received hanswer

theorem exchange_settled (h : c.Settled) (case : Proto.ResponseCase) :
    (c.exchange case).2.Settled := by
  rw [sendRequest_waitForResponse]
  split
  · exact waitForResponse_settled _
  next hrefused =>
    intro happ
    have hpending : (c.proto.sendRequest case).2.responsePending = c.proto.responsePending := by
      rcases c.proto.sendRequest_cases case false with ⟨-, he⟩ | ⟨-, -, -, he⟩ | ⟨-, -, he⟩
      · rw [he]
        exact c.proto.responsePending_ensureConnection
      · rw [he]
        exact c.proto.responsePending_ensureConnection
      · exact absurd (congrArg Prod.fst he) hrefused
    exact hpending.trans (h happ)

theorem Talks.settled (htalks : c.Talks c') (h : c.Settled) : c'.Settled := by
  induction htalks with
  | refl => exact h
  | exchange case _ _ ih => exact exchange_settled ih case
  | alike _ halike ih =>
    intro happ
    exact (congrArg Line.responsePending halike.line).trans (ih (halike.appState.symm.trans happ))

end Control

/-! ## Attentive games -/

/-- The game answers every request in time, and owes nothing. -/
structure Line.Attentive (l : Line) : Prop where
  connected : l.connection.connected = true
  isOpen : l.connection.isOpen = true
  queue : l.connection.queue = []
  flight : l.connection.flight = []
  responsePending : l.responsePending = .responseNotSet
  answers : ∀ n, ∃ answer, (l.deliveries.get n).waiting = [.answer answer]

namespace Control

variable {c c' : Control}

theorem sent_of_attentive (h : c.proto.line.Attentive) (case : Proto.ResponseCase) :
    (c.proto.sendRequest case).1 = true ∧
      (c.proto.sendRequest case).2 = c.proto.write case := by
  have hconnected : c.proto.connection.connected = true := h.connected
  have hpending : c.proto.responsePending = .responseNotSet := h.responsePending
  have hensure : c.proto.ensureConnection = c.proto := if_pos hconnected
  have hsent : (c.proto.sendRequest case).1 = true := by
    rw [ProtoInterface.sendRequest_fst, hensure, hconnected]
    simp [ProtoInterface.hasResponsePending, hpending]
  refine ⟨hsent, ?_⟩
  rw [c.proto.sendRequest_snd_of_sent hsent, hensure]

theorem exchange_attentive (h : c.proto.line.Attentive) (case : Proto.ResponseCase) :
    (c.exchange case).2.proto.line.Attentive ∧ (c.exchange case).2.appState = c.appState := by
  obtain ⟨hsent, hwrite⟩ := sent_of_attentive h case
  obtain ⟨answer, hanswer⟩ := h.answers 0
  have hopen : c.proto.connection.isOpen = true := h.isOpen
  have hqueue : c.proto.connection.queue = [] := h.queue
  have hflight : c.proto.connection.flight = [] := h.flight
  let request : GameRequest := ⟨c.proto.serial, case⟩
  have hawaited : (c.proto.write case).awaited =
      { c.proto.connection with flight := [], queue := [⟨request, answer⟩],
                                hasResponse := true } := by
    have hsend : (c.proto.connection.send request) =
        { c.proto.connection with flight := [request] } := by
      unfold Connection.send
      rw [if_pos hopen, hflight]
      rfl
    unfold ProtoInterface.awaited
    rw [show (c.proto.write case).world.deliveries.head.waiting = [.answer answer] from hanswer,
      show (c.proto.write case).connection = c.proto.connection.send request from rfl, hsend]
    simp [Connection.arrive, Connection.pushResponse, hqueue]
  have hsent' : (c.sendRequest case).1 = true := hsent
  rw [sendRequest_waitForResponse, if_pos hsent']
  have hwait : (c.sendRequest case).2.proto = c.proto.write case := hwrite
  rcases (c.sendRequest case).2.waitForResponse_cases with
    ⟨response, -, -, hline, happ⟩ | ⟨-, hnone, -⟩
  · refine ⟨?_, happ⟩
    rw [hline, hwait]
    rcases (c.proto.write case).waitForResponseInternal_cases with
      ⟨response, queue, hq, -, hline'⟩ | ⟨hq, -, -⟩
    · rw [hawaited] at hq
      obtain ⟨-, rfl⟩ := List.cons.inj hq
      rw [hline', hawaited]
      exact ⟨h.connected, h.isOpen, rfl, rfl, rfl, fun n => h.answers (n + 1)⟩
    · rw [hawaited] at hq
      cases hq
  · rw [hwait] at hnone
    rcases (c.proto.write case).waitForResponseInternal_cases with
      ⟨response, queue, -, hsome, -⟩ | ⟨hq, -, -⟩
    · cases hsome.symm.trans hnone
    · rw [hawaited] at hq
      cases hq

theorem Talks.attentive (htalks : c.Talks c') (h : c.proto.line.Attentive) :
    c'.proto.line.Attentive ∧ c'.appState = c.appState := by
  induction htalks with
  | refl => exact ⟨h, rfl⟩
  | exchange case _ _ ih =>
    obtain ⟨hattentive, happ⟩ := exchange_attentive ih.1 case
    exact ⟨hattentive, happ.trans ih.2⟩
  | alike _ halike ih => exact ⟨halike.line ▸ ih.1, halike.appState.trans ih.2⟩

end Control

end Sc2Api
