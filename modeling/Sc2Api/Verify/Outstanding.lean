import Sc2Api.Lib.Dialogue
import Sc2Api.Verify.Wire

/-!
# At most one response is outstanding

`Line.Tidy` is the invariant of a client that never sends past a response that is
still to come. Under it a wait can only end with the answer to the last request.
-/

namespace Sc2Api

open Lib

namespace Connection

/-- The game owes nothing on the connections that were given up. -/
def Settled (c : Connection) : Prop := ∀ flight ∈ c.abandoned, flight = []

variable {c : Connection}

theorem Settled.arrive (h : c.Settled) (arrival : Arrival) : (c.arrive arrival).Settled := by
  cases arrival with
  | answer a =>
    unfold Connection.arrive
    dsimp only
    split
    · exact h
    · exact h
  | closed => exact h
  | lateAnswer i a =>
    unfold Connection.arrive
    dsimp only
    split
    next request flight hflight =>
      cases h _ (List.mem_of_getElem? hflight)
    · exact h
  | lateClosed i => exact fun flight hflight => h flight (List.mem_of_mem_eraseIdx hflight)

/-- What arrives leaves every response in its place or, where the connection ends,
takes some away. -/
theorem Settled.outstanding_arrive (h : c.Settled) (arrival : Arrival) :
    (c.arrive arrival).outstanding.Sublist c.outstanding := by
  cases arrival with
  | answer a =>
    unfold Connection.arrive outstanding pushResponse
    dsimp only
    split
    · exact List.Sublist.refl _
    next request flight hflight =>
      rw [hflight]
      simp
  | closed => exact List.Sublist.append_left (List.nil_sublist _) _
  | lateAnswer i a =>
    unfold Connection.arrive
    dsimp only
    split
    next request flight hflight =>
      cases h _ (List.mem_of_getElem? hflight)
    · exact List.Sublist.refl _
  | lateClosed i => exact List.Sublist.refl _

@[simp] theorem connected_arrive (arrival : Arrival) :
    (c.arrive arrival).connected = c.connected := by
  cases arrival with
  | answer a =>
    unfold arrive
    dsimp only
    split <;> rfl
  | lateAnswer i a =>
    unfold arrive
    dsimp only
    split <;> rfl
  | closed => rfl
  | lateClosed i => rfl

theorem Settled.foldl_arrive (h : c.Settled) (arrivals : List Arrival) :
    (arrivals.foldl Connection.arrive c).Settled ∧
      (arrivals.foldl Connection.arrive c).outstanding.Sublist c.outstanding ∧
      (arrivals.foldl Connection.arrive c).connected = c.connected := by
  induction arrivals generalizing c with
  | nil => exact ⟨h, List.Sublist.refl _, rfl⟩
  | cons arrival arrivals ih =>
    obtain ⟨hsettled, hsub, hconnected⟩ := ih (h.arrive arrival)
    exact ⟨hsettled, hsub.trans (h.outstanding_arrive arrival),
      hconnected.trans (connected_arrive arrival)⟩

theorem Settled.connect (h : c.Settled) (hflight : c.flight = []) (ok : Bool) :
    (c.connect ok).Settled := by
  unfold Settled Connection.connect
  dsimp only
  split
  · rw [hflight]
    exact forall_mem_concat h rfl
  · exact h

theorem flight_of_outstanding (h : c.outstanding = []) : c.flight = [] :=
  List.map_eq_nil_iff.1 (List.append_eq_nil_iff.1 h).2

theorem queue_of_outstanding (h : c.outstanding = []) : c.queue = [] :=
  List.map_eq_nil_iff.1 (List.append_eq_nil_iff.1 h).1

theorem outstanding_connect (h : c.outstanding = []) (ok : Bool) :
    (c.connect ok).outstanding = [] := by
  unfold outstanding connect
  dsimp only
  rw [queue_of_outstanding h]
  rfl

theorem outstanding_send (h : c.outstanding = []) (request : GameRequest) :
    (c.send request).outstanding.Sublist [request.serial] := by
  unfold send
  split
  · unfold outstanding
    dsimp only
    rw [queue_of_outstanding h, flight_of_outstanding h]
    exact List.Sublist.refl _
  · rw [h]
    exact List.nil_sublist _

theorem settled_send (h : c.Settled) (request : GameRequest) : (c.send request).Settled := by
  unfold send
  split <;> exact h

@[simp] theorem connected_send (request : GameRequest) :
    (c.send request).connected = c.connected := by
  unfold send
  split <;> rfl

end Connection

/-! ## Tidy lines -/

namespace Line

/-- Nothing but at most one response can still come. -/
structure Orderly (l : Line) : Prop where
  settled : l.connection.Settled
  single : l.connection.outstanding.length ≤ 1
  unconnected : l.connection.connected = false → l.connection.outstanding = []

/-- It is marked as pending, moreover. -/
structure Tidy (l : Line) : Prop extends Orderly l where
  awaited : l.responsePending = .responseNotSet → l.connection.outstanding = []

variable {l : Line}

/-- What makes a line tidy when nothing is outstanding on it. -/
theorem tidy_of_nil (hsettled : l.connection.Settled) (h : l.connection.outstanding = []) :
    l.Tidy where
  settled := hsettled
  single := by rw [h]; exact Nat.zero_le _
  unconnected _ := h
  awaited _ := h

/-- Only the connection and the marker count. -/
theorem Tidy.congr {l' : Line} (h : l.Tidy) (hconnection : l'.connection = l.connection)
    (hpending : l'.responsePending = l.responsePending) : l'.Tidy where
  settled := hconnection ▸ h.settled
  single := hconnection ▸ h.single
  unconnected := hconnection ▸ h.unconnected
  awaited := hconnection ▸ hpending ▸ h.awaited

end Line

/-- A turn of the dialogue with the game, in which a ping counts as a check. -/
def Traffic.turn : Traffic → Turn Nat
  | .sent request => if request.case = .ping then .checks request.serial else .asks request.serial
  | .refused _ => .refused
  | .received response => .hears response.request.serial
  | .timedOut => .silence

theorem Traffic.next_sent (request : GameRequest) :
    Dialogue.next .idle (Traffic.sent request).turn = some (.waiting request.serial) := by
  unfold Traffic.turn
  dsimp only
  split <;> rfl

/-! ## Requests -/

namespace ProtoInterface

variable {p : ProtoInterface}

theorem tidy_ensureConnection (h : p.line.Tidy) :
    p.ensureConnection.line.Tidy ∧
      p.ensureConnection.connection.outstanding = p.connection.outstanding := by
  unfold ensureConnection
  split
  · exact ⟨h, rfl⟩
  next hconnected =>
    have hnil := h.unconnected (Bool.eq_false_of_not_eq_true hconnected)
    have hconnect := Connection.outstanding_connect hnil p.world.connects.head
    exact ⟨Line.tidy_of_nil
      (h.settled.connect (Connection.flight_of_outstanding hnil) _) hconnect,
      hconnect.trans hnil.symm⟩

theorem log_ensureConnection : p.ensureConnection.log = p.log := by
  unfold ensureConnection
  split <;> rfl

theorem serial_ensureConnection : p.ensureConnection.serial = p.serial := by
  unfold ensureConnection
  split <;> rfl

/-- What a request comes to: refused, with everything left as it was, or sent, with
nothing else outstanding. -/
inductive Requested (p : ProtoInterface) (case : Proto.ResponseCase) :
    Bool × ProtoInterface → Prop
  | refused {p' : ProtoInterface} (tidy : p'.line.Tidy) (log : p'.log = p.log ++ [.refused case])
      (pending : p'.responsePending = p.responsePending)
      (outstanding : p'.connection.outstanding = p.connection.outstanding) :
      Requested p case (false, p')
  | sent {p' : ProtoInterface} (orderly : p'.line.Orderly)
      (log : p'.log = p.log ++ [.sent ⟨p.serial, case⟩])
      (pending : p'.responsePending = case)
      (outstanding : p'.connection.outstanding.Sublist [p.serial]) :
      Requested p case (true, p')

theorem sendRequest_requested (h : p.line.Tidy) (case : Proto.ResponseCase)
    (ignorePendingRequests : Bool)
    (hignore : ignorePendingRequests = true → p.connection.outstanding = []) :
    Requested p case (p.sendRequest case ignorePendingRequests) := by
  obtain ⟨htidy, hout⟩ := tidy_ensureConnection h
  rcases p.sendRequest_cases case ignorePendingRequests with
    ⟨-, he⟩ | ⟨-, -, -, he⟩ | ⟨hconnected, hfree, he⟩
  · rw [he]
    exact .refused (htidy.congr rfl rfl) (congrArg (· ++ _) log_ensureConnection)
      (responsePending_ensureConnection p) hout
  · rw [he]
    exact .refused (htidy.congr rfl rfl) (congrArg (· ++ _) log_ensureConnection)
      (responsePending_ensureConnection p) hout
  · rw [he]
    have hnil : p.connection.outstanding = [] := by
      rcases hfree with hfree | hfree
      · exact hignore hfree
      · exact h.awaited (bne_eq_false_iff_eq.1 hfree)
    have hsub := Connection.outstanding_send (hout.trans hnil)
      ⟨p.ensureConnection.serial, case⟩
    refine .sent ⟨Connection.settled_send htidy.settled _, hsub.length_le, fun hopen => ?_⟩
      ?_ rfl ?_
    · rw [show (p.ensureConnection.write case).line.connection.connected =
        p.ensureConnection.connection.connected from Connection.connected_send _,
        hconnected] at hopen
      cases hopen
    · simp only [write, log_ensureConnection, serial_ensureConnection]
    · rw [serial_ensureConnection] at hsub
      simpa only [write, serial_ensureConnection] using hsub

/-! ## Waits -/

/-- After a wait nothing is outstanding; what was received was. -/
theorem waitForResponseInternal_tidy (h : p.line.Orderly) :
    p.waitForResponseInternal.2.line.Tidy ∧
      p.waitForResponseInternal.2.connection.outstanding = [] ∧
      ((∃ response, p.waitForResponseInternal.1 = some response ∧
        response.request.serial ∈ p.connection.outstanding ∧
        p.waitForResponseInternal.2.responsePending = .responseNotSet ∧
        p.waitForResponseInternal.2.log = p.log ++ [.received response]) ∨
      (p.waitForResponseInternal.1 = none ∧
        p.waitForResponseInternal.2.log = p.log ++ [.timedOut])) := by
  have harrived := Connection.Settled.foldl_arrive h.settled p.world.deliveries.head.waiting
  have hsettled : p.awaited.Settled := harrived.1
  have hsub : p.awaited.outstanding.Sublist p.connection.outstanding := harrived.2.1
  rcases p.waitForResponseInternal_cases with
    ⟨response, queue, hqueue, hfst, hline⟩ | ⟨hqueue, hfst, hline⟩
  · have houtstanding : p.awaited.outstanding =
        response.request.serial :: (p.awaited.popResponse queue).outstanding := by
      unfold Connection.outstanding Connection.popResponse
      rw [hqueue]
      rfl
    have hmem : response.request.serial ∈ p.connection.outstanding :=
      hsub.subset (houtstanding ▸ List.mem_cons_self)
    have hnil : (p.awaited.popResponse queue).outstanding = [] := by
      have hlength := hsub.length_le.trans h.single
      rw [houtstanding, List.length_cons] at hlength
      exact List.eq_nil_of_length_eq_zero (by omega)
    refine ⟨?_, (congrArg (·.connection.outstanding) hline).trans hnil,
      .inl ⟨response, hfst, hmem, congrArg Line.responsePending hline, congrArg Line.log hline⟩⟩
    rw [hline]
    exact Line.tidy_of_nil hsettled hnil
  · have hdropped : p.dropped.outstanding = [] := rfl
    refine ⟨?_, (congrArg (·.connection.outstanding) hline).trans hdropped,
      .inr ⟨hfst, congrArg Line.log hline⟩⟩
    rw [hline]
    exact Line.tidy_of_nil (Connection.Settled.foldl_arrive hsettled _).1 hdropped

/-- Polling leaves what is outstanding where it is, or loses it with its connection. -/
theorem pollResponse_tidy (h : p.line.Tidy) : p.pollResponse.2.line.Tidy := by
  obtain ⟨hsettled, hsub, hconnected⟩ :=
    Connection.Settled.foldl_arrive h.settled p.world.polls.head
  rw [p.pollResponse_spec.2]
  have hnil (h : p.line.connection.outstanding = []) :
      (p.world.polls.head.foldl Connection.arrive p.connection).outstanding = [] :=
    List.sublist_nil.1 (h ▸ hsub)
  exact
    { settled := hsettled
      single := hsub.length_le.trans h.single
      unconnected := fun hc => hnil (h.unconnected (hconnected.symm.trans hc))
      awaited := fun hp => hnil (h.awaited hp) }

end ProtoInterface

end Sc2Api
