import Sc2Api.Lib.Failures
import Sc2Api.Lib.Roster
import Sc2Api.Server

/-!
# What a server writes

Clients come and go, messages are queued and sent, in any order. Every message is written
once, in the order of its queue, and a send that names no connection goes to the first that
is still open, in exactly the runs in which every such send finds one.
-/

namespace Sc2Api

open Lib

/-! ## Histories -/

namespace ServerStep

variable {Connection Request Response : Type}

/-- Who comes or goes. -/
def change : ServerStep Connection Request Response → Option (Change Connection)
  | .connect conn => some (.arrival conn)
  | .close conn => some (.departure conn)
  | _ => none

def queuedRequest : ServerStep Connection Request Response → Option Request
  | .data _ request => request
  | .queueRequest _ request => some request
  | _ => none

def queuedResponse : ServerStep Connection Request Response → Option Response
  | .queueResponse _ response => some response
  | _ => none

/-- A send that names no connection. -/
def Unaddressed (step : ServerStep Connection Request Response) : Prop :=
  step = .sendRequest none ∨ step = .sendResponse none

end ServerStep

namespace Server

variable {Connection Request Response Message : Type}

/-- The messages that have been written, and those that still wait, are those that were
queued, in this order. -/
def InOrder (queued : List Message) (writes : List (Option (Write Connection Message)))
    (messageQueue : List (Option Connection × Message)) : Prop :=
  writes.filterMap (·.map Write.message) ++ messageQueue.map Prod.snd = queued

/-- What a send does to its queue and writes, when it goes to `target`. -/
def Sends (target : Option Connection) :
    List (Option Connection × Message) → List (Option Connection × Message) →
      Option (Write Connection Message) → Prop
  | data :: rest, queue', write =>
    match target with
    | some conn => write = some ⟨conn, data.2⟩ ∧ queue' = rest
    | none => write = none ∧ queue' = data :: rest
  | [], queue', write => write = none ∧ queue' = []

section Specification

variable [DecidableEq Connection]

/-- The connections still open, the earliest opened first. -/
def stillOpen (past : List (ServerStep Connection Request Response)) : List Connection :=
  Roster.present (past.filterMap ServerStep.change)

/-- Only sends write, and each of them from its own queue. -/
def Serves (past : List (ServerStep Connection Request Response))
    (server server' : Server Connection Request Response)
    (written : Written Connection Request Response) :
    ServerStep Connection Request Response → Prop
  | .sendRequest conn =>
    Sends (conn.or (stillOpen past).head?) server.requests server'.requests written.request ∧
      server'.responses = server.responses ∧ written.response = none
  | .sendResponse conn =>
    Sends (conn.or (stillOpen past).head?) server.responses server'.responses written.response ∧
      server'.requests = server.requests ∧ written.request = none
  | _ => written = {}

/-- At every point of the run the messages are written in order, and the next step is defined
and does what it is to do. -/
def Delivers (steps : List (ServerStep Connection Request Response)) : Prop :=
  ∀ past rest, steps = past ++ rest → ∃ server writes, run past = .ok (server, writes) ∧
    InOrder (past.filterMap ServerStep.queuedRequest) (writes.map Written.request)
      server.requests ∧
    InOrder (past.filterMap ServerStep.queuedResponse) (writes.map Written.response)
      server.responses ∧
    ∀ step later, rest = step :: later → ∃ server' written,
      server.step step = .ok (server', written) ∧ Serves past server server' written step

/-- Every send that names no connection happens while one is open. -/
def SendsFindConnections (steps : List (ServerStep Connection Request Response)) : Prop :=
  ∀ past step later, steps = past ++ step :: later → step.Unaddressed → stillOpen past ≠ []

end Specification

/-! ## Sends -/

section Sends

variable {connections : List Connection} {conn : Option Connection}
  {messageQueue : List (Option Connection × Message)}
  {result : List (Option Connection × Message) × Option (Write Connection Message)}

theorem sendFirst_eq_ok_iff : sendFirst connections conn messageQueue = .ok result ↔
    ∃ target, conn.or connections.head? = some target ∧
      sendMessage target messageQueue = result := by
  cases conn with
  | some conn =>
    constructor
    · intro h
      exact ⟨conn, rfl, Except.ok.inj h⟩
    · rintro ⟨target, htarget, rfl⟩
      cases htarget
      rfl
  | none =>
    cases connections with
    | nil => exact iff_of_false nofun fun ⟨_, htarget, _⟩ => nomatch htarget
    | cons conn connections =>
      constructor
      · intro h
        exact ⟨conn, rfl, Except.ok.inj h⟩
      · rintro ⟨target, htarget, rfl⟩
        cases htarget
        rfl

theorem exists_sendFirst_iff (connections : List Connection) (conn : Option Connection)
    (messageQueue : List (Option Connection × Message)) :
    (∃ result, sendFirst connections conn messageQueue = .ok result) ↔
      (conn = none → connections ≠ []) := by
  cases conn with
  | some conn => exact iff_of_true ⟨_, rfl⟩ nofun
  | none =>
    cases connections with
    | nil => exact iff_of_false nofun fun h => h rfl rfl
    | cons conn connections => exact iff_of_true ⟨_, rfl⟩ fun _ => List.cons_ne_nil _ _

theorem sends_of_sendFirst (h : sendFirst connections conn messageQueue = .ok result) :
    Sends (conn.or connections.head?) messageQueue result.1 result.2 := by
  obtain ⟨target, htarget, rfl⟩ := sendFirst_eq_ok_iff.1 h
  rw [htarget]
  cases messageQueue with
  | nil => exact ⟨rfl, rfl⟩
  | cons data rest => exact ⟨rfl, rfl⟩

/-- A send moves the front of the queue to what is written. -/
theorem messages_of_sendFirst (h : sendFirst connections conn messageQueue = .ok result) :
    (result.2.map Write.message).toList ++ result.1.map Prod.snd = messageQueue.map Prod.snd := by
  obtain ⟨target, -, rfl⟩ := sendFirst_eq_ok_iff.1 h
  cases messageQueue with
  | nil => rfl
  | cons data rest => rfl

/-- The order is kept by a step that takes from the front and adds to the end. -/
theorem InOrder.step {queued : List Message} {writes : List (Option (Write Connection Message))}
    {queue' : List (Option Connection × Message)} {write : Option (Write Connection Message)}
    {message : Option Message} (horder : InOrder queued writes messageQueue)
    (h : (write.map Write.message).toList ++ queue'.map Prod.snd =
      messageQueue.map Prod.snd ++ message.toList) :
    InOrder (queued ++ message.toList) (writes ++ [write]) queue' := by
  have hwrites : (writes ++ [write]).filterMap (·.map Write.message) =
      writes.filterMap (·.map Write.message) ++ (write.map Write.message).toList := by
    rw [List.filterMap_append]
    cases write <;> rfl
  unfold InOrder at horder ⊢
  rw [hwrites, List.append_assoc, h, ← List.append_assoc, horder]

end Sends

/-! ## Steps -/

section Steps

variable [DecidableEq Connection] {server server' : Server Connection Request Response}
  {step : ServerStep Connection Request Response} {written : Written Connection Request Response}
  {conn : Option Connection}

theorem step_sendRequest_iff : server.step (.sendRequest conn) = .ok (server', written) ↔
    ∃ result, sendFirst server.connections conn server.requests = .ok result ∧
      server' = { server with requests := result.1 } ∧ written = { request := result.2 } := by
  constructor
  · intro h
    obtain ⟨sent, hsent, hstep⟩ := bind_eq_ok_iff.1 h
    cases hstep
    obtain ⟨result, hresult, hserver⟩ := bind_eq_ok_iff.1 hsent
    cases hserver
    exact ⟨result, hresult, rfl, rfl⟩
  · rintro ⟨result, hresult, rfl, rfl⟩
    have hsent : server.sendRequest conn = .ok ({ server with requests := result.1 }, result.2) :=
      bind_eq_ok_iff.2 ⟨result, hresult, rfl⟩
    exact bind_eq_ok_iff.2 ⟨_, hsent, rfl⟩

theorem step_sendResponse_iff : server.step (.sendResponse conn) = .ok (server', written) ↔
    ∃ result, sendFirst server.connections conn server.responses = .ok result ∧
      server' = { server with responses := result.1 } ∧ written = { response := result.2 } := by
  constructor
  · intro h
    obtain ⟨sent, hsent, hstep⟩ := bind_eq_ok_iff.1 h
    cases hstep
    obtain ⟨result, hresult, hserver⟩ := bind_eq_ok_iff.1 hsent
    cases hserver
    exact ⟨result, hresult, rfl, rfl⟩
  · rintro ⟨result, hresult, rfl, rfl⟩
    have hsent : server.sendResponse conn = .ok ({ server with responses := result.1 }, result.2) :=
      bind_eq_ok_iff.2 ⟨result, hresult, rfl⟩
    exact bind_eq_ok_iff.2 ⟨_, hsent, rfl⟩

/-- The connections are a roster of those who come and go. -/
theorem step_connections (h : server.step step = .ok (server', written)) :
    server'.connections = step.change.toList.foldl Roster.note server.connections := by
  cases step with
  | connect conn => cases h; rfl
  | data conn request => cases request <;> cases h <;> rfl
  | close conn => cases h; rfl
  | queueRequest conn request => cases h; rfl
  | queueResponse conn response => cases h; rfl
  | sendRequest conn =>
    obtain ⟨result, -, rfl, -⟩ := step_sendRequest_iff.1 h
    rfl
  | sendResponse conn =>
    obtain ⟨result, -, rfl, -⟩ := step_sendResponse_iff.1 h
    rfl

theorem step_requests (h : server.step step = .ok (server', written)) :
    (written.request.map Write.message).toList ++ server'.requests.map Prod.snd =
      server.requests.map Prod.snd ++ step.queuedRequest.toList := by
  cases step with
  | queueRequest conn request => cases h; exact List.map_append
  | data conn request =>
    cases request with
    | none => cases h; exact (List.append_nil _).symm
    | some request => cases h; exact List.map_append
  | sendRequest conn =>
    obtain ⟨result, hresult, rfl, rfl⟩ := step_sendRequest_iff.1 h
    exact (messages_of_sendFirst hresult).trans (List.append_nil _).symm
  | sendResponse conn =>
    obtain ⟨result, -, rfl, rfl⟩ := step_sendResponse_iff.1 h
    exact (List.append_nil _).symm
  | connect conn => cases h; exact (List.append_nil _).symm
  | close conn => cases h; exact (List.append_nil _).symm
  | queueResponse conn response => cases h; exact (List.append_nil _).symm

theorem step_responses (h : server.step step = .ok (server', written)) :
    (written.response.map Write.message).toList ++ server'.responses.map Prod.snd =
      server.responses.map Prod.snd ++ step.queuedResponse.toList := by
  cases step with
  | queueResponse conn response => cases h; exact List.map_append
  | sendResponse conn =>
    obtain ⟨result, hresult, rfl, rfl⟩ := step_sendResponse_iff.1 h
    exact (messages_of_sendFirst hresult).trans (List.append_nil _).symm
  | sendRequest conn =>
    obtain ⟨result, -, rfl, rfl⟩ := step_sendRequest_iff.1 h
    exact (List.append_nil _).symm
  | data conn request => cases request <;> cases h <;> exact (List.append_nil _).symm
  | connect conn => cases h; exact (List.append_nil _).symm
  | close conn => cases h; exact (List.append_nil _).symm
  | queueRequest conn request => cases h; exact (List.append_nil _).symm

theorem step_serves {past : List (ServerStep Connection Request Response)}
    (hopen : server.connections = stillOpen past)
    (h : server.step step = .ok (server', written)) : Serves past server server' written step := by
  cases step with
  | sendRequest conn =>
    obtain ⟨result, hresult, rfl, rfl⟩ := step_sendRequest_iff.1 h
    rw [hopen] at hresult
    exact ⟨sends_of_sendFirst hresult, rfl, rfl⟩
  | sendResponse conn =>
    obtain ⟨result, hresult, rfl, rfl⟩ := step_sendResponse_iff.1 h
    rw [hopen] at hresult
    exact ⟨sends_of_sendFirst hresult, rfl, rfl⟩
  | connect conn => cases h; rfl
  | data conn request => cases request <;> cases h <;> rfl
  | close conn => cases h; rfl
  | queueRequest conn request => cases h; rfl
  | queueResponse conn response => cases h; rfl

/-- A step is undefined where it takes the front of no connections. -/
theorem exists_step_iff (server : Server Connection Request Response)
    (step : ServerStep Connection Request Response) :
    (∃ server' written, server.step step = .ok (server', written)) ↔
      (step.Unaddressed → server.connections ≠ []) := by
  cases step with
  | sendRequest conn =>
    have hunaddressed : (ServerStep.sendRequest conn :
        ServerStep Connection Request Response).Unaddressed ↔ conn = none := by
      simp [ServerStep.Unaddressed]
    rw [hunaddressed, ← exists_sendFirst_iff server.connections conn server.requests]
    constructor
    · rintro ⟨server', written, h⟩
      obtain ⟨result, hresult, -⟩ := step_sendRequest_iff.1 h
      exact ⟨result, hresult⟩
    · rintro ⟨result, hresult⟩
      exact ⟨_, _, step_sendRequest_iff.2 ⟨result, hresult, rfl, rfl⟩⟩
  | sendResponse conn =>
    have hunaddressed : (ServerStep.sendResponse conn :
        ServerStep Connection Request Response).Unaddressed ↔ conn = none := by
      simp [ServerStep.Unaddressed]
    rw [hunaddressed, ← exists_sendFirst_iff server.connections conn server.responses]
    constructor
    · rintro ⟨server', written, h⟩
      obtain ⟨result, hresult, -⟩ := step_sendResponse_iff.1 h
      exact ⟨result, hresult⟩
    · rintro ⟨result, hresult⟩
      exact ⟨_, _, step_sendResponse_iff.2 ⟨result, hresult, rfl, rfl⟩⟩
  | connect conn => exact iff_of_true ⟨_, _, rfl⟩ nofun
  | data conn request => exact iff_of_true ⟨_, _, rfl⟩ nofun
  | close conn => exact iff_of_true ⟨_, _, rfl⟩ nofun
  | queueRequest conn request => exact iff_of_true ⟨_, _, rfl⟩ nofun
  | queueResponse conn response => exact iff_of_true ⟨_, _, rfl⟩ nofun

end Steps

/-! ## Runs -/

section Runs

variable [DecidableEq Connection] {past : List (ServerStep Connection Request Response)}
  {server : Server Connection Request Response}
  {writes : List (Written Connection Request Response)}

/-- What holds of a server whose past is defined. -/
structure Follows (past : List (ServerStep Connection Request Response))
    (server : Server Connection Request Response)
    (writes : List (Written Connection Request Response)) : Prop where
  connections : server.connections = stillOpen past
  requests : InOrder (past.filterMap ServerStep.queuedRequest) (writes.map Written.request)
    server.requests
  responses : InOrder (past.filterMap ServerStep.queuedResponse) (writes.map Written.response)
    server.responses

theorem follows_nil : Follows ([] : List (ServerStep Connection Request Response)) {} [] where
  connections := Roster.present_nil.symm
  requests := rfl
  responses := rfl

theorem stillOpen_concat (past : List (ServerStep Connection Request Response))
    (step : ServerStep Connection Request Response) :
    stillOpen (past ++ [step]) = step.change.toList.foldl Roster.note (stillOpen past) := by
  have hchange : [step].filterMap ServerStep.change = step.change.toList := by
    rw [List.filterMap_cons]
    cases step.change <;> rfl
  unfold stillOpen
  rw [← Roster.foldl_note, ← Roster.foldl_note, List.filterMap_append, List.foldl_append, hchange]

theorem Follows.step (h : Follows past server writes)
    {step : ServerStep Connection Request Response} {server' : Server Connection Request Response}
    {written : Written Connection Request Response}
    (hstep : server.step step = .ok (server', written)) :
    Follows (past ++ [step]) server' (writes ++ [written]) where
  connections := by rw [step_connections hstep, h.connections, stillOpen_concat]
  requests := by
    have hqueued : [step].filterMap ServerStep.queuedRequest = step.queuedRequest.toList := by
      rw [List.filterMap_cons]
      cases step.queuedRequest <;> rfl
    rw [List.filterMap_append, List.map_append, hqueued]
    exact h.requests.step (step_requests hstep)
  responses := by
    have hqueued : [step].filterMap ServerStep.queuedResponse = step.queuedResponse.toList := by
      rw [List.filterMap_cons]
      cases step.queuedResponse <;> rfl
    rw [List.filterMap_append, List.map_append, hqueued]
    exact h.responses.step (step_responses hstep)

/-- Every defined run follows its past. -/
theorem follows_of_run (h : run past = .ok (server, writes)) : Follows past server writes := by
  refine foldlM_invariant (I := fun past result => Follows past result.1 result.2) follows_nil
    (fun past step before after hpast hnext => ?_) h
  obtain ⟨⟨server', written⟩, hstep, hresult⟩ := bind_eq_ok_iff.1 hnext
  cases hresult
  exact hpast.step hstep

/-- A run is defined as long as its sends find connections. -/
theorem exists_run (hfind : SendsFindConnections past) :
    ∃ server writes, run past = .ok (server, writes) := by
  have hrun : ∃ result, run past = .ok result := by
    refine exists_foldlM fun before step later result hsplit hbefore => ?_
    have hconnections : step.Unaddressed → result.1.connections ≠ [] := by
      rw [(follows_of_run hbefore).connections]
      exact hfind before step later hsplit
    obtain ⟨server', written, hstep⟩ := (exists_step_iff result.1 step).2 hconnections
    exact ⟨_, bind_eq_ok_iff.2 ⟨_, hstep, rfl⟩⟩
  obtain ⟨⟨server, writes⟩, hrun⟩ := hrun
  exact ⟨server, writes, hrun⟩

end Runs

theorem delivers_iff [DecidableEq Connection]
    (steps : List (ServerStep Connection Request Response)) :
    Delivers steps ↔ SendsFindConnections steps := by
  constructor
  · intro h past step later hsplit hunaddressed
    obtain ⟨server, writes, hrun, -, -, hserves⟩ := h past (step :: later) hsplit
    obtain ⟨server', written, hstep, -⟩ := hserves step later rfl
    rw [← (follows_of_run hrun).connections]
    exact (exists_step_iff server step).1 ⟨server', written, hstep⟩ hunaddressed
  · intro hfind past rest hsplit
    have hpast : SendsFindConnections past := fun before i later hbefore =>
      hfind before i (later ++ rest) (by rw [hsplit, hbefore, List.append_assoc, List.cons_append])
    obtain ⟨server, writes, hrun⟩ := exists_run hpast
    have hfollows := follows_of_run hrun
    refine ⟨server, writes, hrun, hfollows.requests, hfollows.responses, ?_⟩
    rintro step later rfl
    have hconnections : step.Unaddressed → server.connections ≠ [] := by
      rw [hfollows.connections]
      exact hfind past step later hsplit
    obtain ⟨server', written, hstep⟩ := (exists_step_iff server step).2 hconnections
    exact ⟨server', written, hstep, step_serves hfollows.connections hstep⟩

/-- The client of a request has gone when its response is sent to the first connection. -/
theorem not_delivers_closed :
    ¬Delivers ([.connect 1, .data 1 (some 7), .sendRequest (some 2), .close 1,
      .queueResponse (some 2) 8, .sendResponse none] : List (ServerStep Nat Nat Nat)) := by
  intro h
  obtain ⟨server, writes, hrun, -⟩ := h _ [] (List.append_nil _).symm
  cases hrun

end Server

end Sc2Api
