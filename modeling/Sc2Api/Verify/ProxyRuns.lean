import Mathlib.Data.List.Infix
import Sc2Api.Proxy
import Sc2Api.Verify.ServerRuns

/-!
# What a proxy relays

Clients come and go and ask, the game answers or hangs up, time runs out, while `main` goes
round its loop. In every run the requests reach the game in the order in which they came, one at
a time, and the responses go back in the same order, each the answer to its own request. A
response that does not come in time is the last thing a proxy waits for.
-/

namespace Sc2Api

open Lib

/-! ## Histories -/

namespace ProxyStep

variable {Connection Request Response : Type}

/-- A request that arrives, with the connection it arrives on. -/
def arrival : ProxyStep Connection Request Response → Option (Connection × Request)
  | .data conn request => request.map (conn, ·)
  | _ => none

/-- Who comes or goes. -/
def change : ProxyStep Connection Request Response → Option (Change Connection)
  | .connect conn => some (.arrival conn)
  | .close conn => some (.departure conn)
  | _ => none

/-- A message of the game. -/
def isAnswer : ProxyStep Connection Request Response → Bool
  | .answer _ => true
  | _ => false

def isClose : ProxyStep Connection Request Response → Bool
  | .close _ => true
  | _ => false

end ProxyStep

namespace Proxy

variable {Connection Request Response : Type}

/-- The requests that clients have sent, in the order of their arrival. -/
def received (steps : List (ProxyStep Connection Request Response)) :
    List (Connection × Request) :=
  steps.filterMap ProxyStep.arrival

def forwarded (writes : List (Written Connection Request (Option Response))) : List Request :=
  writes.filterMap fun written => written.request.map Write.message

def returned (writes : List (Written Connection Request (Option Response))) :
    List (Write Connection (Option Response)) :=
  writes.filterMap Written.response

section Histories

variable {steps : List (ProxyStep Connection Request Response)}
  {step : ProxyStep Connection Request Response}
  {writes : List (Written Connection Request (Option Response))}
  {written : Written Connection Request (Option Response)}

theorem received_concat : received (steps ++ [step]) = received steps ++ step.arrival.toList := by
  unfold received
  rw [List.filterMap_append, List.filterMap_cons]
  cases step.arrival <;> rfl

theorem forwarded_concat : forwarded (writes ++ [written]) =
    forwarded writes ++ (written.request.map Write.message).toList := by
  unfold forwarded
  rw [List.filterMap_append, List.filterMap_cons]
  cases written.request <;> rfl

theorem returned_concat :
    returned (writes ++ [written]) = returned writes ++ written.response.toList := by
  unfold returned
  rw [List.filterMap_append, List.filterMap_cons]
  cases written.response <;> rfl

end Histories

/-! ## Steps -/

section Handlers

variable (p : Proxy Connection Request Response)

@[simp] theorem server_dataHandler (response : Option Response) :
    (p.dataHandler response).server = p.server := by
  cases response <;> rfl

@[simp] theorem call_dataHandler (response : Option Response) :
    (p.dataHandler response).call = p.call := by
  cases response <;> rfl

@[simp] theorem server_expire : p.expire.server = p.server := by
  unfold expire
  split <;> rfl

@[simp] theorem server_receive : p.receive.server = p.server := by
  unfold receive
  split <;> rfl

end Handlers

section Steps

variable {p p' : Proxy Connection Request Response}
  {written : Written Connection Request (Option Response)}

theorem checkMessage_eq_ok {write : Option (Write Connection (Option Response))}
    (h : checkMessage write = .ok ⟨⟩) (conn : Connection) : write ≠ some ⟨conn, none⟩ := by
  rintro rfl
  cases h

theorem mapError_eq_ok {ε ε' α : Type} {x : Except ε α} {f : ε → ε'} {a : α}
    (h : x.mapError f = .ok a) : x = .ok a := by
  cases x with
  | error e => cases h
  | ok b => cases h; rfl

variable [DecidableEq Connection]

/-- All that a call of `main` can do. -/
inductive Calls (p : Proxy Connection Request Response) :
    Proxy Connection Request Response → Written Connection Request (Option Response) → Prop
  | none (hcall : p.call = .hasRequest) : Calls p p {}
  | some (hcall : p.call = .hasRequest) (hrequests : p.server.requests ≠ []) :
    Calls p { p with call := .sendRequest } {}
  | sendRequest {server written} (hcall : p.call = .sendRequest)
      (hserver : p.server.step (.sendRequest p.connection) = .ok (server, written)) :
    Calls p { p with server, game := p.forward written.request, call := .receive } written
  | receive (hcall : p.call = .receive) : Calls p p.receive {}
  | queueResponse {response} (hcall : p.call = .queueResponse response) :
    Calls p { p with
      server := p.server.queueResponse p.connection response
      call := .sendResponse } {}
  | sendResponse {server written} (hcall : p.call = .sendResponse)
      (hserver : p.server.step (.sendResponse none) = .ok (server, written))
      (hmessage : ∀ conn, written.response ≠ some ⟨conn, none⟩) :
    Calls p { p with server, call := .hasRequest } written

theorem calls_of_main (h : p.main = .ok (p', written)) : Calls p p' written := by
  unfold main at h
  split at h
  · next hcall =>
    split at h
    · next hrequest =>
      cases h
      refine .some hcall fun hnil => ?_
      rw [Server.hasRequest, hnil] at hrequest
      cases hrequest
    · cases h
      exact .none hcall
  · next hcall =>
    obtain ⟨⟨server, request⟩, hsend, hresult⟩ := bind_eq_ok_iff.1 h
    cases hresult
    have hserver : p.server.step (.sendRequest p.connection) = .ok (server, { request }) :=
      bind_eq_ok_iff.2 ⟨(server, request), mapError_eq_ok hsend, rfl⟩
    exact .sendRequest hcall hserver
  · next hcall =>
    cases h
    exact .receive hcall
  · next response hcall =>
    cases h
    exact .queueResponse hcall
  · next hcall =>
    obtain ⟨⟨server, response⟩, hsend, hrest⟩ := bind_eq_ok_iff.1 h
    obtain ⟨⟨⟩, hcheck, hresult⟩ := bind_eq_ok_iff.1 hrest
    cases hresult
    have hserver : p.server.step (.sendResponse none) = .ok (server, { response }) :=
      bind_eq_ok_iff.2 ⟨(server, response), mapError_eq_ok hsend, rfl⟩
    exact .sendResponse hcall hserver (checkMessage_eq_ok hcheck)

/-- The server of a proxy takes steps of a server, and writes what the proxy writes. -/
theorem step_server {step : ProxyStep Connection Request Response}
    (h : p.step step = .ok (p', written)) :
    (∃ serverStep, p.server.step serverStep = .ok (p'.server, written) ∧
      serverStep.change = step.change ∧
      serverStep.queuedRequest = step.arrival.map Prod.snd) ∨
    (p'.server = p.server ∧ written = {} ∧ step.change = none ∧ step.arrival = none) := by
  cases step with
  | connect conn => cases h; exact .inl ⟨.connect conn, rfl, rfl, rfl⟩
  | data conn request =>
    cases h
    exact .inl ⟨.data conn request, rfl, rfl, by cases request <;> rfl⟩
  | close conn => cases h; exact .inl ⟨.close conn, rfl, rfl, rfl⟩
  | answer response => cases h; exact .inr ⟨server_dataHandler p response, rfl, rfl, rfl⟩
  | hangUp => cases h; exact .inr ⟨rfl, rfl, rfl, rfl⟩
  | expire => cases h; exact .inr ⟨server_expire p, rfl, rfl, rfl⟩
  | main =>
    cases calls_of_main h with
    | none hcall => exact .inr ⟨rfl, rfl, rfl, rfl⟩
    | some hcall hrequests => exact .inr ⟨rfl, rfl, rfl, rfl⟩
    | sendRequest hcall hserver => exact .inl ⟨_, hserver, rfl, rfl⟩
    | receive hcall => exact .inr ⟨server_receive p, rfl, rfl, rfl⟩
    | queueResponse hcall => exact .inl ⟨.queueResponse _ _, rfl, rfl, rfl⟩
    | sendResponse hcall hserver hmessage => exact .inl ⟨_, hserver, rfl, rfl⟩

theorem step_connections {step : ProxyStep Connection Request Response}
    (h : p.step step = .ok (p', written)) :
    p'.server.connections = step.change.toList.foldl Roster.note p.server.connections := by
  rcases step_server h with ⟨serverStep, hserver, hchange, -⟩ | ⟨hserver, -, hchange, -⟩
  · rw [Server.step_connections hserver, hchange]
  · rw [hserver, hchange]
    rfl

/-- A request that is written is the one that has waited longest. -/
theorem step_requests {step : ProxyStep Connection Request Response}
    (h : p.step step = .ok (p', written)) :
    (written.request.map Write.message).toList ++ p'.server.requests.map Prod.snd =
      p.server.requests.map Prod.snd ++ (step.arrival.map Prod.snd).toList := by
  rcases step_server h with ⟨serverStep, hserver, -, hqueued⟩ | ⟨hserver, rfl, -, harrival⟩
  · rw [Server.step_requests hserver, hqueued]
  · rw [hserver, harrival]
    exact (List.append_nil _).symm

end Steps

/-! ## Stages -/

/-- Nothing is on its way between the game and a client. -/
structure Quiet (p : Proxy Connection Request Response) : Prop where
  flight : p.game.flight = []
  queue : p.queue = []
  responses : p.server.responses = []

/-- Where a proxy is in the exchange of one request, with the request that the game has not
answered and the response that no client has. -/
inductive Stage (p : Proxy Connection Request Response) : List Request → List Response → Prop
  | resting (hcall : p.call = .hasRequest ∨ p.call = .sendRequest ∧ p.server.requests ≠ [])
      (hquiet : p.Quiet) : Stage p [] []
  | asked (request : Request) (hcall : p.call = .receive) (hflight : p.game.flight = [request])
      (hqueue : p.queue = []) (hresponses : p.server.responses = []) : Stage p [request] []
  | lost (request : Request) (hcall : p.call = .receive ∨ p.call = .queueResponse none)
      (hquiet : p.Quiet) : Stage p [request] []
  | failed (request : Request) (hcall : p.call = .sendResponse) (hflight : p.game.flight = [])
      (hqueue : p.queue = []) (hresponses : p.server.responses.map Prod.snd = [none]) :
      Stage p [request] []
  | arrived (response : Response) (hcall : p.call = .receive) (hflight : p.game.flight = [])
      (hqueue : p.queue = [response]) (hresponses : p.server.responses = []) :
      Stage p [] [response]
  | held (response : Response) (hcall : p.call = .queueResponse (some response))
      (hquiet : p.Quiet) : Stage p [] [response]
  | queued (response : Response) (hcall : p.call = .sendResponse) (hflight : p.game.flight = [])
      (hqueue : p.queue = []) (hresponses : p.server.responses.map Prod.snd = [some response]) :
      Stage p [] [response]

/-- What a step does to an exchange: what was in it and what is added is what leaves it and what
stays. `news` are the answers that have arrived. -/
structure Moves (p p' : Proxy Connection Request Response)
    (written : Written Connection Request (Option Response))
    (unanswered : List Request) (due : List Response) : Prop where
  balance : ∃ news unanswered' due', Stage p' unanswered' due' ∧
    p'.game.answered = p.game.answered ++ news ∧
    unanswered ++ (written.request.map Write.message).toList =
      news.map Prod.fst ++ unanswered' ∧
    due.map some ++ news.map (fun answer => some answer.2) =
      (written.response.map Write.message).toList ++ due'.map some

section Stages

variable {p p' : Proxy Connection Request Response}
  {written : Written Connection Request (Option Response)}
  {unanswered unanswered' : List Request} {due due' : List Response}

/-- A stage that is left without an answer and without a write. -/
theorem Moves.of_stage (hanswered : p'.game.answered = p.game.answered)
    (h : Stage p' unanswered due) : Moves p p' {} unanswered due :=
  ⟨[], unanswered, due, h, by simpa using hanswered, by simp, by simp⟩

/-- The handlers of the server leave the exchange as it is. -/
theorem Stage.of_handler (h : Stage p unanswered due) (hcall : p'.call = p.call)
    (hgame : p'.game = p.game) (hqueue : p'.queue = p.queue)
    (hresponses : p'.server.responses = p.server.responses)
    (hrequests : p.server.requests ≠ [] → p'.server.requests ≠ []) :
    Stage p' unanswered due := by
  have hquiet : p.Quiet → p'.Quiet := fun h =>
    ⟨by rw [hgame]; exact h.flight, by rw [hqueue]; exact h.queue,
      by rw [hresponses]; exact h.responses⟩
  cases h with
  | resting h hq =>
    refine .resting ?_ (hquiet hq)
    rw [hcall]
    exact h.imp_right fun h => ⟨h.1, hrequests h.2⟩
  | asked request h hf hq hr =>
    exact .asked request (by rw [hcall, h]) (by rw [hgame, hf]) (by rw [hqueue, hq])
      (by rw [hresponses, hr])
  | lost request h hq => exact .lost request (by rwa [hcall]) (hquiet hq)
  | failed request h hf hq hr =>
    exact .failed request (by rw [hcall, h]) (by rw [hgame, hf]) (by rw [hqueue, hq])
      (by rw [hresponses, hr])
  | arrived response h hf hq hr =>
    exact .arrived response (by rw [hcall, h]) (by rw [hgame, hf]) (by rw [hqueue, hq])
      (by rw [hresponses, hr])
  | held response h hq => exact .held response (by rw [hcall, h]) (hquiet hq)
  | queued response h hf hq hr =>
    exact .queued response (by rw [hcall, h]) (by rw [hgame, hf]) (by rw [hqueue, hq])
      (by rw [hresponses, hr])

/-- A request is in flight only while `main` is in `Receive`. -/
theorem Stage.flight (h : Stage p unanswered due) (hflight : p.game.flight ≠ []) :
    ∃ request, p.call = .receive ∧ p.game.flight = [request] ∧ p.queue = [] ∧
      p.server.responses = [] ∧ unanswered = [request] ∧ due = [] := by
  cases h with
  | asked request h hf hq hr => exact ⟨request, h, hf, hq, hr, rfl, rfl⟩
  | resting h hq => exact absurd hq.flight hflight
  | lost request h hq => exact absurd hq.flight hflight
  | failed request h hf hq hr => exact absurd hf hflight
  | arrived response h hf hq hr => exact absurd hf hflight
  | held response h hq => exact absurd hq.flight hflight
  | queued response h hf hq hr => exact absurd hf hflight

theorem Stage.answer (h : Stage p unanswered due) (hanswers : p.game.flight ≠ [])
    (response : Option Response) : Moves p (p.dataHandler response) {} unanswered due := by
  obtain ⟨request, hcall, hflight, hqueue, hresponses, rfl, rfl⟩ := h.flight hanswers
  cases response with
  | none =>
    have hdrop : (p.dataHandler none).game.flight = [] := by
      unfold dataHandler
      dsimp only
      rw [hflight, List.tail_cons]
    exact .of_stage rfl (.lost request (.inl hcall) ⟨hdrop, hqueue, hresponses⟩)
  | some response =>
    have hpush : p.dataHandler (some response) = { p with
        queue := [response]
        game := { p.game with
          flight := [], answered := p.game.answered ++ [(request, response)] } } := by
      unfold dataHandler GameEnd.answer
      dsimp only
      rw [hflight, hqueue]
      rfl
    rw [hpush]
    exact ⟨[(request, response)], [], [response], .arrived response hcall rfl rfl hresponses,
      rfl, rfl, rfl⟩

theorem Stage.hangUp (h : Stage p unanswered due) :
    Moves p { p with game := p.game.hangUp } {} unanswered due := by
  refine .of_stage rfl ?_
  cases h with
  | resting h hq => exact .resting h ⟨rfl, hq.queue, hq.responses⟩
  | asked request h hf hq hr => exact .lost request (.inl h) ⟨rfl, hq, hr⟩
  | lost request h hq => exact .lost request h ⟨rfl, hq.queue, hq.responses⟩
  | failed request h hf hq hr => exact .failed request h rfl hq hr
  | arrived response h hf hq hr => exact .arrived response h rfl hq hr
  | held response h hq => exact .held response h ⟨rfl, hq.queue, hq.responses⟩
  | queued response h hf hq hr => exact .queued response h rfl hq hr

theorem Stage.expire (h : Stage p unanswered due) : Moves p p.expire {} unanswered due := by
  unfold Proxy.expire
  split
  · next hcall hqueue =>
    refine .of_stage rfl ?_
    cases h with
    | asked request h hf hq hr => exact .lost request (.inr rfl) ⟨rfl, hq, hr⟩
    | lost request h hq => exact .lost request (.inr rfl) ⟨rfl, hq.queue, hq.responses⟩
    | _ => grind
  · exact .of_stage rfl h

theorem receive_of_nil (hqueue : p.queue = []) : p.receive = p := by
  unfold Proxy.receive
  rw [hqueue]

theorem Stage.receive (h : Stage p unanswered due) (hcall : p.call = .receive) :
    Moves p p.receive {} unanswered due := by
  cases h with
  | asked request h hf hq hr =>
    rw [receive_of_nil hq]
    exact .of_stage rfl (.asked request h hf hq hr)
  | lost request h hq =>
    rw [receive_of_nil hq.queue]
    exact .of_stage rfl (.lost request h hq)
  | arrived response h hf hq hr =>
    have htake : p.receive = { p with queue := [], call := .queueResponse (some response) } := by
      unfold Proxy.receive
      rw [hq]
    rw [htake]
    exact .of_stage rfl (.held response rfl ⟨hf, rfl, hr⟩)
  | _ => grind

theorem Stage.queueResponse (h : Stage p unanswered due) {response : Option Response}
    (hcall : p.call = .queueResponse response) :
    Moves p { p with
      server := p.server.queueResponse p.connection response
      call := .sendResponse } {} unanswered due := by
  have hqueued : p.server.responses = [] →
      (p.server.queueResponse p.connection response).responses.map Prod.snd = [response] := by
    intro hresponses
    unfold Server.queueResponse
    rw [hresponses]
    rfl
  refine .of_stage rfl ?_
  cases h with
  | lost request h hq =>
    have hnone : response = none := by grind
    subst hnone
    exact .failed request rfl hq.flight hq.queue (hqueued hq.responses)
  | held response' h hq =>
    have hsome : response = some response' := by grind
    subst hsome
    exact .queued response' rfl hq.flight hq.queue (hqueued hq.responses)
  | _ => grind

/-- Where a request goes that is written: to the game, unless the connection to it is gone. -/
theorem flight_forward (hflight : p.game.flight = []) (write : Write Connection Request) :
    ((p.forward (some write)).flight = [write.message] ∨ (p.forward (some write)).flight = []) ∧
      (p.forward (some write)).answered = p.game.answered := by
  unfold forward
  split
  · next conn request hconn heq =>
    cases heq
    unfold GameEnd.accept
    split
    · exact ⟨.inl (by rw [hflight]; rfl), rfl⟩
    · exact ⟨.inr hflight, rfl⟩
  · exact ⟨.inr hflight, rfl⟩

section Main

variable [DecidableEq Connection] {server : Server Connection Request (Option Response)}

theorem Stage.sendRequest (h : Stage p unanswered due) (hcall : p.call = .sendRequest)
    (hserver : p.server.step (.sendRequest p.connection) = .ok (server, written)) :
    Moves p { p with server, game := p.forward written.request, call := .receive } written
      unanswered due := by
  cases h with
  | resting h hq =>
    have hrequests : p.server.requests ≠ [] := by grind
    obtain ⟨result, hresult, rfl, rfl⟩ := Server.step_sendRequest_iff.1 hserver
    obtain ⟨target, -, rfl⟩ := Server.sendFirst_eq_ok_iff.1 hresult
    obtain ⟨data, rest, hdata⟩ := List.exists_cons_of_ne_nil hrequests
    rw [hdata]
    obtain ⟨hflight, hanswered⟩ := flight_forward hq.flight ⟨target, data.2⟩
    refine ⟨[], [data.2], [], ?_, hanswered.trans (List.append_nil _).symm, rfl, rfl⟩
    rcases hflight with hflight | hflight
    · exact .asked data.2 rfl hflight hq.queue hq.responses
    · exact .lost data.2 (.inl rfl) ⟨hflight, hq.queue, hq.responses⟩
  | _ => grind

theorem Stage.sendResponse (h : Stage p unanswered due) (hcall : p.call = .sendResponse)
    (hserver : p.server.step (.sendResponse none) = .ok (server, written))
    (hmessage : ∀ conn, written.response ≠ some ⟨conn, none⟩) :
    Moves p { p with server, call := .hasRequest } written unanswered due := by
  obtain ⟨result, hresult, rfl, rfl⟩ := Server.step_sendResponse_iff.1 hserver
  obtain ⟨target, -, rfl⟩ := Server.sendFirst_eq_ok_iff.1 hresult
  have hsend : ∀ message, p.server.responses.map Prod.snd = [message] →
      sendMessage target p.server.responses = ([], some ⟨target, message⟩) := by
    intro message hresponses
    obtain ⟨⟨conn, message'⟩, hdata, hmessage'⟩ := List.map_eq_singleton_iff.1 hresponses
    rw [hdata, ← hmessage']
    rfl
  cases h with
  | failed request h hf hq hr =>
    rw [hsend none hr] at hmessage
    exact absurd rfl (hmessage target)
  | queued response h hf hq hr =>
    rw [hsend (some response) hr]
    exact ⟨[], [], [], .resting (.inl rfl) ⟨hf, hq, rfl⟩, by simp, rfl, rfl⟩
  | _ => grind

theorem Stage.main (h : Stage p unanswered due) (hcalls : Calls p p' written) :
    Moves p p' written unanswered due := by
  cases hcalls with
  | none hcall => exact .of_stage rfl h
  | some hcall hrequests =>
    refine .of_stage rfl ?_
    cases h with
    | resting h hq => exact .resting (.inr ⟨rfl, hrequests⟩) ⟨hq.flight, hq.queue, hq.responses⟩
    | _ => grind
  | sendRequest hcall hserver => exact h.sendRequest hcall hserver
  | receive hcall => exact h.receive hcall
  | queueResponse hcall => exact h.queueResponse hcall
  | sendResponse hcall hserver hmessage => exact h.sendResponse hcall hserver hmessage

/-- Every step moves an exchange on. -/
theorem Stage.step (h : Stage p unanswered due) {step : ProxyStep Connection Request Response}
    (hanswers : step.isAnswer = true → p.game.flight ≠ [])
    (hstep : p.step step = .ok (p', written)) : Moves p p' written unanswered due := by
  cases step with
  | connect conn =>
    cases hstep
    exact .of_stage rfl (h.of_handler rfl rfl rfl rfl id)
  | data conn request =>
    cases hstep
    refine .of_stage rfl ?_
    cases request with
    | none => exact h.of_handler rfl rfl rfl rfl id
    | some request =>
      exact h.of_handler rfl rfl rfl rfl fun _ => List.concat_ne_nil _ _
  | close conn =>
    cases hstep
    exact .of_stage rfl (h.of_handler rfl rfl rfl rfl id)
  | answer response => cases hstep; exact h.answer (hanswers rfl) response
  | hangUp => cases hstep; exact h.hangUp
  | expire => cases hstep; exact h.expire
  | main => exact h.main (calls_of_main hstep)

end Main

/-- One request is exchanged at a time. -/
theorem Stage.length_le (h : Stage p unanswered due) : unanswered.length + due.length ≤ 1 := by
  cases h <;> simp

end Stages

/-! ## Runs -/

section Runs

variable [DecidableEq Connection] {connection : Option Connection}
  {steps past later : List (ProxyStep Connection Request Response)}
  {p p' : Proxy Connection Request Response}
  {writes writes' : List (Written Connection Request (Option Response))}

/-- The connections still open, the earliest opened first. -/
def stillOpen (steps : List (ProxyStep Connection Request Response)) : List Connection :=
  Roster.present (steps.filterMap ProxyStep.change)

theorem stillOpen_concat (step : ProxyStep Connection Request Response) :
    stillOpen (past ++ [step]) = step.change.toList.foldl Roster.note (stillOpen past) := by
  have hchange : [step].filterMap ProxyStep.change = step.change.toList := by
    rw [List.filterMap_cons]
    cases step.change <;> rfl
  unfold stillOpen
  rw [← Roster.foldl_note, ← Roster.foldl_note, List.filterMap_append, List.foldl_append, hchange]

/-- Every step of a run meets a condition on the steps before it and where they have led. -/
def EachStep (connection : Option Connection)
    (steps : List (ProxyStep Connection Request Response))
    (condition : List (ProxyStep Connection Request Response) →
      Proxy Connection Request Response × List (Written Connection Request (Option Response)) →
      ProxyStep Connection Request Response → Prop) : Prop :=
  ∀ n < steps.length, ∀ step ∈ steps[n]?, ∀ result ∈ (run connection (steps.take n)).toOption,
    condition (steps.take n) result step

/-- The game only answers requests. -/
def OnlyAnswers (connection : Option Connection)
    (steps : List (ProxyStep Connection Request Response)) : Prop :=
  EachStep connection steps fun _ result step =>
    step.isAnswer = true → result.1.game.flight ≠ []

section EachStep

instance [DecidableEq Request] [DecidableEq Response]
    {condition : List (ProxyStep Connection Request Response) →
      Proxy Connection Request Response × List (Written Connection Request (Option Response)) →
      ProxyStep Connection Request Response → Prop}
    [∀ past result step, Decidable (condition past result step)] :
    Decidable (EachStep connection steps condition) :=
  inferInstanceAs (Decidable (∀ n < steps.length, _))

instance [DecidableEq Request] [DecidableEq Response] :
    Decidable (OnlyAnswers connection steps) :=
  inferInstanceAs (Decidable (EachStep connection steps _))

variable {condition : List (ProxyStep Connection Request Response) →
  Proxy Connection Request Response × List (Written Connection Request (Option Response)) →
  ProxyStep Connection Request Response → Prop}

theorem EachStep.of_append (h : EachStep connection (past ++ later) condition) :
    EachStep connection past condition := by
  intro n hn step hstep result hresult
  have hlt : n < (past ++ later).length := by
    rw [List.length_append]
    omega
  have htake : (past ++ later).take n = past.take n := List.take_append_of_le_length hn.le
  have hall := h n hlt step (by rw [List.getElem?_append_left hn]; exact hstep)
  rw [htake] at hall
  exact hall result hresult

theorem EachStep.last {step : ProxyStep Connection Request Response}
    (h : EachStep connection (past ++ [step]) condition)
    (hpast : run connection past = .ok (p, writes)) : condition past (p, writes) step := by
  have hlast := h past.length (by simp) step (by simp)
  rw [List.take_left] at hlast
  refine hlast _ ?_
  rw [hpast]
  rfl

/-- What the steps of a run keep, in view of where the run has led. -/
theorem run_induction {I : List (ProxyStep Connection Request Response) →
      Proxy Connection Request Response →
      List (Written Connection Request (Option Response)) → Prop}
    (hstart : I [] { connection } [])
    (hnext : ∀ past step p writes p' written, run connection past = .ok (p, writes) →
      condition past (p, writes) step → p.step step = .ok (p', written) → I past p writes →
        I (past ++ [step]) p' (writes ++ [written]))
    (heach : EachStep connection steps condition) (h : run connection steps = .ok (p, writes)) :
    I steps p writes := by
  refine (foldlM_invariant (I := fun past result => EachStep connection past condition →
    run connection past = .ok result ∧ I past result.1 result.2) ?_ ?_ h heach).2
  · exact fun _ => ⟨rfl, hstart⟩
  · intro past step before after hpast hrest heach
    obtain ⟨hrun, hkept⟩ := hpast heach.of_append
    obtain ⟨⟨p', written⟩, hstep, hresult⟩ := bind_eq_ok_iff.1 hrest
    cases hresult
    refine ⟨?_, hnext past step _ _ p' written hrun (heach.last hrun) hstep hkept⟩
    unfold run at hrun ⊢
    rw [foldlM_concat]
    exact bind_eq_ok_iff.2 ⟨before, hrun, hrest⟩

end EachStep

/-- What holds of a proxy and what it has written, in view of the steps so far. -/
structure Relays (steps : List (ProxyStep Connection Request Response))
    (p : Proxy Connection Request Response)
    (writes : List (Written Connection Request (Option Response))) : Prop where
  connections : p.server.connections = stillOpen steps
  requests : forwarded writes ++ p.server.requests.map Prod.snd = (received steps).map Prod.snd
  exchange : ∃ unanswered due, Stage p unanswered due ∧
    p.game.answered.map Prod.fst ++ unanswered = forwarded writes ∧
    p.game.answered.map (fun answer => some answer.2) =
      (returned writes).map Write.message ++ due.map some

theorem relays_nil : Relays ([] : List (ProxyStep Connection Request Response))
    { connection } [] where
  connections := Roster.present_nil.symm
  requests := rfl
  exchange := ⟨[], [], .resting (.inl rfl) ⟨rfl, rfl, rfl⟩, rfl, rfl⟩

theorem Relays.step (h : Relays past p writes) {step : ProxyStep Connection Request Response}
    (hanswers : step.isAnswer = true → p.game.flight ≠ [])
    {written : Written Connection Request (Option Response)}
    (hstep : p.step step = .ok (p', written)) :
    Relays (past ++ [step]) p' (writes ++ [written]) where
  connections := by rw [step_connections hstep, h.connections, stillOpen_concat]
  requests := by
    rw [forwarded_concat, received_concat, List.append_assoc, step_requests hstep,
      ← List.append_assoc, h.requests, List.map_append]
    congr 1
    cases step.arrival <;> rfl
  exchange := by
    obtain ⟨unanswered, due, hstage, hforwarded, hreturned⟩ := h.exchange
    obtain ⟨news, unanswered', due', hstage', hanswered, hout, hback⟩ :=
      (hstage.step hanswers hstep).balance
    refine ⟨unanswered', due', hstage', ?_, ?_⟩
    · rw [hanswered, List.map_append, List.append_assoc, ← hout, ← List.append_assoc, hforwarded,
        forwarded_concat]
    · have hmessage : (written.response.map Write.message).toList =
          written.response.toList.map Write.message := by
        cases written.response <;> rfl
      rw [hanswered, List.map_append, hreturned, List.append_assoc, hback, returned_concat,
        List.map_append, hmessage, List.append_assoc]

theorem relays_of_run (honly : OnlyAnswers connection steps)
    (h : run connection steps = .ok (p, writes)) : Relays steps p writes :=
  run_induction (I := fun past p writes => Relays past p writes) relays_nil
    (fun _ _ _ _ _ _ _ hanswers hstep hpast => hpast.step hanswers hstep) honly h

/-- All responses are the game's answers to the requests, in the order of these. -/
theorem relays_in_order (honly : OnlyAnswers connection steps)
    (h : run connection steps = .ok (p, writes)) :
    forwarded writes <+: (received steps).map Prod.snd ∧
    (forwarded writes).length ≤ (returned writes).length + 1 ∧
    ∀ (k : Nat) (write : Write Connection (Option Response)),
      (returned writes)[k]? = some write → ∃ request response,
      write.message = some response ∧
      ((received steps).map Prod.snd)[k]? = some request ∧
      p.game.answered[k]? = some (request, response) := by
  have hrelays := relays_of_run honly h
  obtain ⟨unanswered, due, hstage, hforwarded, hreturned⟩ := hrelays.exchange
  refine ⟨⟨_, hrelays.requests⟩, ?_, fun k write hwrite => ?_⟩
  · have hout := congrArg List.length hforwarded
    have hback := congrArg List.length hreturned
    have hone := hstage.length_le
    simp only [List.length_append, List.length_map] at hout hback
    omega
  · have hmessage : (p.game.answered.map fun answer => some answer.2)[k]? =
        some write.message := by
      rw [hreturned, List.getElem?_append_left, List.getElem?_map, hwrite]
      · rfl
      · rw [List.length_map]
        exact (List.getElem?_eq_some_iff.1 hwrite).1
    rw [List.getElem?_map, Option.map_eq_some_iff] at hmessage
    obtain ⟨⟨request, response⟩, hanswer, hresponse⟩ := hmessage
    have hlt := (List.getElem?_eq_some_iff.1 hanswer).1
    refine ⟨request, response, hresponse.symm, ?_, hanswer⟩
    rw [← hrelays.requests, ← hforwarded, List.append_assoc, List.getElem?_append_left,
      List.getElem?_map, hanswer]
    · rfl
    · rwa [List.length_map]

/-- Two clients ask, and the first to come is given both responses. -/
theorem relays_in_order_two :
    let steps : List (ProxyStep Nat Nat Nat) := [.connect 1, .connect 2, .data 2 (some 7),
      .data 1 (some 5), .main, .main, .answer (some 8), .main, .main, .main, .main, .main]
    OnlyAnswers (some 9) steps ∧ ∃ (p : Proxy Nat Nat Nat)
      (writes : List (Written Nat Nat (Option Nat))),
      run (some 9) steps = .ok (p, writes) ∧ returned writes = [⟨1, some 8⟩] ∧
        forwarded writes <+: [7, 5] := by
  intro steps
  have honly : OnlyAnswers (some 9) steps := by decide +kernel
  obtain ⟨⟨p, writes⟩, hrun, hreturned⟩ : ∃ result, run (some 9) steps = .ok result ∧
      returned result.2 = [⟨1, some 8⟩] := ⟨_, rfl, rfl⟩
  exact ⟨honly, p, writes, hrun, hreturned, (relays_in_order honly hrun).1⟩

/-! ### After the time is over -/

/-- The null pointer that `Receive` has left is queued, or about to be. -/
inductive Failed (p : Proxy Connection Request Response) : Bool → Prop
  | held (hcall : p.call = .queueResponse none) (hresponses : p.server.responses = []) :
    Failed p false
  | queued (hcall : p.call = .sendResponse)
      (hresponses : p.server.responses.map Prod.snd = [none]) : Failed p true

/-- Only `main` moves on from there, and it is stopped when it sends the null pointer. -/
theorem Failed.step {queued : Bool} (h : Failed p queued)
    {step : ProxyStep Connection Request Response}
    {written : Written Connection Request (Option Response)}
    (hstep : p.step step = .ok (p', written)) :
    written = {} ∧ (step ≠ .main ∧ Failed p' queued ∨
      step = .main ∧ queued = false ∧ Failed p' true) := by
  have hkeeps : step ≠ .main → p'.call = p.call → p'.server.responses = p.server.responses →
      step ≠ .main ∧ Failed p' queued ∨ step = .main ∧ queued = false ∧ Failed p' true := by
    intro hmain hcall hresponses
    refine .inl ⟨hmain, ?_⟩
    cases h with
    | held hc hr => exact .held (hcall.trans hc) (hresponses.trans hr)
    | queued hc hr => exact .queued (hcall.trans hc) (by rw [hresponses, hr])
  cases step with
  | connect conn => cases hstep; exact ⟨rfl, hkeeps nofun rfl rfl⟩
  | data conn request =>
    cases hstep
    cases request <;> exact ⟨rfl, hkeeps nofun rfl rfl⟩
  | close conn => cases hstep; exact ⟨rfl, hkeeps nofun rfl rfl⟩
  | answer response =>
    cases hstep
    exact ⟨rfl, hkeeps nofun (call_dataHandler p response) (by rw [server_dataHandler])⟩
  | hangUp => cases hstep; exact ⟨rfl, hkeeps nofun rfl rfl⟩
  | expire =>
    cases hstep
    refine ⟨rfl, hkeeps nofun ?_ (by rw [server_expire])⟩
    unfold Proxy.expire
    split
    · next hcall hqueue => cases h <;> simp_all
    · rfl
  | main =>
    have hcalls := calls_of_main hstep
    cases h with
    | held hc hr =>
      cases hcalls with
      | queueResponse hcall =>
        cases hc.symm.trans hcall
        refine ⟨rfl, .inr ⟨rfl, rfl, .queued rfl ?_⟩⟩
        unfold Server.queueResponse
        rw [hr]
        rfl
      | _ => simp_all
    | queued hc hr =>
      cases hcalls with
      | sendResponse hcall hserver hmessage =>
        obtain ⟨result, hresult, rfl, rfl⟩ := Server.step_sendResponse_iff.1 hserver
        obtain ⟨target, -, rfl⟩ := Server.sendFirst_eq_ok_iff.1 hresult
        obtain ⟨⟨conn, message⟩, hdata, hnull⟩ := List.map_eq_singleton_iff.1 hr
        rw [hdata] at hmessage
        refine absurd ?_ (hmessage target)
        rw [← hnull]
        rfl
      | _ => simp_all

/-- The steps after `past`, taken from where it leads. -/
theorem run_append (hpast : run connection past = .ok (p, writes)) :
    run connection (past ++ later) = later.foldlM advance (p, writes) := by
  have hstart : run connection past = .ok (p, writes) := hpast
  unfold run at hstart ⊢
  rw [List.foldlM_append, hstart]
  rfl

/-- The message that cannot be sent: its null pointer is read, unless there is nobody to send it
to. -/
def lastFault (p : Proxy Connection Request Response) : ProxyFault :=
  if p.server.connections = [] then .undefined .outOfRange else .nullResponse

omit [DecidableEq Connection] in
theorem Failed.main_eq (h : Failed p true) : p.main = .error p.lastFault := by
  cases h with
  | queued hcall hresponses =>
    obtain ⟨⟨conn, message⟩, hdata, hnull⟩ := List.map_eq_singleton_iff.1 hresponses
    obtain rfl : message = none := hnull
    unfold main lastFault
    rw [hcall]
    dsimp only
    unfold Server.sendResponse sendFirst
    rw [hdata]
    cases p.server.connections with
    | nil => rfl
    | cons target rest => rfl

/-- What is written stays as it is from there, and `main` makes at most one call more. -/
theorem Failed.run {queued : Bool} (h : Failed p queued)
    (hrun : later.foldlM advance (p, writes) = .ok (p', writes')) :
    forwarded writes' = forwarded writes ∧ returned writes' = returned writes ∧
      (∃ queued', Failed p' queued' ∧ (queued = true ∨ .main ∈ later → queued' = true)) ∧
      (queued = true → .main ∉ later) ∧
      later.Pairwise fun i j => ¬(i = .main ∧ j = .main) := by
  induction later generalizing p writes queued with
  | nil =>
    cases hrun
    refine ⟨rfl, rfl, ⟨queued, h, ?_⟩, fun _ => List.not_mem_nil, .nil⟩
    exact fun hqueued => hqueued.resolve_right List.not_mem_nil
  | cons step later ih =>
    rw [List.foldlM_cons] at hrun
    obtain ⟨⟨p₁, writes₁⟩, hfirst, hrest⟩ := bind_eq_ok_iff.1 hrun
    obtain ⟨⟨p₂, written⟩, hstep, hresult⟩ := bind_eq_ok_iff.1 hfirst
    cases hresult
    obtain ⟨rfl, hnext⟩ := h.step hstep
    have hforwarded : forwarded (writes ++ [⟨none, none⟩]) = forwarded writes := by
      rw [forwarded_concat]
      exact List.append_nil _
    have hreturned : returned (writes ++ [⟨none, none⟩]) = returned writes := by
      rw [returned_concat]
      exact List.append_nil _
    rcases hnext with ⟨hmain, hfailed⟩ | ⟨rfl, rfl, hfailed⟩
    · obtain ⟨hout, hback, ⟨queued', hlast, hmore⟩, hnone, hpairs⟩ := ih hfailed hrest
      refine ⟨hout.trans hforwarded, hback.trans hreturned, ⟨queued', hlast, ?_⟩,
        fun hqueued => ?_, ?_⟩
      · refine fun h => hmore (h.imp_right fun hmem => ?_)
        exact (List.mem_cons.1 hmem).resolve_left hmain.symm
      · rw [List.mem_cons, not_or]
        exact ⟨hmain.symm, hnone hqueued⟩
      · exact .cons (fun j _ hboth => hmain hboth.1) hpairs
    · obtain ⟨hout, hback, ⟨queued', hlast, hmore⟩, hnone, hpairs⟩ := ih hfailed hrest
      refine ⟨hout.trans hforwarded, hback.trans hreturned, ⟨queued', hlast, ?_⟩, nofun, ?_⟩
      · exact fun _ => hmore (.inl rfl)
      · exact .cons (fun j hj hboth => hnone rfl (hboth.2 ▸ hj)) hpairs

/-- Once the time is over while `Receive` waits, nothing is written any more, one request stays
without an answer, and `main` makes at most one call, which queues the null pointer: the call
after it is stopped. -/
theorem silent_after_expire (honly : OnlyAnswers connection (past ++ .expire :: later))
    (hpast : run connection past = .ok (p, writes))
    (hcall : p.call = .receive) (hqueue : p.queue = [])
    (h : run connection (past ++ .expire :: later) = .ok (p', writes')) :
    forwarded writes' = forwarded writes ∧ returned writes' = returned writes ∧
      (forwarded writes').length = (returned writes').length + 1 ∧
      (later.Pairwise fun i j => ¬(i = .main ∧ j = .main)) ∧
      (.main ∈ later → p'.main = .error p'.lastFault) := by
  have hexpire : p.expire =
      { p with connection := none, game := p.game.hangUp, call := .queueResponse none } := by
    unfold Proxy.expire
    rw [hcall, hqueue]
  have hresponses : p.server.responses = [] := by
    obtain ⟨unanswered, due, hstage, -⟩ := (relays_of_run honly.of_append hpast).exchange
    cases hstage with
    | resting h hq => exact hq.responses
    | asked request h hf hq hr => exact hr
    | lost request h hq => exact hq.responses
    | arrived response h hf hq hr => exact hr
    | held response h hq => exact hq.responses
    | _ => simp_all
  have hfailed : Failed p.expire false := by
    rw [hexpire]
    exact .held rfl hresponses
  have hrun := h
  rw [run_append hpast, List.foldlM_cons] at hrun
  obtain ⟨⟨p₁, writes₁⟩, hfirst, hrest⟩ := bind_eq_ok_iff.1 hrun
  cases hfirst
  obtain ⟨hout, hback, ⟨queued, hlast, hmain⟩, -, hpairs⟩ := hfailed.run hrest
  rw [forwarded_concat] at hout
  rw [returned_concat] at hback
  refine ⟨hout.trans (List.append_nil _), hback.trans (List.append_nil _), ?_, hpairs, ?_⟩
  · obtain ⟨unanswered, due, hstage, hforwarded, hreturned⟩ := (relays_of_run honly h).exchange
    have hone : unanswered.length = 1 ∧ due = [] := by
      cases hlast with
      | held hc hr => cases hstage <;> simp_all
      | queued hc hr => cases hstage <;> simp_all
    have hout := congrArg List.length hforwarded
    have hback := congrArg List.length hreturned
    rw [hone.2] at hback
    simp only [List.length_append, List.length_map, List.map_nil, List.length_nil] at hout hback
    omega
  · intro hmem
    rw [hmain (.inr hmem)] at hlast
    exact hlast.main_eq

/-- A game that hangs up with a request unanswered; a client asks once more before the null
pointer is queued, and the next call reads it. -/
theorem silent_after_expire_hangUp :
    let past : List (ProxyStep Nat Nat Nat) :=
      [.connect 1, .data 1 (some 7), .main, .main, .hangUp]
    let later : List (ProxyStep Nat Nat Nat) := [.data 1 (some 5), .main]
    ∃ (p p' : Proxy Nat Nat Nat) (writes writes' : List (Written Nat Nat (Option Nat))),
      run (some 9) past = .ok (p, writes) ∧
      run (some 9) (past ++ .expire :: later) = .ok (p', writes') ∧
      (forwarded writes').length = (returned writes').length + 1 ∧
      p'.main = .error .nullResponse := by
  intro past later
  have honly : OnlyAnswers (some 9) (past ++ .expire :: later) := by decide +kernel
  obtain ⟨⟨p, writes⟩, hpast, hcall, hqueue⟩ : ∃ result, run (some 9) past = .ok result ∧
      result.1.call = .receive ∧ result.1.queue = [] := ⟨_, rfl, rfl, rfl⟩
  obtain ⟨⟨p', writes'⟩, hrun, hthere⟩ : ∃ result,
      run (some 9) (past ++ .expire :: later) = .ok result ∧ result.1.server.connections = [1] :=
    ⟨_, rfl, rfl⟩
  obtain ⟨-, -, hone, -, hlast⟩ := silent_after_expire honly hpast hcall hqueue hrun
  refine ⟨p, p', writes, writes', hpast, hrun, hone, ?_⟩
  rw [hlast (by simp [later])]
  unfold lastFault
  rw [if_neg (by rw [hthere]; exact List.cons_ne_nil _ _)]

/-! ### Clients that take turns -/

/-- At most one client is there at a time, only it asks, and it stays for its answers. -/
structure TakeTurns (connection : Option Connection)
    (steps : List (ProxyStep Connection Request Response)) : Prop where
  alone : ∀ n ≤ steps.length, (stillOpen (steps.take n)).length ≤ 1
  asks : EachStep connection steps fun past _ step =>
    ∀ asked ∈ step.arrival, asked.1 ∈ stillOpen past
  stays : EachStep connection steps fun past result step =>
    step.isClose = true → (returned result.2).length = (received past).length

theorem TakeTurns.of_append (h : TakeTurns connection (past ++ later)) :
    TakeTurns connection past where
  alone n hn := by
    have hall := h.alone n (hn.trans (by simp))
    rwa [List.take_append_of_le_length hn] at hall
  asks := h.asks.of_append
  stays := h.stays.of_append

theorem TakeTurns.alone_now (h : TakeTurns connection past) : (stillOpen past).length ≤ 1 := by
  have hall := h.alone past.length le_rfl
  rwa [List.take_length] at hall

/-- A response goes to the first connection. -/
theorem head_of_response {step : ProxyStep Connection Request Response}
    {written : Written Connection Request (Option Response)} {write}
    (hstep : p.step step = .ok (p', written)) (hwrite : written.response = some write) :
    step = .main ∧ p.server.connections.head? = some write.conn := by
  cases step with
  | main =>
    refine ⟨rfl, ?_⟩
    cases calls_of_main hstep with
    | none hcall => cases hwrite
    | some hcall hrequests => cases hwrite
    | sendRequest hcall hserver =>
      obtain ⟨result, hresult, rfl, rfl⟩ := Server.step_sendRequest_iff.1 hserver
      cases hwrite
    | receive hcall => cases hwrite
    | queueResponse hcall => cases hwrite
    | sendResponse hcall hserver hmessage =>
      obtain ⟨result, hresult, rfl, rfl⟩ := Server.step_sendResponse_iff.1 hserver
      obtain ⟨target, htarget, rfl⟩ := Server.sendFirst_eq_ok_iff.1 hresult
      rw [Option.none_or] at htarget
      rw [htarget]
      dsimp only at hwrite
      cases hresponses : p.server.responses with
      | nil => rw [hresponses] at hwrite; cases hwrite
      | cons data rest => rw [hresponses] at hwrite; cases hwrite; rfl
  | _ => cases hstep; cases hwrite

/-- The clients that wait for an answer are the one that is there. -/
def Waits (steps : List (ProxyStep Connection Request Response))
    (writes : List (Written Connection Request (Option Response))) : Prop :=
  ∃ waiting, (received steps).map Prod.fst = (returned writes).map Write.conn ++ waiting ∧
    ∀ conn ∈ waiting, stillOpen steps = [conn]

/-- A response leaves to the client that has waited longest. -/
theorem Waits.respond (hwaits : Waits past writes)
    (honly : OnlyAnswers connection (past ++ [.main]))
    (hpast : run connection past = .ok (p, writes))
    {written : Written Connection Request (Option Response)} {write}
    (hstep : p.step .main = .ok (p', written)) (hresponse : written.response = some write)
    (hhead : p.server.connections.head? = some write.conn) :
    Waits (past ++ [.main]) (writes ++ [written]) := by
  obtain ⟨waiting, hsplit, hwaiting⟩ := hwaits
  have hrun : run connection (past ++ [.main]) = .ok (p', writes ++ [written]) := by
    rw [run_append hpast]
    exact bind_eq_ok_iff.2 ⟨_, bind_eq_ok_iff.2 ⟨_, hstep, rfl⟩, rfl⟩
  have hopen : stillOpen (past ++ [.main]) = stillOpen past := stillOpen_concat .main
  have hreceived : received (past ++ [.main]) = received past :=
    received_concat.trans (List.append_nil _)
  have hreturned : returned (writes ++ [written]) = returned writes ++ [write] := by
    rw [returned_concat, hresponse]
    rfl
  obtain ⟨conn, waiting, rfl⟩ : ∃ conn rest, waiting = conn :: rest := by
    refine List.exists_cons_of_ne_nil fun hnil => ?_
    have hlast : (returned (writes ++ [written]))[(returned writes).length]? = some write := by
      rw [hreturned]
      simp
    obtain ⟨request, -, -, hrequest, -⟩ := (relays_in_order honly hrun).2.2 _ _ hlast
    have hlt := (List.getElem?_eq_some_iff.1 hrequest).1
    have hlength := congrArg List.length hsplit
    rw [hreceived] at hlt
    simp only [hnil, List.append_nil, List.length_map] at hlength hlt
    omega
  have hfirst : write.conn = conn := by
    rw [(relays_of_run honly.of_append hpast).connections,
      hwaiting conn List.mem_cons_self] at hhead
    exact (Option.some.inj hhead).symm
  refine ⟨waiting, ?_, fun other hother => ?_⟩
  · rw [hreceived, hsplit, hreturned, List.map_append, List.append_assoc, ← hfirst]
    rfl
  · rw [hopen]
    exact hwaiting other (List.mem_cons_of_mem _ hother)

/-- Nobody asks and nobody is answered: those that wait must still be there. -/
theorem Waits.rest (hwaits : Waits past writes) {step : ProxyStep Connection Request Response}
    {written : Written Connection Request (Option Response)} (hresponse : written.response = none)
    (harrival : step.arrival = none)
    (hopen : ∀ conn, stillOpen past = [conn] → (returned writes).length < (received past).length →
      stillOpen (past ++ [step]) = [conn]) :
    Waits (past ++ [step]) (writes ++ [written]) := by
  obtain ⟨waiting, hsplit, hwaiting⟩ := hwaits
  refine ⟨waiting, ?_, fun conn hconn => hopen conn (hwaiting conn hconn) ?_⟩
  · rw [received_concat, harrival, returned_concat, hresponse]
    simpa using hsplit
  · have hlength := congrArg List.length hsplit
    have hpos := List.length_pos_of_mem hconn
    rw [List.length_append, List.length_map, List.length_map] at hlength
    omega

/-- A client that asks waits; it is the one that is there. -/
theorem Waits.ask (hwaits : Waits past writes) {conn : Connection} {request : Request}
    (hone : (stillOpen past).length ≤ 1) (hhere : conn ∈ stillOpen past)
    {written : Written Connection Request (Option Response)}
    (hresponse : written.response = none) :
    Waits (past ++ [.data conn (some request)]) (writes ++ [written]) := by
  obtain ⟨waiting, hsplit, hwaiting⟩ := hwaits
  have hopen : stillOpen (past ++ [.data conn (some request)]) = stillOpen past :=
    stillOpen_concat (.data conn (some request))
  have hconn : stillOpen past = [conn] := by
    have hpos := List.length_pos_of_mem hhere
    obtain ⟨other, hlist⟩ := List.length_eq_one_iff.1 (Nat.le_antisymm hone hpos)
    rw [hlist, List.mem_singleton] at hhere
    rw [hlist, hhere]
  refine ⟨waiting ++ [conn], ?_, fun other hother => ?_⟩
  · rw [received_concat, returned_concat, hresponse, List.map_append, hsplit, List.append_assoc]
    simp [ProxyStep.arrival]
  · rw [hopen]
    rcases List.mem_append.1 hother with hother | hother
    · exact hwaiting other hother
    · rw [List.mem_singleton.1 hother]
      exact hconn

theorem Waits.step (hwaits : Waits past writes) {step : ProxyStep Connection Request Response}
    (honly : OnlyAnswers connection (past ++ [step]))
    (hturns : TakeTurns connection (past ++ [step]))
    (hpast : run connection past = .ok (p, writes))
    {written : Written Connection Request (Option Response)}
    (hstep : p.step step = .ok (p', written)) :
    Waits (past ++ [step]) (writes ++ [written]) := by
  cases hresponse : written.response with
  | some write =>
    obtain ⟨rfl, hhead⟩ := head_of_response hstep hresponse
    exact hwaits.respond honly hpast hstep hresponse hhead
  | none =>
    have hopen : stillOpen (past ++ [step]) =
        step.change.toList.foldl Roster.note (stillOpen past) := stillOpen_concat step
    cases step with
    | connect conn =>
      refine hwaits.rest hresponse rfl fun other hother _ => ?_
      have hroom := hturns.alone_now
      rw [hopen, hother] at hroom
      simp [ProxyStep.change, Roster.note] at hroom
    | close conn =>
      refine hwaits.rest hresponse rfl fun other _ hlate => ?_
      exact absurd (hturns.stays.last hpast rfl) hlate.ne
    | data conn request =>
      cases request with
      | none => exact hwaits.rest hresponse rfl fun other hother _ => hopen.trans hother
      | some request =>
        have hhere : conn ∈ stillOpen past := hturns.asks.last hpast (conn, request) rfl
        exact hwaits.ask hturns.of_append.alone_now hhere hresponse
    | _ => exact hwaits.rest hresponse rfl fun other hother _ => hopen.trans hother

/-- Clients that take turns are each given the responses to their own requests. -/
theorem answers_asker (honly : OnlyAnswers connection steps)
    (hturns : TakeTurns connection steps) (h : run connection steps = .ok (p, writes)) :
    (returned writes).map Write.conn <+: (received steps).map Prod.fst := by
  have hwaits : Waits steps writes := by
    refine run_induction (I := fun past _ writes => OnlyAnswers connection past →
      TakeTurns connection past → Waits past writes) ?_ ?_ honly h honly hturns
    · exact fun _ _ => ⟨[], rfl, nofun⟩
    · intro past step p writes p' written hpast _ hstep hkept honly hturns
      exact (hkept honly.of_append hturns.of_append).step honly hturns hpast hstep
  obtain ⟨waiting, hsplit, -⟩ := hwaits
  exact ⟨waiting, hsplit.symm⟩

theorem stillOpen_eq : stillOpen steps =
    (steps.filterMap ProxyStep.change).foldl Roster.note [] :=
  (Roster.foldl_note _).symm

/-- Two clients, the second of which comes after the first has its two answers and has gone. -/
theorem answers_asker_two :
    let steps : List (ProxyStep Nat Nat Nat) := [.connect 1, .data 1 (some 7), .data 1 (some 5),
      .main, .main, .answer (some 8), .main, .main, .main, .main, .main, .answer (some 6), .main,
      .main, .main, .close 1, .connect 2, .data 2 (some 3), .main, .main, .answer (some 4), .main,
      .main, .main]
    OnlyAnswers (some 9) steps ∧ TakeTurns (some 9) steps ∧ ∃ (p : Proxy Nat Nat Nat)
      (writes : List (Written Nat Nat (Option Nat))), run (some 9) steps = .ok (p, writes) ∧
        returned writes = [⟨1, some 8⟩, ⟨1, some 6⟩, ⟨2, some 4⟩] ∧
        (returned writes).map Write.conn <+: [1, 1, 2] := by
  intro steps
  have honly : OnlyAnswers (some 9) steps := by decide +kernel
  have hturns : TakeTurns (some 9) steps := by
    refine ⟨?_, ?_, by decide +kernel⟩
    · simp only [stillOpen_eq]
      decide +kernel
    · simp only [stillOpen_eq]
      decide +kernel
  obtain ⟨⟨p, writes⟩, hrun, hreturned⟩ : ∃ result, run (some 9) steps = .ok result ∧
      returned result.2 = [⟨1, some 8⟩, ⟨1, some 6⟩, ⟨2, some 4⟩] := ⟨_, rfl, rfl⟩
  exact ⟨honly, hturns, p, writes, hrun, hreturned, answers_asker honly hturns hrun⟩

end Runs

end Proxy

end Sc2Api
