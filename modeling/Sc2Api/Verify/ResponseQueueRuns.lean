import Sc2Api.ResponseQueue
import Sc2Api.Verify.Wire

/-!
# Polling the response queue

When the flag that `PollResponse` reads agrees with the queue, over all interleavings
of the consumer with the threads that push responses. The receives of
`ProtoInterface` are runs of the queue.
-/

namespace Sc2Api

open Lib

namespace ResponseQueue

variable {α : Type} {s : ResponseQueue α}

/-- The flag agrees with the queue, between two pushes. -/
structure Sound (s : ResponseQueue α) : Prop where
  agrees : s.pushing = false → (s.hasResponse = true ↔ s.queue ≠ [])
  pushing : s.pushing = true → s.queue ≠ []
  popping : s.consumer = .popping → s.queue ≠ []

/-- Nothing has arrived since the wait timed out when the queue is cleared. -/
def ClearsNothing (s : ResponseQueue α) (step : QueueStep α) : Prop :=
  step = .clear → s.consumer = .disconnected → s.queue = [] ∧ s.pushing = false

instance [DecidableEq α] (s : ResponseQueue α) (step : QueueStep α) :
    Decidable (s.ClearsNothing step) :=
  inferInstanceAs (Decidable (_ → _ → _))

theorem sound_init : ({} : ResponseQueue α).Sound where
  agrees _ := by simp
  pushing h := by cases h
  popping h := by cases h

/-- Moving the consumer where it is not popping keeps the queue sound. -/
theorem Sound.move (h : s.Sound) {consumer : Consumer} (hne : consumer ≠ .popping) :
    ({ s with consumer } : ResponseQueue α).Sound :=
  ⟨h.agrees, h.pushing, fun hc => absurd hc hne⟩

/-- A step that moves the consumer where it is taken and changes nothing where it is not. -/
theorem Sound.moveIf (h : s.Sound) {taken : Prop} [Decidable taken] {consumer : Consumer}
    {result result' : QueueResult α} (hne : consumer ≠ .popping) :
    (if taken then ({ s with consumer }, result) else (s, result')).1.Sound := by
  split
  · exact h.move hne
  · exact h

theorem Sound.pop (h : s.Sound) (hpushing : s.pushing = false) {response : α}
    {queue : List α} (hqueue : s.queue = response :: queue) : (s.pop queue).Sound where
  agrees _ := by
    have hflag : s.hasResponse = true := (h.agrees hpushing).2 (by simp [hqueue])
    cases queue <;> simp [ResponseQueue.pop, hflag]
  pushing hp := by
    rw [show (s.pop queue).pushing = s.pushing from rfl, hpushing] at hp
    cases hp
  popping hc := by cases hc

theorem Sound.step (h : s.Sound) (step : QueueStep α) (hclears : s.ClearsNothing step) :
    (s.step step).1.Sound := by
  cases step with
  | receive => exact h.moveIf (by decide)
  | wake => exact h.moveIf (by decide)
  | expire => exact h.moveIf (by decide)
  | disconnect => exact h.moveIf (by decide)
  | clear =>
    unfold ResponseQueue.step
    dsimp only
    split
    next hconsumer =>
      obtain ⟨hqueue, hpushing⟩ := hclears rfl hconsumer
      have hsame : ({ s with queue := [], consumer := .outside } : ResponseQueue α) =
          { s with consumer := .outside } := by rw [← hqueue]
      rw [hsame]
      exact h.move (by decide)
    · exact h
  | popResponse => exact h.moveIf (by decide)
  | check =>
    unfold ResponseQueue.step
    dsimp only
    split
    · split
      · exact h.move (by decide)
      next hqueue => exact ⟨h.agrees, h.pushing, fun _ => by simpa using hqueue⟩
    · exact h
  | pop =>
    unfold ResponseQueue.step
    dsimp only
    split
    next hready =>
      cases hqueue : s.queue with
      | nil => exact h
      | cons response queue => exact h.pop (by simpa using hready.2) hqueue
    · exact h
  | pollResponse =>
    unfold ResponseQueue.step
    dsimp only
    split <;> exact h
  | push response =>
    unfold ResponseQueue.step
    dsimp only
    split
    · exact h
    · exact ⟨fun hp => by simp [push] at hp, fun _ => by simp [push], fun _ => by simp [push]⟩
  | pushed =>
    unfold ResponseQueue.step
    dsimp only
    split
    next hpushing =>
      exact ⟨fun _ => by simpa [ResponseQueue.pushed] using h.pushing hpushing,
        fun hp => by simp [ResponseQueue.pushed] at hp, h.popping⟩
    · exact h

/-- Where the flag is set the queue is not empty, even while a response is pushed. -/
theorem Sound.queue_ne_nil (h : s.Sound) (hflag : s.hasResponse = true) : s.queue ≠ [] := by
  cases hpushing : s.pushing with
  | true => exact h.pushing hpushing
  | false => exact (h.agrees hpushing).1 hflag

/-! ## Receiving what was polled -/

/-- A step of `PushResponse`. -/
def Pushes (step : QueueStep α) : Prop := step = .pushed ∨ ∃ response, step = .push response

theorem step_pushes {step : QueueStep α} (hstep : Pushes step) :
    (s.step step).1.consumer = s.consumer ∧
      ∃ responses, (s.step step).1.queue = s.queue ++ responses := by
  rcases hstep with rfl | ⟨response, rfl⟩
  · unfold ResponseQueue.step
    dsimp only
    split
    · exact ⟨rfl, [], (List.append_nil _).symm⟩
    · exact ⟨rfl, [], (List.append_nil _).symm⟩
  · unfold ResponseQueue.step
    dsimp only
    split
    · exact ⟨rfl, [], (List.append_nil _).symm⟩
    · exact ⟨rfl, [response], rfl⟩

/-- What others push leaves the front of the queue where it is. -/
theorem final_pushes {steps : List (QueueStep α)} (hsteps : ∀ step ∈ steps, Pushes step) :
    ((responseQueue α).final s steps).consumer = s.consumer ∧
      ∃ responses, ((responseQueue α).final s steps).queue = s.queue ++ responses := by
  induction steps generalizing s with
  | nil => exact ⟨rfl, [], (List.append_nil _).symm⟩
  | cons step steps ih =>
    obtain ⟨hconsumer, responses, hqueue⟩ := step_pushes (s := s) (hsteps step List.mem_cons_self)
    obtain ⟨hconsumer', responses', hqueue'⟩ := ih (s := (s.step step).1)
      fun step' h => hsteps step' (List.mem_cons_of_mem _ h)
    refine ⟨hconsumer'.trans hconsumer, responses ++ responses', hqueue'.trans ?_⟩
    rw [hqueue, List.append_assoc]

/-- A `Receive` that starts with responses in the queue does not time out, whatever is
pushed meanwhile. -/
theorem receive_expires_not (hconsumer : s.consumer = .outside) (hqueue : s.queue ≠ [])
    {steps : List (QueueStep α)} (hsteps : ∀ step ∈ steps, Pushes step) :
    ((responseQueue α).final s (.receive :: steps)).step .expire =
      ((responseQueue α).final s (.receive :: steps), .none) := by
  have hreceive : (s.step .receive).1 = { s with consumer := .waiting } := by
    simp [ResponseQueue.step, hconsumer]
  obtain ⟨-, responses, hfinal⟩ := final_pushes (s := (s.step .receive).1) hsteps
  have hne : ((responseQueue α).final s (.receive :: steps)).queue.isEmpty = false := by
    rw [show ((responseQueue α).final s (.receive :: steps)).queue = _ from hfinal, hreceive]
    simpa using fun h => absurd h hqueue
  generalize (responseQueue α).final s (.receive :: steps) = t at hne ⊢
  simp [ResponseQueue.step, hne]

/-- It returns the first of them. -/
theorem receive_returns (hconsumer : s.consumer = .outside) (hpushing : s.pushing = false)
    {response : α} {queue : List α} (hqueue : s.queue = response :: queue) :
    (responseQueue α).outputs s [.receive, .wake, .check, .pop] =
      [.none, .none, .none, .returned (some response)] := by
  simp [responseQueue, ResponseQueue.step, hconsumer, hpushing, hqueue]

end ResponseQueue

/-! ## The receives of a client -/

/-- The queue of a connection, for a consumer at some point of its steps. -/
def Connection.responseQueue (c : Connection) (consumer : Consumer := .outside) :
    ResponseQueue GameResponse where
  queue := c.queue
  hasResponse := c.hasResponse
  consumer := consumer

open ResponseQueue

/-- What arrives on a connection is pushed, wherever the consumer is. -/
theorem Connection.arrive_run (c : Connection) (consumer : Consumer) (arrival : Arrival) :
    ∃ steps, (∀ step ∈ steps, Pushes step) ∧
      (Sc2Api.responseQueue GameResponse).final (c.responseQueue consumer) steps =
        (c.arrive arrival).responseQueue consumer := by
  have hpush (c' : Connection) (hqueue : c'.queue = c.queue) (response : GameResponse) :
      ∃ steps, (∀ step ∈ steps, Pushes step) ∧
        (Sc2Api.responseQueue GameResponse).final (c.responseQueue consumer) steps =
          (c'.pushResponse response).responseQueue consumer := by
    refine ⟨[.push response, .pushed], ?_, ?_⟩
    · intro step hstep
      rcases List.mem_cons.1 hstep with rfl | hstep
      · exact .inr ⟨response, rfl⟩
      · exact .inl (List.mem_singleton.1 hstep)
    · unfold Connection.responseQueue Connection.pushResponse
      rw [hqueue]
      rfl
  have hnothing : ∃ steps, (∀ step ∈ steps, Pushes step) ∧
      (Sc2Api.responseQueue GameResponse).final (c.responseQueue consumer) steps =
        c.responseQueue consumer := ⟨[], by simp, rfl⟩
  cases arrival with
  | answer answer =>
    unfold Connection.arrive
    dsimp only
    split
    · exact hnothing
    · exact hpush _ rfl _
  | closed => exact hnothing
  | lateAnswer i answer =>
    unfold Connection.arrive
    dsimp only
    split
    · exact hpush _ rfl _
    · exact hnothing
  | lateClosed i => exact hnothing

theorem Connection.foldl_arrive_run (c : Connection) (consumer : Consumer)
    (arrivals : List Arrival) : ∃ steps, (∀ step ∈ steps, Pushes step) ∧
      (Sc2Api.responseQueue GameResponse).final (c.responseQueue consumer) steps =
        (arrivals.foldl Connection.arrive c).responseQueue consumer := by
  induction arrivals generalizing c with
  | nil => exact ⟨[], by simp, rfl⟩
  | cons arrival arrivals ih =>
    obtain ⟨steps, hpushes, hfirst⟩ := c.arrive_run consumer arrival
    obtain ⟨steps', hpushes', hrest⟩ := ih (c.arrive arrival)
    refine ⟨steps ++ steps', fun step hstep => ?_, ?_⟩
    · exact (List.mem_append.1 hstep).elim (hpushes step) (hpushes' step)
    · rw [Machine.final_append, hfirst, hrest]
      rfl

namespace ProtoInterface

variable (p : ProtoInterface)

/-- A `Receive` of the model is one of the queue, with what arrives during the wait and
before the queue is cleared. -/
theorem receive_run : ∃ waiting closing, (∀ step ∈ waiting ++ closing, Pushes step) ∧
    ∃ steps ∈ [[.wake, .check, .pop], .expire :: closing ++ [.disconnect, .clear]],
      (responseQueue GameResponse).final p.connection.responseQueue
          (.receive :: waiting ++ steps) = p.receive.2.connection.responseQueue ∧
      ((responseQueue GameResponse).outputs p.connection.responseQueue
          (.receive :: waiting ++ steps)).getLast? = some (.returned p.receive.1) := by
  obtain ⟨waiting, hwaiting, harrived⟩ :=
    p.connection.foldl_arrive_run .waiting p.world.deliveries.head.waiting
  obtain ⟨closing, hclosing, hclosed⟩ :=
    p.awaited.foldl_arrive_run .timedOut p.world.deliveries.head.closing
  have hpushes : ∀ step ∈ waiting ++ closing, Pushes step := fun step hstep =>
    (List.mem_append.1 hstep).elim (hwaiting step) (hclosing step)
  have hstart : (responseQueue GameResponse).final p.connection.responseQueue
      (.receive :: waiting) = p.awaited.responseQueue .waiting := harrived
  refine ⟨waiting, closing, hpushes, ?_⟩
  rcases p.receive_cases with ⟨response, queue, hqueue, hfst, hline⟩ | ⟨hqueue, hfst, hline⟩
  · have hconnection : p.receive.2.connection = p.awaited.popResponse queue :=
      congrArg Line.connection hline
    refine ⟨_, List.mem_cons_self, ?_, ?_⟩
    · rw [Machine.final_append, hstart, hconnection]
      unfold Connection.responseQueue Connection.popResponse
      cases queue <;>
        simp [responseQueue, ResponseQueue.step, ResponseQueue.pop, hqueue]
    · rw [Machine.outputs_append, hstart, hfst, List.getLast?_append]
      unfold Connection.responseQueue
      simp [responseQueue, ResponseQueue.step, hqueue]
  · have hconnection : p.receive.2.connection = p.dropped := congrArg Line.connection hline
    have hexpire : p.awaited.responseQueue .timedOut =
        ((p.awaited.responseQueue .waiting).step .expire).1 := by
      unfold Connection.responseQueue
      simp [ResponseQueue.step, hqueue]
    have hrest : (responseQueue GameResponse).final (p.awaited.responseQueue .waiting)
        (.expire :: closing) = (p.world.deliveries.head.closing.foldl Connection.arrive
          p.awaited).responseQueue .timedOut := by
      rw [← hclosed, hexpire]
      rfl
    refine ⟨_, List.mem_cons_of_mem _ List.mem_cons_self, ?_, ?_⟩
    · rw [Machine.final_append, hstart, List.cons_append, ← List.cons_append,
        Machine.final_append, hrest, hconnection]
      rfl
    · have hcleared : (responseQueue GameResponse).outputs
          ((p.world.deliveries.head.closing.foldl Connection.arrive
            p.awaited).responseQueue .timedOut) [.disconnect, .clear] =
          [.none, .returned none] := rfl
      rw [Machine.outputs_append, hstart, hfst, List.cons_append, ← List.cons_append,
        Machine.outputs_append, hrest, hcleared, List.getLast?_append, List.getLast?_append]
      rfl

/-- Polling reads the flag after what has arrived. -/
theorem pollResponse_run : ∃ arrivals, (∀ step ∈ arrivals, Pushes step) ∧
    (responseQueue GameResponse).final p.connection.responseQueue arrivals =
      p.pollResponse.2.connection.responseQueue ∧
    (p.pollResponse.2.connection.responseQueue.step .pollResponse).2 =
      .polled p.pollResponse.1 := by
  obtain ⟨arrivals, hpushes, harrived⟩ :=
    p.connection.foldl_arrive_run .outside p.world.polls.head
  have hconnection : p.pollResponse.2.connection =
      p.world.polls.head.foldl Connection.arrive p.connection :=
    congrArg Line.connection p.pollResponse_spec.2
  refine ⟨arrivals, hpushes, harrived.trans (by rw [hconnection]), ?_⟩
  rw [p.pollResponse_spec.1, hconnection]
  rfl

end ProtoInterface

/-! ## Runs -/

/-- Unless something arrives between the end of a wait in vain and the clearing of the
queue, polling tells whether there is a response, and a `Receive` after a poll that
says so returns one without waiting. -/
theorem poll_agrees_with_queue {α : Type} (steps : List (QueueStep α))
    (hsteps : (responseQueue α).Along ResponseQueue.ClearsNothing {} steps)
    (hconsumer : ((responseQueue α).final {} steps).consumer = .outside)
    (hpushing : ((responseQueue α).final {} steps).pushing = false) :
    (((responseQueue α).final {} steps).step .pollResponse).2 =
        .polled (!((responseQueue α).final {} steps).queue.isEmpty) ∧
      ((((responseQueue α).final {} steps).step .pollResponse).2 = .polled true →
        (∃ response, (responseQueue α).outputs ((responseQueue α).final {} steps)
            [.receive, .wake, .check, .pop] =
          [.none, .none, .none, .returned (some response)]) ∧
        ∀ steps', (∀ step ∈ steps', ResponseQueue.Pushes step) →
          ((responseQueue α).final ((responseQueue α).final {} steps)
              (.receive :: steps')).step .expire =
            ((responseQueue α).final ((responseQueue α).final {} steps)
              (.receive :: steps'), .none)) := by
  have hsound : ((responseQueue α).final {} steps).Sound :=
    Machine.invariant (C := ResponseQueue.ClearsNothing)
      (fun _ step h hclears => h.step step hclears) ResponseQueue.sound_init hsteps
  generalize (responseQueue α).final {} steps = s at hsound hconsumer hpushing ⊢
  have hpoll : (s.step .pollResponse).2 = .polled s.hasResponse := by
    simp [ResponseQueue.step, hconsumer]
  have hagrees : s.hasResponse = !s.queue.isEmpty := by
    have hiff := hsound.agrees hpushing
    cases hflag : s.hasResponse <;> cases hqueue : s.queue <;> simp_all
  refine ⟨hpoll.trans (congrArg _ hagrees), fun htrue => ?_⟩
  rw [hpoll] at htrue
  have hne := hsound.queue_ne_nil (QueueResult.polled.inj htrue)
  obtain ⟨response, queue, hqueue⟩ := List.exists_cons_of_ne_nil hne
  exact ⟨⟨response, ResponseQueue.receive_returns hconsumer hpushing hqueue⟩,
    fun steps' hpushes => ResponseQueue.receive_expires_not hconsumer hne hpushes⟩

/-- A response is received, the next wait is in vain and clears the queue, and two more come. -/
def pushedLater : List (QueueStep Nat) :=
  [.push 3, .pushed, .receive, .wake, .check, .pop, .receive, .expire, .disconnect, .clear,
    .push 4, .pushed, .push 5, .pushed]

theorem poll_agrees_with_queue_pushed :
    (((responseQueue Nat).final {} pushedLater).step .pollResponse).2 = .polled true ∧
      (((responseQueue Nat).final {} pushedLater).step .pollResponse).2 =
        .polled (!((responseQueue Nat).final {} pushedLater).queue.isEmpty) ∧
      ∃ response, (responseQueue Nat).outputs ((responseQueue Nat).final {} pushedLater)
          [.receive, .wake, .check, .pop] =
        [.none, .none, .none, .returned (some response)] := by
  have hpolled : (((responseQueue Nat).final {} pushedLater).step .pollResponse).2 =
      .polled true := by decide
  obtain ⟨hpoll, hreceives⟩ := poll_agrees_with_queue pushedLater (by decide) (by decide)
    (by decide)
  exact ⟨hpolled, hpoll, (hreceives hpolled).1⟩

/-- A response that arrives when the wait has just timed out is cleared away, but the
flag stays. -/
theorem poll_disagrees_with_queue :
    let s := (responseQueue Nat).final {}
      [.receive, .expire, .push 4, .pushed, .disconnect, .clear]
    s.consumer = .outside ∧ s.pushing = false ∧ s.queue = [] ∧
      (s.step .pollResponse).2 = .polled true := by
  decide

end Sc2Api
