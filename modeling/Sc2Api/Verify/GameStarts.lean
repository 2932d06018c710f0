import Sc2Api.Verify.Fetching
import Sc2Api.Verify.GameEndRuns
import Sc2Api.Verify.UpdateFrames

/-!
# What a client knows when a game starts

`OnGameStart` is called in three places. Two of them fetch an observation before it,
and look at no result; `Restart` fetches none.
-/

namespace Sc2Api

open Lib

/-! ## Conversion -/

namespace ObservationImp

/-- All of an observation is converted exactly when none of its optional parts is
missing. -/
theorem updateObservation_fst (s : ObservationImp) (orders : UpdateOrders)
    (o : Proto.Observation) (r : Proto.ResponseObservation) :
    (s.updateObservation orders o r).1 = decide o.Complete := by
  unfold updateObservation convertScore
  cases hscore : o.score with
  | none => simp [Proto.Observation.Complete, hscore]
  | some score =>
    cases hraw : o.rawData with
    | none => simp [Proto.Observation.Complete, Proto.Observation.upgradeIds?, hscore, hraw]
    | some raw =>
      cases hplayer : raw.player with
      | none =>
        simp [Proto.Observation.Complete, Proto.Observation.upgradeIds?, hscore, hraw, hplayer]
      | some player =>
        cases hcamera : player.camera <;>
          simp [Proto.Observation.Complete, Proto.Observation.upgradeIds?, hscore, hraw,
            hplayer, hcamera]

end ObservationImp

namespace Control

variable {c : Control} {o : Proto.Observation}

/-- `GetObservation` receives the observation and converts all of it. -/
def Converts (c : Control) (o : Proto.Observation) : Prop :=
  ∃ r orders table, c.reported = some r ∧ r.observation = some o ∧
    { c.imp.observationImp with abilityTable := table }.updateObservation orders o r =
      (true, c.getObservation.2.imp.observationImp)

/-- The request of `GetObservation` is answered, by an observation with every part. -/
def AnswersComplete (c : Control) : Prop :=
  ∃ r ∈ c.reported, ∃ o ∈ r.observation, o.Complete

instance (c : Control) : Decidable c.AnswersComplete :=
  inferInstanceAs (Decidable (∃ r ∈ c.reported, ∃ o ∈ r.observation, o.Complete))

theorem Converts.complete (h : c.Converts o) : o.Complete := by
  obtain ⟨r, orders, table, -, -, hupdate⟩ := h
  have hfst := ObservationImp.updateObservation_fst
    { c.imp.observationImp with abilityTable := table } orders o r
  rw [hupdate] at hfst
  exact of_decide_eq_true hfst.symm

theorem Converts.currentGameLoop (h : c.Converts o) :
    c.getObservation.2.imp.observationImp.currentGameLoop = o.loop := by
  have hcomplete := h.complete
  obtain ⟨r, orders, table, -, -, hupdate⟩ := h
  have htaken := ObservationImp.updateObservation_takenIn
    (s := { c.imp.observationImp with abilityTable := table }) hcomplete.1 orders r
  rw [hupdate] at htaken
  exact htaken.currentGameLoop

/-- The units that exist afterwards are those of the observation. -/
theorem Converts.units (h : c.Converts o) (hpool : c.imp.observationImp.unitPool.Tagged) :
    c.getObservation.2.imp.eventState.units = o.viewAt := by
  obtain ⟨score, hscore⟩ := Option.isSome_iff_exists.1 h.complete.1
  obtain ⟨raw, hraw⟩ : ∃ raw, o.rawData = some raw := by
    rcases Option.eq_none_or_eq_some o.rawData with hnone | hsome
    · exact absurd h.complete.2 (by simp [Proto.Observation.upgradeIds?, hnone])
    · exact hsome
  obtain ⟨r, orders, table, -, -, hupdate⟩ := h
  obtain ⟨-, hstate⟩ := updateObservation_spec
    (s := { c.imp.observationImp with abilityTable := table }) hpool orders o r [] []
  rw [hupdate] at hstate
  refine (congrArg EventState.units hstate).trans ?_
  unfold EventState.observe
  simp only [hscore, hraw, Option.isNone_some, Bool.false_eq_true, if_false]
  split <;> rfl

theorem exists_converts_iff : (∃ o, c.Converts o) ↔ c.AnswersComplete := by
  constructor
  · rintro ⟨o, hconverts⟩
    have hcomplete := hconverts.complete
    obtain ⟨r, orders, table, hreported, hobserved, -⟩ := hconverts
    exact ⟨r, hreported, o, hobserved, hcomplete⟩
  · rintro ⟨r, hreported, o, hobserved, hcomplete⟩
    cases c.getObservation_fetched with
    | nothing hnone => exact absurd (hnone.symm.trans hreported) (by simp)
    | observation r' o' orders table hreported' hobserved' hupdate =>
      obtain rfl : r' = r := Option.some.inj (hreported'.symm.trans hreported)
      obtain rfl : o' = o := Option.some.inj (hobserved'.symm.trans hobserved)
      refine ⟨o', r', orders, table, hreported', hobserved', Prod.ext ?_ hupdate.symm⟩
      rw [ObservationImp.updateObservation_fst]
      exact decide_eq_true hcomplete

end Control

/-! ## The three ways -/

/-- `GetObservation` of one client, in a walk over all. -/
def Control.fetch (c : Control) : Control := { c.getObservation.2 with calls := [] }

namespace CoordinatorImp

/-- `JoinGame` with its requests sent. -/
def requested (c : CoordinatorImp) : CoordinatorImp := (c.requestJoinGames c.agents 0).2

/-- `JoinGame` with its requests sent, before it checks for errors. -/
def waited (c : CoordinatorImp) : CoordinatorImp :=
  c.requested.forAgents fun a => { a with control := a.control.waitJoinGame.2 }

/-- `JoinGame` after that check, when it finds none. -/
def ready (c : CoordinatorImp) : CoordinatorImp :=
  c.waited.forAgents fun a =>
    { a with control := a.control.useGeneralizedAbility c.waited.useGeneralizedAbilityId }

/-- `JoinGame` before it calls `OnGameStart` on the first agent. -/
def fullStarted (c : CoordinatorImp) : CoordinatorImp :=
  (c.ready.forAgents fun a => { a with control := a.control.getObservation.2 }).forAgents
    (·.callback .onGameFullStart)

/-- `JoinGame` before it calls `OnGameStart` on the agent whose turn it is. -/
def beforeStart (c : CoordinatorImp) (turn : Nat) : CoordinatorImp :=
  (c.requested.agents.take turn).foldl
    (fun c i => c.onAgent i (·.callback .onGameStart)) c.fullStarted

end CoordinatorImp

/-- A call that may start a game; of `JoinGame`, the turn of one agent. -/
inductive GameStartCall
  | joinGame (c : CoordinatorImp) (turn : Nat)
  | waitForReplay (r : ReplayObserver)
  | restart (a : Agent)

/-- A call of `OnGameStart`: the client with the response that starts the game, how often
`GetObservation` is called on it from there, and the client in the callback. -/
structure GameStart where
  started : Control
  fetches : Nat
  shown : Control

namespace GameStartCall

/-- The call of `OnGameStart`, if there is one. -/
def start : GameStartCall → Option GameStart
  | joinGame c turn =>
    if c.requested.exited ∨ c.waited.failedAgents ≠ [] then none
    else c.requested.agents[turn]?.map fun i => {
      started := (c.ready.agentOf i).control
      fetches := c.requested.agents.count i
      shown := ((c.beforeStart turn).agentOf i).control }
  | waitForReplay r =>
    let (response, control) := r.control.waitForResponse
    match response with
    | none => none
    | some response =>
      if response.case ≠ .startReplay ∨ response.answer.responseError ∨ !control.isInGame ∨
          r.replayInfo.replayPath = "" then none
      else some { started := control, fetches := 1, shown := control.getObservation.2 }
  | restart a =>
    let (response, control) := a.control.exchange .restartGame
    match response with
    | none => none
    | some response =>
      if response.case ≠ .restartGame ∨ response.answer.responseError then none
      else some { started := control, fetches := 0, shown := control }

/-- An observation that is requested after the start is answered, with every part. -/
def AnswersComplete : GameStartCall → Prop
  | joinGame c turn => ∃ i ∈ c.requested.agents[turn]?, ∃ n < c.requested.agents.count i,
      (Control.fetch^[n] (c.ready.agentOf i).control).AnswersComplete
  | waitForReplay r => r.control.waitForResponse.2.AnswersComplete
  | restart _ => False

end GameStartCall

/-- An observation is received and converted after the response that starts the game, and
what the client shows in the callback is what that and later ones made of it. -/
def GameStart.Current (s : GameStart) : Prop :=
  ∃ n < s.fetches, ∃ o, (Control.fetch^[n] s.started).Converts o ∧
    s.shown.imp.observationImp = (Control.fetch^[s.fetches - (n + 1)]
      (Control.fetch^[n] s.started).fetch).imp.observationImp

/-! ## The callbacks -/

namespace CoordinatorImp

variable {c : CoordinatorImp}

/-- `JoinGame` goes on to `OnGameStart` exactly when it neither exits nor finds errors. -/
theorem joinGame_eq : c.joinGame.1 = false ∧ (c.requested.exited ∨ c.waited.failedAgents ≠ []) ∨
    ¬ (c.requested.exited ∨ c.waited.failedAgents ≠ []) ∧ c.joinGame =
      (true, (c.fullStarted.forAgents (·.callback .onGameStart)).forAgents (·.issueEvents.2)) := by
  unfold joinGame
  dsimp only
  split
  next hexited => exact .inl ⟨rfl, .inl hexited⟩
  next hexited =>
    unfold enterGame
    dsimp only
    by_cases hfailed : c.waited.failedAgents = []
    · refine .inr ⟨not_or.2 ⟨hexited, not_not.2 hfailed⟩, ?_⟩
      have hfailed' : (c.requested.forAgents fun a =>
        { a with control := a.control.waitJoinGame.2 }).failedAgents = [] := hfailed
      unfold requested at hfailed'
      rw [hfailed', if_neg (by simp)]
      rfl
    · exact .inl ⟨congrArg Prod.fst (if_pos hfailed), .inr hfailed⟩

theorem agents_waited : c.waited.agents = c.requested.agents :=
  (sameObservers_foldl _ _).agents

theorem agents_ready : c.ready.agents = c.requested.agents :=
  (sameObservers_foldl _ _).agents.trans agents_waited

theorem agents_fullStarted : c.fullStarted.agents = c.requested.agents :=
  (sameObservers_foldl _ _).agents.trans ((sameObservers_foldl _ _).agents.trans agents_ready)

/-- The turn of one agent in the walk of `OnGameStart`. -/
theorem forAgents_onGameStart {turn : Nat} {i : AgentId}
    (hi : c.requested.agents[turn]? = some i) :
    c.fullStarted.forAgents (·.callback .onGameStart) =
      (c.requested.agents.drop (turn + 1)).foldl
        (fun c i => c.onAgent i (·.callback .onGameStart))
        ((c.beforeStart turn).onAgent i (·.callback .onGameStart)) := by
  obtain ⟨hlt, hi⟩ := List.getElem?_eq_some_iff.1 hi
  have hsplit : c.requested.agents =
      c.requested.agents.take turn ++ i :: c.requested.agents.drop (turn + 1) := by
    rw [← hi, ← List.drop_eq_getElem_cons hlt, List.take_append_drop]
  unfold forAgents
  rw [agents_fullStarted]
  conv_lhs => rw [hsplit]
  rw [List.foldl_append]
  rfl

/-- Callbacks do not touch what the client knows of its game. -/
theorem observationImp_callbacks (event : ClientEvent) (n : Nat) (a : Agent) :
    ((fun a => (a.callback event).drained)^[n] a).control.imp.observationImp =
      a.control.imp.observationImp := by
  induction n generalizing a with
  | zero => rfl
  | succ n ih =>
    rw [Function.iterate_succ_apply, ih]
    exact (a.callback_waits event).observationImp

theorem control_fetches (n : Nat) (a : Agent) :
    ((fun a : Agent => ({ a with control := a.control.getObservation.2 } : Agent).drained)^[n]
      a).control = Control.fetch^[n] a.control := by
  induction n generalizing a with
  | zero => rfl
  | succ n ih =>
    rw [Function.iterate_succ_apply, Function.iterate_succ_apply, ih]
    rfl

/-- What an agent shows in `OnGameStart` is what the observations before it made. -/
theorem observationImp_beforeStart (turn : Nat) (i : AgentId) :
    ((c.beforeStart turn).agentOf i).control.imp.observationImp =
      (Control.fetch^[c.requested.agents.count i]
        (c.ready.agentOf i).control).imp.observationImp := by
  unfold beforeStart
  rw [agentOf_foldl, observationImp_callbacks]
  unfold fullStarted forAgents
  rw [agentOf_foldl, observationImp_callbacks, agentOf_foldl, control_fetches, agents_ready]

end CoordinatorImp

namespace GameStartCall

/-- `WaitForReplay` calls `OnGameStart` as `start` says. -/
theorem waitForReplay_eq (r : ReplayObserver) :
    match (GameStartCall.waitForReplay r).start with
    | some s => r.waitForReplay.2 = { r with control := s.shown }.callback .onGameStart
    | none => r.waitForReplay.2 = { r with control := r.control.waitForResponse.2 } := by
  unfold start ReplayObserver.waitForReplay
  dsimp only
  cases r.control.waitForResponse.1 with
  | none => rfl
  | some response =>
    dsimp only
    by_cases hcase : response.case ≠ .startReplay
    · rw [if_pos hcase, if_pos (.inl hcase)]
    · rw [if_neg hcase]
      by_cases herror : response.answer.responseError = true
      · rw [if_pos herror, if_pos (.inr (.inl herror))]
      · rw [if_neg herror]
        cases hin : r.control.waitForResponse.2.isInGame with
        | false =>
          rw [if_pos (.inr (.inr (.inl rfl)))]
          rfl
        | true =>
          by_cases hpath : r.replayInfo.replayPath = ""
          · rw [if_pos hpath, if_pos (.inr (.inr (.inr hpath)))]
            rfl
          · rw [if_neg hpath, if_neg (by simp [hcase, herror, hpath])]
            rfl

/-- `Restart` calls `OnGameStart` as `start` says. -/
theorem restart_eq (a : Agent) :
    match (GameStartCall.restart a).start with
    | some s => a.restart.2 = { a with control := s.shown }.callback .onGameStart
    | none => a.restart.2 = { a with control := (a.control.exchange .restartGame).2 } := by
  unfold start Agent.restart
  dsimp only
  cases (a.control.exchange .restartGame).1 with
  | none => rfl
  | some response =>
    dsimp only
    by_cases hcase : response.case ≠ .restartGame
    · rw [if_pos hcase, if_pos (.inl hcase)]
    · rw [if_neg hcase]
      by_cases herror : response.answer.responseError = true
      · rw [if_pos herror, if_pos (.inr herror)]
      · rw [if_neg herror, if_neg (by simp [hcase, herror])]

variable {s : GameStart}

theorem start_joinGame {c : CoordinatorImp} {turn : Nat}
    (h : (GameStartCall.joinGame c turn).start = some s) :
    ∃ i ∈ c.requested.agents[turn]?, s = {
      started := (c.ready.agentOf i).control
      fetches := c.requested.agents.count i
      shown := ((c.beforeStart turn).agentOf i).control } := by
  unfold start at h
  dsimp only at h
  split at h
  · cases h
  · obtain ⟨i, hi, rfl⟩ := Option.map_eq_some_iff.1 h
    exact ⟨i, hi, rfl⟩

theorem start_waitForReplay {r : ReplayObserver}
    (h : (GameStartCall.waitForReplay r).start = some s) : s = {
      started := r.control.waitForResponse.2
      fetches := 1
      shown := r.control.waitForResponse.2.getObservation.2 } := by
  unfold start at h
  dsimp only at h
  split at h
  · cases h
  · split at h
    · cases h
    · exact (Option.some.inj h).symm

theorem start_restart {a : Agent} (h : (GameStartCall.restart a).start = some s) : s = {
      started := (a.control.exchange .restartGame).2
      fetches := 0
      shown := (a.control.exchange .restartGame).2 } := by
  unfold start at h
  dsimp only at h
  split at h
  · cases h
  · split at h
    · cases h
    · exact (Option.some.inj h).symm

variable {call : GameStartCall}

/-- What the client shows in the callback is what its observations after the start made
of it. -/
theorem shown_eq (h : call.start = some s) :
    s.shown.imp.observationImp = (Control.fetch^[s.fetches] s.started).imp.observationImp := by
  cases call with
  | joinGame c turn =>
    obtain ⟨i, -, rfl⟩ := start_joinGame h
    exact c.observationImp_beforeStart turn i
  | waitForReplay r =>
    obtain rfl := start_waitForReplay h
    rfl
  | restart a =>
    obtain rfl := start_restart h
    rfl

/-- The observations that are requested between the start and the callback. -/
theorem answersComplete_iff (h : call.start = some s) :
    call.AnswersComplete ↔ ∃ n < s.fetches, (Control.fetch^[n] s.started).AnswersComplete := by
  cases call with
  | joinGame c turn =>
    obtain ⟨i, hi, rfl⟩ := start_joinGame h
    obtain hi : c.requested.agents[turn]? = some i := hi
    unfold AnswersComplete
    simp only [hi, Option.mem_def, Option.some.injEq, exists_eq_left']
  | waitForReplay r =>
    obtain rfl := start_waitForReplay h
    constructor
    · exact fun hanswers => ⟨0, Nat.one_pos, hanswers⟩
    · rintro ⟨n, hn, hanswers⟩
      obtain rfl : n = 0 := Nat.lt_one_iff.1 hn
      exact hanswers
  | restart a =>
    obtain rfl := start_restart h
    constructor
    · exact False.elim
    · rintro ⟨n, hn, -⟩
      exact absurd hn (Nat.not_lt_zero n)

end GameStartCall

/-- A client shows the game that starts exactly when an observation is requested in
between, and answered with every part: never after `Restart`. -/
theorem game_starts_current (call : GameStartCall) (s : GameStart) (h : call.start = some s) :
    s.Current ↔ call.AnswersComplete := by
  rw [GameStartCall.answersComplete_iff h]
  constructor
  · rintro ⟨n, hn, o, hconverts, -⟩
    exact ⟨n, hn, Control.exists_converts_iff.1 ⟨o, hconverts⟩⟩
  · rintro ⟨n, hn, hanswers⟩
    obtain ⟨o, hconverts⟩ := Control.exists_converts_iff.2 hanswers
    refine ⟨n, hn, o, hconverts, ?_⟩
    rw [GameStartCall.shown_eq h, ← Function.iterate_succ_apply' Control.fetch,
      ← Function.iterate_add_apply, Nat.sub_add_cancel hn]

/-! ## Two starts -/

/-- A game at a loop, which answers everything. -/
def playWorlds (loop : GameLoop) : Worlds where
  agents _ := { deliveries := .const { waiting := [.answer {
    status := some .inGame
    observation := { observation := some (.full loop [.idleOwn 1] [] []) } }] } }

/-- The first observation of a game that is joined arrives. -/
theorem game_starts_current_joined :
    ∃ s, (GameStartCall.joinGame ((joinedGame 1 {}).inWorlds (playWorlds 0)) 0).start = some s ∧
      s.Current := by
  obtain ⟨s, hs⟩ : ∃ s, (GameStartCall.joinGame
      ((joinedGame 1 {}).inWorlds (playWorlds 0)) 0).start = some s :=
    Option.isSome_iff_exists.1 (by decide +kernel)
  exact ⟨s, hs, (game_starts_current _ s hs).2
    ⟨0, by decide +kernel, 0, by decide +kernel, by decide +kernel⟩⟩

/-- A bot restarts its game after 500 loops, and is shown those in `OnGameStart`. -/
theorem restart_not_current :
    ∃ s, (GameStartCall.restart (((updateMachine.final (joinedGame 1 { realtime := true })
        [playWorlds 500]).inWorlds (playWorlds 0)).agentOf 0)).start = some s ∧
      s.shown.imp.observationImp.currentGameLoop = 500 ∧ ¬ s.Current := by
  generalize hagent : ((updateMachine.final (joinedGame 1 { realtime := true })
    [playWorlds 500]).inWorlds (playWorlds 0)).agentOf 0 = a
  have hloop : (GameStartCall.restart a).start.map
      (·.shown.imp.observationImp.currentGameLoop) = some 500 := by
    rw [← hagent]
    decide +kernel
  obtain ⟨s, hs, hshown⟩ := Option.map_eq_some_iff.1 hloop
  refine ⟨s, hs, hshown, ?_⟩
  rintro ⟨n, hn, -⟩
  rw [GameStartCall.start_restart hs] at hn
  exact absurd hn (Nat.not_lt_zero n)

end Sc2Api
