import Sc2Api.Verify.GameOver

/-!
# The end of a game over runs of updates

How often `OnGameEnd` is called, and how often the game is left, from the update in
which the game of an agent ends on.
-/

namespace Sc2Api

open Lib

/-- Nothing that happens in the world says that a game is running. -/
structure World.Quiet (w : World) : Prop where
  waiting : ∀ n, ∀ arrival ∈ (w.deliveries.get n).waiting, arrival.Quiet
  closing : ∀ n, ∀ arrival ∈ (w.deliveries.get n).closing, arrival.Quiet
  polls : ∀ n, ∀ arrival ∈ w.polls.get n, arrival.Quiet

namespace CoordinatorImp

variable {c : CoordinatorImp} {i : AgentId}

/-! ## Later updates -/

theorem gone_inWorlds {worlds : Worlds} (h : (c.agentOf i).Gone)
    (hquiet : (worlds.agents i).Quiet) :
    (c.agentOf i).Rests ((c.inWorlds worlds).agentOf i) where
  gone := ⟨⟨⟨h.lineOver.queue, hquiet.waiting, hquiet.closing, hquiet.polls⟩, h.lineOver.status⟩,
    h.settled⟩
  isMultiplayer := rfl
  onGameEnds := rfl
  leaves := rfl

/-- Agents are stepped in one go, not in two loops. -/
def StepsAtOnce (c : CoordinatorImp) : Prop :=
  c.processSettings.realtime = true ∨ c.processSettings.multiThreaded = true

/-- `StepAgents` goes over the agents once with threads and twice without. -/
theorem stepAgents_eq : c.stepAgents =
    if c.processSettings.multiThreaded then c.forAgents (stepAgent c.processSettings)
    else (c.forAgents (stepAgent c.processSettings)).forAgents callAgent := by
  have hsettings : (c.forAgents (stepAgent c.processSettings)).processSettings =
      c.processSettings := (sameObservers_foldl _ _).processSettings
  unfold stepAgents
  dsimp only
  rw [hsettings]
  cases c.processSettings.multiThreaded <;> rfl

theorem updateAgents_eq (hagents : c.agents ≠ []) : c.updateAgents =
    if c.processSettings.realtime then c.forAgents stepAgentRealtime else c.stepAgents := by
  unfold updateAgents
  rw [if_neg hagents]
  rfl

theorem updateAgents_atOnce (hmode : c.StepsAtOnce) : c.updateAgents =
    c.forAgents (if c.processSettings.realtime then stepAgentRealtime
      else stepAgent c.processSettings) := by
  by_cases hagents : c.agents = []
  · unfold updateAgents forAgents
    rw [if_pos hagents, hagents]
    rfl
  · rw [updateAgents_eq hagents]
    split
    · rfl
    next hrealtime => rw [stepAgents_eq, if_pos (hmode.resolve_left hrealtime)]

theorem update_rests (hmode : c.StepsAtOnce) (h : (c.agentOf i).Gone) :
    (c.agentOf i).Rests (c.update.2.agentOf i) := by
  have hsteps : (c.agentOf i).Rests (c.updateAgents.agentOf i) := by
    rw [updateAgents_atOnce hmode, forAgents, agentOf_foldl]
    refine Agent.Rests.iterate (fun a ha => ?_) h _
    have hstep : a.Rests ((if c.processSettings.realtime then stepAgentRealtime
        else stepAgent c.processSettings) a) := by
      split
      · exact stepAgentRealtime_rests ha
      · exact stepAgent_rests _ ha
    exact hstep.trans hstep.gone.drained
  rw [agentOf_update]
  exact hsteps.trans (.iterate (fun _ ha => ha.onError) hsteps.gone _)

theorem stepsAtOnce_update (hmode : c.StepsAtOnce) : c.update.2.StepsAtOnce := by
  unfold StepsAtOnce
  rw [sameSettings_update.2.1, sameSettings_update.2.2]
  exact hmode

theorem updates_rest (hmode : c.StepsAtOnce) (h : (c.agentOf i).Gone) {later : List Worlds}
    (hquiet : ∀ worlds ∈ later, (worlds.agents i).Quiet) :
    (c.agentOf i).Rests ((updateMachine.final c later).agentOf i) := by
  induction later generalizing c with
  | nil => exact h.rests
  | cons worlds later ih =>
    have hworlds := gone_inWorlds h (hquiet worlds List.mem_cons_self)
    have hupdate := update_rests (c := c.inWorlds worlds) hmode hworlds.gone
    have hmode' : (c.inWorlds worlds).update.2.StepsAtOnce := stepsAtOnce_update hmode
    exact (hworlds.trans hupdate).trans
      (ih hmode' hupdate.gone fun w hw => hquiet w (List.mem_cons_of_mem _ hw))

/-! ## The update in which the game ends -/

/-- The first step of an agent ends its game, the others do nothing. -/
theorem Agent.ends_iterate {a : Agent} {f : Agent → Agent} (hf : a.Ends (f a))
    (hrests : ∀ a : Agent, a.Gone → a.Rests (f a)) {n : Nat} (hn : 0 < n) :
    a.Ends ((fun a => (f a).drained)^[n] a) := by
  obtain ⟨n, rfl⟩ := Nat.exists_eq_succ_of_ne_zero hn.ne'
  rw [Function.iterate_succ_apply]
  have hfirst : a.Ends (f a).drained := hf.rests hf.gone.drained
  exact hfirst.rests (.iterate (fun a ha => (hrests a ha).trans (hrests a ha).gone.drained)
    hfirst.gone n)

/-- What it takes for the end of a game to be told once: agents that are stepped in one
go, by games that answer in time if there is a game to be left; or else a game played
alone, by an agent on the list once, and no further update. -/
def TellsOnce (c : CoordinatorImp) (i : AgentId) (later : List Worlds) : Prop :=
  (c.StepsAtOnce ∧
    ((c.agentOf i).isMultiplayer = true → (c.agentOf i).control.proto.line.Attentive)) ∨
  ((c.agentOf i).isMultiplayer = false ∧ (c.agentOf i).control.proto.line.Attentive ∧
    c.agents.count i = 1 ∧ later = [])

/-- The game of the agent ends in the next update. -/
def GameEnds (c : CoordinatorImp) (i : AgentId) : Prop :=
  (c.agentOf i).control.GameEnds c.processSettings.realtime

theorem updateAgents_ends {later : List Worlds} (hi : i ∈ c.agents) (hends : c.GameEnds i)
    (htells : c.TellsOnce i later) : (c.agentOf i).Ends (c.updateAgents.agentOf i) := by
  have hcount : 0 < c.agents.count i := List.count_pos_iff.2 hi
  have hatOnce (hmode : c.StepsAtOnce) (hattentive : (c.agentOf i).isMultiplayer = true →
      (c.agentOf i).control.proto.line.Attentive) :
      (c.agentOf i).Ends (c.updateAgents.agentOf i) := by
    rw [updateAgents_atOnce hmode, forAgents, agentOf_foldl]
    unfold GameEnds at hends
    refine Agent.ends_iterate ?_ (fun a ha => ?_) hcount
    · cases hrealtime : c.processSettings.realtime with
      | true =>
        rw [hrealtime] at hends
        exact stepAgentRealtime_ends hends hattentive
      | false =>
        rw [hrealtime] at hends
        have hthreads := hmode.resolve_left (by rw [hrealtime]; decide)
        exact stepAgent_ends hthreads hends hattentive
    · split
      · exact stepAgentRealtime_rests ha
      · exact stepAgent_rests _ ha
  rcases htells with ⟨hmode, hattentive⟩ | ⟨hsingle, hattentive, honce, -⟩
  · exact hatOnce hmode hattentive
  · by_cases hmode : c.StepsAtOnce
    · exact hatOnce hmode fun _ => hattentive
    · have hrealtime : c.processSettings.realtime = false := by
        simpa using fun h => hmode (.inl h)
      have hthreads : c.processSettings.multiThreaded = false := by
        simpa using fun h => hmode (.inr h)
      unfold GameEnds at hends
      rw [hrealtime] at hends
      have hagents : c.updateAgents.agentOf i =
          (callAgent (stepAgent c.processSettings (c.agentOf i)).drained).drained := by
        have hlist : (c.forAgents (stepAgent c.processSettings)).agents = c.agents :=
          (sameObservers_foldl _ _).agents
        rw [updateAgents_eq (List.ne_nil_of_mem hi), hrealtime, stepAgents_eq, hthreads]
        simp only [Bool.false_eq_true, if_false]
        rw [forAgents, agentOf_foldl, hlist, honce, forAgents, agentOf_foldl, honce]
        rfl
      rw [hagents]
      have hcall := callAgent_ends hthreads hends hsingle hattentive
      exact hcall.rests hcall.gone.drained

theorem update_ends {later : List Worlds} (hi : i ∈ c.agents) (hends : c.GameEnds i)
    (htells : c.TellsOnce i later) : (c.agentOf i).Ends (c.update.2.agentOf i) := by
  have hagents := updateAgents_ends hi hends htells
  rw [agentOf_update]
  exact hagents.rests (.iterate (fun _ ha => ha.onError) hagents.gone _)

end CoordinatorImp

/-! ## Runs -/

/-- Every game answers everything, with the same status. -/
def gameWorlds (status : Status) : Worlds where
  agents _ := { deliveries := .const { waiting := [.answer { status := some status }] } }

def players (n : Nat) : List PlayerSetup :=
  (List.range n).map fun i => { type := .participant, agent := some i }

/-- A game that `n` agents have joined. -/
def joinedGame (n : Nat) (settings : ProcessSettings) : CoordinatorImp :=
  coordinatorMachine.final {} [(gameWorlds .launched, .setParticipants (players n)),
    (gameWorlds .launched, .configure settings),
    (gameWorlds .launched, .launchStarcraft),
    (gameWorlds .initGame, .createGame),
    (gameWorlds .inGame, .joinGame)]

theorem gameWorlds_quiet (i : AgentId) {status : Status} (h : status.inPlay = false) :
    ((gameWorlds status).agents i).Quiet where
  waiting n arrival harrival := by
    rw [List.mem_singleton.1 harrival]
    intro status' hstatus
    rw [← Option.some.inj hstatus]
    exact h
  closing n arrival harrival := nomatch harrival
  polls n arrival harrival := nomatch harrival

/-- A game that is in play, and answers the step with the status `ended`. -/
theorem gameEnds_gameWorlds {c : Control} {i : AgentId} (hin : c.isInGame = true)
    (hqueue : c.proto.connection.queue.isEmpty = true)
    (hanswer : ((c.inWorld ((gameWorlds .ended).agents i)).exchange .step).1.isSome = true)
    (hstatus : ((c.inWorld ((gameWorlds .ended).agents i)).exchange
      .step).2.proto.latestStatus.inPlay = false) :
    (c.inWorld ((gameWorlds .ended).agents i)).GameEnds false := by
  have hworld := gameWorlds_quiet i (show Status.ended.inPlay = false from rfl)
  have hnone : c.proto.connection.Quiet := by
    intro response hresponse
    rw [List.isEmpty_iff.1 hqueue] at hresponse
    cases hresponse
  have hquiet : (c.inWorld ((gameWorlds .ended).agents i)).proto.line.Quiet :=
    ⟨hnone, hworld.waiting, hworld.closing, hworld.polls⟩
  refine ⟨hin, .inl ⟨hanswer, ?_, hstatus⟩⟩
  exact Control.exchange_preserves .step
    (fun _ hp => ProtoInterface.sendRequest_quiet hp .step false)
    (fun _ hp => ProtoInterface.sendRequest_quiet hp .ping true)
    (fun _ hp => (ProtoInterface.waitForResponseInternal_over hp).toQuiet) hquiet

end Sc2Api
