import Sc2Api.Verify.GameEndRuns
import Sc2Api.Verify.RealtimeRuns

/-!
# Orders that fail

A bot is told again that a unit is idle when a command for it has come to nothing. The
commands of the last `SendActions` are what `IssueEvents` knows of it, and a step on a
game loop seen before forgets them.
-/

namespace Sc2Api

open Lib

/-- `GetUnits(Self)` shows the unit, complete and without orders. -/
def ControlImp.ShowsIdle (c : ControlImp) (t : Tag) : Prop :=
  ∃ unit ∈ getUnits c.observationImp .self default,
    (c.observationImp.unitPool.deref unit).tag = t ∧
      (c.observationImp.unitPool.deref unit).orders = [] ∧
      ¬ (c.observationImp.unitPool.deref unit).buildProgress < 1

instance (c : ControlImp) (t : Tag) : Decidable (c.ShowsIdle t) :=
  inferInstanceAs (Decidable (∃ unit ∈ ControlImp.getUnits c.observationImp .self default, _))

namespace ControlImp

variable {c : ControlImp}

theorem mem_getUnits {s : ObservationImp} {alliance : Alliance} {order : UnitPool.Order}
    {unit : PoolIndex} : unit ∈ getUnits s alliance order ↔
      unit ∈ getUnits s alliance default := by
  simp only [getUnits, UnitPool.existingUnits, List.mem_filter, List.mem_map,
    Enumeration.mem_visit]

/-- `IssueIdleEvent` is called for a unit that was commanded and still has no orders. -/
theorem idle_mem_issueEvents {order : UnitPool.Order} {commands : List Tag} {t : Tag}
    (hdue : c.observationImp.currentGameLoop ≠ c.observationImp.previousGameLoop)
    (hcommanded : t ∈ commands) (hidle : (c.issueEvents order commands).2.2.ShowsIdle t) :
    .onUnitIdle t ∈ (c.issueEvents order commands).2.1 := by
  rw [issueEvents_of_due (c := c) hdue] at hidle ⊢
  obtain ⟨unit, hunit, rfl, horders, hcomplete⟩ := hidle
  generalize c.issueUnitDestroyedEvents.2 = d at hunit horders hcomplete hcommanded ⊢
  have hcalled : .onUnitIdle (d.observationImp.unitPool.deref unit).tag ∈ issueIdleEvent
      d.observationImp.unitsPreviousMap (d.observationImp.unitPool.deref unit) commands := by
    unfold issueIdleEvent
    rw [if_neg (by simp [horders, hcomplete])]
    cases d.observationImp.unitsPreviousMap.lookup
        (d.observationImp.unitPool.deref unit).tag with
    | none => exact List.mem_singleton_self _
    | some unitPrevious =>
      dsimp only
      split
      · exact List.mem_singleton_self _
      · split
        · exact List.mem_singleton_self _
        · rw [if_pos (by simpa using hcommanded)]
          exact List.mem_singleton_self _
  have hwalk : .onUnitIdle (d.observationImp.unitPool.deref unit).tag ∈
      d.issueUnitEvents order commands :=
    List.mem_flatMap.2 ⟨unit, mem_getUnits.2 hunit, List.mem_append_left _ hcalled⟩
  simp only [List.mem_append]
  exact .inl (.inl (.inl (.inr hwalk)))

end ControlImp

/-! ## Commands in a run -/

namespace Agent

/-- The step sends a command for the unit. -/
def Sends (a : Agent) (t : Tag) : Prop := a.Observes ∧ t ∈ a.told.sendActions.commands

/-- What the bot is shown in the step. -/
def Shows (a : Agent) (t : Tag) : Prop := a.told.control.imp.ShowsIdle t

instance (a : Agent) (t : Tag) : Decidable (a.Sends t) := inferInstanceAs (Decidable (_ ∧ _))

instance (a : Agent) (t : Tag) : Decidable (a.Shows t) :=
  inferInstanceAs (Decidable (a.told.control.imp.ShowsIdle t))

end Agent

/-- A command for the unit that is sent after `before` and has come to nothing when, after
`between`, the next game loop is observed. -/
structure FailedOrder (a : Agent) (before between : List RealtimeStep) (t : Tag) : Prop where
  sent : (realtimeMachine.final a before).Sends t
  idle : (realtimeMachine.final a before).Shows t
  waiting : realtimeMachine.Along (fun a s => ¬ s.NewLoop a)
    (realtimeMachine.final a (before ++ [.step])) between
  newLoop : RealtimeStep.step.NewLoop (realtimeMachine.final a (before ++ .step :: between))
  still : (realtimeMachine.final a (before ++ .step :: between)).Shows t

/-- Every command that has come to nothing is told, when that is observed. -/
def RetellsIdle (a : Agent) (steps : List RealtimeStep) : Prop :=
  ∀ before between after t, steps = before ++ .step :: between ++ .step :: after →
    FailedOrder a before between t →
      ∃ callbacks, .events callbacks ∈
          (realtimeMachine.step (realtimeMachine.final a (before ++ .step :: between)) .step).2 ∧
        .onUnitIdle t ∈ callbacks

/-- A step that gets to its observation while commands are out observes another loop. -/
def KeepsPace (a : Agent) : RealtimeStep → Prop
  | .step => a.Observes → a.commands ≠ [] → RealtimeStep.step.NewLoop a
  | _ => True

instance (a : Agent) : DecidablePred (KeepsPace a)
  | .step => inferInstanceAs (Decidable (_ → _ → _))
  | .enter _ => inferInstanceAs (Decidable True)
  | .onError => inferInstanceAs (Decidable True)

variable {a : Agent}

/-- Commands stay until the next game loop. -/
theorem commands_kept {t : Tag} (hsent : t ∈ a.commands) {between : List RealtimeStep}
    (hpace : realtimeMachine.Along KeepsPace a between)
    (hwaiting : realtimeMachine.Along (fun a s => ¬ s.NewLoop a) a between) :
    t ∈ (realtimeMachine.final a between).commands := by
  induction between generalizing a with
  | nil => exact hsent
  | cons s between ih =>
    refine ih (a := s.run a) ?_ hpace.2 hwaiting.2
    cases s with
    | enter world => exact hsent
    | onError => exact hsent
    | step =>
      have hnot : ¬ a.Observes := fun hobserves =>
        hwaiting.1 (hpace.1 hobserves (List.ne_nil_of_mem hsent))
      have hkept : (CoordinatorImp.stepAgentRealtime a).commands = a.commands :=
        (Agent.stepAgentRealtime_of_not_observes hnot).2.1
      show t ∈ (CoordinatorImp.stepAgentRealtime a).commands
      rw [hkept]
      exact hsent

/-- The step that observes the next game loop tells of what was commanded and is idle. -/
theorem idle_told {t : Tag} (hcommanded : t ∈ a.commands)
    (hloop : RealtimeStep.step.NewLoop a) (hstill : a.Shows t) :
    ∃ callbacks, .events callbacks ∈ (realtimeMachine.step a .step).2 ∧
      .onUnitIdle t ∈ callbacks := by
  have hshown : a.observed.issued.2.2.ShowsIdle t := by
    have hsame := a.observed.observationImp_issueEvents
    unfold Agent.Shows Agent.told ControlImp.ShowsIdle at hstill
    rwa [hsame] at hstill
  exact ⟨a.observed.issued.2.1, Agent.events_of_newLoop hloop,
    ControlImp.idle_mem_issueEvents (Agent.due_of_newLoop hloop) hcommanded hshown⟩

theorem retellsIdle (a : Agent) (steps : List RealtimeStep)
    (hpace : realtimeMachine.Along KeepsPace a steps) : RetellsIdle a steps := by
  rintro before between after t rfl h
  have hupto := ((Machine.along_append _ _ _ _ _).1 hpace).1
  rw [List.append_cons, Machine.along_append] at hupto
  have hfinal : realtimeMachine.final a (before ++ .step :: between) =
      realtimeMachine.final (realtimeMachine.final a (before ++ [.step])) between := by
    rw [List.append_cons, Machine.final_append]
  have hsent : t ∈ (realtimeMachine.final a (before ++ [.step])).commands := by
    rw [Machine.final_concat]
    have hcommands := (Agent.stepAgentRealtime_of_observes h.sent.1).commands
    show t ∈ (CoordinatorImp.stepAgentRealtime (realtimeMachine.final a before)).commands
    rw [hcommands]
    exact h.sent.2
  have hkept := commands_kept hsent hupto.2 h.waiting
  rw [← hfinal] at hkept
  exact idle_told hkept h.newLoop h.still

/-- In every run of updates in real time in which the agents keep pace, failed commands
are told. -/
theorem failed_orders_retold (c : CoordinatorImp) (worlds : List Worlds) (i : AgentId)
    (hpace : realtimeMachine.Along KeepsPace (c.agentOf i) (c.realtimeSteps i worlds)) :
    RetellsIdle (c.agentOf i) (c.realtimeSteps i worlds) :=
  retellsIdle _ _ hpace

/-- A game at a loop, with one idle unit of the bot, and what the bot then commands. -/
def idleWorlds (loop : GameLoop) (actions : Option (List Tag)) : Worlds where
  agents _ :=
    { deliveries := .const { waiting := [.answer {
        status := some .inGame
        observation := { observation := some (.full loop [.idleOwn 1] [] []) } }] }
      turns := .cons { actions } (.const {}) }

/-- A command is sent, and the unit is idle on the next game loop. -/
theorem failed_orders_retold_next :
    let a := (joinedGame 1 { realtime := true }).agentOf 0
    let worlds := [idleWorlds 6 (some [1]), idleWorlds 7 none]
    RetellsIdle a (stepOnce 0 worlds) ∧
      FailedOrder a [.enter ((idleWorlds 6 (some [1])).agents 0)]
        [.enter ((idleWorlds 7 none).agents 0)] 1 := by
  have hsteps : (joinedGame 1 { realtime := true }).realtimeSteps 0
      [idleWorlds 6 (some [1]), idleWorlds 7 none] =
        stepOnce 0 [idleWorlds 6 (some [1]), idleWorlds 7 none] :=
    realtimeSteps_of_no_errors (by decide +kernel)
  have hretells := failed_orders_retold (joinedGame 1 { realtime := true })
    [idleWorlds 6 (some [1]), idleWorlds 7 none] 0 (by rw [hsteps]; decide +kernel)
  rw [hsteps] at hretells
  exact ⟨hretells, ⟨by decide +kernel, by decide +kernel, by decide +kernel,
    by decide +kernel, by decide +kernel⟩⟩

/-- The game loop of the command is observed once more before the next one: the unit is
not told. -/
theorem failed_order_not_retold :
    let c := joinedGame 1 { realtime := true }
    let worlds := [idleWorlds 6 (some [1]), idleWorlds 6 none, idleWorlds 7 none]
    ((updateMachine.final c worlds).agentOf 0).events = [.onGameFullStart, .onGameStart,
        .events [.onUnitCreated 1, .onUnitIdle 1, .onStep], .events [.onStep]] ∧
      ¬ RetellsIdle (c.agentOf 0) (c.realtimeSteps 0 worlds) := by
  intro c worlds
  refine ⟨by decide +kernel, fun hretells => ?_⟩
  have hsteps : c.realtimeSteps 0 worlds = stepOnce 0 worlds :=
    realtimeSteps_of_no_errors (by decide +kernel)
  have hfailed : FailedOrder (c.agentOf 0) [.enter ((idleWorlds 6 (some [1])).agents 0)]
      [.enter ((idleWorlds 6 none).agents 0), .step, .enter ((idleWorlds 7 none).agents 0)] 1 :=
    ⟨by decide +kernel, by decide +kernel, by decide +kernel, by decide +kernel,
      by decide +kernel⟩
  obtain ⟨callbacks, hmem, hidle⟩ := hretells _ _ [] 1 hsteps hfailed
  have honly : (realtimeMachine.step (realtimeMachine.final (c.agentOf 0)
      [.enter ((idleWorlds 6 (some [1])).agents 0), .step,
        .enter ((idleWorlds 6 none).agents 0), .step,
        .enter ((idleWorlds 7 none).agents 0)]) .step).2 = [.events [.onStep]] := by
    decide +kernel
  have hcallbacks : callbacks = [.onStep] := by
    have hmem' := honly ▸ hmem
    simpa using hmem'
  rw [hcallbacks] at hidle
  exact absurd hidle (by decide)

end Sc2Api
