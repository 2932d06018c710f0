import Sc2Api.LiveEvents
import Sc2Api.Verify.EventMembers
import Sc2Api.Verify.EventRefinement

/-!
# Which failed orders a bot at work hears of

The commands count for the units that nothing else decides on, and for these as they are
when the unit's turn comes. So `OnUnitIdle` is called as if nothing had happened in
between exactly when the callbacks before such a unit left it in or out of `Commands()`.
-/

namespace Sc2Api

open Lib

/-! ## Callbacks one by one -/

namespace LiveActions

theorem after_add (b : LiveActions) (m n : Nat) : (b.after m).after n = b.after (m + n) := by
  induction m generalizing b with
  | zero => rw [Nat.zero_add]; rfl
  | succ m ih => rw [Nat.succ_add]; exact ih b.callback

theorem made_made (b : LiveActions) (log log' : List Callback) :
    (b.made log).made log' = b.made (log ++ log') := by
  unfold made
  rw [after_add, List.length_append]

end LiveActions

namespace ControlImp

/-- Only the commands decide whether the unit counts as idle: it is finished and without
orders, and was so before. -/
def CommandsDecide (previous : AList fun _ : Tag => Unit) (unit : Unit) : Prop :=
  (unit.orders = [] ∧ ¬unit.buildProgress < 1) ∧
    ∃ unitPrevious, previous.lookup unit.tag = some unitPrevious ∧
      unitPrevious.orders = [] ∧ ¬unitPrevious.buildProgress < 1

section Idle

variable {previous : AList fun _ : Tag => Unit} {unit : Unit}

theorem issueIdleEvent_of_decide (h : CommandsDecide previous unit) (commands : List Tag) :
    issueIdleEvent previous unit commands =
      if unit.tag ∈ commands then [.onUnitIdle unit.tag] else [] := by
  obtain ⟨⟨horders, hprogress⟩, unitPrevious, hlookup, horders', hprogress'⟩ := h
  unfold issueIdleEvent
  simp [horders, hprogress, hlookup, horders', hprogress']

theorem issueIdleEvent_of_not_decide (h : ¬CommandsDecide previous unit)
    (commands commands' : List Tag) :
    issueIdleEvent previous unit commands = issueIdleEvent previous unit commands' := by
  unfold issueIdleEvent
  split
  · rfl
  · rename_i hready
    rw [not_or, not_not] at hready
    cases hlookup : previous.lookup unit.tag with
    | none => rfl
    | some unitPrevious =>
      dsimp only
      split
      · rfl
      · split
        · rfl
        · rename_i horders hprogress
          exact absurd ⟨hready, unitPrevious, hlookup, not_not.1 horders, hprogress⟩ h

theorem issueIdleEvent_eq_nil_or (previous : AList fun _ : Tag => Unit) (unit : Unit)
    (commands : List Tag) :
    issueIdleEvent previous unit commands = [] ∨
      issueIdleEvent previous unit commands = [.onUnitIdle unit.tag] := by
  unfold issueIdleEvent
  split
  · exact .inl rfl
  · cases previous.lookup unit.tag with
    | none => exact .inr rfl
    | some unitPrevious =>
      dsimp only
      repeat' split
      all_goals simp

/-- Two lists of commands agree on the unit as far as it depends on them. -/
theorem issueIdleEvent_eq_iff (commands commands' : List Tag) :
    issueIdleEvent previous unit commands = issueIdleEvent previous unit commands' ↔
      (CommandsDecide previous unit → (unit.tag ∈ commands ↔ unit.tag ∈ commands')) := by
  by_cases hdecide : CommandsDecide previous unit
  · rw [issueIdleEvent_of_decide hdecide, issueIdleEvent_of_decide hdecide]
    by_cases h : unit.tag ∈ commands <;> by_cases h' : unit.tag ∈ commands' <;>
      simp [h, h', hdecide]
  · exact iff_of_true (issueIdleEvent_of_not_decide hdecide _ _) fun h => absurd h hdecide

theorem not_idle_of_completed (t : Tag) :
    .onUnitIdle t ∉ issueBuildingCompletedEvent previous unit := by
  unfold issueBuildingCompletedEvent
  split
  · exact List.not_mem_nil
  · cases previous.lookup unit.tag with
    | none => exact List.not_mem_nil
    | some unitPrevious =>
      dsimp only
      split <;> simp

end Idle

/-! ## The loop over the units -/

/-- The callbacks for one unit. -/
def unitCallbacks (previous : AList fun _ : Tag => Unit) (commands : List Tag) (unit : Unit) :
    List Callback :=
  issueIdleEvent previous unit commands ++ issueBuildingCompletedEvent previous unit

section Loop

variable {previous : AList fun _ : Tag => Unit}

theorem issueUnitEventsLive_cons (unit : Unit) (units : List Unit) (b : LiveActions) :
    (issueUnitEventsLive previous (unit :: units) b).1 =
      unitCallbacks previous b.commands unit ++
        (issueUnitEventsLive previous units
          (b.made (unitCallbacks previous b.commands unit))).1 := by
  show _ ++ _ ++ (issueUnitEventsLive previous units ((b.made _).made _)).1 = _
  rw [LiveActions.made_made]
  rfl

theorem idle_mem_unitCallbacks {t : Tag} {commands : List Tag} {unit : Unit} :
    .onUnitIdle t ∈ unitCallbacks previous commands unit ↔
      t = unit.tag ∧ issueIdleEvent previous unit commands ≠ [] := by
  unfold unitCallbacks
  rw [List.mem_append, or_iff_left (not_idle_of_completed t)]
  rcases issueIdleEvent_eq_nil_or previous unit commands with h | h <;>
    simp [h]

theorem exists_unit_of_idle {t : Tag} {units : List Unit} {b : LiveActions}
    (h : .onUnitIdle t ∈ (issueUnitEventsLive previous units b).1) :
    ∃ unit ∈ units, unit.tag = t := by
  induction units generalizing b with
  | nil => cases h
  | cons unit units ih =>
    rw [issueUnitEventsLive_cons, List.mem_append] at h
    rcases h with h | h
    · exact ⟨unit, List.mem_cons_self, (idle_mem_unitCallbacks.1 h).1.symm⟩
    · obtain ⟨unit', hmem, ht⟩ := ih h
      exact ⟨unit', List.mem_cons_of_mem _ hmem, ht⟩

theorem exists_unit_of_flatMap {t : Tag} {units : List Unit} {commands : List Tag}
    (h : .onUnitIdle t ∈ units.flatMap (unitCallbacks previous commands)) :
    ∃ unit ∈ units, unit.tag = t := by
  obtain ⟨unit, hmem, hidle⟩ := List.mem_flatMap.1 h
  exact ⟨unit, hmem, (idle_mem_unitCallbacks.1 hidle).1.symm⟩

/-- One turn of the loop: a unit of its own tag agrees or not, whatever comes after it. -/
theorem sameIdle_cons_iff {unit : Unit} {units : List Unit}
    (hnew : unit.tag ∉ units.map (·.tag)) (commands : List Tag) (b : LiveActions) :
    (∀ t, .onUnitIdle t ∈ (issueUnitEventsLive previous (unit :: units) b).1 ↔
      .onUnitIdle t ∈ (unit :: units).flatMap (unitCallbacks previous commands)) ↔
    issueIdleEvent previous unit b.commands = issueIdleEvent previous unit commands ∧
      ∀ t, .onUnitIdle t ∈ (issueUnitEventsLive previous units
          (b.made (unitCallbacks previous commands unit))).1 ↔
        .onUnitIdle t ∈ units.flatMap (unitCallbacks previous commands) := by
  have hlive (b : LiveActions) :
      .onUnitIdle unit.tag ∉ (issueUnitEventsLive previous units b).1 := by
    intro h
    obtain ⟨unit', hmem, ht⟩ := exists_unit_of_idle h
    exact hnew (List.mem_map.2 ⟨unit', hmem, ht⟩)
  have hrest : .onUnitIdle unit.tag ∉ units.flatMap (unitCallbacks previous commands) := by
    intro h
    obtain ⟨unit', hmem, ht⟩ := exists_unit_of_flatMap h
    exact hnew (List.mem_map.2 ⟨unit', hmem, ht⟩)
  simp only [issueUnitEventsLive_cons, List.flatMap_cons, List.mem_append,
    idle_mem_unitCallbacks]
  constructor
  · intro h
    have hsame : issueIdleEvent previous unit b.commands =
        issueIdleEvent previous unit commands := by
      have hunit := h unit.tag
      simp only [hlive, hrest, or_false, true_and] at hunit
      rcases issueIdleEvent_eq_nil_or previous unit b.commands
        with hb | hb <;>
        rcases issueIdleEvent_eq_nil_or previous unit commands
          with hc | hc <;> simp_all
    refine ⟨hsame, fun t => ?_⟩
    by_cases ht : t = unit.tag
    · subst ht
      exact iff_of_false (hlive _) hrest
    · have hcallbacks : unitCallbacks previous b.commands unit =
          unitCallbacks previous commands unit := congrArg (· ++ _) hsame
      simpa [ht, hcallbacks] using h t
  · rintro ⟨hsame, h⟩ t
    have hcallbacks : unitCallbacks previous b.commands unit =
        unitCallbacks previous commands unit := congrArg (· ++ _) hsame
    rw [hsame, hcallbacks, h t]

/-- The loop reports the units idle that it would with fixed commands exactly when each
that the commands decide on finds itself in or out of them as there. -/
theorem sameIdle_iff (previous : AList fun _ : Tag => Unit) {units : List Unit}
    (hnodup : (units.map (·.tag)).Nodup) (commands : List Tag) (b : LiveActions) :
    (∀ t, .onUnitIdle t ∈ (issueUnitEventsLive previous units b).1 ↔
      .onUnitIdle t ∈ units.flatMap (unitCallbacks previous commands)) ↔
    ∀ k unit, units[k]? = some unit → CommandsDecide previous unit →
      (unit.tag ∈ (b.made ((units.take k).flatMap (unitCallbacks previous commands))).commands ↔
        unit.tag ∈ commands) := by
  induction units generalizing b with
  | nil => simp [issueUnitEventsLive]
  | cons unit units ih =>
    obtain ⟨hnew, hnodup⟩ := List.nodup_cons.1 hnodup
    rw [sameIdle_cons_iff hnew, issueIdleEvent_eq_iff, ih hnodup]
    constructor
    · rintro ⟨hhead, htail⟩ k unit' hk hdecide
      cases k with
      | zero =>
        obtain rfl : unit = unit' := by simpa using hk
        exact hhead hdecide
      | succ k =>
        have hunit := htail k unit' hk hdecide
        rwa [LiveActions.made_made] at hunit
    · intro h
      refine ⟨h 0 unit rfl, fun k unit' hk hdecide => ?_⟩
      rw [LiveActions.made_made]
      exact h (k + 1) unit' hk hdecide

end Loop

/-! ## The whole delivery -/

section Delivery

variable {c : ControlImp} {order : UnitPool.Order}

theorem issueUnitEvents_eq_flatMap (c : ControlImp) (order : UnitPool.Order)
    (commands : List Tag) : c.issueUnitEvents order commands =
      (c.ownUnits order).flatMap
        (unitCallbacks c.observationImp.unitsPreviousMap commands) := by
  unfold ownUnits
  rw [List.flatMap_map]
  rfl

theorem ownUnits_nodup (h : c.observationImp.unitPool.Tagged) (order : UnitPool.Order) :
    ((c.ownUnits order).map (·.tag)).Nodup := by
  unfold ownUnits getUnits
  rw [List.map_map]
  refine List.Nodup.sublist (List.filter_sublist.map _) ?_
  show ((c.observationImp.unitPool.existingUnits order).map fun i =>
    (c.observationImp.unitPool.deref i).tag).Nodup
  rw [h.map_tag_existingUnits]
  exact UnitPool.existingTags_nodup _ order

theorem not_idle_of_added (c : ControlImp) (order : UnitPool.Order) (t : Tag) :
    .onUnitIdle t ∉ c.issueUnitAddedEvents order := by
  intro h
  obtain ⟨unit, -, hidle⟩ := List.mem_flatMap.1 h
  rw [unitAddedEvent_eq, EventState.mem_addedEvents] at hidle
  simp at hidle

/-- The callbacks that come before those for the bot's own units. -/
def callbacksBefore (c : ControlImp) (order : UnitPool.Order) : List Callback :=
  c.issueUnitDestroyedEvents.1 ++ c.issueUnitDestroyedEvents.2.issueUnitAddedEvents order

theorem issueEventsLive_of_due (hdue : c.eventState.Due) (order : UnitPool.Order)
    (b : LiveActions) : (c.issueEventsLive order b).2.1 =
      c.callbacksBefore order ++
        (issueUnitEventsLive c.issueUnitDestroyedEvents.2.observationImp.unitsPreviousMap
          (c.issueUnitDestroyedEvents.2.ownUnits order) (b.made (c.callbacksBefore order))).1 ++
        c.issueUnitDestroyedEvents.2.issueUpgradeEvents ++
        c.issueUnitDestroyedEvents.2.issueAlertEvents ++ [.onStep] := by
  have hmoved : c.observationImp.currentGameLoop ≠ c.observationImp.previousGameLoop := hdue
  unfold issueEventsLive callbacksBefore
  rw [if_neg hmoved, ← LiveActions.made_made]

theorem issueEvents_eq_callbacksBefore (hdue : c.eventState.Due) (order : UnitPool.Order)
    (commands : List Tag) : (c.issueEvents order commands).2.1 =
      c.callbacksBefore order ++
        (c.issueUnitDestroyedEvents.2.ownUnits order).flatMap (unitCallbacks
          c.issueUnitDestroyedEvents.2.observationImp.unitsPreviousMap commands) ++
        c.issueUnitDestroyedEvents.2.issueUpgradeEvents ++
        c.issueUnitDestroyedEvents.2.issueAlertEvents ++ [.onStep] := by
  rw [issueEvents_of_due hdue, issueUnitEvents_eq_flatMap]
  rfl

/-- The set of idle units is that of the commands at the beginning. -/
def IdleAsEntered (c : ControlImp) (order : UnitPool.Order) (b : LiveActions) : Prop :=
  ∀ t, .onUnitIdle t ∈ (c.issueEventsLive order b).2.1 ↔
    .onUnitIdle t ∈ (c.issueEvents order b.commands).2.1

/-- When the turn of a unit comes that only the commands decide on, it is in or out of
them as it was at the beginning. -/
def Undisturbed (c : ControlImp) (order : UnitPool.Order) (b : LiveActions) : Prop :=
  let c' := c.issueUnitDestroyedEvents.2
  let units := c'.ownUnits order
  let previous := c'.observationImp.unitsPreviousMap
  c.eventState.Due → ∀ k unit, units[k]? = some unit → CommandsDecide previous unit →
    (unit.tag ∈ (b.made (c.callbacksBefore order ++
        (units.take k).flatMap (unitCallbacks previous b.commands))).commands ↔
      unit.tag ∈ b.commands)

theorem idleAsEntered_iff (h : c.observationImp.unitPool.Tagged) (b : LiveActions) :
    c.IdleAsEntered order b ↔ c.Undisturbed order b := by
  unfold IdleAsEntered Undisturbed
  by_cases hdue : c.eventState.Due
  · obtain ⟨hlog, htag, -, -⟩ := issueUnitDestroyedEvents_spec h
    have hbefore (t : Tag) : .onUnitIdle t ∉ c.callbacksBefore order := by
      unfold callbacksBefore
      rw [List.mem_append, hlog]
      exact fun h => h.elim (by simp [EventState.destroyedEvents]) (not_idle_of_added _ _ t)
    have halerts (t : Tag) : .onUnitIdle t ∉ c.issueUnitDestroyedEvents.2.issueAlertEvents := by
      intro h
      rcases EventState.mem_alerts h with h | h <;> cases h
    have hloop := sameIdle_iff
      c.issueUnitDestroyedEvents.2.observationImp.unitsPreviousMap
      (ownUnits_nodup htag order) b.commands (b.made (c.callbacksBefore order))
    simp only [LiveActions.made_made] at hloop
    simp only [hdue, true_imp_iff]
    rw [← hloop]
    have hupgrades (t : Tag) :
        .onUnitIdle t ∉ c.issueUnitDestroyedEvents.2.issueUpgradeEvents := by
      simp [issueUpgradeEvents]
    refine forall_congr' fun t => ?_
    rw [issueEventsLive_of_due hdue, issueEvents_eq_callbacksBefore hdue]
    simp only [List.mem_append, List.mem_singleton, reduceCtorEq, hbefore, hupgrades, halerts,
      false_or, or_false]
  · have hsame : c.observationImp.currentGameLoop = c.observationImp.previousGameLoop :=
      not_not.1 hdue
    have hnone : c.issueEventsLive order b = (false, [], c, b) := if_pos hsame
    simp [hnone, issueEvents_of_not_due hdue, hdue]

end Delivery

end ControlImp

/-! ## Bots -/

/-- Adding actions leaves the commands alone. -/
theorem commands_final_of_unsent {a : ActionImp} {calls : List ActionCall}
    (h : ∀ call ∈ calls, ∀ c, call ≠ .sendActions c) :
    (actionMachine.final a calls).commands = a.commands := by
  refine actionMachine.invariant (I := fun a' => a'.commands = a.commands)
    (C := fun _ call => ∀ c, call ≠ .sendActions c) (fun a' call ha hcall => ?_) rfl
    (Machine.along_of_mem h a)
  rw [← ha]
  cases call with
  | sendActions c => exact absurd rfl (hcall c)
  | unitCommand unit _ _ | unitCommandPoint unit _ _ _ => cases unit <;> rfl
  | unitCommandTarget unit _ target _ => cases unit <;> cases target <;> rfl
  | _ => rfl

/-- A bot that sends its actions after its callbacks only is never disturbed. -/
theorem undisturbed_of_unsent (c : ControlImp) (order : UnitPool.Order) {b : LiveActions}
    (h : ∀ n, ∀ call ∈ b.turns.get n, ∀ c, call ≠ .sendActions c) : c.Undisturbed order b := by
  have hcommands (n : Nat) : (b.after n).commands = b.commands := by
    induction n generalizing b with
    | zero => rfl
    | succ n ih =>
      have htail := ih (b := b.callback) fun n => h (n + 1)
      exact htail.trans (commands_final_of_unsent (h 0))
  intro _ k unit _ _
  rw [LiveActions.made, hcommands]

/-- In every state of a client the callbacks leave the reported units as they are exactly
when they leave alone what the commands decide. -/
theorem idle_as_entered_iff (answers : List (Option (List Proto.AbilityData)))
    (ops : List ClientOp) (order : UnitPool.Order) (b : LiveActions) :
    (client.final (.withAnswers answers) ops).IdleAsEntered order b ↔
      (client.final (.withAnswers answers) ops).Undisturbed order b :=
  ControlImp.idleAsEntered_iff ((ControlImp.Ready.initial answers).final ops).tagged b

/-- The order of unit 7 has failed, and the bot sends its actions when unit 8 is there. -/
theorem not_idle_as_entered :
    ¬(client.final (.withAnswers []) [
      Frame.fetch { observation := .full 1 [.idleOwn 7] [] [] },
      Frame.issue { observation := .full 1 [.idleOwn 7] [] [] },
      Frame.fetch { observation := .full 2 [.idleOwn 7, .idleOwn 8] [] [] }]).IdleAsEntered
        default ⟨{ commands := [7] }, .const [.sendActions {}]⟩ := by
  intro h
  exact absurd (h 7) (by decide +kernel)

end Sc2Api
