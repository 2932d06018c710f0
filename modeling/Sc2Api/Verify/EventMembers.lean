import Sc2Api.EventState

/-!
# What a delivery reports

For each kind of callback, when a delivery makes it. Runs are compared and
followed through these facts, never through the lists of callbacks.
-/

namespace Sc2Api

namespace Proto.Observation

theorem upgradeIds_of_complete {o : Observation} (h : o.Complete) :
    o.upgradeIds? = some o.upgradeIds := by
  obtain ⟨ids, hids⟩ := Option.isSome_iff_exists.1 h.2
  rw [upgradeIds, hids, Option.getD_some]

theorem rawData_of_complete {o : Observation} (h : o.Complete) : o.rawData.isNone = false := by
  obtain ⟨ids, hids⟩ := Option.isSome_iff_exists.1 h.2
  unfold upgradeIds? at hids
  cases hraw : o.rawData with
  | none => rw [hraw] at hids; cases hids
  | some raw => rfl

end Proto.Observation

namespace EventState

/-! ## Observing a complete observation -/

theorem observe_of_complete (σ : EventState) {o : Proto.Observation} (h : o.Complete) :
    σ.observe o =
      { loop := o.loop
        previousLoop := σ.loop
        known := fun t => (o.viewAt t).isSome || σ.known t
        units := o.viewAt
        before := σ.units
        upgrades := o.upgradeIds
        upgradesPrevious := σ.upgrades
        dead := o.deadUnits
        alerts := o.alerts } := by
  have hscore : o.score.isNone = false := by
    rw [← Option.not_isSome, h.1]
    rfl
  unfold observe
  simp only [hscore, Proto.Observation.rawData_of_complete h, Bool.false_eq_true, if_false,
    Proto.Observation.upgradeIds_of_complete h]

/-- The delivery is due exactly when the observation moves the game loop. -/
theorem due_observe (σ : EventState) {o : Proto.Observation} (h : o.Complete) :
    (σ.observe o).Due ↔ o.loop ≠ σ.loop := by
  rw [σ.observe_of_complete h]
  rfl

/-! ## Events of one unit -/

section Unit

variable {c : Callback} {t : Tag} {now : UnitView} {before : Option UnitView}

theorem mem_addedEvents : c ∈ addedEvents t now before ↔ before = none ∧
    ((now.alliance = .enemy ∧ now.displayType = .visible ∧ c = .onUnitEnterVision t) ∨
      (now.alliance = .self ∧ c = .onUnitCreated t)) := by
  unfold addedEvents
  cases before with
  | some view => simp
  | none =>
    cases hally : now.alliance <;> by_cases hvis : now.displayType = .visible <;> simp [hvis]

theorem mem_ownEvents {commands : List Tag} : c ∈ ownEvents t now before commands ↔
    now.alliance = .self ∧ now.complete = true ∧
      ((now.ordered = false ∧ idleAnew before (commands.contains t) = true ∧ c = .onUnitIdle t) ∨
        ((∃ view, before = some view ∧ view.complete = false) ∧
          c = .onBuildingConstructionComplete t)) := by
  unfold ownEvents idleEvents completedEvents
  by_cases hself : now.alliance = .self
  · cases hcomplete : now.complete <;> cases hordered : now.ordered <;>
      cases hidle : idleAnew before (commands.contains t) <;> rcases before with _ | view <;>
      simp [hself]
  · simp [hself]

theorem mem_flatMap_unitEvents {σ : EventState} {order : List Tag} (h : σ.Lists order)
    {event : Tag → UnitView → Option UnitView → List Callback} :
    c ∈ order.flatMap (σ.unitEvents event) ↔
      ∃ t now, σ.units t = some now ∧ c ∈ event t now (σ.before t) := by
  simp only [List.mem_flatMap, h.mem]
  constructor
  · rintro ⟨t, ht, hc⟩
    obtain ⟨now, hnow⟩ := Option.isSome_iff_exists.1 ht
    exact ⟨t, now, hnow, by rwa [unitEvents, hnow] at hc⟩
  · rintro ⟨t, now, hnow, hc⟩
    exact ⟨t, by rw [hnow]; rfl, by rwa [unitEvents, hnow]⟩

end Unit

/-! ## Callbacks of a delivery -/

section Callbacks

variable {σ : EventState} {order commands : List Tag} {t : Tag}

theorem mem_alerts {alerts : List Proto.Alert} {c : Callback}
    (h : c ∈ alerts.map ControlImp.alertEvent) :
    c = .onNuclearLaunchDetected ∨ c = .onNydusDetected := by
  obtain ⟨alert, -, rfl⟩ := List.mem_map.1 h
  cases alert
  · exact Or.inl rfl
  · exact Or.inr rfl

/-- The callbacks of a delivery, kind by kind. -/
theorem mem_callbacks (h : σ.reap.Lists order) {c : Callback} :
    c ∈ σ.callbacks order commands ↔
      (∃ t ∈ σ.dead, σ.known t = true ∧ c = .onUnitDestroyed t) ∨
      (∃ t now, σ.reap.units t = some now ∧ c ∈ addedEvents t now (σ.before t)) ∨
      (∃ t now, σ.reap.units t = some now ∧ c ∈ ownEvents t now (σ.before t) commands) ∨
      (∃ x ∈ σ.upgrades, x ∉ σ.upgradesPrevious ∧ c = .onUpgradeCompleted x) ∨
      c ∈ σ.alerts.map ControlImp.alertEvent ∨ c = .onStep := by
  unfold callbacks destroyedEvents upgradeEvents
  simp only [List.mem_append, mem_flatMap_unitEvents h, List.mem_map, List.mem_filter,
    List.mem_singleton, decide_eq_true_eq, or_assoc, and_assoc, eq_comm (b := c)]
  rfl

theorem destroyed_mem_callbacks (h : σ.reap.Lists order) :
    .onUnitDestroyed t ∈ σ.callbacks order commands ↔ t ∈ σ.dead ∧ σ.known t = true := by
  rw [mem_callbacks h]
  constructor
  · rintro (⟨t', ht, hk, hc⟩ | ⟨_, _, _, hc⟩ | ⟨_, _, _, hc⟩ | ⟨_, _, _, hc⟩ | hc | hc)
    · obtain rfl : t = t' := by injection hc
      exact ⟨ht, hk⟩
    · simp [mem_addedEvents] at hc
    · simp [mem_ownEvents] at hc
    · cases hc
    · rcases mem_alerts hc with hc | hc <;> cases hc
    · cases hc
  · exact fun ⟨ht, hk⟩ => Or.inl ⟨t, ht, hk, rfl⟩

theorem created_mem_callbacks (h : σ.reap.Lists order) :
    .onUnitCreated t ∈ σ.callbacks order commands ↔
      ∃ now, σ.reap.units t = some now ∧ now.alliance = .self ∧ σ.before t = none := by
  rw [mem_callbacks h]
  constructor
  · rintro (⟨_, _, _, hc⟩ | ⟨t', now, hnow, hc⟩ | ⟨_, _, _, hc⟩ | ⟨_, _, _, hc⟩ | hc | hc)
    · cases hc
    · obtain ⟨hbefore, ⟨-, -, hc⟩ | ⟨hself, hc⟩⟩ := mem_addedEvents.1 hc
      · cases hc
      · obtain rfl : t = t' := by injection hc
        exact ⟨now, hnow, hself, hbefore⟩
    · simp [mem_ownEvents] at hc
    · cases hc
    · rcases mem_alerts hc with hc | hc <;> cases hc
    · cases hc
  · rintro ⟨now, hnow, hself, hbefore⟩
    exact Or.inr (Or.inl ⟨t, now, hnow, mem_addedEvents.2 ⟨hbefore, Or.inr ⟨hself, rfl⟩⟩⟩)

theorem idle_mem_callbacks (h : σ.reap.Lists order) :
    .onUnitIdle t ∈ σ.callbacks order commands ↔
      ∃ now, σ.reap.units t = some now ∧ now.alliance = .self ∧ now.complete = true ∧
        now.ordered = false ∧ idleAnew (σ.before t) (commands.contains t) = true := by
  rw [mem_callbacks h]
  constructor
  · rintro (⟨_, _, _, hc⟩ | ⟨_, _, _, hc⟩ | ⟨t', now, hnow, hc⟩ | ⟨_, _, _, hc⟩ | hc | hc)
    · cases hc
    · simp [mem_addedEvents] at hc
    · obtain ⟨hself, hcomplete, ⟨hordered, hidle, hc⟩ | ⟨-, hc⟩⟩ := mem_ownEvents.1 hc
      · obtain rfl : t = t' := by injection hc
        exact ⟨now, hnow, hself, hcomplete, hordered, hidle⟩
      · cases hc
    · cases hc
    · rcases mem_alerts hc with hc | hc <;> cases hc
    · cases hc
  · rintro ⟨now, hnow, hself, hcomplete, hordered, hidle⟩
    exact Or.inr (Or.inr (Or.inl ⟨t, now, hnow,
      mem_ownEvents.2 ⟨hself, hcomplete, Or.inl ⟨hordered, hidle, rfl⟩⟩⟩))

theorem completed_mem_callbacks (h : σ.reap.Lists order) :
    .onBuildingConstructionComplete t ∈ σ.callbacks order commands ↔
      ∃ now, σ.reap.units t = some now ∧ now.alliance = .self ∧ now.complete = true ∧
        ∃ view, σ.before t = some view ∧ view.complete = false := by
  rw [mem_callbacks h]
  constructor
  · rintro (⟨_, _, _, hc⟩ | ⟨_, _, _, hc⟩ | ⟨t', now, hnow, hc⟩ | ⟨_, _, _, hc⟩ | hc | hc)
    · cases hc
    · simp [mem_addedEvents] at hc
    · obtain ⟨hself, hcomplete, ⟨-, -, hc⟩ | ⟨hbefore, hc⟩⟩ := mem_ownEvents.1 hc
      · cases hc
      · obtain rfl : t = t' := by injection hc
        exact ⟨now, hnow, hself, hcomplete, hbefore⟩
    · cases hc
    · rcases mem_alerts hc with hc | hc <;> cases hc
    · cases hc
  · rintro ⟨now, hnow, hself, hcomplete, hbefore⟩
    exact Or.inr (Or.inr (Or.inl ⟨t, now, hnow,
      mem_ownEvents.2 ⟨hself, hcomplete, Or.inr ⟨hbefore, rfl⟩⟩⟩))

theorem upgrade_mem_callbacks (h : σ.reap.Lists order) {x : UpgradeID} :
    .onUpgradeCompleted x ∈ σ.callbacks order commands ↔
      x ∈ σ.upgrades ∧ x ∉ σ.upgradesPrevious := by
  rw [mem_callbacks h]
  constructor
  · rintro (⟨_, _, _, hc⟩ | ⟨_, _, _, hc⟩ | ⟨_, _, _, hc⟩ | ⟨x', hx, hnew, hc⟩ | hc | hc)
    · cases hc
    · simp [mem_addedEvents] at hc
    · simp [mem_ownEvents] at hc
    · obtain rfl : x = x' := by injection hc
      exact ⟨hx, hnew⟩
    · rcases mem_alerts hc with hc | hc <;> cases hc
    · cases hc
  · exact fun ⟨hx, hnew⟩ => Or.inr (Or.inr (Or.inr (Or.inl ⟨x, hx, hnew, rfl⟩)))

end Callbacks

end EventState

end Sc2Api
