import Sc2Api.ClientRuns
import Sc2Api.Lib.Lists
import Sc2Api.Verify.ObservationUnits

/-!
# The client refines the difference of two observations

`ControlImp.eventState` maps a client to what it remembers. Fetching an
observation is `EventState.observe` there, and issuing events is
`EventState.callbacks` over some listing of the existing units followed by
`EventState.reap`; a client whose pool is tagged stays so.
-/

namespace Sc2Api

open Lib

/-! ## Views of records -/

theorem convertUnit_view (u : Proto.Unit) (loop : GameLoop) (old : Unit) :
    (convertUnit u loop old).view = u.view := by
  unfold Unit.view Proto.Unit.view
  simp only [convertUnit, List.isEmpty_map]
  rfl

theorem view_of_orders {u : Unit} {orders : List UnitOrder}
    (h : orders.length = u.orders.length) : ({ u with orders } : Unit).view = u.view := by
  have hempty : orders.isEmpty = u.orders.isEmpty := by
    rw [Bool.eq_iff_iff, List.isEmpty_iff_length_eq_zero, List.isEmpty_iff_length_eq_zero, h]
  unfold Unit.view
  simp only [hempty]

theorem SameUnits.view {p p' : UnitPool} (h : SameUnits p p') (t : Tag) :
    (p'.existingUnit t).map (·.view) = (p.existingUnit t).map (·.view) := by
  obtain ⟨g, hlen, hg⟩ := h.record t
  rw [hg, Option.map_map]
  exact Option.map_congr fun u _ => view_of_orders (hlen u)

/-! ## Observing -/

section Observe

open ObservationImp

theorem remapOrders_eq (s : ObservationImp) (order : UnitPool.Order) :
    s.remapOrders order = { s with
      unitPool := (s.remapOrders order).unitPool
      abilityTable := (s.remapOrders order).abilityTable } := by
  unfold remapOrders
  split <;> rfl

/-- The unit part of the update: the pool shows the units of the message, and the
previous map what existed before. -/
structure UnitsUpdated (s s' : ObservationImp) (raw : Proto.ObservationRaw) : Prop where
  tagged : s'.unitPool.Tagged
  known : ∀ t, (s'.unitPool.getUnit t).isSome =
    ((Proto.lastWith t raw.units).isSome || (s.unitPool.getUnit t).isSome)
  units : ∀ t, (s'.unitPool.existingUnit t).map (·.view) =
    (Proto.lastWith t raw.units).map (·.view)
  before : ∀ t, s'.unitsPreviousMap.lookup t = s.unitPool.existingUnit t
  currentGameLoop : s'.currentGameLoop = s.currentGameLoop
  previousGameLoop : s'.previousGameLoop = s.previousGameLoop
  upgrades : s'.upgrades = s.upgrades
  upgradesPrevious : s'.upgradesPrevious = s.upgradesPrevious

theorem updateUnits_spec {s : ObservationImp} (h : s.unitPool.Tagged) (orders : UpdateOrders)
    (raw : Proto.ObservationRaw) : UnitsUpdated s (s.updateUnits orders raw) raw := by
  obtain ⟨htag, hknown, hunits⟩ := convertUnits_spec h s.currentGameLoop raw
  unfold updateUnits
  simp only
  generalize hconv : ({ s with
    unitsPreviousMap := previousMap orders.previous s.unitPool
    unitPool := convertUnits raw s.unitPool.clearExisting s.currentGameLoop } :
      ObservationImp) = s₁
  have hpool : s₁.unitPool = convertUnits raw s.unitPool.clearExisting s.currentGameLoop := by
    rw [← hconv]
  rw [← hpool] at htag hknown hunits
  obtain ⟨htag', hsame⟩ := remapOrders_spec htag orders.remap
  have heq := remapOrders_eq s₁ orders.remap
  refine ⟨htag', fun t => ?_, fun t => ?_, fun t => ?_, ?_, ?_, ?_, ?_⟩
  · rw [hsame.getUnit, Bool.eq_iff_iff, Bool.or_eq_true, Option.isSome_iff_ne_none, hknown,
      Proto.lastWith_isSome, Option.isSome_iff_ne_none]
  · rw [hsame.view, hunits, Option.map_map]
    exact Option.map_congr fun u _ => convertUnit_view u _ _
  · rw [heq, ← hconv]
    exact lookup_previousMap h orders.previous t
  · rw [heq, ← hconv]
  · rw [heq, ← hconv]
  · rw [heq, ← hconv]
  · rw [heq, ← hconv]

/-- What events read of an observation record, next to the stored message. -/
def ObservationImp.eventState (s : ObservationImp) (dead : List Tag) (alerts : List Proto.Alert) :
    EventState where
  loop := s.currentGameLoop
  previousLoop := s.previousGameLoop
  known t := (s.unitPool.getUnit t).isSome
  units t := (s.unitPool.existingUnit t).map (·.view)
  before t := (s.unitsPreviousMap.lookup t).map (·.view)
  upgrades := s.upgrades
  upgradesPrevious := s.upgradesPrevious
  dead
  alerts

theorem UnitsUpdated.eventState {s s' : ObservationImp} {raw : Proto.ObservationRaw}
    (h : UnitsUpdated s s' raw) (dead : List Tag) (alerts : List Proto.Alert) :
    s'.eventState dead alerts = { s.eventState dead alerts with
      before := (s.eventState dead alerts).units
      units := fun t => (Proto.lastWith t raw.units).map (·.view)
      known := fun t => ((Proto.lastWith t raw.units).map (·.view)).isSome ||
        (s.eventState dead alerts).known t } := by
  unfold ObservationImp.eventState
  simp only [h.currentGameLoop, h.previousGameLoop, h.upgrades, h.upgradesPrevious, h.before,
    h.units, h.known, Option.isSome_map]

/-- `UpdateObservation` takes in an observation the way `EventState.observe` says. -/
theorem updateObservation_spec {s : ObservationImp} (h : s.unitPool.Tagged)
    (orders : UpdateOrders) (o : Proto.Observation) (r : Proto.ResponseObservation)
    (dead : List Tag) (alerts : List Proto.Alert) :
    (s.updateObservation orders o r).2.unitPool.Tagged ∧
      (s.updateObservation orders o r).2.eventState o.deadUnits o.alerts =
        (s.eventState dead alerts).observe o := by
  unfold updateObservation EventState.observe convertScore
  cases hscore : o.score with
  | none => exact ⟨h, rfl⟩
  | some score =>
    simp only [Bool.not_true, Bool.false_eq_true, if_false, Option.isNone_some]
    generalize hs₁ : updateChat _ r = s₁
    have hpool : s₁.unitPool = s.unitPool := by rw [← hs₁]; rfl
    have hstate : s₁.eventState o.deadUnits o.alerts = { s.eventState dead alerts with
        dead := o.deadUnits
        alerts := o.alerts
        previousLoop := s.currentGameLoop
        loop := o.loop } := by rw [← hs₁]; rfl
    cases hraw : o.rawData with
    | none => exact ⟨hpool ▸ h, hstate⟩
    | some raw =>
      have hup := updateUnits_spec (hpool ▸ h) orders raw
      have hview := hup.eventState o.deadUnits o.alerts
      rw [hstate] at hview
      have hunits : o.units = raw.units := by
        rw [Proto.Observation.units, hraw, Option.getD_some]
      have hids : o.upgradeIds? = raw.player.bind fun player =>
          player.camera.map fun _ => player.upgradeIds := by
        rw [Proto.Observation.upgradeIds?, hraw, Option.bind_some]
      have hviewAt : o.viewAt = fun t => (Proto.lastWith t raw.units).map (·.view) := by
        funext t
        rw [Proto.Observation.viewAt, hunits]
      simp only [Option.isNone_some, Bool.false_eq_true, if_false, hviewAt, hids]
      generalize s₁.updateUnits orders raw = s₂ at hup hview ⊢
      have htag := hup.tagged
      cases hplayer : raw.player with
      | none => exact ⟨htag, hview⟩
      | some player =>
        cases hcamera : player.camera with
        | none =>
          simp only [Option.bind_some, hcamera, Option.map_none]
          exact ⟨htag, hview⟩
        | some camera =>
          simp only [Option.bind_some, hcamera, Option.map_some]
          have hups : s₂.upgrades = s.upgrades := congrArg EventState.upgrades hview
          refine ⟨htag, ?_⟩
          show { s₂.eventState o.deadUnits o.alerts with
            upgradesPrevious := s₂.upgrades
            upgrades := player.upgradeIds } = _
          rw [hview, hups]
          rfl

/-- Fetching an observation shifts the memory of the client by one. -/
theorem getObservation_spec {c : ControlImp} (happ : c.appState = .normal)
    (h : c.observationImp.unitPool.Tagged) (orders : UpdateOrders) (o : Proto.Observation)
    (r : Proto.ResponseObservation) :
    let c' := (c.getObservation orders (some (.ofObservation o r))).2
    c'.appState = .normal ∧ c'.observationImp.unitPool.Tagged ∧
      c'.eventState = c.eventState.observe o := by
  obtain ⟨htag, hstate⟩ := updateObservation_spec h orders o { r with observation := some o }
    (c.observation.getD {}).deadUnits (c.observation.getD {}).alerts
  unfold ControlImp.getObservation
  rw [if_neg (not_not.2 happ)]
  exact ⟨happ, htag, hstate⟩

end Observe

/-! ## Issuing -/

section Issue

open ControlImp

theorem destroyUnits_of_unknown {p : UnitPool} {t : Tag} (tags : List Tag)
    (h : p.getUnit t = none) : destroyUnits (t :: tags) p = destroyUnits tags p := by
  rw [destroyUnits, h]

theorem destroyUnits_of_known {p : UnitPool} {t : Tag} {i : PoolIndex} (tags : List Tag)
    (h : p.getUnit t = some i) : destroyUnits (t :: tags) p =
      (.onUnitDestroyed ((p.markDead t).deref i).tag :: (destroyUnits tags (p.markDead t)).1,
        (destroyUnits tags (p.markDead t)).2) := by
  rw [destroyUnits, h]

/-- The destroyed events name the dead units that are known, and remove them. -/
theorem destroyUnits_spec {p : UnitPool} (h : p.Tagged) (tags : List Tag) :
    (destroyUnits tags p).1 = (tags.filter fun t => (p.getUnit t).isSome).map .onUnitDestroyed ∧
      (destroyUnits tags p).2.Tagged ∧
      (∀ t, (destroyUnits tags p).2.getUnit t = p.getUnit t) ∧
      ∀ t, (destroyUnits tags p).2.existingUnit t =
        if t ∈ tags then none else p.existingUnit t := by
  induction tags generalizing p with
  | nil => exact ⟨rfl, h, fun _ => rfl, fun t => by simp [destroyUnits]⟩
  | cons t tags ih =>
    cases hk : p.getUnit t with
    | none =>
      obtain ⟨hlog, htag, hknown, hunits⟩ := ih h
      rw [destroyUnits_of_unknown tags hk]
      refine ⟨by simp [hlog, hk], htag, hknown, fun t' => ?_⟩
      rw [hunits]
      by_cases hne : t' = t
      · subst hne
        have hgone : p.existingUnit t' = none :=
          not_not.1 fun hn => h.getUnit_of_existing hn hk
        simp [hgone]
      · simp [hne]
    | some i =>
      obtain ⟨hlog, htag, hknown, hunits⟩ := ih (h.markDead t)
      rw [destroyUnits_of_known tags hk]
      refine ⟨?_, htag, fun t' => ?_, fun t' => ?_⟩
      · have htagi : ((p.markDead t).deref i).tag = t :=
          (h.markDead t).deref_tag ((UnitPool.getUnit_markDead p t t).trans hk)
        simp [hlog, hk, htagi]
      · rw [hknown, UnitPool.getUnit_markDead]
      · rw [hunits, h.existingUnit_markDead]
        by_cases hne : t' = t <;> simp [hne]

theorem issueUnitDestroyedEvents_eq (c : ControlImp) :
    c.issueUnitDestroyedEvents =
      ((destroyUnits (c.observation.getD {}).deadUnits c.observationImp.unitPool).1,
        { c with observationImp := { c.observationImp with unitPool :=
          (destroyUnits (c.observation.getD {}).deadUnits c.observationImp.unitPool).2 } }) := by
  unfold issueUnitDestroyedEvents Proto.Observation.deadUnits
  cases (c.observation.getD {}).rawData with
  | none => rfl
  | some raw =>
    cases hevent : raw.event with
    | none => simp only [Option.getD_some, hevent, Option.getD_none]; rfl
    | some event => simp only [Option.getD_some, hevent]

theorem issueUnitDestroyedEvents_spec {c : ControlImp} (h : c.observationImp.unitPool.Tagged) :
    c.issueUnitDestroyedEvents.1 = c.eventState.destroyedEvents ∧
      c.issueUnitDestroyedEvents.2.observationImp.unitPool.Tagged ∧
      c.issueUnitDestroyedEvents.2.appState = c.appState ∧
      c.issueUnitDestroyedEvents.2.eventState = c.eventState.reap := by
  rw [issueUnitDestroyedEvents_eq]
  obtain ⟨hlog, htag, hknown, hunits⟩ :=
    destroyUnits_spec h (c.observation.getD {}).deadUnits
  refine ⟨hlog, htag, rfl, ?_⟩
  unfold eventState EventState.reap
  simp only [hknown, hunits]
  congr 1
  funext t
  split <;> rfl

/-! ### The walks over the existing units -/

theorem flatMap_existingUnits {c : ControlImp} (h : c.observationImp.unitPool.Tagged)
    (order : UnitPool.Order) {f : Unit → List Callback}
    {g : Tag → UnitView → Option UnitView → List Callback}
    (hfg : ∀ u : Unit, f u =
      g u.tag u.view ((c.observationImp.unitsPreviousMap.lookup u.tag).map (·.view))) :
    ((c.observationImp.unitPool.existingUnits order).flatMap fun unit =>
        f (c.observationImp.unitPool.deref unit)) =
      (c.observationImp.unitPool.existingTags order).flatMap (c.eventState.unitEvents g) := by
  rw [← List.flatMap_map (c.observationImp.unitPool.deref) f,
    UnitPool.map_deref_existingUnits, List.flatMap_map]
  refine List.flatMap_congr fun t ht => ?_
  obtain ⟨u, hu⟩ := Option.ne_none_iff_exists'.1 (h.mem_existingTags.1 ht)
  rw [hu, Option.getD_some, hfg, h.existing_tag hu]
  unfold EventState.unitEvents eventState
  simp only [hu, Option.map_some]

theorem lists_existingTags {c : ControlImp} (h : c.observationImp.unitPool.Tagged)
    (order : UnitPool.Order) :
    c.eventState.Lists (c.observationImp.unitPool.existingTags order) where
  nodup := UnitPool.existingTags_nodup _ order
  mem t := by
    rw [h.mem_existingTags]
    unfold eventState
    simp only [Option.isSome_map, Option.isSome_iff_ne_none]

theorem unitAddedEvent_eq (previous : AList fun _ : Tag => Unit) (u : Unit) :
    unitAddedEvent previous u =
      EventState.addedEvents u.tag u.view ((previous.lookup u.tag).map (·.view)) := by
  unfold unitAddedEvent EventState.addedEvents
  cases previous.lookup u.tag <;> rfl

theorem issueIdleEvent_eq (previous : AList fun _ : Tag => Unit) (u : Unit)
    (commands : List Tag) :
    issueIdleEvent previous u commands =
      EventState.idleEvents u.tag u.view ((previous.lookup u.tag).map (·.view)) commands := by
  unfold issueIdleEvent EventState.idleEvents EventState.idleAnew Unit.view
  by_cases horders : u.orders = []
  · by_cases hprogress : u.buildProgress < 1
    · simp [hprogress]
    · cases hbefore : previous.lookup u.tag with
      | none => simp [horders, hprogress]
      | some v =>
        by_cases ho : v.orders = []
        · by_cases hp : v.buildProgress < 1 <;> simp [horders, hprogress, ho, hp]
        · simp [horders, hprogress, ho]
  · simp [horders]

theorem issueBuildingCompletedEvent_eq (previous : AList fun _ : Tag => Unit) (u : Unit) :
    issueBuildingCompletedEvent previous u =
      EventState.completedEvents u.tag u.view ((previous.lookup u.tag).map (·.view)) := by
  unfold issueBuildingCompletedEvent EventState.completedEvents Unit.view
  cases hbefore : previous.lookup u.tag with
  | none => simp
  | some v =>
    by_cases hprogress : u.buildProgress < 1
    · simp [hprogress]
    · by_cases hp : v.buildProgress < 1 <;> simp [hprogress, hp]

theorem issueUnitEvents_eq {c : ControlImp} (h : c.observationImp.unitPool.Tagged)
    (order : UnitPool.Order) (commands : List Tag) :
    c.issueUnitEvents order commands =
      (c.observationImp.unitPool.existingTags order).flatMap (c.eventState.unitEvents
        fun t now before => EventState.ownEvents t now before commands) := by
  unfold issueUnitEvents getUnits
  rw [flatMap_filter, ← flatMap_existingUnits h order
    (f := fun u => if u.alliance == Alliance.self then
      issueIdleEvent c.observationImp.unitsPreviousMap u commands ++
        issueBuildingCompletedEvent c.observationImp.unitsPreviousMap u else [])]
  intro u
  rw [issueIdleEvent_eq, issueBuildingCompletedEvent_eq]
  unfold EventState.ownEvents Unit.view
  simp only [beq_iff_eq]

/-! ### The whole delivery -/

theorem issueEvents_of_not_due {c : ControlImp} (hdue : ¬c.eventState.Due)
    (order : UnitPool.Order) (commands : List Tag) :
    c.issueEvents order commands = (false, [], c) :=
  if_pos (not_not.1 hdue)

theorem issueEvents_of_due {c : ControlImp} (hdue : c.eventState.Due)
    (order : UnitPool.Order) (commands : List Tag) :
    c.issueEvents order commands =
      (true,
        c.issueUnitDestroyedEvents.1 ++
          c.issueUnitDestroyedEvents.2.issueUnitAddedEvents order ++
          c.issueUnitDestroyedEvents.2.issueUnitEvents order commands ++
          c.issueUnitDestroyedEvents.2.issueUpgradeEvents ++
          c.issueUnitDestroyedEvents.2.issueAlertEvents ++ [.onStep],
        c.issueUnitDestroyedEvents.2) :=
  if_neg hdue

/-- Issuing events changes only the pool. -/
theorem exists_pool_issueEvents (c : ControlImp) (order : UnitPool.Order)
    (commands : List Tag) : ∃ pool, (c.issueEvents order commands).2.2 =
      { c with observationImp := { c.observationImp with unitPool := pool } } := by
  by_cases hdue : c.eventState.Due
  · rw [issueEvents_of_due hdue, issueUnitDestroyedEvents_eq]
    exact ⟨_, rfl⟩
  · rw [issueEvents_of_not_due hdue]
    exact ⟨_, rfl⟩

/-- Issuing events is the abstract step, over the listing the enumeration gives. -/
theorem issueEvents_spec {c : ControlImp} (h : c.observationImp.unitPool.Tagged)
    (order : UnitPool.Order) (commands : List Tag) :
    (c.issueEvents order commands).2.2.appState = c.appState ∧
      (c.issueEvents order commands).2.2.observationImp.unitPool.Tagged ∧
      c.eventState.Issues commands (c.issueEvents order commands).2.1
        (c.issueEvents order commands).2.2.eventState := by
  by_cases hdue : c.eventState.Due
  · obtain ⟨hlog, htag, happ, hstate⟩ := issueUnitDestroyedEvents_spec h
    rw [issueEvents_of_due hdue]
    generalize c.issueUnitDestroyedEvents = d at hlog htag happ hstate ⊢
    refine ⟨happ, htag, ?_⟩
    have hlists := lists_existingTags htag order
    have hadded : d.2.issueUnitAddedEvents order =
        (d.2.observationImp.unitPool.existingTags order).flatMap
          (d.2.eventState.unitEvents EventState.addedEvents) :=
      flatMap_existingUnits htag order fun u => unitAddedEvent_eq _ u
    have hupgrades : d.2.issueUpgradeEvents = d.2.eventState.upgradeEvents := rfl
    have halerts : d.2.issueAlertEvents = d.2.eventState.alerts.map alertEvent := rfl
    rw [hlog, hadded, issueUnitEvents_eq htag, hupgrades, halerts, hstate]
    exact .delivered hdue _ (hstate ▸ hlists)
  · rw [issueEvents_of_not_due hdue]
    exact ⟨rfl, h, .skipped hdue⟩

end Issue

/-! ## Operations of a client -/

/-- A client whose game application is normal and whose pool is in order. -/
structure ControlImp.Ready (c : ControlImp) : Prop where
  appState : c.appState = .normal
  tagged : c.observationImp.unitPool.Tagged

namespace ControlImp.Ready

variable {c : ControlImp}

theorem initial (answers : List (Option (List Proto.AbilityData))) :
    Ready (.withAnswers answers) := ⟨rfl, UnitPool.Tagged.empty⟩

/-- A round trip brings an observation that is taken in, or it changes nothing. -/
theorem getObservation_cases (h : c.Ready) (orders : UpdateOrders)
    (answer : Option Proto.Response) :
    c.getObservation orders answer = (false, c) ∨
      ∃ o r, answer = some (.ofObservation o r) := by
  unfold ControlImp.getObservation
  rw [if_neg (not_not.2 h.appState)]
  rcases answer with _ | ⟨_ | _, _ | r⟩
  · exact Or.inl rfl
  · exact Or.inl rfl
  · cases hr : r.observation with
    | none => exact Or.inl (by simp [hr])
    | some o =>
      refine Or.inr ⟨o, r, ?_⟩
      unfold Proto.Response.ofObservation
      rw [← hr]
  · exact Or.inl rfl
  · exact Or.inl rfl

theorem step (h : c.Ready) (op : ClientOp) : (client.step c op).1.Ready := by
  cases op with
  | getObservation orders answer =>
    show (c.getObservation orders answer).2.Ready
    rcases h.getObservation_cases orders answer with he | ⟨o, r, rfl⟩
    · rw [he]
      exact h
    · obtain ⟨happ, htag, -⟩ := getObservation_spec h.appState h.tagged orders o r
      exact ⟨happ, htag⟩
  | issueEvents order commands =>
    obtain ⟨happ, htag, -⟩ := issueEvents_spec h.tagged order commands
    exact ⟨happ.trans h.appState, htag⟩
  | requestJoinGame setup settings ports sent => exact ⟨h.appState, h.tagged⟩

theorem final (h : c.Ready) (ops : List ClientOp) : (client.final c ops).Ready :=
  Machine.invariant' (m := client) (fun _ op h => h.step op) ops h

/-- One frame observes and then issues. -/
theorem frame (h : c.Ready) (f : Frame) :
    (frames.step c f).1.Ready ∧
      (c.eventState.observe f.observation).Issues f.commands (frames.step c f).2
        (frames.step c f).1.eventState := by
  obtain ⟨happ, htag, hstate⟩ :=
    getObservation_spec h.appState h.tagged f.orders f.observation f.response
  rw [← hstate]
  obtain ⟨happ', htag', hissues⟩ := issueEvents_spec htag f.order f.commands
  exact ⟨⟨happ'.trans happ, htag'⟩, hissues⟩

/-- Joining a game leaves the memory of the client as it is. -/
theorem eventState_requestJoinGame (c : ControlImp) (setup : PlayerSetup)
    (settings : InterfaceSettings) (ports : Ports) (sent : Bool) :
    (client.step c (.requestJoinGame setup settings ports sent)).1.eventState =
      c.eventState := rfl

end ControlImp.Ready

end Sc2Api
