import Sc2Api.Verify.DifferenceRuns

/-!
# Units that enter vision

An enemy enters vision when it is visible and the last observation did not show it, or
showed only a snapshot or a hidden unit. The client asks something else: whether the unit
was there at all, in any display, and not yet taken for dead.
-/

namespace Sc2Api

open Lib Difference

/-! ## What a delivery tells -/

namespace EventState

variable {σ : EventState} {order commands : List Tag} {t : Tag}

theorem enterVision_mem_callbacks (h : σ.reap.Lists order) :
    .onUnitEnterVision t ∈ σ.callbacks order commands ↔
      ∃ now, σ.reap.units t = some now ∧ now.alliance = .enemy ∧ now.displayType = .visible ∧
        σ.before t = none := by
  rw [mem_callbacks h]
  constructor
  · rintro (⟨_, _, _, hc⟩ | ⟨t', now, hnow, hc⟩ | ⟨_, _, _, hc⟩ | ⟨_, _, _, hc⟩ | hc | hc)
    · cases hc
    · obtain ⟨hbefore, ⟨henemy, hvisible, hc⟩ | ⟨-, hc⟩⟩ := mem_addedEvents.1 hc
      · obtain rfl : t = t' := by injection hc
        exact ⟨now, hnow, henemy, hvisible, hbefore⟩
      · cases hc
    · simp [mem_ownEvents] at hc
    · cases hc
    · rcases mem_alerts hc with hc | hc <;> cases hc
    · cases hc
  · rintro ⟨now, hnow, henemy, hvisible, hbefore⟩
    exact .inr (.inl ⟨t, now, hnow, mem_addedEvents.2 ⟨hbefore, .inl ⟨henemy, hvisible, rfl⟩⟩⟩)

/-- A unit enters vision under its own tag, and once. -/
theorem enterVision_count_unit (σ : EventState) (t t' : Tag) :
    (σ.unitEvents addedEvents t').count (.onUnitEnterVision t) ≤ if t' = t then 1 else 0 := by
  unfold unitEvents addedEvents
  split
  · exact Nat.zero_le _
  · split
    · exact Nat.zero_le _
    · split
      · rw [List.count_singleton]
        by_cases ht : t' = t <;> simp [ht]
      · split <;> simp

theorem enterVision_count_le (h : σ.reap.Lists order) :
    (σ.callbacks order commands).count (.onUnitEnterVision t) ≤ 1 := by
  have hadded : (order.flatMap (σ.reap.unitEvents addedEvents)).count
      (.onUnitEnterVision t) ≤ 1 := by
    have hunit := σ.reap.enterVision_count_unit t
    rw [List.count_flatMap]
    refine sum_map_le_one (fun t' _ => (hunit t').trans (by split <;> simp)) ?_
    refine h.nodup.imp fun {a b} hne => ?_
    by_cases ha : a = t
    · have hb : b ≠ t := fun hb => hne (ha.trans hb.symm)
      exact .inr (Nat.le_zero.1 ((hunit b).trans_eq (if_neg hb)))
    · exact .inl (Nat.le_zero.1 ((hunit a).trans_eq (if_neg ha)))
  have hdestroyed : .onUnitEnterVision t ∉ σ.destroyedEvents := by
    simp [destroyedEvents]
  have hown : .onUnitEnterVision t ∉ order.flatMap
      (σ.reap.unitEvents fun t now before => ownEvents t now before commands) := by
    rw [mem_flatMap_unitEvents h]
    rintro ⟨t', now, -, hc⟩
    simp [mem_ownEvents] at hc
  have hupgrades : .onUnitEnterVision t ∉ σ.upgradeEvents := by
    simp [upgradeEvents]
  have halerts : .onUnitEnterVision t ∉ σ.alerts.map ControlImp.alertEvent := by
    intro hc
    rcases mem_alerts hc with hc | hc <;> cases hc
  unfold callbacks
  simp only [List.count_append, List.count_eq_zero.2 hdestroyed, List.count_eq_zero.2 hown,
    List.count_eq_zero.2 hupgrades, List.count_eq_zero.2 halerts]
  simpa using hadded

/-- A count of at most one is a matter of membership. -/
theorem enterVision_count (h : σ.reap.Lists order) (P : Prop) [Decidable P]
    (hP : .onUnitEnterVision t ∈ σ.callbacks order commands ↔ P) :
    (σ.callbacks order commands).count (.onUnitEnterVision t) = if P then 1 else 0 := by
  have hle : (σ.callbacks order commands).count (.onUnitEnterVision t) ≤ 1 :=
    enterVision_count_le h
  rw [← List.count_pos_iff] at hP
  split
  next hp => exact Nat.le_antisymm hle (hP.2 hp)
  next hp => exact Nat.eq_zero_of_not_pos fun hpos => hp (hP.1 hpos)

end EventState

/-! ## Vision -/

namespace Proto.Unit

/-- Only a snapshot of the unit is there, or it is hidden. -/
def isUnseen (u : Unit) : Bool :=
  u.displayType.getD .visible = .snapshot ∨ u.displayType.getD .visible = .hidden

end Proto.Unit

/-- An enemy with the tag is visible in an observation and was not seen in the last one
before. -/
def EntersVision (earlier : List Proto.Observation) (o : Proto.Observation) (t : Tag) : Prop :=
  (∃ u ∈ o.alive, u.tagD = t ∧ u.isVisibleEnemy) ∧
    ∀ p ∈ earlier.getLast?, ∀ v ∈ p.units, v.tagD = t → v.isUnseen

instance (earlier : List Proto.Observation) (o : Proto.Observation) (t : Tag) :
    Decidable (EntersVision earlier o t) :=
  inferInstanceAs (Decidable (_ ∧ _))

/-- Every frame of the run tells of the units that enter vision, of each once, where `answers`
become of the data requests. -/
def TellsVision (answers : List (Option (List Proto.AbilityData))) (fs : List Frame) : Prop :=
  ∀ k f, fs[k]? = some f → ∃ log, (frames.outputs (.withAnswers answers) fs)[k]? = some log ∧
    ∀ t, log.count (.onUnitEnterVision t) =
      if EntersVision ((fs.take k).map (·.observation)) f.observation t then 1 else 0

/-- The units that the last observation left in its client: those that died in it are
forgotten only by a delivery. -/
def leftUnits (earlier : List Proto.Observation) : List Proto.Unit :=
  match earlier.getLast? with
  | none => []
  | some p => if lastLoop earlier.dropLast = p.loop then p.units else p.alive

/-- No enemy enters vision while the game loop stands still; and when it moves, every
visible enemy that the last observation showed was forgotten as dead exactly if it was
not seen there. -/
def ClearSight (earlier : List Proto.Observation) (o : Proto.Observation) : Prop :=
  if lastLoop earlier = o.loop then ∀ u ∈ o.alive, ¬EntersVision earlier o u.tagD
  else ∀ p ∈ earlier.getLast?, ∀ u ∈ o.alive, u.isVisibleEnemy → ∀ v ∈ p.units,
    v.tagD = u.tagD →
      (v.isUnseen ↔ lastLoop earlier.dropLast ≠ p.loop ∧ v.tagD ∈ p.deadUnits)

instance (earlier : List Proto.Observation) (o : Proto.Observation) :
    Decidable (ClearSight earlier o) :=
  inferInstanceAs (Decidable (if lastLoop earlier = o.loop then _ else _))

/-! ## The client's answer -/

/-- What the client tells of instead. -/
def TellsOf (earlier : List Proto.Observation) (o : Proto.Observation) (t : Tag) : Prop :=
  lastLoop earlier ≠ o.loop ∧ (∃ u ∈ o.alive, u.tagD = t ∧ u.isVisibleEnemy) ∧
    ∀ v ∈ leftUnits earlier, v.tagD ≠ t

instance (earlier : List Proto.Observation) (o : Proto.Observation) (t : Tag) :
    Decidable (TellsOf earlier o t) :=
  inferInstanceAs (Decidable (_ ∧ _ ∧ _))

section Compare

variable {earlier : List Proto.Observation} {o p : Proto.Observation}

theorem leftUnits_concat (earlier : List Proto.Observation) (o : Proto.Observation) :
    leftUnits (earlier ++ [o]) = if lastLoop earlier = o.loop then o.units else o.alive := by
  simp [leftUnits]

theorem mem_leftUnits (hp : earlier.getLast? = some p) (v : Proto.Unit) :
    v ∈ leftUnits earlier ↔
      v ∈ p.units ∧ ¬(lastLoop earlier.dropLast ≠ p.loop ∧ v.tagD ∈ p.deadUnits) := by
  unfold leftUnits
  rw [hp]
  dsimp only
  split
  next hloop => simp [hloop]
  next hloop => simp [hloop, Proto.Observation.alive]

/-- The client tells of the units that enter vision exactly under clear sight. -/
theorem tellsOf_iff_entersVision (hwf : ∀ p ∈ earlier.getLast?, p.WellFormed) :
    (∀ t, TellsOf earlier o t ↔ EntersVision earlier o t) ↔ ClearSight earlier o := by
  unfold ClearSight
  split
  next hloop =>
    constructor
    · exact fun h u _ henters => ((h u.tagD).2 henters).1 hloop
    · intro h t
      refine iff_of_false (fun htells => htells.1 hloop) fun henters => ?_
      obtain ⟨u, hu, rfl, -⟩ := henters.1
      exact h u hu henters
  next hloop =>
    cases hlast : earlier.getLast? with
    | none => simp [TellsOf, EntersVision, leftUnits, hlast, hloop]
    | some p =>
      have hsame {v v' : Proto.Unit} (hv : v ∈ p.units) (hv' : v' ∈ p.units)
          (ht : v.tagD = v'.tagD) : v = v' :=
        List.inj_on_of_nodup_map (hwf p hlast).nodup hv hv' ht
      simp only [TellsOf, EntersVision, hlast, Option.mem_def, Option.some.injEq,
        forall_eq', mem_leftUnits hlast]
      constructor
      · intro h u hu hvisible v hv ht
        obtain ⟨htells, henters⟩ := h u.tagD
        have henemy : ∃ u' ∈ o.alive, u'.tagD = u.tagD ∧ u'.isVisibleEnemy :=
          ⟨u, hu, rfl, hvisible⟩
        constructor
        · intro hunseen
          by_contra hkept
          refine (henters ⟨henemy, fun v' hv' ht' => ?_⟩).2.2 v ⟨hv, hkept⟩ ht
          rwa [hsame hv' hv (ht'.trans ht.symm)]
        · intro hforgotten
          refine (htells ⟨hloop, henemy, fun v' hv' ht' => hv'.2 ?_⟩).2 v hv ht
          rwa [hsame hv'.1 hv (ht'.trans ht.symm)]
      · intro h t
        constructor
        · rintro ⟨-, ⟨u, hu, rfl, hvisible⟩, hleft⟩
          refine ⟨⟨u, hu, rfl, hvisible⟩, fun v hv ht => (h u hu hvisible v hv ht).2 ?_⟩
          by_contra hkept
          exact hleft v ⟨hv, hkept⟩ ht
        · rintro ⟨⟨u, hu, rfl, hvisible⟩, hunseen⟩
          exact ⟨hloop, ⟨u, hu, rfl, hvisible⟩, fun v hv ht =>
            hv.2 ((h u hu hvisible v hv.1 ht).1 (hunseen v hv.1 ht))⟩

end Compare

/-! ## Runs -/

/-- A client in order whose units are those that its observations left in it. -/
structure Follows (c : ControlImp) (earlier : List Proto.Observation) : Prop extends
    c.Ready where
  wellFormed : ∀ p ∈ earlier.getLast?, p.WellFormed
  loop : c.eventState.loop = lastLoop earlier
  units : ∀ t, c.eventState.units t = (Proto.lastWith t (leftUnits earlier)).map (·.view)

namespace Follows

variable {c : ControlImp} {earlier : List Proto.Observation} {f : Frame}

theorem initial (answers : List (Option (List Proto.AbilityData))) :
    Follows (.withAnswers answers) [] := ⟨.initial answers, by simp, rfl, fun _ => rfl⟩

theorem due_iff (h : Follows c earlier) (hwf : f.observation.WellFormed) :
    (c.eventState.observe f.observation).Due ↔ lastLoop earlier ≠ f.observation.loop := by
  rw [c.eventState.due_observe hwf.complete, h.loop]
  exact ne_comm

theorem frame (h : Follows c earlier) (hwf : f.observation.WellFormed) :
    Follows (frames.step c f).1 (earlier ++ [f.observation]) := by
  obtain ⟨hready, hissues⟩ := h.toReady.frame f
  have hdue := h.due_iff hwf
  suffices hleft : (frames.step c f).1.eventState.loop = f.observation.loop ∧
      ∀ t, (frames.step c f).1.eventState.units t =
        (Proto.lastWith t (leftUnits (earlier ++ [f.observation]))).map (·.view) by
    exact ⟨hready, by simpa using hwf, hleft.1.trans (lastLoop_concat _ _).symm, hleft.2⟩
  generalize (frames.step c f).1.eventState = σ' at hissues ⊢
  generalize (frames.step c f).2 = log at hissues
  rw [leftUnits_concat]
  rw [c.eventState.observe_of_complete hwf.complete] at hissues hdue
  cases hissues with
  | delivered due _ _ =>
    rw [if_neg (hdue.1 due)]
    exact ⟨rfl, f.observation.map_view_alive⟩
  | skipped notDue =>
    rw [if_pos (not_not.1 fun hloop => notDue (hdue.2 hloop))]
    exact ⟨rfl, fun _ => rfl⟩

/-- A frame tells of what the client takes to enter vision. -/
theorem count_enterVision (h : Follows c earlier) (hwf : f.observation.WellFormed) (t : Tag) :
    (frames.step c f).2.count (.onUnitEnterVision t) =
      if TellsOf earlier f.observation t then 1 else 0 := by
  obtain ⟨-, hissues⟩ := h.toReady.frame f
  have hdue := h.due_iff hwf
  by_cases hloop : lastLoop earlier = f.observation.loop
  · have hlog := hissues.log_of_not_due fun h => hdue.1 h hloop
    rw [hlog, if_neg fun htells => htells.1 hloop]
    rfl
  · obtain ⟨order, hlists, hlog, -⟩ := hissues.exists_order (hdue.2 hloop)
    rw [hlog]
    refine EventState.enterVision_count hlists _ ?_
    rw [EventState.enterVision_mem_callbacks hlists,
      c.eventState.observe_of_complete hwf.complete]
    simp only [EventState.reap, f.observation.map_view_alive, h.units, Option.map_eq_none_iff,
      Option.map_eq_some_iff, Proto.lastWith_eq_none,
      Proto.lastWith_eq_some hwf.alive_nodup]
    constructor
    · rintro ⟨_, ⟨u, ⟨hu, ht⟩, rfl⟩, henemy, hvisible, hleft⟩
      exact ⟨hloop, ⟨u, hu, ht, Proto.Unit.view_visible_enemy.1 ⟨henemy, hvisible⟩⟩, hleft⟩
    · rintro ⟨-, ⟨u, hu, ht, hvisible⟩, hleft⟩
      obtain ⟨henemy, hvisible⟩ := Proto.Unit.view_visible_enemy.2 hvisible
      exact ⟨u.view, ⟨u, ⟨hu, ht⟩, rfl⟩, henemy, hvisible, hleft⟩

end Follows

/-- A run of well-formed observations tells of every enemy that enters vision, once, and of
no other unit exactly when every observation comes under clear sight. -/
theorem tells_vision_iff (answers : List (Option (List Proto.AbilityData))) (fs : List Frame)
    (hwf : ∀ f ∈ fs, f.observation.WellFormed) :
    TellsVision answers fs ↔ ∀ k f, fs[k]? = some f →
      ClearSight ((fs.take k).map (·.observation)) f.observation := by
  refine frames.outputs_iff (R := fun c past => Follows c (past.map (·.observation)))
    (C := fun f => f.observation.WellFormed)
    (P := fun past f log => ∀ t, log.count (.onUnitEnterVision t) =
      if EntersVision (past.map (·.observation)) f.observation t then 1 else 0)
    (Q := fun past f => ClearSight (past.map (·.observation)) f.observation)
    (fun c past f h hf => ⟨by simpa using h.frame hf, ?_⟩) (.initial answers) hwf
  rw [← tellsOf_iff_entersVision h.wellFormed]
  refine forall_congr' fun t => ?_
  rw [h.count_enterVision hf]
  by_cases htells : TellsOf (past.map (·.observation)) f.observation t <;>
    by_cases henters : EntersVision (past.map (·.observation)) f.observation t <;>
    simp [htells, henters]

/-- An enemy as an observation shows it. -/
def Proto.Unit.enemyShown (t : Tag) (displayType : Proto.DisplayType) : Proto.Unit :=
  { tag := some t, alliance := some .enemy, displayType := some displayType,
    buildProgress := some 1 }

/-- An enemy comes into sight, and stays there. -/
theorem tells_vision_of_visible :
    TellsVision [some [{ abilityId := some 16 }]] [
      { observation := .full 1 [.idleOwn 7] [] [] },
      { observation := .full 2 [.idleOwn 7, .enemyShown 9 .visible] [] [] }] :=
  (tells_vision_iff _ _ (by decide)).2 fun k f hf => by
    rcases k with _ | _ | k <;> cases hf <;> decide

/-- An enemy building that was left as a snapshot is seen again, and nothing is told. -/
theorem not_tells_vision_of_snapshot :
    ¬TellsVision [] [
      { observation := .full 1 [.enemyShown 9 .snapshot] [] [] },
      { observation := .full 2 [.enemyShown 9 .visible] [] [] }] := by
  intro h
  obtain ⟨log, hlog, hcount⟩ := h 1 _ rfl
  have hnone : log = [.onStep] := Option.some.inj (hlog.symm.trans (by decide +kernel))
  subst hnone
  exact absurd (hcount 9) (by decide)

end Sc2Api
