import Sc2Api.Verify.BotRuns
import Sc2Api.Verify.TerranBot

/-!
# Runs of the Terran bot

A run ends early where a step trips, and nowhere else. A nuke is called down only after a step in
which the game has offered one, the stimpack used only after it was researched.
-/

namespace Sc2Api

open Lib Program BotM MultiplayerBot

namespace TerranMultiplayerBot

variable {v : BotView} {s : BotState TerranMultiplayerBot} {mechBuild : Bool}
  {past : List (BotView × BotCallback)}

/-- What the bot does with an SCV that has become idle. -/
inductive IdleCall (v : BotView) (unit : Unit) : ActionCall → Prop
  | gather {target : Option Unit} (htype : unit.unitType = .terranScv)
      (htarget : GatherTarget v .terranRefinery target) :
      IdleCall v unit
        (.unitCommandTarget (some unit.tag) .harvestGather (target.map (·.tag)) false)

/-- What the members of the bot say of the run. -/
structure Knows (mechBuild : Bool) (past : List (BotView × BotCallback))
    (own : TerranMultiplayerBot) : Prop where
  build : own.mechBuild = mechBuild
  stim : own.stimResearched = true ↔ ∃ event ∈ past, event.2 = .onUpgradeCompleted .stimpack
  nuke : own.nukeBuilt = true → ∃ event ∈ past, event.2 = .onStep ∧ OffersNuke event.1

/-- The step reads something that is not there. -/
inductive Trips (mechBuild : Bool) (past : List (BotView × BotCallback)) (v : BotView) : Prop
  /-- A nuke of the bot's own, and no launch has been detected yet. -/
  | nuke (hacts : isThrottled v = false) (hnuke : v.getUnits .self (isUnit .terranNuke) ≠ [])
      (hnever : ∀ event ∈ past, event.2 ≠ .onNuclearLaunchDetected)
  /-- The army scouts, and a medivac has nobody to escort. -/
  | stranded {unit : Unit} (hacts : isThrottled v = false)
      (hcalm : ¬∃ frame, Alarmed past frame) (hnuke : v.getUnits .self (isUnit .terranNuke) = [])
      (hnone : v.getUnits .enemy = []) (hfood : ¬v.foodArmy < waitTilSupply mechBuild)
      (hstranded : Stranded v unit)

/-- The bot as it is constructed, for one of its two builds. -/
def start (mechBuild : Bool) : BotState TerranMultiplayerBot := { own := { mechBuild } }

theorem Knows.concat {own : TerranMultiplayerBot} {callback : BotCallback}
    (h : Knows mechBuild past own) (hother : callback ≠ .onUpgradeCompleted .stimpack) :
    Knows mechBuild (past ++ [(v, callback)]) own where
  build := h.build
  stim := h.stim.trans (exists_callback_concat.trans (or_iff_left hother)).symm
  nuke hbuilt := by
    obtain ⟨event, hmem, hevent⟩ := h.nuke hbuilt
    exact ⟨event, List.mem_append_left _ hmem, hevent⟩

/-- No launch has been detected just if the bot does not know when. -/
theorem nukeDetectedFrame_eq_none_iff {bot : MultiplayerBot} (h : KnowsAlarm past bot) :
    bot.nukeDetectedFrame = none ↔ ∀ event ∈ past, event.2 ≠ .onNuclearLaunchDetected := by
  rw [h.frame, lastValue_eq_none_iff]
  refine forall₂_congr fun event _ => ?_
  unfold launchLoop isLaunch
  obtain ⟨v, callback⟩ := event
  cases callback with
  | onNuclearLaunchDetected => exact iff_of_false nofun fun hne => hne rfl
  | _ => exact iff_of_true rfl BotCallback.noConfusion

/-- The step that offers a nuke is the last one. -/
theorem allowsNuke_step {base : MultiplayerBot} :
    AllowsNuke v (SameBot base (Knows mechBuild (past ++ [(v, .onStep)]))) := by
  rintro bot own hoffers ⟨hbot, hknows⟩
  refine ⟨hbot, hknows.build, hknows.stim, fun _ => ?_⟩
  exact ⟨(v, .onStep), List.mem_append_right _ (List.mem_singleton_self _), rfl, hoffers⟩

/-- What a step that is not ready may come to. -/
def MayTrip (mechBuild : Bool) (past : List (BotView × BotCallback)) (v : BotView)
    (_ : BotFault) : Prop :=
  KnowsTypes v .self → OnMap v → Trips mechBuild past v

/-- A step that flees knows when the launch was, or trips. -/
theorem retreat_leads (hpast : Reached (Knows mechBuild) past s)
    (hacts : isThrottled v = false) (hflees : Flees v s) {s₀ : BotState TerranMultiplayerBot}
    (hs₀ : Unchanged s s₀.base s₀.own) :
    Leads v s₀ (MayTrip mechBuild past v)
      (fun s' => s'.base = afterStep v s.base ∧ s'.own = s.own) (StepCall v s) retreatFromNuke
      fun _ => True := by
  obtain ⟨base, own, asked⟩ := s₀
  obtain ⟨rfl, rfl⟩ := hs₀
  have hself : ¬KnowsTypes v .self → ∀ e, MayTrip mechBuild past v e :=
    fun hnot _ hself => absurd hself hnot
  refine (retreatFromNuke_leads hself (fun hnone => ?_) fun call hcall => ?_).mono ?_
    (fun _ => id) fun _ => id
  · refine fun _ _ => .nuke hacts ?_ ((nukeDetectedFrame_eq_none_iff hpast.alarm).1 hnone)
    refine hflees.resolve_left fun hdetected => ?_
    obtain ⟨frame, halarm⟩ := hpast.alarm.detected.1 hdetected
    cases halarm.last.symm.trans (hpast.alarm.frame.symm.trans hnone)
  · refine .retreat hflees ?_
    cases hcall with
    | stop hunit => exact .stop hunit
    | move hunit => exact .move hunit
  · rintro s' ⟨frame, hset, hafter⟩
    exact ⟨eq_afterStep hafter hacts hset, hafter.1⟩

theorem onStep_leads (hpast : Reached (Knows mechBuild) past s) :
    Leads v s (MayTrip mechBuild past v) (fun s' =>
        s'.base = { afterStep v s.base with stagingLocation := s'.base.stagingLocation } ∧
          Knows mechBuild (past ++ [(v, .onStep)]) s'.own) (StepCall v s) onStep
      fun _ => True := by
  have hknows : Knows mechBuild (past ++ [(v, .onStep)]) s.own :=
    hpast.own.concat BotCallback.noConfusion
  have hself : ¬KnowsTypes v .self → ∀ e, MayTrip mechBuild past v e :=
    fun hnot _ hself => absurd hself hnot
  have hmap : ¬OnMap v → ∀ e, MayTrip mechBuild past v e := fun hnot _ _ hmap => absurd hmap hnot
  have harmy : Respects v (MayTrip mechBuild past v) (Unchanged s) (StepCall v s)
      (getUnitsIf .self isArmy) fun army => ∀ unit, unit ∈ army ↔ IsArmy v unit := army_keeps hself
  have heconomy : Respects v (MayTrip mechBuild past v)
      (SameBot (afterStep v s.base) (Knows mechBuild (past ++ [(v, .onStep)]))) (StepCall v s)
      manageEconomy fun _ => True := by
    refine manageEconomy_keeps hself ?_ allowsNuke_step (fun _ => .economy) fun _ => .plant
    exact SameBot.fixesEconomy (afterStep_expansions v s.base) (afterStep_startLocation v s.base)
  refine (harmy s ⟨rfl, rfl⟩).bind fun _ s₀ hs₀ _ => ?_
  refine .ask_bind (.ask_bind (.ite (fun hthrottled => ?_) fun hacts => .gets_bind ?_))
  · rw [afterStep_of_throttled hthrottled]
    refine .pure ⟨?_, hs₀.2 ▸ hknows⟩ trivial
    rw [hs₀.1]
  have hacts : isThrottled v = false := Bool.eq_false_iff.2 hacts
  refine Leads.bind (I := fun s' => s'.base = afterStep v s.base ∧ s'.own = s.own)
    (Q := fun _ => True) (.ite (fun hcalm => ?_) fun hflees => ?_)
    fun _ s₁ ⟨hbase, hown⟩ _ => heconomy s₁ ⟨by rw [hbase], hown ▸ hknows⟩
  · obtain ⟨hdetected, hnukes⟩ := hcalm
    rw [hs₀.1, Bool.not_eq_true'] at hdetected
    have hnukes := List.isEmpty_iff.1 hnukes
    have hcalm : ¬Flees v s := by
      rintro (hnuke | hnuke)
      · exact Bool.false_ne_true (hdetected.symm.trans hnuke)
      · exact hnuke hnukes
    have hkeeps : Respects v (MayTrip mechBuild past v) (Unchanged s) (StepCall v s)
        manageArmy fun _ => True := by
      refine manageArmy_keeps hself hmap (fun hnone hfood unit hstranded _ _ _ => ?_)
        fun _ => .army hcalm
      refine .stranded hacts (fun halarm => ?_) hnukes hnone (hpast.own.build ▸ hfood) hstranded
      exact Bool.false_ne_true (hdetected.symm.trans (hpast.alarm.detected.2 halarm))
    refine (hkeeps s₀ hs₀).mono (fun s' hs' => ⟨?_, hs'.2⟩) (fun _ => id) fun _ => id
    rw [hs'.1, afterStep_of_calm hdetected]
  · refine retreat_leads hpast hacts ?_ hs₀
    by_cases hdetected : s.base.nukeDetected = true
    · exact .inl hdetected
    · refine .inr fun hnone => hflees ⟨?_, ?_⟩
      · rw [hs₀.1]
        simpa using hdetected
      · rw [hnone]
        rfl

theorem onStep_fails (hpast : Reached (Knows mechBuild) past s)
    (htrips : Trips mechBuild past v) : Fails v s onStep := by
  have harmy : Respects v (fun _ => True) (Unchanged s) (fun _ => True)
      (getUnitsIf .self isArmy) fun army => ∀ unit, unit ∈ army ↔ IsArmy v unit :=
    army_keeps fun _ _ => trivial
  refine .bind (harmy s ⟨rfl, rfl⟩) fun _ s₀ hs₀ _ => .ask_bind (.ask_bind ?_)
  cases htrips with
  | nuke hacts hnuke hnever =>
    have hframe : s₀.base.nukeDetectedFrame = none := by
      rw [hs₀.1]
      exact (nukeDetectedFrame_eq_none_iff hpast.alarm).2 hnever
    refine .of_not (Bool.eq_false_iff.1 hacts) (.gets_bind (.first (.of_not ?_ ?_)))
    · exact fun hcalm => hnuke (List.isEmpty_iff.1 hcalm.2)
    · refine .gets_bind (.first ⟨.uninitialized, ?_⟩)
      rw [hframe]
      rfl
  | stranded hacts hcalm hnuke hnone hfood hstranded =>
    have hdetected : s₀.base.nukeDetected = false := by
      rw [hs₀.1]
      exact Bool.eq_false_iff.2 fun hnuke => hcalm (hpast.alarm.detected.1 hnuke)
    refine .of_not (Bool.eq_false_iff.1 hacts) (.gets_bind (.first ?_))
    rw [hdetected, hnuke, if_pos ⟨rfl, rfl⟩]
    refine manageArmy_fails hnone ?_ hstranded
    rw [hs₀.2, hpast.own.build]
    exact hfood

theorem behaves (mechBuild : Bool) :
    bot.Behaves (Knows mechBuild) (fun _ => OnMap) (Trips mechBuild) StepCall
      fun v _ => IdleCall v where
  onStep := onStep_leads
  fails := onStep_fails
  onUnitIdle {past v s unit} _ _ := by
    have hkeeps : Respects v (fun _ => False) (Unchanged s) (IdleCall v unit) (onUnitIdle unit)
        fun _ => True :=
      .when fun htype => mineIdleWorkers_keeps fun _ htarget => .gather htype htarget
    exact hkeeps s ⟨rfl, rfl⟩
  onUpgradeCompleted {past v s upgrade} hpast := by
    refine .modify ⟨rfl, hpast.own.build, ?_, fun hbuilt => ?_⟩ trivial
    · refine Iff.trans ?_ exists_callback_concat.symm
      rw [Bool.or_eq_true, decide_eq_true_iff, BotCallback.onUpgradeCompleted.injEq]
      exact or_congr_left hpast.own.stim
    · obtain ⟨event, hmem, hevent⟩ := hpast.own.nuke hbuilt
      exact ⟨event, List.mem_append_left _ hmem, hevent⟩
  keeps hown _ hupgrade := hown.concat (hupgrade _)

theorem reached_start (mechBuild : Bool) : Reached (Knows mechBuild) [] (start mechBuild) where
  alarm := knowsAlarm_nil rfl rfl
  start := rfl
  own := {
    build := rfl
    stim := iff_of_false Bool.false_ne_true fun ⟨_, hmem, _⟩ => List.not_mem_nil hmem
    nuke := fun hbuilt => by cases hbuilt }

/-- A run has no fault just if no step of it trips. -/
theorem runs_iff_not_trips {cos sin : CFloat → CFloat} {turns : Nat} (hturns : 720 < turns)
    (mechBuild : Bool) {events : List (BotView × BotCallback)}
    (hseen : BotClass.Seen (fun _ => OnMap) events) :
    ((∃ s' calls, bot.run cos sin turns (start mechBuild) events = .ok (s', calls)) ↔
      ∀ past v later, events = past ++ (v, .onStep) :: later → ¬Trips mechBuild past v) ∧
    ∀ past v callback later s₁ made, events = past ++ (v, callback) :: later →
      bot.Makes cos sin turns (start mechBuild) past (v, callback) s₁ made →
      Reached (Knows mechBuild) past s₁ ∧
        ∀ call ∈ made, Legal StepCall (fun v _ => IdleCall v) v s₁ callback call :=
  (behaves mechBuild).runs hturns (reached_start mechBuild) hseen

def medivac : Unit := { (default : Unit) with tag := 1, unitType := .terranMedivac }

def scv : Unit := { (default : Unit) with tag := 2, unitType := .terranScv }

theorem medivac_nodup : ([medivac, scv].map (·.tag)).Nodup := by
  simp [medivac, scv]

/-- A medivac that has nobody to escort, and an army that is large enough to scout. -/
def medivacView : BotView where
  units := [medivac, scv]
  tags_nodup := medivac_nodup
  unitTypeData := List.replicate 100 (UnitTypeData.readFromProto {} {})
  foodArmy := 100

/-- Before the step the game has started, and the SCV has been idle. -/
def medivacBefore : List (BotView × BotCallback) :=
  [(medivacView, .onGameStart), (medivacView, .onUnitIdle scv)]

theorem medivac_types : KnowsTypes medivacView .self := by
  unfold KnowsTypes
  decide +kernel

theorem medivac_onMap : OnMap medivacView := by
  have hnone : medivacView.getUnits .enemy = [] := by decide +kernel
  intro unit _ enemy henemy
  rw [hnone] at henemy
  exact absurd henemy List.not_mem_nil

theorem medivacBefore_seen : BotClass.Seen (fun _ => OnMap) medivacBefore := by
  have hscv : scv ∈ medivacView.getUnits .self := by decide +kernel
  refine (BotClass.Seen.nil.concat ⟨medivac_types, fun _ h => (by cases h)⟩
    fun h => (by cases h)).concat ⟨medivac_types, fun unit h => ?_⟩ fun h => (by cases h)
  cases h
  exact hscv

theorem medivac_seen :
    BotClass.Seen (fun _ => OnMap) (medivacBefore ++ [(medivacView, .onStep)]) :=
  medivacBefore_seen.concat ⟨medivac_types, fun _ h => (by cases h)⟩ fun _ => medivac_onMap

theorem medivac_stranded : Stranded medivacView medivac where
  army := ⟨by decide +kernel, ⟨UnitTypeData.readFromProto {} {}, by decide +kernel,
    by decide +kernel⟩, by decide +kernel⟩
  type := rfl
  idle := rfl
  alone := by decide +kernel

theorem medivac_trips : Trips false medivacBefore medivacView :=
  .stranded (by decide +kernel) (fun ⟨_, halarm⟩ => nomatch halarm.last) (by decide +kernel)
    (by decide +kernel) (by decide +kernel) medivac_stranded

theorem medivacBefore_noStep {past later : List (BotView × BotCallback)} {v : BotView} :
    medivacBefore ≠ past ++ (v, .onStep) :: later := by
  intro hsplit
  have hmem : (v, BotCallback.onStep) ∈ medivacBefore := by
    rw [hsplit]
    exact List.mem_append_right _ List.mem_cons_self
  have hnone : ∀ event ∈ medivacBefore, event.2 ≠ .onStep := by
    unfold medivacBefore
    rw [List.forall_mem_cons, List.forall_mem_singleton]
    exact ⟨BotCallback.noConfusion, BotCallback.noConfusion⟩
  exact hnone _ hmem rfl

/-- The run goes up to the step, which ends it. -/
theorem runs_iff_not_trips_medivac :
    (∃ s' calls, bot.run id id 721 (start false) medivacBefore = .ok (s', calls)) ∧
      ¬∃ s' calls, bot.run id id 721 (start false)
        (medivacBefore ++ [(medivacView, .onStep)]) = .ok (s', calls) := by
  have hturns : 720 < 721 := by omega
  constructor
  · exact (runs_iff_not_trips hturns false medivacBefore_seen).1.2
      fun _ _ _ hsplit => absurd hsplit medivacBefore_noStep
  · intro hgoes
    exact (runs_iff_not_trips hturns false medivac_seen).1.1 hgoes medivacBefore medivacView []
      rfl medivac_trips

end TerranMultiplayerBot

end Sc2Api
