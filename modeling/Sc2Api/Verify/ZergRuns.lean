import Sc2Api.Verify.BotRuns
import Sc2Api.Verify.ZergBot

/-!
# Runs of the Zerg bot

A run ends early where a step fights with a unit that is lost, and nowhere else. Up to there
every call is legal in the state the run has led to.
-/

namespace Sc2Api

open Lib Program BotM MultiplayerBot

namespace ZergMultiplayerBot

variable {v : BotView} {s : BotState ZergMultiplayerBot}

/-- What the bot does with a drone that has become idle. -/
inductive IdleCall (v : BotView) (unit : Unit) : ActionCall → Prop
  | gather {target : Option Unit} (htype : unit.unitType = .zergDrone)
      (htarget : GatherTarget v .zergExtractor target) :
      IdleCall v unit
        (.unitCommandTarget (some unit.tag) .harvestGather (target.map (·.tag)) false)

/-- What a step needs to be told: the types of the enemies, and where there is creep. -/
structure Ready (past : List (BotView × BotCallback)) (v : BotView) : Prop where
  enemies : KnowsTypes v .enemy
  creep : ReadsCreep v (startOf past)

/-- The army fights, and there is a unit in it that is lost. -/
structure FightsLost (past : List (BotView × BotCallback)) (v : BotView) : Prop where
  acts : isThrottled v = false
  calm : ¬∃ frame, Alarmed past frame
  enemies : v.getUnits .enemy ≠ []
  lost : ∃ unit, IsArmy v unit ∧ Lost v unit

/-- The bot as it is constructed, for one of its two builds. -/
def start (mutaliskBuild : Bool) : BotState ZergMultiplayerBot := { own := { mutaliskBuild } }

/-- What a step that is not ready may come to. -/
def MayFightLost (past : List (BotView × BotCallback)) (v : BotView) (_ : BotFault) : Prop :=
  KnowsTypes v .self → Ready past v → FightsLost past v

theorem onStep_leads {past : List (BotView × BotCallback)} {own : ZergMultiplayerBot}
    (hpast : Reached (fun _ => (· = own)) past s) :
    Leads v s (MayFightLost past v) (fun s' =>
        s'.base = { afterStep v s.base with stagingLocation := s'.base.stagingLocation } ∧
          s'.own = s.own) (StepCall v s) onStep fun _ => True := by
  have hself : ¬KnowsTypes v .self → ∀ e, MayFightLost past v e :=
    fun hnot _ hself => absurd hself hnot
  refine stepWith_leads hself (fun hnuke => ?_) (fun hacts hcalm => ?_)
    (fun hnuke _ => .retreat hnuke) ?_
  · obtain ⟨frame, halarm⟩ := hpast.alarm.detected.1 hnuke
    rw [hpast.alarm.frame, halarm.last]
    exact Option.some_ne_none frame
  · refine manageArmy_leads hself (fun hnot _ _ hready => absurd hready.enemies hnot)
      (fun henemies unit hunit hlost _ _ _ => ?_) fun _ => .army hcalm
    refine ⟨hacts, fun halarm => ?_, henemies, unit, hunit, hlost⟩
    exact Bool.false_ne_true (hcalm.symm.trans (hpast.alarm.detected.2 halarm))
  · refine manageEconomy_keeps ?_ ?_ (fun _ => .economy) fun _ => .hive
    · exact SameBot.fixesEconomy (afterStep_expansions v s.base) (afterStep_startLocation v s.base)
    · rw [hpast.start]
      exact fun hnot _ _ hready => absurd hready.creep hnot

theorem onStep_fails {past : List (BotView × BotCallback)} {own : ZergMultiplayerBot}
    (hpast : Reached (fun _ => (· = own)) past s) (hfights : FightsLost past v) :
    Fails v s onStep := by
  have hcalm : s.base.nukeDetected = false :=
    Bool.eq_false_iff.2 fun hnuke => hfights.calm (hpast.alarm.detected.1 hnuke)
  obtain ⟨unit, hunit, hlost⟩ := hfights.lost
  refine stepWith_fails hfights.acts hcalm ?_
  exact manageArmy_fails hfights.enemies hunit hlost

theorem behaves (own : ZergMultiplayerBot) :
    bot.Behaves (fun _ => (· = own)) Ready FightsLost StepCall fun v _ => IdleCall v where
  onStep hpast := by
    refine (onStep_leads hpast).mono (fun s' hs' => ?_) (fun _ => id) fun _ => id
    exact ⟨hs'.1, hs'.2.trans hpast.own⟩
  fails := onStep_fails
  onUnitIdle {past v s unit} _ _ := by
    have hkeeps : Respects v (fun _ => False) (Unchanged s) (IdleCall v unit) (onUnitIdle unit)
        fun _ => True :=
      .when fun htype => mineIdleWorkers_keeps fun _ htarget => .gather htype htarget
    exact hkeeps s ⟨rfl, rfl⟩
  onUpgradeCompleted hpast := .pure ⟨rfl, hpast.own⟩ trivial
  keeps hown _ _ := hown

theorem reached_start (mutaliskBuild : Bool) :
    Reached (fun _ => (· = ⟨mutaliskBuild⟩)) [] (start mutaliskBuild) where
  alarm := knowsAlarm_nil rfl rfl
  start := rfl
  own := rfl

/-- A run has no fault just if no step of it fights with a unit that is lost. -/
theorem runs_iff_not_lost {cos sin : CFloat → CFloat} {turns : Nat} (hturns : 720 < turns)
    (mutaliskBuild : Bool) {events : List (BotView × BotCallback)}
    (hseen : BotClass.Seen Ready events) :
    ((∃ s' calls, bot.run cos sin turns (start mutaliskBuild) events = .ok (s', calls)) ↔
      ∀ past v later, events = past ++ (v, .onStep) :: later → ¬FightsLost past v) ∧
    ∀ past v callback later s₁ made, events = past ++ (v, callback) :: later →
      bot.Makes cos sin turns (start mutaliskBuild) past (v, callback) s₁ made →
      Reached (fun _ => (· = ⟨mutaliskBuild⟩)) past s₁ ∧
        ∀ call ∈ made, Legal StepCall (fun v _ => IdleCall v) v s₁ callback call :=
  (behaves ⟨mutaliskBuild⟩).runs hturns (reached_start mutaliskBuild) hseen

def viper : Unit := { (default : Unit) with tag := 1, unitType := .zergViper }

def barracks : Unit :=
  { (default : Unit) with tag := 2, unitType := .terranBarracks, alliance := .enemy }

def drone : Unit := { (default : Unit) with tag := 3, unitType := .zergDrone }

theorem viper_nodup : ([viper, barracks, drone].map (·.tag)).Nodup := by
  simp [viper, barracks, drone]

/-- A viper without orders sees a structure, and nothing else. -/
def viperView : BotView where
  units := [viper, barracks, drone]
  tags_nodup := viper_nodup
  unitTypeData :=
    let plain := UnitTypeData.readFromProto {} {}
    (List.replicate 500 plain).set UnitTypeID.terranBarracks.toNat
      { plain with attributes := [.struct] }

/-- Before the step the game has started, and the drone has been idle. -/
def viperBefore : List (BotView × BotCallback) :=
  [(viperView, .onGameStart), (viperView, .onUnitIdle drone)]

theorem viper_types : KnowsTypes viperView .self ∧ KnowsTypes viperView .enemy := by
  unfold KnowsTypes
  decide +kernel

theorem viperBefore_seen : BotClass.Seen Ready viperBefore := by
  have hdrone : drone ∈ viperView.getUnits .self := by decide +kernel
  refine (BotClass.Seen.nil.concat ⟨viper_types.1, fun _ h => (by cases h)⟩
    fun h => (by cases h)).concat ⟨viper_types.1, fun unit h => ?_⟩ fun h => (by cases h)
  cases h
  exact hdrone

theorem viper_seen : BotClass.Seen Ready (viperBefore ++ [(viperView, .onStep)]) :=
  viperBefore_seen.concat ⟨viper_types.1, fun _ h => (by cases h)⟩ fun _ =>
    ⟨viper_types.2, fun _ _ _ => ⟨false, rfl⟩⟩

theorem viper_calm : ¬∃ frame, Alarmed viperBefore frame :=
  fun ⟨_, halarm⟩ => nomatch halarm.last

theorem viper_lost : FightsLost viperBefore viperView where
  acts := by decide +kernel
  calm := viper_calm
  enemies := by decide +kernel
  lost := by
    have hbarracks : viperView.getUnits .enemy = [barracks] := by decide +kernel
    refine ⟨viper, ⟨by decide +kernel, ?_, by decide +kernel⟩, .prey rfl (by decide +kernel) rfl ?_⟩
    · exact ⟨UnitTypeData.readFromProto {} {}, by decide +kernel, by decide +kernel⟩
    · rw [hbarracks]
      rintro enemy henemy ⟨data, hdata, hplain⟩
      rw [List.mem_singleton.1 henemy] at hdata
      have hstruct : viperView.unitTypeData[barracks.unitType.toNat]?.map
          (fun data => decide (Attribute.struct ∈ data.attributes)) = some true := by
        decide +kernel
      rw [hdata, Option.map_some, ← hplain] at hstruct
      cases hstruct

theorem viperBefore_noStep {past later : List (BotView × BotCallback)} {v : BotView} :
    viperBefore ≠ past ++ (v, .onStep) :: later := by
  intro hsplit
  have hmem : (v, BotCallback.onStep) ∈ viperBefore := by
    rw [hsplit]
    exact List.mem_append_right _ List.mem_cons_self
  have hnone : ∀ event ∈ viperBefore, event.2 ≠ .onStep := by
    unfold viperBefore
    rw [List.forall_mem_cons, List.forall_mem_singleton]
    exact ⟨BotCallback.noConfusion, BotCallback.noConfusion⟩
  exact hnone _ hmem rfl

/-- The run goes up to the step, which ends it. -/
theorem runs_iff_not_lost_viper :
    (∃ s' calls, bot.run id id 721 (start false) viperBefore = .ok (s', calls)) ∧
      ¬∃ s' calls, bot.run id id 721 (start false) (viperBefore ++ [(viperView, .onStep)]) =
        .ok (s', calls) := by
  have hturns : 720 < 721 := by omega
  constructor
  · exact (runs_iff_not_lost hturns false viperBefore_seen).1.2
      fun _ _ _ hsplit => absurd hsplit viperBefore_noStep
  · intro hgoes
    exact (runs_iff_not_lost hturns false viper_seen).1.1 hgoes viperBefore viperView [] rfl
      viper_lost

end ZergMultiplayerBot

end Sc2Api
