import Sc2Api.Verify.BotRuns
import Sc2Api.Verify.ProtossBot

/-!
# Runs of the Protoss bot

No callback of a run fails, and every call that one makes is legal in the state the run has led
to.
-/

namespace Sc2Api

open Lib Program BotM MultiplayerBot

namespace ProtossMultiplayerBot

variable {v : BotView} {s : BotState ProtossMultiplayerBot} {F : BotFault → Prop}

/-! ## Callbacks -/

theorem onStep_leads (hself : ¬KnowsTypes v .self → ∀ e, F e)
    (hframe : s.base.nukeDetected = true → s.base.nukeDetectedFrame ≠ none) :
    Leads v s F (fun s' =>
        s'.base = { afterStep v s.base with stagingLocation := s'.base.stagingLocation } ∧
          s'.own = s.own) (StepCall v s) onStep fun _ => True := by
  refine stepWith_leads hself hframe (fun _ hcalm => ?_) (fun hnuke _ => .retreat hnuke) ?_
  · exact manageArmy_leads hself fun _ => .army hcalm
  · refine manageEconomy_keeps ?_ (fun _ _ => And.right) (fun _ => .economy) fun _ => .warp
    exact SameBot.fixesEconomy (afterStep_expansions v s.base) (afterStep_startLocation v s.base)

theorem onUnitIdle_leads {unit : Unit} (hunit : unit ∈ v.getUnits .self) :
    Leads v s (fun _ => False) (fun s' => Unchanged s s'.base s'.own) (IdleCall v s unit)
      (onUnitIdle unit) fun _ => True := by
  have hkeeps : Respects v (fun _ => False) (Unchanged s) (IdleCall v s unit) (onUnitIdle unit)
      fun _ => True := by
    refine .ite (fun htype => ?_) fun _ => .ite (fun htype => .ask_bind (.gets_bind ?_))
      fun _ => .pure trivial
    · refine mineIdleWorkers_economy economy (fun _ => .gather htype) ?_
      obtain ⟨hmem, halliance, -⟩ := mem_getUnits_iff.1 hunit
      exact mem_getUnits_iff.2 ⟨hmem, halliance, decide_eq_true htype⟩
    · rintro s' ⟨-, hown⟩
      rw [hown]
      refine .ite (fun _ => .pure trivial) fun hresearched => ?_
      have hresearched := Bool.eq_false_iff.2 hresearched
      refine .emit_bind (.research htype hresearched) ?_
      cases hnexus : v.getUnits .self (isUnit .protossNexus) with
      | nil => exact .pure trivial
      | cons nexus others =>
        exact .emit (.timeWarp htype hresearched (hnexus ▸ List.mem_cons_self)) trivial
  exact hkeeps s ⟨rfl, rfl⟩

/-! ## Runs -/

/-- The bot as it is constructed, for one of its two builds. -/
def start (airBuild : Bool) : BotState ProtossMultiplayerBot := { own := { airBuild } }

/-- Warp gates are researched once the game has said so. -/
def Researched (past : List (BotView × BotCallback)) (own : ProtossMultiplayerBot) : Prop :=
  own.warpgateReasearched = true ↔
    ∃ event ∈ past, event.2 = .onUpgradeCompleted .warpGateResearch

theorem researched_concat {past : List (BotView × BotCallback)} {own : ProtossMultiplayerBot}
    {callback : BotCallback} (h : Researched past own)
    (hother : callback ≠ .onUpgradeCompleted .warpGateResearch) :
    Researched (past ++ [(v, callback)]) own :=
  h.trans (exists_callback_concat.trans (or_iff_left hother)).symm

theorem behaves : bot.Behaves Researched (fun _ _ => True) (fun _ _ => False) StepCall
    IdleCall where
  onStep hpast := by
    refine (onStep_leads (fun hnot _ hself => absurd hself hnot) fun hnuke => ?_).mono
      (fun s' hs' => ?_) (fun _ => id) fun _ => id
    · obtain ⟨frame, halarm⟩ := hpast.alarm.detected.1 hnuke
      rw [hpast.alarm.frame, halarm.last]
      exact Option.some_ne_none frame
    · refine ⟨hs'.1, hs'.2 ▸ researched_concat hpast.own BotCallback.noConfusion⟩
  fails _ hmust := hmust.elim
  onUnitIdle _ hunit := onUnitIdle_leads hunit
  onUpgradeCompleted {past v s upgrade} hpast := by
    refine .modify ⟨rfl, ?_⟩ trivial
    refine Iff.trans ?_ exists_callback_concat.symm
    rw [Bool.or_eq_true, decide_eq_true_iff, BotCallback.onUpgradeCompleted.injEq]
    exact or_congr_left hpast.own
  keeps hown _ hupgrade := researched_concat hown (hupgrade _)

theorem reached_start (airBuild : Bool) : Reached Researched [] (start airBuild) where
  alarm := knowsAlarm_nil rfl rfl
  start := rfl
  own := iff_of_false Bool.false_ne_true fun ⟨_, hmem, _⟩ => List.not_mem_nil hmem

/-- No callback of a run fails, and every call that one makes is legal. -/
theorem calls_are_legal {cos sin : CFloat → CFloat} {turns : Nat} (hturns : 720 < turns)
    (airBuild : Bool) {events : List (BotView × BotCallback)}
    (hseen : ∀ event ∈ events, WellSeen event.1 event.2) :
    (∃ s' calls, bot.run cos sin turns (start airBuild) events = .ok (s', calls)) ∧
      ∀ past v callback later s₁ made, events = past ++ (v, callback) :: later →
        bot.Makes cos sin turns (start airBuild) past (v, callback) s₁ made →
        Reached Researched past s₁ ∧
          ∀ call ∈ made, Legal StepCall IdleCall v s₁ callback call := by
  have hseen : BotClass.Seen (fun _ _ => True) events := by
    intro past v callback later hsplit
    refine ⟨hseen (v, callback) ?_, fun _ => trivial⟩
    rw [hsplit]
    exact List.mem_append_right _ List.mem_cons_self
  obtain ⟨hgoes, hlegal⟩ := behaves.runs hturns (reached_start airBuild) hseen
  exact ⟨hgoes.2 fun _ _ _ _ => id, hlegal⟩

def nexus : Unit := { (default : Unit) with
  tag := 1, unitType := .protossNexus, buildProgress := 1, idealHarvesters := 16 }

def probe : Unit := { (default : Unit) with tag := 2, unitType := .protossProbe }

def mineralField : Unit :=
  { (default : Unit) with tag := 3, unitType := .neutralMineralField, alliance := .neutral }

/-- The game starts with a nexus. -/
def startView : BotView where
  units := [nexus]
  unitTypeData := List.replicate 100 (UnitTypeData.readFromProto {} {})

theorem nexusView_nodup : ([nexus, probe, mineralField].map (·.tag)).Nodup := by
  simp [nexus, probe, mineralField]

/-- The nexus wants workers, and there is one that is idle. -/
def nexusView : BotView where
  units := [nexus, probe, mineralField]
  tags_nodup := nexusView_nodup
  unitTypeData := List.replicate 100 (UnitTypeData.readFromProto {} {})
  gameLoop := 8
  minerals := 50
  foodCap := 15
  foodUsed := 12

/-- The game starts, the probe is idle, and there is a step. -/
def nexusEvents : List (BotView × BotCallback) :=
  [(startView, .onGameStart), (nexusView, .onUnitIdle probe), (nexusView, .onStep)]

theorem nexus_wellSeen : ∀ event ∈ nexusEvents, WellSeen event.1 event.2 := by
  have hstart : KnowsTypes startView .self := by
    unfold KnowsTypes
    decide +kernel
  have hnexus : KnowsTypes nexusView .self := by
    unfold KnowsTypes
    decide +kernel
  have hprobe : probe ∈ nexusView.getUnits .self := by decide +kernel
  unfold nexusEvents
  rw [List.forall_mem_cons, List.forall_mem_cons, List.forall_mem_singleton]
  refine ⟨⟨hstart, ?_⟩, ⟨hnexus, ?_⟩, ⟨hnexus, ?_⟩⟩
  · exact fun _ h => by cases h
  · rintro unit h
    cases h
    exact hprobe
  · exact fun _ h => by cases h

theorem nexus_count : (bot.run id id 721 (start false) nexusEvents).toOption.map
      (fun result => result.2.map List.length) = some [0, 1, 1] := by decide +kernel

theorem calls_are_legal_nexus : ∃ s' calls,
    bot.run id id 721 (start false) nexusEvents = .ok (s', calls) ∧
      calls.map List.length = [0, 1, 1] ∧
      ∀ past v callback later s₁ made, nexusEvents = past ++ (v, callback) :: later →
        bot.Makes id id 721 (start false) past (v, callback) s₁ made →
        ∀ call ∈ made, Legal StepCall IdleCall v s₁ callback call := by
  obtain ⟨⟨s', calls, hrun⟩, hlegal⟩ :=
    @calls_are_legal id id 721 (by omega) false _ nexus_wellSeen
  have hcount := nexus_count
  rw [hrun] at hcount
  refine ⟨s', calls, hrun, Option.some.inj hcount, ?_⟩
  exact fun past v callback later s₁ made hsplit hmakes =>
    (hlegal past v callback later s₁ made hsplit hmakes).2

end ProtossMultiplayerBot

end Sc2Api
