import Sc2Api.Playing
import Sc2Api.Verify.ActionRuns
import Sc2Api.Verify.BotRuns
import Sc2Api.Verify.LiveEvents
import Sc2Api.Verify.ProtossRuns
import Sc2Api.Verify.TerranRuns
import Sc2Api.Verify.ZergRuns

/-!
# What the bots send

From the observations that a client receives to the requests that its bot sends: whatever the
game answers, the bots command only units that an observation has shown as the player's own.
-/

namespace Sc2Api

open Lib BotM

/-! ## Clients remember observations -/

/-- The observation shows a unit of the player with this tag. -/
def Proto.Observation.Owns (o : Proto.Observation) (tag : Tag) : Prop :=
  ∃ now, o.viewAt tag = some now ∧ now.alliance = .self

/-- The client is ready, and each of its existing units is as an observation has shown it. -/
structure ControlImp.Remembers (c : ControlImp) (observations : List Proto.Observation) : Prop
    extends c.Ready where
  units : ∀ {tag now}, c.eventState.units tag = some now →
    ∃ o ∈ observations, o.viewAt tag = some now

namespace ControlImp.Remembers

variable {c : ControlImp} {observations : List Proto.Observation}

theorem initial (answers : List (Option (List Proto.AbilityData))) :
    ControlImp.Remembers (.withAnswers answers) [] where
  toReady := Ready.initial answers
  units := fun h => by cases h

theorem mono (h : c.Remembers observations) (more : List Proto.Observation) :
    c.Remembers (observations ++ more) where
  toReady := h.toReady
  units hnow := by
    obtain ⟨o, hmem, hview⟩ := h.units hnow
    exact ⟨o, List.mem_append_left _ hmem, hview⟩

/-- An observation is taken in as a whole, or the units stay as they are. -/
theorem units_observe (σ : EventState) (o : Proto.Observation) :
    (σ.observe o).units = o.viewAt ∨ (σ.observe o).units = σ.units := by
  unfold EventState.observe
  split
  · exact .inr rfl
  · dsimp only
    split
    · exact .inr rfl
    · cases o.upgradeIds? with
      | none => exact .inl rfl
      | some ids => exact .inl rfl

theorem getObservation (h : c.Remembers observations) (orders : UpdateOrders)
    (o : Proto.Observation) (r : Proto.ResponseObservation) :
    (c.getObservation orders (some (.ofObservation o r))).2.Remembers (observations ++ [o]) := by
  obtain ⟨happ, htagged, hstate⟩ := getObservation_spec h.appState h.tagged orders o r
  refine ⟨⟨happ, htagged⟩, fun {tag now} hnow => ?_⟩
  rw [hstate] at hnow
  rcases units_observe c.eventState o with hnew | hold
  · rw [hnew] at hnow
    exact ⟨o, List.mem_append_right _ (List.mem_singleton_self o), hnow⟩
  · rw [hold] at hnow
    exact (h.mono [o]).units hnow

theorem issueEvents (h : c.Remembers observations) (order : UnitPool.Order)
    (commands : List Tag) : (c.issueEvents order commands).2.2.Remembers observations := by
  obtain ⟨happ, htagged, hissues⟩ := issueEvents_spec h.tagged order commands
  refine ⟨⟨happ.trans h.appState, htagged⟩, fun {tag now} hnow => ?_⟩
  by_cases hdue : c.eventState.Due
  · obtain ⟨-, -, -, hstate⟩ := hissues.exists_order hdue
    rw [hstate] at hnow
    have hkept : c.eventState.units tag = some now := by
      unfold EventState.reap at hnow
      dsimp only at hnow
      split at hnow
      · cases hnow
      · exact hnow
    exact h.units hkept
  · rw [issueEvents_of_not_due hdue] at hnow
    exact h.units hnow

/-- The units that a bot sees are those that its client remembers. -/
theorem exists_unit {v : BotView} {order : UnitPool.Order} (h : c.Ready) (hshows : v.Shows c order)
    {unit : Unit} (hmem : unit ∈ v.units) :
    c.observationImp.unitPool.existingUnit unit.tag = some unit := by
  rw [hshows.units, UnitPool.map_deref_existingUnits] at hmem
  obtain ⟨t, ht, hunit⟩ := List.mem_map.1 hmem
  obtain ⟨u, hu⟩ := Option.ne_none_iff_exists'.1 (h.tagged.mem_existingTags.1 ht)
  rw [hu, Option.getD_some] at hunit
  rw [← hunit, h.tagged.existing_tag hu]
  exact hu

theorem owns {v : BotView} {order : UnitPool.Order} (h : c.Remembers observations)
    (hshows : v.Shows c order) {unit : Unit} (hunit : unit ∈ v.getUnits .self) :
    ∃ o ∈ observations, o.Owns unit.tag := by
  obtain ⟨hmem, halliance, -⟩ := mem_getUnits_iff.1 hunit
  have hview : c.eventState.units unit.tag = some unit.view := by
    unfold ControlImp.eventState
    dsimp only
    rw [exists_unit h.toReady hshows hmem]
    rfl
  obtain ⟨o, ho, hview⟩ := h.units hview
  exact ⟨o, ho, unit.view, hview, halliance⟩

end ControlImp.Remembers

/-! ## Bots command their own units -/

/-- What the call adds to the actions are commands to units of the player. -/
def ActionCall.CommandsOwn (v : BotView) (call : ActionCall) : Prop :=
  ∀ action ∈ call.enqueued, ∃ command, action.actionRaw = some (.unitCommand command) ∧
    ∀ tag ∈ command.unitTags, ∃ unit ∈ v.getUnits .self, unit.tag = tag

section Own

variable {κ : Type} {v : BotView} {unit : Unit} {call : ActionCall}

theorem mem_own {filter : Unit → Bool} (h : unit ∈ v.getUnits .self filter) :
    unit ∈ v.getUnits .self := by
  obtain ⟨hmem, halliance, -⟩ := mem_getUnits_iff.1 h
  exact mem_getUnits_iff.2 ⟨hmem, halliance, rfl⟩

theorem commandsOwn_units {units : List Unit} (h : ∀ unit ∈ units, unit ∈ v.getUnits .self)
    (ability : AbilityID) (queued : Bool) :
    ActionCall.CommandsOwn v (.unitsCommand (units.map fun u => some u.tag) ability queued) := by
  intro action haction
  rw [List.mem_singleton.1 haction]
  refine ⟨_, rfl, fun tag htag => ?_⟩
  rw [List.reduceOption_mem_iff] at htag
  obtain ⟨unit, hmem, htag⟩ := List.mem_map.1 htag
  exact ⟨unit, h unit hmem, Option.some.inj htag⟩

theorem commandsOwn_unit (h : unit ∈ v.getUnits .self) (ability : AbilityID) (queued : Bool) :
    ActionCall.CommandsOwn v (.unitCommand (some unit.tag) ability queued) := by
  intro action haction
  rw [List.mem_singleton.1 haction]
  exact ⟨_, rfl, fun tag htag => ⟨unit, h, (List.mem_singleton.1 htag).symm⟩⟩

theorem commandsOwn_point (h : unit ∈ v.getUnits .self) (ability : AbilityID) (point : Point2D)
    (queued : Bool) :
    ActionCall.CommandsOwn v (.unitCommandPoint (some unit.tag) ability point queued) := by
  intro action haction
  rw [List.mem_singleton.1 haction]
  exact ⟨_, rfl, fun tag htag => ⟨unit, h, (List.mem_singleton.1 htag).symm⟩⟩

theorem commandsOwn_target (h : unit ∈ v.getUnits .self) (ability : AbilityID)
    (target : Option Tag) (queued : Bool) :
    ActionCall.CommandsOwn v (.unitCommandTarget (some unit.tag) ability target queued) := by
  intro action haction
  cases target with
  | none => exact absurd haction List.not_mem_nil
  | some target =>
    rw [List.mem_singleton.1 haction]
    exact ⟨_, rfl, fun tag htag => ⟨unit, h, (List.mem_singleton.1 htag).symm⟩⟩

theorem EconomyCall.commandsOwn {race : Race.Economy} {s : BotState κ}
    (h : EconomyCall race v s call) : call.CommandsOwn v := by
  cases h with
  | make _ hunit => exact commandsOwn_unit (mem_own hunit.mem) _ _
  | build _ hworker => exact commandsOwn_point (mem_own hworker.mem) _ _ _
  | expand hworker => exact commandsOwn_point (mem_own hworker.mem) _ _ _
  | tap hworker => exact commandsOwn_target (mem_own hworker.mem) _ _ _
  | gather hworker => exact commandsOwn_target (mem_own hworker) _ _ _

theorem RetreatCall.commandsOwn {s : BotState κ} (h : RetreatCall v s call) :
    call.CommandsOwn v := by
  cases h with
  | stop hunit => exact commandsOwn_unit hunit.own _ _
  | move hunit => exact commandsOwn_point hunit.own _ _ _

theorem ArmyCall.commandsOwn {s : BotState κ} {casts : Unit → ActionCall → Prop}
    (h : ArmyCall v s casts call)
    (hcasts : ∀ {unit call}, unit ∈ v.getUnits .self → casts unit call → call.CommandsOwn v) :
    call.CommandsOwn v := by
  cases h with
  | stop hunit => exact commandsOwn_unit hunit.own _ _
  | gather hunit => exact commandsOwn_point hunit.own _ _ _
  | attack hunit => exact commandsOwn_point hunit.own _ _ _
  | attackUnit hunit => exact commandsOwn_target hunit.own _ _ _
  | scout hunit => exact commandsOwn_point hunit.own _ _ _
  | cast hunit hcall => exact hcasts hunit.own hcall

end Own

namespace ProtossMultiplayerBot

variable {v : BotView} {s : BotState ProtossMultiplayerBot} {call : ActionCall}

theorem Casts.commandsOwn {unit : Unit} (hunit : unit ∈ v.getUnits .self)
    (h : Casts v unit call) : call.CommandsOwn v := by
  cases h with
  | guardianShield | prismaticAlignment | pulsarBeam => exact commandsOwn_unit hunit _ _
  | purificationNova | approach | seek => exact commandsOwn_point hunit _ _ _

theorem StepCall.commandsOwn (h : StepCall v s call) : call.CommandsOwn v := by
  cases h with
  | army _ h => exact h.commandsOwn Casts.commandsOwn
  | retreat _ h => exact h.commandsOwn
  | economy h => exact h.commandsOwn
  | warp h =>
    cases h with
    | warpIn _ _ hgate => exact commandsOwn_point (mem_own hgate) _ _ _
    | morph _ hgateway => exact commandsOwn_unit (mem_own hgateway) _ _
    | @merge first second hfirst hsecond =>
      have hboth : ∀ unit ∈ [first, second], unit ∈ v.getUnits .self := by
        intro unit hmem
        rcases List.mem_cons.1 hmem with rfl | hmem
        · exact mem_own hfirst
        · rw [List.mem_singleton.1 hmem]
          exact mem_own hsecond
      exact commandsOwn_units hboth _ _

theorem IdleCall.commandsOwn {unit : Unit} (hunit : unit ∈ v.getUnits .self)
    (h : IdleCall v s unit call) : call.CommandsOwn v := by
  cases h with
  | gather _ h => exact h.commandsOwn
  | research => exact commandsOwn_unit hunit _ _
  | timeWarp _ _ hnexus => exact commandsOwn_target (mem_own hnexus) _ _ _

end ProtossMultiplayerBot

namespace ZergMultiplayerBot

variable {v : BotView} {s : BotState ZergMultiplayerBot} {call : ActionCall}

theorem Casts.commandsOwn {unit : Unit} (hunit : unit ∈ v.getUnits .self)
    (h : Casts v s unit call) : call.CommandsOwn v := by
  cases h with
  | burrowDown | burrowUp => exact commandsOwn_unit hunit _ _
  | corrosiveBile | approach | spawnLocusts | fungalGrowth | flee =>
    exact commandsOwn_point hunit _ _ _
  | causticSpray | parasiticBomb | blindingCloud | consume => exact commandsOwn_target hunit _ _ _

theorem StepCall.commandsOwn (h : StepCall v s call) : call.CommandsOwn v := by
  cases h with
  | army _ h => exact h.commandsOwn Casts.commandsOwn
  | retreat _ h => exact h.commandsOwn
  | economy h => exact h.commandsOwn
  | hive h =>
    cases h with
    | build _ hworker => exact commandsOwn_point (mem_own hworker.mem) _ _ _
    | inject hqueen => exact commandsOwn_target (mem_own hqueen) _ _ _

theorem IdleCall.commandsOwn {unit : Unit} (hunit : unit ∈ v.getUnits .self)
    (h : IdleCall v unit call) : call.CommandsOwn v := by
  cases h with
  | gather => exact commandsOwn_target hunit _ _ _

end ZergMultiplayerBot

namespace TerranMultiplayerBot

variable {v : BotView} {s : BotState TerranMultiplayerBot} {call : ActionCall}

theorem Casts.commandsOwn {unit : Unit} (hunit : unit ∈ v.getUnits .self)
    (h : Casts v s unit call) : call.CommandsOwn v := by
  cases h with
  | stim | cloak | burrowDown | siege | unsiege | land | takeOff | hellbat =>
    exact commandsOwn_unit hunit _ _
  | nuke | escort | gatherAt => exact commandsOwn_point hunit _ _ _
  | snipe | heal | follow | lockOn | missile => exact commandsOwn_target hunit _ _ _

theorem StepCall.commandsOwn (h : StepCall v s call) : call.CommandsOwn v := by
  cases h with
  | army _ h => exact h.commandsOwn Casts.commandsOwn
  | retreat _ h => exact h.commandsOwn
  | economy h => exact h.commandsOwn
  | plant h =>
    cases h with
    | train _ hbuilding => exact commandsOwn_unit (mem_own hbuilding) _ _
    | lower hdepot => exact commandsOwn_unit (mem_own hdepot) _ _
    | orbital hbase => exact commandsOwn_unit (mem_own hbase) _ _
    | mule hbase => exact commandsOwn_unit (mem_own hbase) _ _
    | extend hbuilding =>
      obtain ⟨types, -, hmem⟩ := hbuilding.mem
      exact commandsOwn_unit (mem_own hmem) _ _
    | extendAt hbuilding =>
      obtain ⟨types, -, hmem⟩ := hbuilding.mem
      exact commandsOwn_point (mem_own hmem) _ _ _
    | build _ hworker => exact commandsOwn_point (mem_own hworker.mem) _ _ _

theorem IdleCall.commandsOwn {unit : Unit} (hunit : unit ∈ v.getUnits .self)
    (h : IdleCall v unit call) : call.CommandsOwn v := by
  cases h with
  | gather => exact commandsOwn_target hunit _ _ _

end TerranMultiplayerBot

/-! ## Plays -/

/-- The observation that a turn's fetch brings. -/
def PlayTurn.observation (t : PlayTurn) : Option Proto.Observation :=
  t.answer.bind fun response =>
    if response.error = [] then response.observation.bind (·.observation) else none

/-- The observations that the fetches of these turns have brought. -/
def observations (ts : List PlayTurn) : List Proto.Observation := ts.filterMap (·.observation)

/-- The action commands units, each of which an observation has shown as the player's own. -/
def Justified (observations : List Proto.Observation) (action : Proto.ActionSent) : Prop :=
  ∃ command, action.actionRaw = some (.unitCommand command) ∧
    ∀ tag ∈ command.unitTags, ∃ o ∈ observations, o.Owns tag

theorem Justified.mono {observations : List Proto.Observation} {action : Proto.ActionSent}
    (h : Justified observations action) (more : List Proto.Observation) :
    Justified (observations ++ more) action := by
  obtain ⟨command, hraw, htags⟩ := h
  refine ⟨command, hraw, fun tag htag => ?_⟩
  obtain ⟨o, hmem, howns⟩ := htags tag htag
  exact ⟨o, List.mem_append_left _ hmem, howns⟩

section Turn

variable {t : PlayTurn} {c : ControlImp} {before : List Proto.Observation}

theorem observations_concat (past : List PlayTurn) (t : PlayTurn) :
    observations (past ++ [t]) = observations past ++ t.observation.toList := by
  unfold observations
  rw [List.filterMap_append]
  cases h : t.observation with
  | none => rw [List.filterMap_cons_none h]; rfl
  | some o => rw [List.filterMap_cons_some h]; rfl

theorem PlayTurn.remembers_fetch (h : c.Remembers before) :
    (t.fetch c).Remembers (before ++ t.observation.toList) := by
  have hfetch {c : ControlImp} (h : c.Remembers before) :
      (c.getObservation t.orders t.answer).2.Remembers (before ++ t.observation.toList) := by
    rcases h.getObservation_cases t.orders t.answer with hsame | ⟨o, r, hanswer⟩
    · rw [hsame]
      exact h.mono _
    · have hbrought : t.observation = some o := by
        unfold PlayTurn.observation
        rw [hanswer]
        rfl
      rw [hbrought, hanswer]
      exact h.getObservation t.orders o r
  unfold PlayTurn.fetch
  cases t.start with
  | none => exact hfetch h
  | some start => exact hfetch ⟨⟨h.appState, h.tagged⟩, h.units⟩

/-- But for the start of a game the bot sees one view in a turn. -/
theorem PlayTurn.mem_events {callbacks : List Callback} {v : BotView} {callback : BotCallback}
    (h : (v, callback) ∈ t.events callbacks) (hother : callback ≠ .onGameStart) :
    v = t.view ∧ ∃ issued ∈ callbacks, issued.forBot t.view = some callback := by
  rcases List.mem_append.1 h with hstart | hissued
  · obtain ⟨start, -, heq⟩ := List.mem_map.1 hstart
    exact absurd (Prod.mk.inj heq).2.symm hother
  · obtain ⟨issued, hissued, heq⟩ := List.mem_map.1 hissued
    rw [(Prod.mk.inj heq).2] at hissued
    exact ⟨(Prod.mk.inj heq).1.symm, List.mem_filterMap.1 hissued⟩

theorem PlayTurn.ready_issue (h : c.Remembers before) (commands : List Tag) :
    (t.issue c commands).2.Remembers (before ++ t.observation.toList) :=
  (PlayTurn.remembers_fetch h).issueEvents t.order commands

/-- A unit of which the bot is told that it is idle is one of its own. -/
theorem PlayTurn.idle_own {commands : List Tag} (h : c.Remembers before)
    (hshown : t.Shown c commands) {v : BotView} {unit : Unit}
    (hmem : (v, .onUnitIdle unit) ∈ t.events (t.issue c commands).1) :
    unit ∈ v.getUnits .self := by
  have hready : (t.fetch c).Ready := (PlayTurn.remembers_fetch (t := t) h).toReady
  have hafter : (t.issue c commands).2.Ready := (PlayTurn.ready_issue h commands).toReady
  obtain ⟨-, -, hissues⟩ := issueEvents_spec hready.tagged t.order commands
  obtain ⟨rfl, callback, hcallback, hunit⟩ := PlayTurn.mem_events hmem BotCallback.noConfusion
  cases callback with
  | onUnitIdle tag =>
    obtain ⟨found, hfound, heq⟩ := Option.map_eq_some_iff.1 hunit
    cases heq
    have hunits : unit ∈ t.view.units := List.mem_of_find?_eq_some hfound
    have htag : unit.tag = tag := by simpa using List.find?_some hfound
    have hdue : (t.fetch c).eventState.Due := by
      by_contra hnot
      have hnone : (t.issue c commands).1 = [] := hissues.log_of_not_due hnot
      rw [hnone] at hcallback
      exact absurd hcallback List.not_mem_nil
    obtain ⟨order, hlists, hlog, hstate⟩ := hissues.exists_order hdue
    have hidle : .onUnitIdle tag ∈ (t.fetch c).eventState.callbacks order commands :=
      hlog ▸ hcallback
    obtain ⟨now, hnow, hself, -⟩ := (EventState.idle_mem_callbacks hlists).1 hidle
    rw [← hstate, ← htag] at hnow
    have hexists := ControlImp.Remembers.exists_unit hafter hshown.view hunits
    have hview : (t.issue c commands).2.eventState.units unit.tag = some unit.view := by
      unfold ControlImp.eventState
      dsimp only
      rw [hexists]
      rfl
    cases hview.symm.trans hnow
    exact mem_getUnits_iff.2 ⟨hunits, hself, rfl⟩
  | onUpgradeCompleted | onNuclearLaunchDetected | onStep => cases hunit
  | onUnitDestroyed | onUnitEnterVision | onUnitCreated | onBuildingConstructionComplete
  | onNydusDetected => cases hunit

end Turn

/-! ### From observations to requests -/

/-- Calls that command units of the player, the unit that is idle being one. -/
structure BotClass.CallsOwn {κ : Type} (stepCall : BotView → BotState κ → ActionCall → Prop)
    (idleCall : BotView → BotState κ → Unit → ActionCall → Prop) : Prop where
  step : ∀ {v s call}, stepCall v s call → call.CommandsOwn v
  idle : ∀ {v s unit call}, unit ∈ v.getUnits .self → idleCall v s unit call →
    call.CommandsOwn v

section Play

variable {κ : Type} {bot : BotClass κ} {cos sin : CFloat → CFloat} {turns : Nat}
  {own : List (BotView × BotCallback) → κ → Prop}
  {ready must : List (BotView × BotCallback) → BotView → Prop}
  {stepCall : BotView → BotState κ → ActionCall → Prop}
  {idleCall : BotView → BotState κ → Unit → ActionCall → Prop}
  {past : List PlayTurn} {t : PlayTurn} {p p' : Player κ}
  {records : List PlayRecord} {record : PlayRecord}

/-- In every turn of the play the bot sees its client. -/
def Player.Shown (bot : BotClass κ) (cos sin : CFloat → CFloat) (turns : Nat) (p₀ : Player κ)
    (ts : List PlayTurn) : Prop :=
  ∀ past t later p records, ts = past ++ t :: later →
    p₀.play bot cos sin turns past = .ok (p, records) → t.Shown p.client p.actions.commands

theorem Player.Shown.prefix {p₀ : Player κ} {ts later : List PlayTurn}
    (h : p₀.Shown bot cos sin turns (ts ++ later)) : p₀.Shown bot cos sin turns ts := by
  intro past t rest p records hsplit
  refine h past t (rest ++ later) p records ?_
  rw [hsplit, List.append_assoc, List.cons_append]

/-- What holds of a player behind the turns `past`. -/
structure Player.Accounted (own : List (BotView × BotCallback) → κ → Prop)
    (past : List PlayTurn) (p : Player κ) (records : List PlayRecord) : Prop where
  client : p.client.Remembers (observations past)
  reached : Reached own (records.flatMap (·.events)) p.state
  held : ∀ action ∈ p.actions.held, Justified (observations past) action
  sent : ∀ record ∈ records, ∀ actions, record.sent = some actions → ∀ action ∈ actions,
    Justified (observations past) action

/-- What the calls of a turn add is justified by the observations up to it. -/
theorem justified_enqueued (h : bot.Behaves own ready must stepCall idleCall)
    (hcalls : BotClass.CallsOwn stepCall idleCall) (hp : p.Accounted own past records)
    (hshown : t.Shown p.client p.actions.commands)
    {result : BotState κ × List (List ActionCall)}
    (hrun : bot.run cos sin turns p.state
      (t.events (t.issue p.client p.actions.commands).1) = .ok result) :
    Reached own (records.flatMap (·.events) ++ t.events (t.issue p.client p.actions.commands).1)
        result.1 ∧
      ∀ call ∈ result.2.flatten, ∀ action ∈ call.enqueued,
        Justified (observations (past ++ [t])) action := by
  have hidle : ∀ event ∈ t.events (t.issue p.client p.actions.commands).1,
      IdleOwn event.1 event.2 := by
    rintro ⟨v, callback⟩ hmem unit rfl
    exact PlayTurn.idle_own hp.client hshown hmem
  have hreached := h.reached hp.reached hidle hrun
  refine ⟨hreached, fun call hcall action haction => ?_⟩
  obtain ⟨⟨v, callback⟩, hmem, s₁, hlegal⟩ := h.legal hp.reached hidle hrun call hcall
  obtain ⟨hown, hother⟩ : call.CommandsOwn v ∧ callback ≠ .onGameStart := by
    cases callback with
    | onStep => exact ⟨hcalls.step hlegal, BotCallback.noConfusion⟩
    | onUnitIdle unit => exact ⟨hcalls.idle (hidle _ hmem unit rfl) hlegal, BotCallback.noConfusion⟩
    | onGameStart | onUpgradeCompleted | onNuclearLaunchDetected => exact hlegal.elim
  obtain ⟨rfl, -⟩ := PlayTurn.mem_events hmem hother
  obtain ⟨command, hraw, htags⟩ := hown action haction
  refine ⟨command, hraw, fun tag htag => ?_⟩
  obtain ⟨unit, hunit, rfl⟩ := htags tag htag
  rw [observations_concat]
  exact (PlayTurn.ready_issue hp.client p.actions.commands).owns hshown.view hunit

/-- What is held after some calls was held before, or is what they add. -/
theorem mem_held_final {a : ActionImp} {calls : List ActionCall} {action : Proto.ActionSent}
    (h : action ∈ (actionMachine.final a calls).held) :
    action ∈ a.held ∨ ∃ call ∈ calls, action ∈ call.enqueued := by
  have hconserves := run_conserves a calls
  have hmem : action ∈ a.held ++ calls.flatMap ActionCall.enqueued :=
    hconserves ▸ List.mem_append_right _ h
  rcases List.mem_append.1 hmem with hheld | hadded
  · exact .inl hheld
  · exact .inr (List.mem_flatMap.1 hadded)

/-- A turn sends and keeps what is held. -/
theorem PlayTurn.send_spec (t : PlayTurn) (a : ActionImp) :
    (∀ actions, (t.send a).1 = some actions → ∀ action ∈ actions, action ∈ a.held) ∧
      ∀ action ∈ (t.send a).2.held, action ∈ a.held := by
  unfold PlayTurn.send
  split
  · exact ⟨nofun, fun _ => id⟩
  · obtain ⟨hsent, hheld, -⟩ := a.sendActions_spec t.control
    constructor
    · intro actions hactions action haction
      dsimp only at hactions
      rw [hsent] at hactions
      unfold ActionImp.toSend at hactions
      split at hactions
      · unfold ActionImp.held
        rw [hactions]
        exact haction
      · cases hactions
    · intro action haction
      unfold ActionImp.held at haction ⊢
      dsimp only at haction
      rw [hheld] at haction
      split at haction
      · exact absurd haction List.not_mem_nil
      · exact haction

theorem Player.Accounted.turn (h : bot.Behaves own ready must stepCall idleCall)
    (hcalls : BotClass.CallsOwn stepCall idleCall) (hp : p.Accounted own past records)
    (hshown : t.Shown p.client p.actions.commands)
    (hturn : p.turn bot cos sin turns t = .ok (p', record)) :
    p'.Accounted own (past ++ [t]) (records ++ [record]) := by
  unfold Player.turn at hturn
  obtain ⟨result, hrun, hresult⟩ := bind_eq_ok_iff.1 hturn
  cases hresult
  obtain ⟨hreached, hjustified⟩ := justified_enqueued h hcalls hp hshown hrun
  have hbefore {action} (haction : Justified (observations past) action) :
      Justified (observations (past ++ [t])) action := by
    rw [observations_concat]
    exact haction.mono _
  have hheld : ∀ action ∈ (actionMachine.final p.actions result.2.flatten).held,
      Justified (observations (past ++ [t])) action := by
    intro action haction
    rcases mem_held_final haction with hold | ⟨call, hcall, hadded⟩
    · exact hbefore (hp.held action hold)
    · exact hjustified call hcall action hadded
  obtain ⟨hsends, hkeeps⟩ := t.send_spec (actionMachine.final p.actions result.2.flatten)
  refine ⟨?_, ?_, fun action haction => hheld action (hkeeps action haction), ?_⟩
  · rw [observations_concat]
    exact PlayTurn.ready_issue hp.client p.actions.commands
  · rw [List.flatMap_append, List.flatMap_singleton]
    exact hreached
  · intro record' hmem actions hactions action haction
    rcases List.mem_append.1 hmem with hmem | hmem
    · exact hbefore (hp.sent record' hmem actions hactions action haction)
    · rw [List.mem_singleton.1 hmem] at hactions
      exact hheld action (hsends actions hactions action haction)

theorem Player.Accounted.play (h : bot.Behaves own ready must stepCall idleCall)
    (hcalls : BotClass.CallsOwn stepCall idleCall) {s : BotState κ} (hstart : Reached own [] s)
    {answers : List (Option (List Proto.AbilityData))} {ts : List PlayTurn}
    (hshown : (Player.initial answers s).Shown bot cos sin turns ts)
    {result : Player κ × List PlayRecord}
    (hplay : (Player.initial answers s).play bot cos sin turns ts = .ok result) :
    result.1.Accounted own ts result.2 := by
  have hinit : (Player.initial answers s).Accounted own [] [] :=
    ⟨.initial answers, hstart, fun _ h => absurd h List.not_mem_nil,
      fun _ h => absurd h List.not_mem_nil⟩
  refine (foldlM_invariant (I := fun past (result : Player κ × List PlayRecord) =>
    (Player.initial answers s).Shown bot cos sin turns past →
      (Player.initial answers s).play bot cos sin turns past = .ok result ∧
        result.1.Accounted own past result.2)
    (fun _ => ⟨rfl, hinit⟩) ?_ hplay hshown).2
  intro past t result result' hpast hnext hshown
  obtain ⟨hplayed, hp⟩ := hpast hshown.prefix
  have hplayed' : (Player.initial answers s).play bot cos sin turns (past ++ [t]) =
      .ok result' := by
    unfold Player.play
    rw [foldlM_concat]
    exact bind_eq_ok_iff.2 ⟨result, hplayed, hnext⟩
  obtain ⟨⟨p, record⟩, hturn, hrecord⟩ := bind_eq_ok_iff.1 hnext
  cases hrecord
  exact ⟨hplayed', hp.turn h hcalls (hshown past t [] result.1 result.2 rfl hplayed) hturn⟩

/-- Whatever is sent in a turn of a play commands units only, each of which an observation up to
then has shown as the player's own. -/
def CommandsOwnUnits (bot : BotClass κ) (s : BotState κ) : Prop :=
  ∀ (answers : List (Option (List Proto.AbilityData))) (cos sin : CFloat → CFloat)
    (turns : Nat) (past : List PlayTurn) (t : PlayTurn) (p : Player κ)
    (records : List PlayRecord) (record : PlayRecord) (actions : List Proto.ActionSent),
    (Player.initial answers s).Shown bot cos sin turns (past ++ [t]) →
    (Player.initial answers s).play bot cos sin turns (past ++ [t]) =
      .ok (p, records ++ [record]) →
    record.sent = some actions →
    ∀ action ∈ actions, Justified (observations (past ++ [t])) action

theorem commandsOwnUnits (h : bot.Behaves own ready must stepCall idleCall)
    (hcalls : BotClass.CallsOwn stepCall idleCall) {s : BotState κ} (hstart : Reached own [] s) :
    CommandsOwnUnits bot s := by
  intro answers cos sin turns past t p records record actions hshown hplay hsent
  have hp := Player.Accounted.play h hcalls hstart hshown hplay
  exact hp.sent record (List.mem_append_right _ (List.mem_singleton_self _)) actions hsent

end Play

/-- The bots of the three races command only their own units. -/
theorem bots_command_own_units (airBuild mutaliskBuild mechBuild : Bool) :
    CommandsOwnUnits ProtossMultiplayerBot.bot (ProtossMultiplayerBot.start airBuild) ∧
      CommandsOwnUnits ZergMultiplayerBot.bot (ZergMultiplayerBot.start mutaliskBuild) ∧
      CommandsOwnUnits TerranMultiplayerBot.bot (TerranMultiplayerBot.start mechBuild) := by
  refine ⟨?_, ?_, ?_⟩
  · exact commandsOwnUnits ProtossMultiplayerBot.behaves
      ⟨ProtossMultiplayerBot.StepCall.commandsOwn, ProtossMultiplayerBot.IdleCall.commandsOwn⟩
      (ProtossMultiplayerBot.reached_start airBuild)
  · exact commandsOwnUnits (ZergMultiplayerBot.behaves ⟨mutaliskBuild⟩)
      ⟨ZergMultiplayerBot.StepCall.commandsOwn, ZergMultiplayerBot.IdleCall.commandsOwn⟩
      (ZergMultiplayerBot.reached_start mutaliskBuild)
  · exact commandsOwnUnits (TerranMultiplayerBot.behaves mechBuild)
      ⟨TerranMultiplayerBot.StepCall.commandsOwn, TerranMultiplayerBot.IdleCall.commandsOwn⟩
      (TerranMultiplayerBot.reached_start mechBuild)

/-! ### A cybernetics core -/

def coreObservation (loop : GameLoop) : Proto.Observation :=
  .full loop [{ Proto.Unit.idleOwn 7 with unitType := some 72 }] [] []

/-- The game starts, and has only shown a cybernetics core, which is idle. -/
def coreStarts (joined view : BotView) : PlayTurn where
  start := some { setup := {}, settings := {}, ports := {}, view := joined }
  answer := some (.ofObservation (coreObservation 1) {})
  view

/-- It goes on with a step. -/
def coreGoesOn (view : BotView) : PlayTurn where
  answer := some (.ofObservation (coreObservation 12) {})
  view

/-- What becomes of the data request. -/
def coreAnswers : List (Option (List Proto.AbilityData)) := [some [{ abilityId := some 1568 }]]

/-- The client behind the fetch and behind the events of the first turn, and of the second. -/
def coreJoined : ControlImp := (coreStarts {} {}).fetch (.withAnswers coreAnswers)

def coreIssued : ControlImp := ((coreStarts {} {}).issue (.withAnswers coreAnswers) []).2

def coreLater : ControlImp := ((coreGoesOn {}).issue coreIssued []).2

section View

variable (c : ControlImp) (hnodup : (((c.observationImp.unitPool.existingUnits default).map
  c.observationImp.unitPool.deref).map (·.tag)).Nodup)

/-- What a client shows, with some data of unit types. -/
def ControlImp.view : BotView where
  units := (c.observationImp.unitPool.existingUnits default).map c.observationImp.unitPool.deref
  tags_nodup := hnodup
  unitTypeData := List.replicate 100 (UnitTypeData.readFromProto {} {})
  gameLoop := c.observationImp.currentGameLoop
  minerals := c.observationImp.minerals
  vespene := c.observationImp.vespene
  foodCap := c.observationImp.foodCap
  foodUsed := c.observationImp.foodUsed
  foodArmy := c.observationImp.foodArmy
  foodWorkers := c.observationImp.foodWorkers
  upgrades := c.observationImp.upgrades
  powerSources := c.observationImp.powerSources
  observation := c.observation

theorem ControlImp.shows_view : (c.view hnodup).Shows c default := by
  constructor <;> rfl

end View

theorem nodup_coreJoined : (((coreJoined.observationImp.unitPool.existingUnits default).map
    coreJoined.observationImp.unitPool.deref).map (·.tag)).Nodup := by
  decide +kernel

theorem nodup_coreIssued : (((coreIssued.observationImp.unitPool.existingUnits default).map
    coreIssued.observationImp.unitPool.deref).map (·.tag)).Nodup := by
  decide +kernel

theorem nodup_coreLater : (((coreLater.observationImp.unitPool.existingUnits default).map
    coreLater.observationImp.unitPool.deref).map (·.tag)).Nodup := by
  decide +kernel

def coreFirst : PlayTurn :=
  coreStarts (coreJoined.view nodup_coreJoined) (coreIssued.view nodup_coreIssued)

def coreSecond : PlayTurn := coreGoesOn (coreLater.view nodup_coreLater)

/-- What a turn does with the client does not depend on what the bot is shown. -/
theorem coreStarts_fetch (joined view : BotView) (c : ControlImp) :
    (coreStarts joined view).fetch c = (coreStarts {} {}).fetch c := rfl

theorem coreStarts_issue (joined view : BotView) (c : ControlImp) (commands : List Tag) :
    (coreStarts joined view).issue c commands = (coreStarts {} {}).issue c commands := rfl

theorem coreGoesOn_issue (view : BotView) (c : ControlImp) (commands : List Tag) :
    (coreGoesOn view).issue c commands = (coreGoesOn {}).issue c commands := rfl

theorem coreStarts_shown {joined view : BotView} (hjoined : joined.Shows coreJoined default)
    (hview : view.Shows coreIssued default) :
    (coreStarts joined view).Shown (.withAnswers coreAnswers) [] where
  start start hstart := by
    cases hstart
    rw [coreStarts_fetch]
    exact hjoined
  view := by
    rw [coreStarts_issue]
    exact hview

theorem coreGoesOn_shown {view : BotView} (hview : view.Shows coreLater default) :
    (coreGoesOn view).Shown coreIssued [] where
  start start hstart := by cases hstart
  view := by
    rw [coreGoesOn_issue]
    exact hview

def coreStart : Player ProtossMultiplayerBot :=
  .initial coreAnswers (ProtossMultiplayerBot.start false)

/-- The core is told to research the warp gate. -/
def coreActions : List Proto.ActionSent :=
  [{ actionRaw := some (.unitCommand
      { abilityId := some 1568, unitTags := [7], queueCommand := some false }) }]

/-- No commands have been sent behind the first turn. -/
theorem core_commands : (coreStart.play ProtossMultiplayerBot.bot id id 721
    [coreFirst]).toOption.map (fun result => result.1.actions.commands) = some [] := by
  decide +kernel

/-- The core is idle in the first turn, and the actions are sent in the second. -/
theorem core_sent : (coreStart.play ProtossMultiplayerBot.bot id id 721
    [coreFirst, coreSecond]).toOption.map (fun result => result.2.map (·.sent)) =
      some [none, some coreActions] := by
  decide +kernel

theorem core_play : ∃ p first record,
    coreStart.play ProtossMultiplayerBot.bot id id 721 ([coreFirst] ++ [coreSecond]) =
        .ok (p, [first] ++ [record]) ∧ record.sent = some coreActions := by
  have hsent := core_sent
  cases h : coreStart.play ProtossMultiplayerBot.bot id id 721 [coreFirst, coreSecond] with
  | error fault =>
    rw [h] at hsent
    cases hsent
  | ok result =>
    rw [h] at hsent
    obtain ⟨p, records⟩ := result
    obtain ⟨first, rest, rfl, -, hrest⟩ := List.map_eq_cons_iff.1 (Option.some.inj hsent)
    obtain ⟨record, rfl, hrecord⟩ := List.map_eq_singleton_iff.1 hrest
    exact ⟨p, first, record, h, hrecord⟩

theorem Player.turn_client {κ : Type} {bot : BotClass κ} {cos sin : CFloat → CFloat}
    {turns : Nat} {p p' : Player κ} {t : PlayTurn} {record : PlayRecord}
    (h : p.turn bot cos sin turns t = .ok (p', record)) :
    p'.client = (t.issue p.client p.actions.commands).2 := by
  unfold Player.turn at h
  obtain ⟨result, -, hresult⟩ := bind_eq_ok_iff.1 h
  cases hresult
  rfl

theorem core_client {p : Player ProtossMultiplayerBot} {records : List PlayRecord}
    (h : coreStart.play ProtossMultiplayerBot.bot id id 721 [coreFirst] = .ok (p, records)) :
    p.client = coreIssued ∧ p.actions.commands = [] := by
  have hcommands := core_commands
  rw [h] at hcommands
  refine ⟨?_, Option.some.inj hcommands⟩
  unfold Player.play at h
  rw [List.foldlM_cons] at h
  obtain ⟨result, hnext, hresult⟩ := bind_eq_ok_iff.1 h
  cases hresult
  obtain ⟨⟨p', record⟩, hturn, hrecord⟩ := bind_eq_ok_iff.1 hnext
  cases hrecord
  rw [Player.turn_client hturn, coreFirst, coreStarts_issue]
  rfl

theorem core_shown : coreStart.Shown ProtossMultiplayerBot.bot id id 721
    ([coreFirst] ++ [coreSecond]) := by
  intro past t later p records hsplit hpast
  rcases concat_eq_append_cons.1 hsplit with ⟨rfl, rfl, -⟩ | ⟨later', -, hfirst⟩
  · obtain ⟨hclient, hcommands⟩ := core_client hpast
    rw [hclient, hcommands]
    exact coreGoesOn_shown (coreLater.shows_view nodup_coreLater)
  · have hnil : past = [] := by
      cases past with
      | nil => rfl
      | cons first rest =>
        have hlength := congrArg List.length hfirst
        simp at hlength
    subst hnil
    cases hpast
    obtain ⟨rfl, -⟩ := List.cons.inj hfirst
    exact coreStarts_shown (coreJoined.shows_view nodup_coreJoined)
      (coreIssued.shows_view nodup_coreIssued)

/-- The bot has been shown the unit that it commands. -/
theorem bots_command_own_units_core :
    coreActions ≠ [] ∧
      ∀ action ∈ coreActions, Justified (observations [coreFirst, coreSecond]) action := by
  obtain ⟨p, first, record, hplay, hsent⟩ := core_play
  refine ⟨List.cons_ne_nil _ _, ?_⟩
  exact (bots_command_own_units false false false).1 coreAnswers id id 721 [coreFirst] coreSecond
    p [first] record coreActions core_shown hplay hsent

end Sc2Api
