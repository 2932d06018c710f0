import Sc2Api.Lib.Failures
import Sc2Api.Lib.Lists
import Sc2Api.Verify.BotCalls
import Sc2Api.Verify.Expansions

/-!
# Runs of bots

What each callback leads to holds all along a run, and a run fails where a step must. What the
members of a bot are is told by the callbacks so far: its start location, and whether a nuclear
launch is detected that no later step has found to be old.
-/

namespace Sc2Api

open Lib Program BotM MultiplayerBot

variable {κ : Type}

/-! ## What the callbacks need -/

/-- A unit that is idle is one of the player's. -/
def IdleOwn (v : BotView) (callback : BotCallback) : Prop :=
  ∀ unit, callback = .onUnitIdle unit → unit ∈ v.getUnits .self

/-- What is asked of a callback: the types of the player's units are known, and the unit is one
of the player's. -/
structure WellSeen (v : BotView) (callback : BotCallback) : Prop where
  types : KnowsTypes v .self
  idle : IdleOwn v callback

namespace MultiplayerBot

variable {v : BotView} {s : BotState κ} {F : BotFault → Prop} {P : ActionCall → Prop}

/-- In 721 turns the search for expansions ends, whatever the game answers. -/
theorem exists_expansions {cos sin : CFloat → CFloat} {turns : Nat} (hturns : 720 < turns)
    (n : Nat) : ∃ result, Search.calculateExpansionLocations cos sin turns v.units
      (QueryInterface.placement · (v.game n)) {} = .ok result := by
  let parameters : Search.ExpansionParameters := {}
  have hcount : Search.sampleCount parameters.circleStepSize = 720 := by
    norm_num [Search.sampleCount, parameters]
  have hdistance : parameters.clusterDistance * parameters.clusterDistance < floatMax := by
    norm_num [floatMax, parameters]
  obtain ⟨clusters, hclusters⟩ := Search.exists_cluster_iff.2 (.inr hdistance)
  have hlength (queries) :
      (QueryInterface.placement queries (v.game n)).length = queries.length :=
    QueryInterface.length_checkedResults _ _ _ _ _
  obtain ⟨debug, hrun⟩ := Search.calculateExpansionLocations_eq
    (by norm_num [parameters]) (hcount.trans_lt hturns) hlength hclusters
  exact ⟨_, hrun⟩

/-- The new game leaves the alarm as it is. -/
theorem onGameStart_leads {cos sin : CFloat → CFloat} {turns : Nat}
    (hturns : ¬720 < turns → ∀ e, F e) :
    Leads v s F (fun s' => s'.own = s.own ∧ s'.base.nukeDetected = s.base.nukeDetected ∧
      s'.base.nukeDetectedFrame = s.base.nukeDetectedFrame ∧
      s'.base.startLocation = v.startLocation ∧ s'.base.stagingLocation = v.startLocation ∧
      ∃ n debug, Search.calculateExpansionLocations cos sin turns v.units
        (QueryInterface.placement · (v.game n)) {} = .ok (s'.base.expansions, debug))
      P (onGameStart cos sin turns) fun _ => True := by
  refine .ask_bind (.ask_bind (Leads.bind ((answer_keeps (J := Unchanged s)) s ⟨rfl, rfl⟩) ?_))
  rintro _ s₁ ⟨hbase, hown⟩ ⟨n, rfl⟩
  cases hsearch : Search.calculateExpansionLocations cos sin turns v.units
      (QueryInterface.placement · (v.game n)) {} with
  | error failure =>
    refine Leads.bind (I := (· = s₁)) (Q := fun _ => False)
      (Keeps.fail (hturns (fun hlt => ?_) _) s₁ rfl) fun _ _ _ hnever => hnever.elim
    obtain ⟨result, hresult⟩ := exists_expansions (v := v) hlt n
    cases hresult.symm.trans hsearch
  | ok result =>
    refine (Leads.pure (I := (· = s₁)) (Q := (· = result)) rfl rfl).bind ?_
    rintro _ s₂ hs₂ rfl
    refine .ask_bind (.modify ?_ trivial)
    rw [hs₂, hbase, hown]
    exact ⟨rfl, rfl, rfl, rfl, rfl, n, _, hsearch⟩

theorem onNuclearLaunchDetected_leads :
    Leads v s F (fun s' => s'.own = s.own ∧
      s'.base = { s.base with nukeDetected := true, nukeDetectedFrame := some v.gameLoop })
      P onNuclearLaunchDetected fun _ => True :=
  .ask_bind (.modify ⟨rfl, rfl⟩ trivial)

/-- The members of `MultiplayerBot` behind a step, but for the staging location. -/
def afterStep (v : BotView) (bot : MultiplayerBot) : MultiplayerBot :=
  if isThrottled v = false ∧ bot.nukeDetected = true ∧
      bot.nukeDetectedFrame.any fun frame => frame + 400 < v.gameLoop then
    { bot with nukeDetected := false }
  else bot

end MultiplayerBot

/-! ## The alarm -/

section Alarm

variable {past : List (BotView × BotCallback)} {frame : GameLoop} {v : BotView}

def isLaunch : BotView × BotCallback → Bool
  | (_, .onNuclearLaunchDetected) => true
  | _ => false

def launchLoop (event : BotView × BotCallback) : Option GameLoop :=
  if isLaunch event then some event.1.gameLoop else none

/-- The last launch was in the loop `frame`, and no step since then that was not throttled has
come more than 400 loops later. -/
structure Alarmed (past : List (BotView × BotCallback)) (frame : GameLoop) : Prop where
  last : lastValue launchLoop past = some frame
  recent : ∀ event ∈ since isLaunch past, event.2 = .onStep → isThrottled event.1 = false →
    ¬frame + 400 < event.1.gameLoop

/-- The members of the bot say whether and by what it is alarmed. -/
structure KnowsAlarm (past : List (BotView × BotCallback)) (bot : MultiplayerBot) : Prop where
  detected : bot.nukeDetected = true ↔ ∃ frame, Alarmed past frame
  frame : bot.nukeDetectedFrame = lastValue launchLoop past

/-- There is no alarm before the first callback. -/
theorem knowsAlarm_nil {bot : MultiplayerBot} (hdetected : bot.nukeDetected = false)
    (hframe : bot.nukeDetectedFrame = none) : KnowsAlarm [] bot := by
  refine ⟨iff_of_false (Bool.eq_false_iff.1 hdetected) ?_, hframe⟩
  rintro ⟨frame, halarm⟩
  cases halarm.last

theorem alarmed_launch : Alarmed (past ++ [(v, .onNuclearLaunchDetected)]) v.gameLoop where
  last := by
    rw [lastValue_concat, launchLoop, isLaunch, if_pos rfl, Option.some_or]
  recent := by
    rw [since_concat_of_pos rfl]
    exact fun _ hmem => absurd hmem List.not_mem_nil

theorem alarmed_concat_iff {event : BotView × BotCallback} (h : ¬isLaunch event = true) :
    Alarmed (past ++ [event]) frame ↔ Alarmed past frame ∧
      (event.2 = .onStep → isThrottled event.1 = false → ¬frame + 400 < event.1.gameLoop) := by
  have hlast : lastValue launchLoop (past ++ [event]) = lastValue launchLoop past := by
    rw [lastValue_concat, launchLoop, if_neg h, Option.none_or]
  constructor
  · intro halarm
    have hrecent := halarm.recent
    rw [since_concat_of_neg h] at hrecent
    refine ⟨⟨hlast ▸ halarm.last, fun other hother => ?_⟩, ?_⟩
    · exact hrecent other (List.mem_append_left _ hother)
    · exact hrecent event (List.mem_append_right _ (List.mem_singleton_self event))
  · rintro ⟨halarm, hevent⟩
    refine ⟨hlast.trans halarm.last, ?_⟩
    rw [since_concat_of_neg h]
    exact forall_mem_concat halarm.recent hevent

theorem KnowsAlarm.launch {bot : MultiplayerBot} :
    KnowsAlarm (past ++ [(v, .onNuclearLaunchDetected)])
      { bot with nukeDetected := true, nukeDetectedFrame := some v.gameLoop } where
  detected := iff_of_true rfl ⟨v.gameLoop, alarmed_launch⟩
  frame := alarmed_launch.last.symm

/-- A callback that is neither a launch nor a step leaves the alarm as it is. -/
theorem KnowsAlarm.other {bot bot' : MultiplayerBot} {callback : BotCallback}
    (h : KnowsAlarm past bot) (hlaunch : callback ≠ .onNuclearLaunchDetected)
    (hstep : callback ≠ .onStep) (hdetected : bot'.nukeDetected = bot.nukeDetected)
    (hframe : bot'.nukeDetectedFrame = bot.nukeDetectedFrame) :
    KnowsAlarm (past ++ [(v, callback)]) bot' := by
  have hother : ¬isLaunch (v, callback) = true := by
    cases callback with
    | onNuclearLaunchDetected => exact absurd rfl hlaunch
    | _ => exact Bool.false_ne_true
  refine ⟨?_, ?_⟩
  · rw [hdetected, h.detected]
    refine exists_congr fun frame => ?_
    rw [alarmed_concat_iff hother]
    exact (and_iff_left fun hstep' => absurd hstep' hstep).symm
  · rw [hframe, h.frame, lastValue_concat, launchLoop, if_neg hother, Option.none_or]

theorem KnowsAlarm.step {bot : MultiplayerBot} {staging : Point3D} (h : KnowsAlarm past bot) :
    KnowsAlarm (past ++ [(v, .onStep)])
      { MultiplayerBot.afterStep v bot with stagingLocation := staging } := by
  have hother : ¬isLaunch (v, .onStep) = true := nofun
  have hlast : lastValue launchLoop (past ++ [(v, .onStep)]) = lastValue launchLoop past := by
    rw [lastValue_concat, launchLoop, if_neg hother, Option.none_or]
  have hiff : (∃ frame, Alarmed (past ++ [(v, .onStep)]) frame) ↔
      bot.nukeDetected = true ∧ (isThrottled v = false →
        ¬bot.nukeDetectedFrame.any fun frame => frame + 400 < v.gameLoop) := by
    rw [h.detected, h.frame]
    constructor
    · rintro ⟨frame, halarm⟩
      obtain ⟨hpast, hrecent⟩ := (alarmed_concat_iff hother).1 halarm
      refine ⟨⟨frame, hpast⟩, fun hacts => ?_⟩
      rw [hpast.last, Option.any_some, decide_eq_true_iff]
      exact hrecent rfl hacts
    · rintro ⟨⟨frame, hpast⟩, hrecent⟩
      refine ⟨frame, (alarmed_concat_iff hother).2 ⟨hpast, fun _ hacts => ?_⟩⟩
      have hnew := hrecent hacts
      rw [hpast.last, Option.any_some, decide_eq_true_iff] at hnew
      exact hnew
  unfold MultiplayerBot.afterStep
  split
  · next hold =>
    refine ⟨iff_of_false nofun fun hex => ?_, h.frame.trans hlast.symm⟩
    exact (hiff.1 hex).2 hold.1 hold.2.2
  · next hkept =>
    refine ⟨?_, h.frame.trans hlast.symm⟩
    rw [hiff]
    exact ⟨fun hdetected => ⟨hdetected, fun hacts hold => hkept ⟨hacts, hdetected, hold⟩⟩,
      fun hboth => hboth.1⟩

end Alarm

/-! ## Steps -/

namespace MultiplayerBot

variable {v : BotView} {s : BotState κ} {F : BotFault → Prop} {P : ActionCall → Prop}
  {manageArmy manageEconomy : BotM κ PUnit}

theorem afterStep_expansions (v : BotView) (bot : MultiplayerBot) :
    (afterStep v bot).expansions = bot.expansions := by
  unfold afterStep
  split
  · rfl
  · rfl

theorem afterStep_startLocation (v : BotView) (bot : MultiplayerBot) :
    (afterStep v bot).startLocation = bot.startLocation := by
  unfold afterStep
  split
  · rfl
  · rfl

theorem afterStep_of_calm {bot : MultiplayerBot} (h : bot.nukeDetected = false) :
    afterStep v bot = bot :=
  if_neg fun hold => Bool.false_ne_true (h.symm.trans hold.2.1)

/-- The alarm is given up when it is old. -/
theorem eq_afterStep {frame : GameLoop} {bot : MultiplayerBot} {own : κ}
    (h : AfterAlarm v s frame bot own) (hacts : isThrottled v = false)
    (hframe : s.base.nukeDetectedFrame = some frame) : bot = afterStep v s.base := by
  cases hnuke : s.base.nukeDetected with
  | false =>
    have hsame : { s.base with nukeDetected := false } = s.base := by rw [← hnuke]
    rw [afterStep_of_calm hnuke, h.2, hsame, ite_self]
  | true =>
    have hold : (isThrottled v = false ∧ s.base.nukeDetected = true ∧
        s.base.nukeDetectedFrame.any fun frame => frame + 400 < v.gameLoop) ↔
        frame + 400 < v.gameLoop := by
      rw [hframe, Option.any_some, decide_eq_true_iff]
      exact ⟨fun h => h.2.2, fun h => ⟨hacts, hnuke, h⟩⟩
    exact h.2.trans (if_congr hold rfl rfl).symm

theorem afterStep_of_throttled (h : isThrottled v = true) (bot : MultiplayerBot) :
    afterStep v bot = bot :=
  if_neg fun hold => Bool.false_ne_true (hold.1.symm.trans h)

theorem stepWith_leads (hself : ¬KnowsTypes v .self → ∀ e, F e)
    (hframe : s.base.nukeDetected = true → s.base.nukeDetectedFrame ≠ none)
    (harmy : isThrottled v = false → s.base.nukeDetected = false →
      Leads v s F (fun s' => Unchanged s s'.base s'.own) P manageArmy fun _ => True)
    (hretreat : s.base.nukeDetected = true → ∀ call, RetreatCall v s call → P call)
    (heconomy : Respects v F (SameBot (afterStep v s.base) (· = s.own)) P manageEconomy
      fun _ => True) :
    Leads v s F (fun s' =>
        s'.base = { afterStep v s.base with stagingLocation := s'.base.stagingLocation } ∧
          s'.own = s.own) P (stepWith manageArmy manageEconomy) fun _ => True := by
  refine .ask_bind (.ite (fun hthrottled => ?_) fun hacts => .gets_bind ?_)
  · rw [afterStep_of_throttled hthrottled]
    exact .pure ⟨rfl, rfl⟩ trivial
  have hacts : isThrottled v = false := Bool.eq_false_iff.2 hacts
  cases hnuke : s.base.nukeDetected with
  | false =>
    refine (harmy hacts hnuke).bind fun _ s₁ ⟨hbase, hown⟩ _ => heconomy s₁ ⟨?_, hown⟩
    rw [hbase, afterStep_of_calm hnuke]
  | true =>
    have hleads := retreatFromNuke_leads (F := F) hself
      (fun hnone => absurd hnone (hframe hnuke)) (hretreat hnuke)
    refine hleads.bind fun _ s₁ ⟨frame, hset, hafter⟩ _ => heconomy s₁ ⟨?_, hafter.1⟩
    rw [eq_afterStep hafter hacts hset]

theorem stepWith_fails (hacts : isThrottled v = false) (hcalm : s.base.nukeDetected = false)
    (h : Fails v s manageArmy) : Fails v s (stepWith manageArmy manageEconomy) := by
  refine .ask_bind (.of_not (Bool.eq_false_iff.1 hacts) (.gets_bind ?_))
  rw [hcalm]
  exact .first h

end MultiplayerBot

/-! ## Runs -/

/-- The start location of the last new game. -/
def startOf (past : List (BotView × BotCallback)) : Point3D :=
  (lastValue (fun event => if event.2 = .onGameStart then some event.1.startLocation else none)
    past).getD {}

theorem startOf_start {past : List (BotView × BotCallback)} {v : BotView} :
    startOf (past ++ [(v, .onGameStart)]) = v.startLocation := by
  unfold startOf
  rw [lastValue_concat, if_pos rfl]
  rfl

theorem startOf_other {past : List (BotView × BotCallback)} {v : BotView} {callback : BotCallback}
    (h : callback ≠ .onGameStart) : startOf (past ++ [(v, callback)]) = startOf past := by
  unfold startOf
  rw [lastValue_concat, if_neg h, Option.none_or]

theorem exists_callback_concat {past : List (BotView × BotCallback)} {v : BotView}
    {callback other : BotCallback} :
    (∃ event ∈ past ++ [(v, callback)], event.2 = other) ↔
      (∃ event ∈ past, event.2 = other) ∨ callback = other := by
  constructor
  · rintro ⟨event, hmem, hevent⟩
    rcases List.mem_append.1 hmem with hmem | hmem
    · exact .inl ⟨event, hmem, hevent⟩
    · rw [List.mem_singleton.1 hmem] at hevent
      exact .inr hevent
  · rintro (⟨event, hmem, hevent⟩ | hlast)
    · exact ⟨event, List.mem_append_left _ hmem, hevent⟩
    · exact ⟨(v, callback), List.mem_append_right _ (List.mem_singleton_self _), hlast⟩

/-- What a run has led to; `own` tells the members of the class of the race. -/
structure Reached (own : List (BotView × BotCallback) → κ → Prop)
    (past : List (BotView × BotCallback)) (s : BotState κ) : Prop where
  alarm : KnowsAlarm past s.base
  start : s.base.startLocation = startOf past
  own : own past s.own

/-- A callback that is no new game, no step and no launch leaves the base as it is. -/
theorem Reached.other {own : List (BotView × BotCallback) → κ → Prop}
    {past : List (BotView × BotCallback)} {v : BotView} {s s' : BotState κ}
    {callback : BotCallback} (h : Reached own past s) (hstart : callback ≠ .onGameStart)
    (hlaunch : callback ≠ .onNuclearLaunchDetected) (hstep : callback ≠ .onStep)
    (hbase : s'.base = s.base) (hown : own (past ++ [(v, callback)]) s'.own) :
    Reached own (past ++ [(v, callback)]) s' where
  alarm := h.alarm.other hlaunch hstep (by rw [hbase]) (by rw [hbase])
  start := by rw [hbase, startOf_other hstart, h.start]
  own := hown

/-- What a callback may call, given what a step and a unit that is idle may. -/
def Legal (stepCall : BotView → BotState κ → ActionCall → Prop)
    (idleCall : BotView → BotState κ → Unit → ActionCall → Prop) (v : BotView) (s : BotState κ) :
    BotCallback → ActionCall → Prop
  | .onStep => stepCall v s
  | .onUnitIdle unit => idleCall v s unit
  | _ => fun _ => False

/-- The callbacks of a race, each where a run has led. A step that is ready fails only where it
must, and always there. Else it leaves the members of all bots as `afterStep` says. -/
structure BotClass.Behaves (bot : BotClass κ) (own : List (BotView × BotCallback) → κ → Prop)
    (ready must : List (BotView × BotCallback) → BotView → Prop)
    (stepCall : BotView → BotState κ → ActionCall → Prop)
    (idleCall : BotView → BotState κ → Unit → ActionCall → Prop) : Prop where
  onStep : ∀ {past v s}, Reached own past s →
    Leads v s (fun _ => KnowsTypes v .self → ready past v → must past v) (fun s' =>
      s'.base = { afterStep v s.base with stagingLocation := s'.base.stagingLocation } ∧
        own (past ++ [(v, .onStep)]) s'.own) (stepCall v s) bot.onStep fun _ => True
  fails : ∀ {past v s}, Reached own past s → must past v → Fails v s bot.onStep
  onUnitIdle : ∀ {past v s unit}, Reached own past s → unit ∈ v.getUnits .self →
    Leads v s (fun _ => False) (fun s' => Unchanged s s'.base s'.own) (idleCall v s unit)
      (bot.onUnitIdle unit) fun _ => True
  onUpgradeCompleted : ∀ {past v s upgrade}, Reached own past s →
    Leads v s (fun _ => False) (fun s' => s'.base = s.base ∧
        own (past ++ [(v, .onUpgradeCompleted upgrade)]) s'.own) (fun _ => False)
      (bot.onUpgradeCompleted upgrade) fun _ => True
  keeps : ∀ {past v callback k}, own past k → callback ≠ .onStep →
    (∀ upgrade, callback ≠ .onUpgradeCompleted upgrade) → own (past ++ [(v, callback)]) k

namespace BotClass

variable {bot : BotClass κ} {cos sin : CFloat → CFloat} {turns : Nat}
  {own : List (BotView × BotCallback) → κ → Prop}
  {ready must : List (BotView × BotCallback) → BotView → Prop}
  {stepCall : BotView → BotState κ → ActionCall → Prop}
  {idleCall : BotView → BotState κ → Unit → ActionCall → Prop}
  {past : List (BotView × BotCallback)} {v : BotView} {s : BotState κ}

/-- Each callback of the run is well seen, and its steps are ready. -/
def Seen (ready : List (BotView × BotCallback) → BotView → Prop)
    (events : List (BotView × BotCallback)) : Prop :=
  ∀ past v callback later, events = past ++ (v, callback) :: later →
    WellSeen v callback ∧ (callback = .onStep → ready past v)

theorem Seen.nil : Seen ready [] := by
  intro past v callback later hsplit
  exact absurd hsplit.symm (List.append_ne_nil_of_right_ne_nil _ (List.cons_ne_nil _ _))

theorem Seen.concat {events : List (BotView × BotCallback)} {callback : BotCallback}
    (h : Seen ready events) (hwell : WellSeen v callback)
    (hready : callback = .onStep → ready events v) : Seen ready (events ++ [(v, callback)]) := by
  intro past v' callback' later hsplit
  rcases concat_eq_append_cons.1 hsplit with ⟨rfl, hevent, -⟩ | ⟨later', rfl, hevents⟩
  · cases hevent
    exact ⟨hwell, hready⟩
  · exact h past v' callback' later' hevents

theorem Seen.idle {events : List (BotView × BotCallback)} (h : Seen ready events) :
    ∀ event ∈ events, IdleOwn event.1 event.2 := by
  intro event hmem
  obtain ⟨past, later, hsplit⟩ := List.append_of_mem hmem
  exact (h past event.1 event.2 later hsplit).1.idle

/-- A callback keeps what the run has led to, whatever is known of what the bot sees. With enough
turns for the search and a step that is ready, it fails only where it must. -/
theorem Behaves.callback {callback : BotCallback}
    (h : bot.Behaves own ready must stepCall idleCall) (hpast : Reached own past s)
    (hidle : IdleOwn v callback) :
    Leads v s (fun _ => 720 < turns → KnowsTypes v .self → (callback = .onStep → ready past v) →
        callback = .onStep ∧ must past v)
      (Reached own (past ++ [(v, callback)])) (Legal stepCall idleCall v s callback)
      (bot.callback cos sin turns callback) fun _ => True := by
  have hfalse (F : BotFault → Prop) (I : BotState κ → Prop) {P : ActionCall → Prop}
      {x : BotM κ PUnit} (hx : Leads v s (fun _ => False) I P x fun _ => True) :
      Leads v s F I P x fun _ => True := ⟨fun e herror => (hx.1 e herror).elim, hx.2⟩
  cases callback with
  | onGameStart =>
    refine (onGameStart_leads fun hfew _ hturns => absurd hturns hfew).mono (fun s' hs' => ?_)
      (fun _ => id) fun _ => id
    obtain ⟨hown, hdetected, hframe, hstart, -⟩ := hs'
    refine ⟨hpast.alarm.other ?_ ?_ hdetected hframe, hstart.trans startOf_start.symm, ?_⟩
    · exact BotCallback.noConfusion
    · exact BotCallback.noConfusion
    · rw [hown]
      exact h.keeps hpast.own BotCallback.noConfusion fun _ => BotCallback.noConfusion
  | onStep =>
    have hstep := h.onStep (v := v) hpast
    refine ⟨fun e herror _ hself hready => ⟨rfl, hstep.1 e herror hself (hready rfl)⟩, ?_⟩
    intro a s' out hok
    obtain ⟨⟨hbase, hown⟩, hcalls, -⟩ := hstep.2 a s' out hok
    refine ⟨⟨hbase ▸ hpast.alarm.step, ?_, hown⟩, hcalls, trivial⟩
    rw [startOf_other BotCallback.noConfusion, ← hpast.start, hbase]
    exact afterStep_startLocation v s.base
  | onUnitIdle unit =>
    refine hfalse _ _ ((h.onUnitIdle hpast (hidle unit rfl)).mono (fun s' hs' => ?_)
      (fun _ => id) fun _ => id)
    obtain ⟨hbase, hown⟩ := hs'
    refine hpast.other BotCallback.noConfusion BotCallback.noConfusion BotCallback.noConfusion
      hbase ?_
    rw [hown]
    exact h.keeps hpast.own BotCallback.noConfusion fun _ => BotCallback.noConfusion
  | onUpgradeCompleted upgrade =>
    refine hfalse _ _ ((h.onUpgradeCompleted hpast).mono (fun s' hs' => ?_) (fun _ => id)
      fun _ => id)
    exact hpast.other BotCallback.noConfusion BotCallback.noConfusion BotCallback.noConfusion
      hs'.1 hs'.2
  | onNuclearLaunchDetected =>
    refine onNuclearLaunchDetected_leads.mono (fun s' hs' => ?_) (fun _ => id) fun _ => id
    obtain ⟨hown, hbase⟩ := hs'
    refine ⟨hbase ▸ KnowsAlarm.launch, ?_, ?_⟩
    · rw [hbase, startOf_other BotCallback.noConfusion]
      exact hpast.start
    · rw [hown]
      exact h.keeps hpast.own BotCallback.noConfusion fun _ => BotCallback.noConfusion

/-- The calls that the last callback of `past ++ [event]` makes after the run of `past`. -/
def Makes (bot : BotClass κ) (cos sin : CFloat → CFloat) (turns : Nat) (s : BotState κ)
    (past : List (BotView × BotCallback)) (event : BotView × BotCallback) (s₁ : BotState κ)
    (made : List ActionCall) : Prop :=
  ∃ calls s₂, bot.run cos sin turns s past = .ok (s₁, calls) ∧
    bot.run cos sin turns s (past ++ [event]) = .ok (s₂, calls ++ [made])

theorem run_concat (s : BotState κ) (past : List (BotView × BotCallback))
    (event : BotView × BotCallback) :
    bot.run cos sin turns s (past ++ [event]) =
      bot.run cos sin turns s past >>= fun result => bot.turn cos sin turns result event :=
  foldlM_concat past event

theorem turn_eq_ok_iff {result result' : BotState κ × List (List ActionCall)}
    {event : BotView × BotCallback} :
    bot.turn cos sin turns result event = .ok result' ↔
      ∃ made, bot.callback cos sin turns event.2 event.1 result.1 = .ok (⟨⟩, result'.1, made) ∧
        result'.2 = result.2 ++ [made] := by
  unfold turn
  rw [bind_eq_ok_iff]
  constructor
  · rintro ⟨⟨⟨⟩, s, made⟩, hcallback, hresult⟩
    cases hresult
    exact ⟨made, hcallback, rfl⟩
  · rintro ⟨made, hcallback, hmade⟩
    exact ⟨(⟨⟩, result'.1, made), hcallback, congrArg Except.ok (Prod.ext rfl hmade.symm)⟩

section Runs

variable {events : List (BotView × BotCallback)}

theorem Behaves.reached (h : bot.Behaves own ready must stepCall idleCall)
    (hpast : Reached own past s) (hidle : ∀ event ∈ events, IdleOwn event.1 event.2)
    {result : BotState κ × List (List ActionCall)}
    (hrun : bot.run cos sin turns s events = .ok result) :
    Reached own (past ++ events) result.1 := by
  refine foldlM_invariant (I := fun before (result : BotState κ × List (List ActionCall)) =>
    (∀ event ∈ before, IdleOwn event.1 event.2) → Reached own (past ++ before) result.1)
    (fun _ => ?_) ?_ hrun hidle
  · rw [List.append_nil]
    exact hpast
  intro before event result result' hbefore hturn hidle
  obtain ⟨made, hcallback, -⟩ := turn_eq_ok_iff.1 hturn
  rw [List.forall_mem_append, List.forall_mem_singleton] at hidle
  rw [← List.append_assoc]
  exact ((h.callback (hbefore hidle.1) hidle.2).2 _ _ _ hcallback).1

/-- The calls of a run are legal, wherever it goes on from. -/
theorem Behaves.calls (h : bot.Behaves own ready must stepCall idleCall)
    (hpast : Reached own past s) (hidle : ∀ event ∈ events, IdleOwn event.1 event.2)
    {before later : List (BotView × BotCallback)} {event : BotView × BotCallback}
    (hsplit : events = before ++ event :: later) {s₁ : BotState κ} {made : List ActionCall}
    (hmakes : bot.Makes cos sin turns s before event s₁ made) :
    Reached own (past ++ before) s₁ ∧
      ∀ call ∈ made, Legal stepCall idleCall event.1 s₁ event.2 call := by
  rw [hsplit, List.forall_mem_append, List.forall_mem_cons] at hidle
  obtain ⟨calls, s₂, hbefore, hnext⟩ := hmakes
  have hreached := h.reached hpast hidle.1 hbefore
  rw [run_concat, hbefore] at hnext
  obtain ⟨made', hcallback, hmade⟩ := turn_eq_ok_iff.1 hnext
  rw [List.singleton_inj.1 (List.append_cancel_left hmade)]
  exact ⟨hreached, ((h.callback hreached hidle.2.1).2 _ _ _ hcallback).2.1⟩

/-- A run ends early where a step must fail, and nowhere else. Its calls are legal. -/
theorem Behaves.runs (h : bot.Behaves own ready must stepCall idleCall) (hturns : 720 < turns)
    (hstart : Reached own [] s) (hseen : Seen ready events) :
    ((∃ s' calls, bot.run cos sin turns s events = .ok (s', calls)) ↔
      ∀ past v later, events = past ++ (v, .onStep) :: later → ¬must past v) ∧
    ∀ past v callback later s₁ made, events = past ++ (v, callback) :: later →
      bot.Makes cos sin turns s past (v, callback) s₁ made →
      Reached own past s₁ ∧ ∀ call ∈ made, Legal stepCall idleCall v s₁ callback call := by
  have hreached {past later result} (hsplit : events = past ++ later)
      (hrun : bot.run cos sin turns s past = .ok result) : Reached own past result.1 := by
    refine h.reached hstart (fun event hmem => hseen.idle event ?_) hrun
    rw [hsplit]
    exact List.mem_append_left _ hmem
  refine ⟨⟨?_, fun hgoes => ?_⟩, ?_⟩
  · rintro ⟨s', calls, hrun⟩ past v later hsplit hmust
    have hrun' : bot.run cos sin turns s (past ++ [(v, .onStep)] ++ later) = .ok (s', calls) := by
      rw [List.append_assoc, List.singleton_append, ← hsplit]
      exact hrun
    unfold run at hrun'
    rw [List.foldlM_append, foldlM_concat, bind_eq_ok_iff] at hrun'
    obtain ⟨result', hrun', -⟩ := hrun'
    obtain ⟨result, hpast, hturn⟩ := bind_eq_ok_iff.1 hrun'
    obtain ⟨made, hcallback, -⟩ := turn_eq_ok_iff.1 hturn
    obtain ⟨e, herror⟩ := h.fails (hreached hsplit hpast) hmust
    cases herror.symm.trans hcallback
  · have hrun : ∃ result, bot.run cos sin turns s events = .ok result := by
      refine exists_foldlM fun past event later result hsplit hpast => ?_
      obtain ⟨hwell, hready⟩ := hseen past event.1 event.2 later hsplit
      cases hok : bot.callback cos sin turns event.2 event.1 result.1 with
      | error e =>
        obtain ⟨hstep, hmust⟩ :=
          (h.callback (hreached hsplit hpast) hwell.idle).1 e hok hturns hwell.types hready
        refine absurd hmust (hgoes past event.1 later ?_)
        rw [← hstep]
        exact hsplit
      | ok result' =>
        exact ⟨(result'.2.1, result.2 ++ [result'.2.2]),
          turn_eq_ok_iff.2 ⟨result'.2.2, hok, rfl⟩⟩
    obtain ⟨⟨s', calls⟩, hrun⟩ := hrun
    exact ⟨s', calls, hrun⟩
  · exact fun past v callback later s₁ made hsplit hmakes =>
      h.calls hstart hseen.idle hsplit hmakes

/-- Each of the calls of a run is legal for one of its callbacks. -/
theorem Behaves.legal (h : bot.Behaves own ready must stepCall idleCall)
    (hpast : Reached own past s) (hidle : ∀ event ∈ events, IdleOwn event.1 event.2)
    {result : BotState κ × List (List ActionCall)}
    (hrun : bot.run cos sin turns s events = .ok result) :
    ∀ call ∈ result.2.flatten,
      ∃ event ∈ events, ∃ s₁, Legal stepCall idleCall event.1 s₁ event.2 call := by
  refine (foldlM_invariant (I := fun before (result : BotState κ × List (List ActionCall)) =>
    (∀ event ∈ before, IdleOwn event.1 event.2) →
    bot.run cos sin turns s before = .ok result ∧ ∀ call ∈ result.2.flatten,
      ∃ event ∈ before, ∃ s₁, Legal stepCall idleCall event.1 s₁ event.2 call)
    (fun _ => ⟨rfl, fun _ hcall => absurd hcall List.not_mem_nil⟩) ?_ hrun hidle).2
  intro before event result result' hbefore hturn hidle
  rw [List.forall_mem_append, List.forall_mem_singleton] at hidle
  obtain ⟨hran, hcalls⟩ := hbefore hidle.1
  obtain ⟨made, hcallback, hmade⟩ := turn_eq_ok_iff.1 hturn
  obtain ⟨-, hlegal, -⟩ :=
    (h.callback (h.reached hpast hidle.1 hran) hidle.2).2 _ _ _ hcallback
  refine ⟨?_, fun call hcall => ?_⟩
  · rw [run_concat, hran]
    exact hturn
  rw [hmade, List.flatten_concat, List.mem_append] at hcall
  rcases hcall with hcall | hcall
  · obtain ⟨event', hmem, hlegal'⟩ := hcalls call hcall
    exact ⟨event', List.mem_append_left _ hmem, hlegal'⟩
  · exact ⟨event, List.mem_append_right _ (List.mem_singleton_self _), result.1,
      hlegal call hcall⟩

end Runs

end BotClass

end Sc2Api
