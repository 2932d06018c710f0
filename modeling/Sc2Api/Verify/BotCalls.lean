import Sc2Api.Verify.MultiplayerBot

/-!
# The calls of a bot's economy

What a race trains and builds, as tables, and the calls that are made for it: each unit is
given only what it makes, and only when it is ready.
-/

namespace Sc2Api

open Lib Program BotM MultiplayerBot

/-- What the economy of a race is made of. -/
structure Race.Economy where
  worker : UnitTypeID
  vespeneBuilding : UnitTypeID
  /-- What is trained, researched or morphed, with the unit that does it. -/
  makers : List (AbilityID × UnitTypeID)
  /-- What workers build somewhere off the expansions. -/
  buildings : List AbilityID
  townHall : AbilityID
  vespene : AbilityID

variable {κ : Type}

/-- The calls for the economy that a bot in the state `s` may make on what it sees. -/
inductive EconomyCall (race : Race.Economy) (v : BotView) (s : BotState κ) : ActionCall → Prop
  | make {unit : Unit} {ability : AbilityID} {unitType : UnitTypeID}
      (hmakes : (ability, unitType) ∈ race.makers) (hunit : Maker v unitType ability unit) :
      EconomyCall race v s (.unitCommand (some unit.tag) ability false)
  | build {worker : Unit} {ability : AbilityID} {location : Point2D}
      (hbuilding : ability ∈ race.buildings) (hworker : Builder v race.worker ability worker)
      (hplaced : Placed v ability location true)
      (hoff : ∀ expansion ∈ s.base.expansions,
        7 ^ 2 ≤ distanceSquared2D location expansion.toPoint2D) :
      EconomyCall race v s (.unitCommandPoint (some worker.tag) ability location false)
  | expand {worker : Unit} {place : Point3D}
      (hworker : Builder v race.worker race.townHall worker)
      (hchosen : Chosen v race.townHall s.base place)
      (hplaced : Placed v race.townHall place.toPoint2D true) :
      EconomyCall race v s
        (.unitCommandPoint (some worker.tag) race.townHall place.toPoint2D false)
  | tap {worker geyser : Unit} (hworker : Builder v race.worker race.vespene worker)
      (hgeyser : geyser ∈ v.getUnits .neutral isVespeneGeyser)
      (hnear : ∃ base ∈ v.getUnits .self isTownHall, base.buildProgress = 1 ∧
        distanceSquared2D base.pos.toPoint2D geyser.pos.toPoint2D < 15 ^ 2)
      (hplaced : Placed v race.vespene geyser.pos.toPoint2D true) :
      EconomyCall race v s
        (.unitCommandTarget (some worker.tag) race.vespene (some geyser.tag) false)
  | gather {worker : Unit} {target : Option Unit}
      (hworker : worker ∈ v.getUnits .self (isUnit race.worker))
      (htarget : GatherTarget v race.vespeneBuilding target) :
      EconomyCall race v s
        (.unitCommandTarget (some worker.tag) .harvestGather (target.map (·.tag)) false)

/-- An invariant that fixes what the economy reads, and lets the staging location move. -/
structure FixesEconomy (s : BotState κ) (J : MultiplayerBot → κ → Prop) : Prop where
  expansions : ∀ {bot own}, J bot own → bot.expansions = s.base.expansions
  startLocation : ∀ {bot own}, J bot own → bot.startLocation = s.base.startLocation
  move : ∀ {bot own} (place : Point3D), J bot own → J { bot with stagingLocation := place } own

/-- The bot is as in the state. -/
def Unchanged (s : BotState κ) (bot : MultiplayerBot) (own : κ) : Prop :=
  bot = s.base ∧ own = s.own

/-- The members of all bots are these but for the staging location. -/
def SameBot (base : MultiplayerBot) (owns : κ → Prop) (bot : MultiplayerBot) (own : κ) : Prop :=
  bot = { base with stagingLocation := bot.stagingLocation } ∧ owns own

theorem SameBot.fixesEconomy {s : BotState κ} {base : MultiplayerBot} {owns : κ → Prop}
    (hexpansions : base.expansions = s.base.expansions)
    (hstart : base.startLocation = s.base.startLocation) :
    FixesEconomy s (SameBot base owns) where
  expansions h := by rw [h.1, hexpansions]
  startLocation h := by rw [h.1, hstart]
  move place h := by
    obtain ⟨hbot, hown⟩ := h
    exact ⟨by rw [hbot], hown⟩

section Calls

variable {v : BotView} {F : BotFault → Prop} {P : ActionCall → Prop} {race : Race.Economy}
  {J : MultiplayerBot → κ → Prop} {s : BotState κ} {ability : AbilityID}

theorem tryBuildUnit_economy (h : ∀ call, EconomyCall race v s call → P call)
    {unitType : UnitTypeID} (hmakes : (ability, unitType) ∈ race.makers) :
    Respects v F J P (tryBuildUnit ability unitType) fun _ => True :=
  tryBuildUnit_keeps fun _ hunit => h _ (.make hmakes hunit)

theorem alsoTryBuildUnit_economy (h : ∀ call, EconomyCall race v s call → P call)
    {unitType : UnitTypeID} (hmakes : (ability, unitType) ∈ race.makers) :
    Respects v F J P (alsoTryBuildUnit ability unitType) fun _ => True :=
  (tryBuildUnit_economy h hmakes).bind fun _ _ => .pure trivial

variable (race)

theorem tryBuildStructure_economy (hJ : FixesEconomy s J)
    (h : ∀ call, EconomyCall race v s call → P call) (hbuilding : ability ∈ race.buildings)
    {location : Point2D} :
    Respects v F J P (tryBuildStructure ability race.worker location) fun _ => True := by
  refine (tryBuildStructure_keeps fun worker hworker hplaced hoff => h _ ?_).mono
    fun _ _ => trivial
  obtain ⟨bot, own, hbot, hoff⟩ := hoff.resolve_left Bool.false_ne_true
  exact .build hbuilding hworker hplaced (hJ.expansions hbot ▸ hoff)

theorem tryExpand_economy (hJ : FixesEconomy s J)
    (h : ∀ call, EconomyCall race v s call → P call) :
    Respects v F J P (tryExpand race.townHall race.worker) fun _ => True := by
  refine tryExpand_keeps (fun worker bot own place hworker hbot hchosen hplaced => h _ ?_)
    fun _ _ bot own place _ _ _ hbot => hJ.move _ hbot
  refine .expand hworker ?_ hplaced
  unfold Chosen at hchosen ⊢
  rwa [hJ.expansions hbot, hJ.startLocation hbot] at hchosen

theorem tryBuildGas_economy (h : ∀ call, EconomyCall race v s call → P call) {base : Unit}
    (hbase : base ∈ v.getUnits .self isTownHall) (hcomplete : base.buildProgress = 1) :
    Respects v F J P (tryBuildGas race.vespene race.worker base.pos.toPoint2D)
      fun _ => True :=
  tryBuildGas_keeps fun _ hworker _ hgeyser hnear hplaced =>
    h _ (.tap hworker hgeyser ⟨base, hbase, hcomplete, hnear⟩ hplaced)

theorem manageWorkers_economy (h : ∀ call, EconomyCall race v s call → P call) :
    Respects v F J P (manageWorkers race.worker .harvestGather race.vespeneBuilding)
      fun _ => True :=
  manageWorkers_keeps fun _ hworker _ htarget => h _ (.gather hworker htarget)

theorem mineIdleWorkers_economy (h : ∀ call, EconomyCall race v s call → P call) {worker : Unit}
    (hworker : worker ∈ v.getUnits .self (isUnit race.worker)) :
    Respects v F J P (mineIdleWorkers worker .harvestGather race.vespeneBuilding)
      fun _ => True :=
  mineIdleWorkers_keeps fun _ htarget => h _ (.gather hworker htarget)

end Calls

/-! ## The army -/

/-- The calls for the army of a bot in the state `s`; `casts` are those of the race that a unit
may get. -/
inductive ArmyCall (v : BotView) (s : BotState κ) (casts : Unit → ActionCall → Prop) :
    ActionCall → Prop
  | stop {unit : Unit} (hunit : IsArmy v unit) :
      ArmyCall v s casts (.unitCommand (some unit.tag) .stop false)
  | gather {unit : Unit} (hunit : IsArmy v unit) :
      ArmyCall v s casts
        (.unitCommandPoint (some unit.tag) .move s.base.stagingLocation.toPoint2D false)
  | attack {unit enemy : Unit} (hunit : IsArmy v unit) (henemy : enemy ∈ v.getUnits .enemy) :
      ArmyCall v s casts
        (.unitCommandPoint (some unit.tag) .attack enemy.pos.toPoint2D false)
  | attackUnit {unit enemy : Unit} (hunit : IsArmy v unit) (henemy : enemy ∈ v.getUnits .enemy) :
      ArmyCall v s casts (.unitCommandTarget (some unit.tag) .attack (some enemy.tag) false)
  | scout {unit : Unit} (hunit : IsArmy v unit) (point : Point2D) :
      ArmyCall v s casts (.unitCommandPoint (some unit.tag) .smart point false)
  | cast {unit : Unit} {call : ActionCall} (hunit : IsArmy v unit) (hcall : casts unit call) :
      ArmyCall v s casts call

/-- The calls while a nuclear launch is detected: back to the start. -/
inductive RetreatCall (v : BotView) (s : BotState κ) : ActionCall → Prop
  | stop {unit : Unit} (hunit : IsArmy v unit) :
      RetreatCall v s (.unitCommand (some unit.tag) .stop false)
  | move {unit : Unit} (hunit : IsArmy v unit) :
      RetreatCall v s
        (.unitCommandPoint (some unit.tag) .move s.base.startLocation.toPoint2D false)

section Army

variable {v : BotView} {F : BotFault → Prop} {P : ActionCall → Prop}
  {J : MultiplayerBot → κ → Prop} {s : BotState κ} {casts : Unit → ActionCall → Prop}

theorem allowsAttack_army (h : ∀ call, ArmyCall v s casts call → P call) {unit : Unit}
    (hunit : IsArmy v unit) : AllowsAttack v P unit where
  attack _ henemy := h _ (.attack hunit henemy)
  attackUnit _ henemy := h _ (.attackUnit hunit henemy)
  smart point := h _ (.scout hunit point)

/-- The point is the position of the nearest of the units, zero if all are too far away. -/
def Closest (bound : CFloat) (units : List Unit) (unit : Unit) (point : Point2D) : Prop :=
  (∃ enemy ∈ units, point = enemy.pos.toPoint2D ∧ ∀ other ∈ units,
    distanceSquared2D enemy.pos.toPoint2D unit.pos.toPoint2D ≤
      distanceSquared2D other.pos.toPoint2D unit.pos.toPoint2D) ∨
  (point = {} ∧ ∀ enemy ∈ units,
    bound ≤ distanceSquared2D enemy.pos.toPoint2D unit.pos.toPoint2D)

theorem closest_leastBelow (bound : CFloat) (units : List Unit) (unit : Unit) :
    Closest bound units unit (positionOf (leastBelow
      (fun u => distanceSquared2D u.pos.toPoint2D unit.pos.toPoint2D) bound units).2) := by
  obtain ⟨hscan, hall⟩ | ⟨x, hx, hscan, -, hleast⟩ := leastBelow_spec
    (fun u : Unit => distanceSquared2D u.pos.toPoint2D unit.pos.toPoint2D) bound units
  · rw [hscan]
    exact .inr ⟨rfl, hall⟩
  · rw [hscan]
    exact .inl ⟨x, hx, rfl, hleast⟩

/-- One of the units is at this distance. -/
def IsNear (units : List Unit) (unit : Unit) (distance : CFloat) : Prop :=
  ∃ enemy ∈ units,
    distanceSquared2D enemy.pos.toPoint2D unit.pos.toPoint2D < distance ^ 2

theorem nearest_cases (units : List Unit) (unit : Unit) :
    (nearest units unit = (floatMax ^ 2, none) ∧ ∀ u ∈ units,
      floatMax ^ 2 ≤ distanceSquared2D u.pos.toPoint2D unit.pos.toPoint2D) ∨
    ∃ x ∈ units, nearest units unit =
        (distanceSquared2D x.pos.toPoint2D unit.pos.toPoint2D, some x) ∧
      distanceSquared2D x.pos.toPoint2D unit.pos.toPoint2D < floatMax ^ 2 ∧ ∀ u ∈ units,
        distanceSquared2D x.pos.toPoint2D unit.pos.toPoint2D ≤
          distanceSquared2D u.pos.toPoint2D unit.pos.toPoint2D :=
  leastBelow_spec _ _ _

/-- None of the units is nearer. -/
theorem nearest_le {units : List Unit} {unit u : Unit} (hu : u ∈ units) :
    (nearest units unit).1 ≤ distanceSquared2D u.pos.toPoint2D unit.pos.toPoint2D := by
  obtain ⟨hscan, hall⟩ | ⟨x, -, hscan, -, hleast⟩ := nearest_cases units unit
  · rw [hscan]
    exact hall u hu
  · rw [hscan]
    exact hleast u hu

theorem nearest_least {units : List Unit} {unit closest : Unit}
    (h : (nearest units unit).2 = some closest) : closest ∈ units ∧ ∀ other ∈ units,
      distanceSquared2D closest.pos.toPoint2D unit.pos.toPoint2D ≤
        distanceSquared2D other.pos.toPoint2D unit.pos.toPoint2D := by
  obtain ⟨hscan, -⟩ | ⟨x, hx, hscan, -, hleast⟩ := nearest_cases units unit
  · rw [hscan] at h
    cases h
  · rw [hscan] at h
    cases h
    exact ⟨hx, hleast⟩

theorem isNear_of_nearest {units : List Unit} {unit : Unit} {distance : CFloat}
    (hdistance : 0 ≤ distance ∧ distance ≤ floatMax)
    (h : (nearest units unit).1 < distance ^ 2) : IsNear units unit distance := by
  obtain ⟨hscan, -⟩ | ⟨x, hx, hscan, -⟩ := nearest_cases units unit
  · rw [hscan] at h
    exact absurd (h.trans_le (pow_le_pow_left₀ hdistance.1 hdistance.2 2)) (lt_irrefl _)
  · rw [hscan] at h
    exact ⟨x, hx, h⟩

/-- A step while a launch is detected in the loop `frame` ends the alarm when it is old. -/
def AfterAlarm (v : BotView) (s : BotState κ) (frame : GameLoop) (bot : MultiplayerBot)
    (own : κ) : Prop :=
  own = s.own ∧
    bot = if frame + 400 < v.gameLoop then { s.base with nukeDetected := false } else s.base

theorem retreatFromNuke_leads (hknows : ¬KnowsTypes v .self → ∀ e, F e)
    (hframe : s.base.nukeDetectedFrame = none → F .uninitialized)
    (h : ∀ call, RetreatCall v s call → P call) :
    Leads v s F (fun s' => ∃ frame, s.base.nukeDetectedFrame = some frame ∧
      AfterAlarm v s frame s'.base s'.own) P retreatFromNuke fun _ => True := by
  refine .gets_bind (Leads.bind (I := (· = s)) (Q := (s.base.nukeDetectedFrame = some ·)) ?_ ?_)
  · cases hset : s.base.nukeDetectedFrame with
    | none => exact Keeps.fail (I := (· = s)) (hframe hset) s rfl
    | some frame => exact .pure rfl rfl
  intro frame s₀ hs₀ hset
  rw [hs₀]
  refine .ask_bind (Leads.bind (I := fun s' => AfterAlarm v s frame s'.base s'.own)
    (Q := fun _ => True) ?_ ?_)
  · refine .ite (fun hold => .modify ⟨rfl, ?_⟩ trivial) fun hnew => .pure ⟨rfl, ?_⟩ trivial
    · rw [if_pos hold]
    · rw [if_neg hnew]
  intro _ s₁ hs₁ _
  have hkeeps : Respects v F (AfterAlarm v s frame) P (do
      let units ← getUnitsIf .self isArmy
      forEach (retreatWithUnit · s.base.startLocation.toPoint2D) units) fun _ => True := by
    refine (army_keeps hknows).bind fun army harmy => .forEach fun unit hmem => ?_
    have hunit := (harmy unit).1 hmem
    exact retreatWithUnit_keeps (h _ (.stop hunit)) (h _ (.move hunit))
  exact (hkeeps s₁ hs₁).mono (fun _ hs' => ⟨frame, hset, hs'⟩) (fun _ => id) fun _ => id

end Army

end Sc2Api
