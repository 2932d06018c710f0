import Sc2Api.Verify.BotCalls
import Sc2Api.ZergBot

/-!
# The calls of the Zerg bot

Every call that a callback makes is one that the bot may make in its state on what it sees. A
callback fails where the army has a unit that is lost: one for which the code reads a unit that
it has not found.
-/

namespace Sc2Api

open Lib Program BotM MultiplayerBot

namespace ZergMultiplayerBot

/-! ## Legal calls -/

/-- What the bot trains, researches and morphs. What it builds is built on creep. -/
def economy : Race.Economy where
  worker := .zergDrone
  vespeneBuilding := .zergExtractor
  makers := [
    (.trainDrone, .zergLarva), (.trainOverlord, .zergLarva), (.trainZergling, .zergLarva),
    (.trainRoach, .zergLarva), (.trainHydralisk, .zergLarva), (.trainSwarmHost, .zergLarva),
    (.trainInfestor, .zergLarva), (.trainCorruptor, .zergLarva), (.trainMutalisk, .zergLarva),
    (.trainViper, .zergLarva), (.trainUltralisk, .zergLarva),
    (.trainQueen, .zergHatchery), (.trainQueen, .zergLair), (.trainQueen, .zergHive),
    (.morphOverseer, .zergOverlord), (.morphRavager, .zergRoach), (.morphLurker, .zergHydralisk),
    (.morphBroodLord, .zergCorruptor), (.trainBaneling, .zergZergling),
    (.morphLair, .zergHatchery), (.morphHive, .zergLair), (.morphGreaterSpire, .zergSpire),
    (.morphLurkerDen, .zergHydraliskDen),
    (.researchZerglingMetabolicBoost, .zergSpawningPool),
    (.researchZerglingAdrenalGlands, .zergSpawningPool),
    (.researchZergFlyerAttack, .zergSpire), (.researchZergFlyerAttack, .zergGreaterSpire),
    (.researchZergFlyerArmor, .zergSpire), (.researchZergFlyerArmor, .zergGreaterSpire),
    (.researchZergGroundArmor, .zergEvolutionChamber),
    (.researchZergMeleeWeapons, .zergEvolutionChamber),
    (.researchZergMissileWeapons, .zergEvolutionChamber),
    (.researchChitinousPlating, .zergUltraliskCavern),
    (.researchCentrifugalHooks, .zergBanelingNest),
    (.researchMuscularAugments, .zergHydraliskDen), (.researchMuscularAugments, .zergLurkerDenMp),
    (.researchGlialRegeneration, .zergRoachWarren),
    (.researchPneumatizedCarapace, .zergHive), (.researchPneumatizedCarapace, .zergLair),
    (.researchPneumatizedCarapace, .zergHatchery)]
  buildings := []
  townHall := .buildHatchery
  vespene := .buildExtractor

def buildings : List AbilityID :=
  [.buildSpawningPool, .buildEvolutionChamber, .buildRoachWarren, .buildHydraliskDen, .buildSpire,
    .buildBanelingNest, .buildInfestationPit, .buildUltraliskCavern]

/-- The units that `fight` sends to the closest enemy. -/
def approaching : List UnitTypeID :=
  [.zergRavager, .zergLurkerMp, .zergSwarmHostMp, .zergInfestor]

/-- The enemy is no structure, and none of the others is closer. -/
def IsPrey (v : BotView) (unit enemy : Unit) : Prop :=
  enemy ∈ v.getUnits .enemy ∧ IsStructure v enemy false ∧
    ∀ other ∈ v.getUnits .enemy, IsStructure v other false →
      distanceSquared2D enemy.pos.toPoint2D unit.pos.toPoint2D ≤
        distanceSquared2D other.pos.toPoint2D unit.pos.toPoint2D

/-- The abilities that units of the army use, and where else `fight` sends them. -/
inductive Casts (v : BotView) (s : BotState ZergMultiplayerBot) (unit : Unit) : ActionCall → Prop
  | causticSpray {enemy : Unit} (htype : unit.unitType = .zergCorruptor)
      (henemy : enemy ∈ v.getUnits .enemy) (hstruct : IsStructure v enemy true) :
      Casts v s unit (.unitCommandTarget (some unit.tag) .effectCausticSpray (some enemy.tag) false)
  | corrosiveBile {point : Point2D} (htype : unit.unitType = .zergRavager)
      (hpoint : Closest (floatMax ^ 2) (v.getUnits .enemy) unit point) :
      Casts v s unit (.unitCommandPoint (some unit.tag) .effectCorrosiveBile point false)
  | approach {point : Point2D} (htype : unit.unitType ∈ approaching)
      (hpoint : Closest (floatMax ^ 2) (v.getUnits .enemy) unit point) :
      Casts v s unit (.unitCommandPoint (some unit.tag) .attack point false)
  | burrowDown (htype : unit.unitType = .zergRavager ∨ unit.unitType = .zergLurkerMp)
      (hnear : IsNear (v.getUnits .enemy) unit 7) :
      Casts v s unit (.unitCommand (some unit.tag) .burrowDown false)
  | burrowUp (htype : unit.unitType = .zergLurkerMpBurrowed)
      (hfar : ∀ enemy ∈ v.getUnits .enemy,
        9 ^ 2 < distanceSquared2D enemy.pos.toPoint2D unit.pos.toPoint2D) :
      Casts v s unit (.unitCommand (some unit.tag) .burrowUp false)
  | spawnLocusts {point : Point2D} (htype : unit.unitType = .zergSwarmHostMp)
      (hnear : IsNear (v.getUnits .enemy) unit 15)
      (havailable : ∃ n, ∃ available ∈ v.abilities n unit.tag,
        available.abilityId = .effectSpawnLocusts)
      (hpoint : Closest (floatMax ^ 2) (v.getUnits .enemy) unit point) :
      Casts v s unit (.unitCommandPoint (some unit.tag) .effectSpawnLocusts point false)
  | fungalGrowth {point : Point2D} (htype : unit.unitType = .zergInfestor)
      (hnear : IsNear (v.getUnits .enemy) unit 9) (henergy : 75 < unit.energy)
      (hpoint : Closest (floatMax ^ 2) (v.getUnits .enemy) unit point) :
      Casts v s unit (.unitCommandPoint (some unit.tag) .effectFungalGrowth point false)
  | parasiticBomb {enemy : Unit} (htype : unit.unitType = .zergViper)
      (henergy : 124 < unit.energy) (hprey : IsPrey v unit enemy) (hflies : enemy.isFlying = true) :
      Casts v s unit
        (.unitCommandTarget (some unit.tag) .effectParasiticBomb (some enemy.tag) false)
  | blindingCloud {enemy : Unit} (htype : unit.unitType = .zergViper)
      (henergy : 100 < unit.energy) (hprey : IsPrey v unit enemy)
      (hflies : enemy.isFlying = false) :
      Casts v s unit
        (.unitCommandTarget (some unit.tag) .effectBlindingCloud (some enemy.tag) false)
  | flee (htype : unit.unitType = .zergViper) :
      Casts v s unit
        (.unitCommandPoint (some unit.tag) .move s.base.startLocation.toPoint2D false)
  | consume {extractor : Unit} (htype : unit.unitType = .zergViper) (henergy : unit.energy ≤ 124)
      (hextractor : extractor ∈ v.getUnits .self (isUnit .zergExtractor))
      (hhealth : 200 < extractor.health) :
      Casts v s unit
        (.unitCommandTarget (some unit.tag) .effectViperConsume (some extractor.tag) false)

/-- What a step does besides training. -/
inductive HiveCall (v : BotView) (s : BotState ZergMultiplayerBot) : ActionCall → Prop
  | build {worker : Unit} {ability : AbilityID} {location : Point2D}
      (hbuilding : ability ∈ buildings) (hworker : Builder v .zergDrone ability worker)
      (hplaced : Placed v ability location true)
      (hoff : ∀ expansion ∈ s.base.expansions,
        7 ^ 2 ≤ distanceSquared2D location expansion.toPoint2D)
      (hcreep : hasCreep v.observation location = .ok true)
      (hx : |location.x - s.base.startLocation.x| ≤ 15)
      (hy : |location.y - s.base.startLocation.y| ≤ 15) :
      HiveCall v s (.unitCommandPoint (some worker.tag) ability location false)
  | inject {queen hatchery : Unit} (hqueen : queen ∈ v.getUnits .self (isUnit .zergQueen))
      (henergy : 25 ≤ queen.energy) (hidle : queen.orders = [])
      (hhatchery : hatchery ∈ v.getUnits .self isTownHall)
      (hcomplete : hatchery.buildProgress = 1) :
      HiveCall v s
        (.unitCommandTarget (some queen.tag) .effectInjectLarva (some hatchery.tag) false)

inductive StepCall (v : BotView) (s : BotState ZergMultiplayerBot) (call : ActionCall) : Prop
  | army (hcalm : s.base.nukeDetected = false) (h : ArmyCall v s (Casts v s) call)
  | retreat (hnuke : s.base.nukeDetected = true) (h : RetreatCall v s call)
  | economy (h : EconomyCall economy v s call)
  | hive (h : HiveCall v s call)

/-! ## Units that are lost -/

/-- The unit reads a unit that the code has not found: a corruptor its closest enemy, a viper its
closest prey, or what it was about to consume. -/
inductive Lost (v : BotView) (unit : Unit) : Prop
  | enemy (htype : unit.unitType = .zergCorruptor)
      (hfar : ∀ enemy ∈ v.getUnits .enemy,
        floatMax ^ 2 ≤ distanceSquared2D enemy.pos.toPoint2D unit.pos.toPoint2D)
  | prey (htype : unit.unitType = .zergViper) (henergy : unit.energy ≤ 124)
      (hidle : unit.orders = [])
      (hfar : ∀ enemy ∈ v.getUnits .enemy, IsStructure v enemy false →
        floatMax ^ 2 ≤ distanceSquared2D enemy.pos.toPoint2D unit.pos.toPoint2D)
  | meal {order : UnitOrder} (htype : unit.unitType = .zergViper) (henergy : unit.energy ≤ 124)
      (hconsumes : unit.orders.head? = some order)
      (hability : order.abilityId = .effectViperConsume)
      (hgone : v.getUnit order.targetUnitTag = none)
      (hfar : ∀ enemy ∈ v.getUnits .enemy, IsStructure v enemy false →
        10 ^ 2 ≤ distanceSquared2D enemy.pos.toPoint2D unit.pos.toPoint2D)

/-! ## The army -/

section Army

variable {v : BotView} {s : BotState ZergMultiplayerBot} {F : BotFault → Prop}
  {P : ActionCall → Prop} {unit : Unit}

theorem corrupt_keeps (htype : unit.unitType = .zergCorruptor)
    (h : ∀ call, ArmyCall v s (Casts v s) call → P call) (hunit : IsArmy v unit)
    (hknows : ¬KnowsTypes v .enemy → ∀ e, F e) (hlost : Lost v unit → ∀ e, F e) :
    Respects v F (Unchanged s) P (corrupt (v.getUnits .enemy) unit) fun _ => True := by
  refine (readVariable_keeps fun hnone => ?_).bind fun closest hclosest => .ask_bind ?_
  · obtain ⟨-, hfar⟩ | ⟨enemy, -, hscan, -⟩ := nearest_cases (v.getUnits .enemy) unit
    · exact hlost (.enemy htype hfar) _
    · rw [hscan] at hnone
      cases hnone
  have henemy : closest ∈ v.getUnits .enemy := (nearest_least hclosest).1
  have hfound : v.getUnit closest.tag = some closest := getUnit_of_mem (mem_getUnits_iff.1 henemy).1
  refine (dereference_keeps fun hnone => ?_).bind fun enemy henemy' => .ask_bind ?_
  · rw [hfound] at hnone
    cases hnone
  rw [hfound] at henemy'
  cases henemy'
  refine (at_keeps (outOfRange_of_unknown hknows henemy)).bind fun data hdata => ?_
  refine (Keeps.forEach fun trait htrait => .when fun hstruct => .emit (h _ ?_) trivial).bind
    fun _ _ => .ite (fun _ => .pure trivial) fun _ => ?_
  · rw [hstruct] at htrait
    exact .cast hunit (.causticSpray htype henemy ⟨data, hdata, (decide_eq_true htrait).symm⟩)
  · exact attackWithUnit_keeps (allowsAttack_army h hunit)

theorem lurk_keeps {J : MultiplayerBot → ZergMultiplayerBot → Prop}
    (htype : unit.unitType = .zergRavager ∨ unit.unitType = .zergLurkerMp)
    (h : ∀ call, ArmyCall v s (Casts v s) call → P call) (hunit : IsArmy v unit) :
    Respects v F J P (lurk (v.getUnits .enemy) unit) fun _ => True := by
  refine .ite (fun hnear => .emit (h _ (.cast hunit (.burrowDown htype ?_))) trivial) fun _ =>
    .emit (h _ (.cast hunit (.approach ?_ (closest_leastBelow _ _ _)))) trivial
  · exact isNear_of_nearest (by decide +kernel) hnear
  · rcases htype with htype | htype
    · rw [htype]
      decide
    · rw [htype]
      decide

/-- What a unit does that does not use its ability: back to the staging location. -/
theorem retreat_keeps (h : ∀ call, ArmyCall v s (Casts v s) call → P call)
    (hunit : IsArmy v unit) :
    Respects v F (Unchanged s) P (do
      let staging ← gets (·.base.stagingLocation)
      retreatWithUnit unit staging.toPoint2D) fun _ => True := by
  refine .gets_bind fun s' hs' => ?_
  rw [hs'.1]
  exact retreatWithUnit_keeps (h _ (.stop hunit)) (h _ (.gather hunit))

theorem spawnLocusts_keeps (htype : unit.unitType = .zergSwarmHostMp)
    (h : ∀ call, ArmyCall v s (Casts v s) call → P call) (hunit : IsArmy v unit) :
    Respects v F (Unchanged s) P (spawnLocusts (v.getUnits .enemy) unit) fun _ => True := by
  have hclosest := closest_leastBelow (floatMax ^ 2) (v.getUnits .enemy) unit
  refine .ite (fun hnear => getAbilitiesForUnit_keeps.bind fun abilities ⟨n, habilities⟩ =>
    .ite (fun havailable => ?_) fun _ => retreat_keeps h hunit) fun _ => ?_
  · obtain ⟨available, hmem, hid⟩ := List.any_eq_true.1 havailable
    refine .emit (h _ (.cast hunit (.spawnLocusts htype ?_ ?_ hclosest))) trivial
    · exact isNear_of_nearest (by decide +kernel) hnear
    · exact ⟨n, available, habilities ▸ hmem, of_decide_eq_true hid⟩
  · refine .emit (h _ (.cast hunit (.approach ?_ hclosest))) trivial
    rw [htype]
    decide

theorem growFungus_keeps (htype : unit.unitType = .zergInfestor)
    (h : ∀ call, ArmyCall v s (Casts v s) call → P call) (hunit : IsArmy v unit) :
    Respects v F (Unchanged s) P (growFungus (v.getUnits .enemy) unit) fun _ => True := by
  have hclosest := closest_leastBelow (floatMax ^ 2) (v.getUnits .enemy) unit
  refine .ite (fun hnear => getAbilitiesForUnit_keeps.bind fun _ _ =>
    .ite (fun henergy => ?_) fun _ => retreat_keeps h hunit) fun _ => ?_
  · refine .emit (h _ (.cast hunit (.fungalGrowth htype ?_ henergy hclosest))) trivial
    exact isNear_of_nearest (by decide +kernel) hnear
  · refine .emit (h _ (.cast hunit (.approach ?_ hclosest))) trivial
    rw [htype]
    decide

/-- The enemies that a viper looks at. -/
theorem prey_keeps {J : MultiplayerBot → ZergMultiplayerBot → Prop}
    (hknows : ¬KnowsTypes v .enemy → ∀ e, F e) :
    Respects v F J P (filterEach (fun u => do
      let yes ← isStructure u
      return !yes) (v.getUnits .enemy)) fun prey =>
        ∀ enemy, enemy ∈ prey ↔ enemy ∈ v.getUnits .enemy ∧ IsStructure v enemy false := by
  refine Keeps.filterEach fun enemy henemy => ?_
  refine (isStructure_keeps (outOfRange_of_unknown hknows henemy)).bind fun yes hyes => .pure ?_
  cases yes with
  | false => exact iff_of_true rfl hyes
  | true => exact iff_of_false Bool.false_ne_true fun hno => Bool.false_ne_true (hno.inj hyes)

theorem consume_keeps (htype : unit.unitType = .zergViper)
    (h : ∀ call, ArmyCall v s (Casts v s) call → P call) (hunit : IsArmy v unit)
    (henergy : unit.energy ≤ 124) {closest : Option Unit}
    (hclosest : ∀ enemy, closest = some enemy → enemy ∈ v.getUnits .enemy)
    (hprey : closest = none → unit.orders = [] → ∀ e, F e)
    (hmeal : ∀ order, unit.orders.head? = some order → order.abilityId = .effectViperConsume →
      v.getUnit order.targetUnitTag = none → ∀ e, F e) :
    Respects v F (Unchanged s) P (consume closest unit) fun _ => True := by
  unfold consume
  cases horders : unit.orders with
  | nil =>
    refine (readVariable_keeps fun hnone => hprey hnone horders _).bind fun enemy henemy => ?_
    exact .emit (h _ (.attackUnit hunit (hclosest enemy henemy))) trivial
  | cons order orders =>
    refine .ite (fun _ => .ask_bind (.forEach fun extractor hextractor => ?_)) fun hconsumes =>
      .ask_bind ((dereference_keeps fun hgone => ?_).bind fun target _ => ?_)
    · refine .when fun hhealth => .emit (h _ (.cast hunit ?_)) trivial
      exact .consume htype henergy hextractor hhealth
    · exact hmeal order (by rw [horders]; rfl) (not_not.1 hconsumes) hgone _
    · exact .when fun _ => .emit (h _ (.stop hunit)) trivial

theorem hunt_keeps (htype : unit.unitType = .zergViper)
    (h : ∀ call, ArmyCall v s (Casts v s) call → P call) (hunit : IsArmy v unit)
    (hknows : ¬KnowsTypes v .enemy → ∀ e, F e) (hlost : Lost v unit → ∀ e, F e)
    (henemies : v.getUnits .enemy ≠ []) :
    Respects v F (Unchanged s) P (hunt (v.getUnits .enemy) unit) fun _ => True := by
  refine (prey_keeps hknows).bind fun prey hprey => ?_
  have hfront : Respects v F (Unchanged s) P
      (unitCommandTarget unit .attack (v.getUnits .enemy).head?) fun _ => True := by
    cases hsome : v.getUnits .enemy with
    | nil => exact absurd hsome henemies
    | cons enemy enemies =>
      exact .emit (h _ (.attackUnit hunit (hsome ▸ List.mem_cons_self))) trivial
  have hten : (10 : CFloat) ^ 2 ≤ floatMax ^ 2 := by decide +kernel
  obtain ⟨hscan, hfar⟩ | ⟨enemy, hmem, hscan, -, hleast⟩ := nearest_cases prey unit
  · have hfar : ∀ enemy ∈ v.getUnits .enemy, IsStructure v enemy false →
        floatMax ^ 2 ≤ distanceSquared2D enemy.pos.toPoint2D unit.pos.toPoint2D :=
      fun enemy henemy hstruct => hfar enemy ((hprey enemy).2 ⟨henemy, hstruct⟩)
    rw [hscan]
    refine .ite (fun hnear => absurd hnear hten.not_gt) fun _ =>
      .ite (fun _ => hfront) fun henergy => ?_
    have henergy := not_lt.1 henergy
    refine consume_keeps htype h hunit henergy (fun enemy heq => ?_) (fun _ hidle => ?_)
      fun order horder hability hgone => ?_
    · cases heq
    · exact hlost (.prey htype henergy hidle hfar)
    · refine hlost (.meal htype henergy horder hability hgone fun enemy henemy hstruct => ?_)
      exact hten.trans (hfar enemy henemy hstruct)
  · obtain ⟨henemy, hstruct⟩ := (hprey enemy).1 hmem
    have hisPrey : IsPrey v unit enemy := by
      refine ⟨henemy, hstruct, fun other hother hstruct' => ?_⟩
      exact hleast other ((hprey other).2 ⟨hother, hstruct'⟩)
    rw [hscan]
    refine .ite (fun _ => (readVariable_keeps fun hnone => ?_).bind fun closest hclosest => ?_)
      fun hfar => .ite (fun _ => hfront) fun henergy => ?_
    · cases hnone
    · cases hclosest
      refine .ite (fun hbomb => ?_) fun _ => .ite (fun hcloud => ?_) fun _ =>
        .gets_bind fun s' hs' => ?_
      · exact .emit (h _ (.cast hunit (.parasiticBomb htype hbomb.2 hisPrey hbomb.1))) trivial
      · refine .emit (h _ (.cast hunit (.blindingCloud htype hcloud.2 hisPrey ?_))) trivial
        exact Bool.not_eq_true' _ ▸ hcloud.1
      · rw [hs'.1]
        exact retreatWithUnit_keeps (h _ (.stop hunit)) (h _ (.cast hunit (.flee htype)))
    · have henergy := not_lt.1 henergy
      refine consume_keeps htype h hunit henergy (fun _ heq => ?_) (fun hnone _ => ?_)
        fun order horder hability hgone => ?_
      · cases heq
        exact henemy
      · cases hnone
      · refine hlost (.meal htype henergy horder hability hgone fun other hother hstruct' => ?_)
        exact (not_lt.1 hfar).trans (hisPrey.2.2 other hother hstruct')

theorem fight_keeps (h : ∀ call, ArmyCall v s (Casts v s) call → P call) (hunit : IsArmy v unit)
    (hknows : ¬KnowsTypes v .enemy → ∀ e, F e) (hlost : Lost v unit → ∀ e, F e)
    (henemies : v.getUnits .enemy ≠ []) :
    Respects v F (Unchanged s) P (fight (v.getUnits .enemy) unit) fun _ => True := by
  have hattack : Respects v F (Unchanged s) P (attackWithUnit unit) fun _ => True :=
    attackWithUnit_keeps (allowsAttack_army h hunit)
  unfold fight
  refine .ite (fun htype => corrupt_keeps htype h hunit hknows hlost) fun _ =>
    .ite (fun _ => ?_) fun _ => .ite (fun htype => ?_) fun _ =>
    .ite (fun htype => lurk_keeps (.inr htype) h hunit) fun _ => .ite (fun htype => ?_) fun _ =>
    .ite (fun htype => spawnLocusts_keeps htype h hunit) fun _ =>
    .ite (fun htype => growFungus_keeps htype h hunit) fun _ =>
    .ite (fun htype => hunt_keeps htype h hunit hknows hlost henemies) fun _ => hattack
  · cases hsome : v.getUnits .enemy with
    | nil => exact absurd hsome henemies
    | cons enemy enemies =>
      exact .emit (h _ (.attackUnit hunit (hsome ▸ List.mem_cons_self))) trivial
  · refine .emit_bind (h _ (.cast hunit (.corrosiveBile htype ?_))) (hattack.bind fun _ _ =>
      lurk_keeps (.inl htype) h hunit)
    exact closest_leastBelow _ _ _
  · refine .when fun hfar => .emit (h _ (.cast hunit (.burrowUp htype fun enemy henemy => ?_)))
      trivial
    exact hfar.trans_le (nearest_le henemy)

theorem manageArmy_leads (hself : ¬KnowsTypes v .self → ∀ e, F e)
    (hknows : ¬KnowsTypes v .enemy → ∀ e, F e)
    (hlost : v.getUnits .enemy ≠ [] → ∀ unit, IsArmy v unit → Lost v unit → ∀ e, F e)
    (h : ∀ call, ArmyCall v s (Casts v s) call → P call) :
    Leads v s F (fun s' => Unchanged s s'.base s'.own) P manageArmy fun _ => True := by
  have hsurface (unit : Unit) (hunit : IsArmy v unit) (hnone : v.getUnits .enemy = []) :
      Respects v F (Unchanged s) P (surface unit) fun _ => True := by
    refine .when fun htype => .emit (h _ (.cast hunit (.burrowUp htype fun enemy henemy => ?_)))
      trivial
    rw [hnone] at henemy
    exact absurd henemy List.not_mem_nil
  have hkeeps : Respects v F (Unchanged s) P manageArmy fun _ => True := by
    refine .ask_bind (.ask_bind ((army_keeps hself).bind fun army harmy => .gets_bind ?_))
    rintro s' ⟨hbase, -⟩
    rw [hbase]
    refine .ite (fun hcalm => .forEach fun unit hmem => ?_) fun hfood =>
      .ite (fun hsome => .forEach fun unit hmem => ?_) fun hnone => .forEach fun unit hmem => ?_
    · have hunit := (harmy unit).1 hmem
      refine (hsurface unit hunit (List.isEmpty_iff.1 hcalm.1)).bind fun _ _ => ?_
      exact retreatWithUnit_keeps (h _ (.stop hunit)) (h _ (.gather hunit))
    · have henemies : v.getUnits .enemy ≠ [] := by
        intro hnone
        rw [hnone] at hsome
        exact Bool.false_ne_true hsome
      have hunit := (harmy unit).1 hmem
      exact fight_keeps h hunit hknows (hlost henemies unit hunit) henemies
    · have hunit := (harmy unit).1 hmem
      refine (hsurface unit hunit ?_).bind fun _ _ =>
        scoutWithUnit_keeps (allowsAttack_army h hunit)
      simpa using hnone
  exact hkeeps s ⟨rfl, rfl⟩

/-! ## Failures -/

theorem fight_viper (enemyUnits : List Unit) (htype : unit.unitType = .zergViper) :
    fight enemyUnits unit = hunt enemyUnits unit := by
  unfold fight
  rw [htype]
  rfl

theorem hunt_fails (henergy : unit.energy ≤ 124)
    (hfar : ∀ enemy ∈ v.getUnits .enemy, IsStructure v enemy false →
      10 ^ 2 ≤ distanceSquared2D enemy.pos.toPoint2D unit.pos.toPoint2D)
    (hfails : ∀ prey s, (∀ enemy ∈ prey, enemy ∈ v.getUnits .enemy ∧ IsStructure v enemy false) →
      Fails v s (consume (nearest prey unit).2 unit)) :
    Fails v s (hunt (v.getUnits .enemy) unit) := by
  refine Fails.bind (F := fun _ => True) (P := fun _ => True)
    (prey_keeps (J := fun _ _ => True) (fun _ _ => trivial) s trivial) fun prey s' _ hprey => ?_
  have hnotNear : ¬(nearest prey unit).1 < 10 ^ 2 := by
    obtain ⟨hscan, -⟩ | ⟨enemy, hmem, hscan, -⟩ := nearest_cases prey unit
    · rw [hscan]
      decide +kernel
    · rw [hscan]
      obtain ⟨henemy, hstruct⟩ := (hprey enemy).1 hmem
      exact (hfar enemy henemy hstruct).not_gt
  exact .of_not hnotNear (.of_not henergy.not_gt (hfails prey s' fun enemy => (hprey enemy).1))

theorem fight_fails (hlost : Lost v unit) :
    Fails v s (fight (v.getUnits .enemy) unit) := by
  have hten : (10 : CFloat) ^ 2 ≤ floatMax ^ 2 := by decide +kernel
  cases hlost with
  | enemy htype hfar =>
    have hcorrupt : fight (v.getUnits .enemy) unit = corrupt (v.getUnits .enemy) unit :=
      if_pos htype
    rw [hcorrupt]
    refine .first ⟨.uninitialized, ?_⟩
    obtain ⟨hscan, -⟩ | ⟨enemy, hmem, -, hlt, -⟩ := nearest_cases (v.getUnits .enemy) unit
    · rw [hscan]
      rfl
    · exact absurd hlt (hfar enemy hmem).not_gt
  | prey htype henergy hidle hfar =>
    rw [fight_viper _ htype]
    refine hunt_fails henergy (fun enemy henemy hstruct => ?_) fun prey s' hprey => ?_
    · exact hten.trans (hfar enemy henemy hstruct)
    · obtain ⟨hscan, -⟩ | ⟨enemy, hmem, -, hlt, -⟩ := nearest_cases prey unit
      · unfold consume
        rw [hscan, hidle]
        exact .first ⟨.uninitialized, rfl⟩
      · obtain ⟨henemy, hstruct⟩ := hprey enemy hmem
        exact absurd hlt (hfar enemy henemy hstruct).not_gt
  | meal htype henergy hconsumes hability hgone hfar =>
    rw [fight_viper _ htype]
    refine hunt_fails henergy hfar fun prey s' _ => ?_
    unfold consume
    cases horders : unit.orders with
    | nil =>
      rw [horders] at hconsumes
      cases hconsumes
    | cons first orders =>
      rw [horders] at hconsumes
      cases hconsumes
      refine .of_not (not_not.2 hability) (.ask_bind (.first ⟨.nullUnit, ?_⟩))
      rw [hgone]
      rfl

theorem manageArmy_fails (henemies : v.getUnits .enemy ≠ []) (hunit : IsArmy v unit)
    (hlost : Lost v unit) : Fails v s manageArmy := by
  have harmy : Respects v (fun _ => True) (Unchanged s) (fun _ => True) (getUnitsIf .self isArmy)
      fun army => ∀ unit, unit ∈ army ↔ IsArmy v unit := army_keeps fun _ _ => trivial
  refine .ask_bind (.ask_bind (.bind (harmy s ⟨rfl, rfl⟩) fun army s' hs' harmy =>
    .gets_bind (.of_not (fun hcalm => henemies (List.isEmpty_iff.1 hcalm.1)) ?_)))
  have hsome : (!(v.getUnits .enemy).isEmpty) = true := by simpa using henemies
  rw [if_pos hsome]
  have hfight : ∀ unit ∈ army, Respects v (fun _ => True) (Unchanged s) (fun _ => True)
      (fight (v.getUnits .enemy) unit) fun _ => True := fun unit hmem =>
    fight_keeps (s := s) (fun _ _ => trivial) ((harmy unit).1 hmem) (fun _ _ => trivial)
      (fun _ _ => trivial) henemies
  exact .forEach ((harmy unit).2 hunit) hfight (fun s _ => fight_fails hlost) hs'

end Army

/-! ## The economy -/

/-- The map tells whether there is creep around the start. -/
def ReadsCreep (v : BotView) (start : Point3D) : Prop :=
  ∀ point : Point2D, |point.x - start.x| ≤ 15 → |point.y - start.y| ≤ 15 →
    ∃ yes, hasCreep v.observation point = .ok yes

section Economy

variable {v : BotView} {s : BotState ZergMultiplayerBot} {F : BotFault → Prop}
  {J : MultiplayerBot → ZergMultiplayerBot → Prop} {P : ActionCall → Prop}

theorem alsoTryBuildOnCreep_keeps (hJ : FixesEconomy s J)
    (hcreep : ¬ReadsCreep v s.base.startLocation → ∀ e, F e)
    (h : ∀ call, HiveCall v s call → P call)
    {ability : AbilityID} (hbuilding : ability ∈ buildings) :
    Respects v F J P (alsoTryBuildOnCreep ability) fun _ => True := by
  refine Keeps.bind (Q := fun _ => True) ?_ fun _ _ => .pure trivial
  refine getRandomScalar_keeps.bind fun rx hrx => getRandomScalar_keeps.bind fun ry hry => ?_
  refine .gets_bind fun s' hs' => ?_
  rw [hJ.startLocation hs']
  have hfifteen (c : CFloat) {r : CFloat} (hr : -1 ≤ r ∧ r ≤ 1) : |c + r * 15 - c| ≤ 15 :=
    (abs_sub_le_of_scalar hr).trans_eq (abs_of_pos (by norm_num))
  have hx := hfifteen s.base.startLocation.x hrx
  have hy := hfifteen s.base.startLocation.y hry
  refine (hasCreep_keeps fun undefined herror => hcreep (fun hreads => ?_) _).bind
    fun yes hyes => .ite (fun hcreeps => ?_) fun _ => .pure trivial
  · obtain ⟨yes, hyes⟩ := hreads
      ⟨s.base.startLocation.x + rx * 15, s.base.startLocation.y + ry * 15⟩ hx hy
    cases hyes.symm.trans herror
  rw [hcreeps] at hyes
  refine (tryBuildStructure_keeps fun worker hworker hplaced hoff => h _ ?_).mono
    fun _ _ => trivial
  obtain ⟨bot, own, hbot, hoff⟩ := hoff.resolve_left Bool.false_ne_true
  exact .build hbuilding hworker hplaced (hJ.expansions hbot ▸ hoff) hyes hx hy

theorem tryBuildExpansionHatch_keeps (hJ : FixesEconomy s J)
    (h : ∀ call, EconomyCall economy v s call → P call) :
    Respects v F J P tryBuildExpansionHatch fun _ => True := by
  refine .ask_bind (.gets_bind fun _ _ => getExpectedWorkers_keeps.bind fun _ _ => ?_)
  refine .ite (fun _ => .pure trivial) fun _ => countUnitType_keeps.bind fun _ _ => ?_
  exact .ite (fun _ => tryExpand_economy economy hJ h) fun _ => .pure trivial

theorem buildOrder_keeps (hJ : FixesEconomy s J)
    (hcreep : ¬ReadsCreep v s.base.startLocation → ∀ e, F e)
    (h : ∀ call, EconomyCall economy v s call → P call)
    (hhive : ∀ call, HiveCall v s call → P call) :
    Respects v F J P buildOrder fun _ => True := by
  have hbuild {c : Prop} [Decidable c] {ability : AbilityID} (hbuilding : ability ∈ buildings) :
      Respects v F J P (when c (alsoTryBuildOnCreep ability)) fun _ => True :=
    .when fun _ => alsoTryBuildOnCreep_keeps hJ hcreep hhive hbuilding
  have hmake {c : Prop} [Decidable c] {ability : AbilityID} {unitType : UnitTypeID}
      (hmakes : (ability, unitType) ∈ economy.makers) :
      Respects v F J P (when c (alsoTryBuildUnit ability unitType)) fun _ => True :=
    .when fun _ => alsoTryBuildUnit_economy h hmakes
  have hlair {b hives : Nat} : Respects v F J P (buildLairTech b hives) fun _ => True := by
    refine .gets_bind fun _ _ => countUnitType_keeps.bind fun _ _ =>
      countUnitType_keeps.bind fun _ _ => countUnitType_keeps.bind fun _ _ =>
      countUnitType_keeps.bind fun _ _ => ?_
    refine (Keeps.ite (Q := fun _ => True) (fun _ => ?_) fun _ => hbuild (by decide)).bind
      fun _ _ => .ite (fun _ => ?_) fun _ => countUnitType_keeps.bind fun _ _ =>
        .ite (fun _ => ?_) fun _ => countUnitType_keeps.bind fun _ _ => ?_
    · exact (hbuild (by decide)).bind fun _ _ => hmake (by decide)
    · exact (tryBuildExpansionHatch_keeps hJ h).bind fun _ _ => .pure trivial
    · exact (alsoTryBuildUnit_economy h (by decide)).bind fun _ _ => .pure trivial
    · exact (hbuild (by decide)).bind fun _ _ => (hbuild (by decide)).bind
        fun _ _ => .pure trivial
  have hpool {b lairs hives : Nat} : Respects v F J P (buildOnPool b lairs hives)
      fun _ => True := by
    refine .gets_bind fun _ _ => countUnitType_keeps.bind fun _ _ =>
      (hbuild (by decide)).bind fun _ _ => countUnitType_keeps.bind fun _ _ =>
      (hbuild (by decide)).bind fun _ _ => countUnitType_keeps.bind fun _ _ => ?_
    refine (Keeps.ite (Q := fun _ => True) (fun _ => hlair) fun _ => ?_).bind fun _ _ =>
      .ite (fun _ => .pure trivial) fun _ => countUnitType_keeps.bind fun _ _ =>
        countUnitType_keeps.bind fun _ _ => ?_
    · exact (hmake (by decide)).bind fun _ _ => .pure trivial
    · exact (hbuild (by decide)).bind fun _ _ => hmake (by decide)
  refine countUnitType_keeps.bind fun _ _ => countUnitType_keeps.bind fun _ _ =>
    .ask_bind (countUnitType_keeps.bind fun _ _ => .ite (fun _ => ?_) fun _ =>
      .ite (fun _ => ?_) fun _ => hpool)
  · exact alsoTryBuildOnCreep_keeps hJ hcreep hhive (by decide)
  · exact (tryBuildExpansionHatch_keeps hJ h).bind fun _ _ => .pure trivial

theorem buildExtractor_keeps (h : ∀ call, EconomyCall economy v s call → P call) :
    Respects v F J P buildExtractor fun _ => True := by
  refine .ask_bind (countUnitType_keeps.bind fun _ _ => .ite (fun _ => .pure trivial) fun _ => ?_)
  refine .tryEach fun base hbase => .ite (fun hfull => ?_) fun _ => .pure trivial
  exact tryBuildGas_economy economy h hbase hfull.2

theorem tryInjectLarva_keeps (h : ∀ call, HiveCall v s call → P call) :
    Respects v F J P tryInjectLarva fun _ => True := by
  have heach {i : Nat} : Respects v F J P (injectEach (v.getUnits .self (isUnit .zergQueen)) i
      (v.getUnits .self isTownHall)) fun _ => True := by
    refine Keeps.foldEach (Q := fun _ _ => True) trivial fun past hatchery later i hsplit _ => ?_
    refine .ite (fun _ => .pure trivial) fun hgoes => ?_
    obtain ⟨hcomplete, hi⟩ := not_or.1 hgoes
    refine (at_keeps fun hshort => absurd (not_not.1 hi) hshort.not_gt).bind fun queen hqueen => ?_
    refine (Keeps.when fun hready => .emit (h _ ?_) trivial).bind fun _ _ => .pure trivial
    refine .inject (List.mem_of_getElem? hqueen) hready.1 (List.isEmpty_iff.1 hready.2) ?_
      (not_not.1 hcomplete)
    rw [hsplit]
    exact List.mem_append_right _ List.mem_cons_self
  have hfrom (fuel i : Nat) : Respects v F J P (injectFrom (v.getUnits .self (isUnit .zergQueen))
      (v.getUnits .self isTownHall) fuel i) fun _ => True := by
    induction fuel generalizing i with
    | zero => exact .pure trivial
    | succ fuel ih => exact .ite (fun _ => heach.bind fun _ _ => ih _) fun _ => .pure trivial
  exact .ask_bind (.ask_bind (.ite (fun _ => .pure trivial) fun _ => hfrom _ _))

/-! ## Larvae -/

theorem tryBuildFromLarva_keeps (h : ∀ call, EconomyCall economy v s call → P call)
    {ability : AbilityID} (hmakes : (ability, .zergLarva) ∈ economy.makers) {larvaCount : Nat} :
    Respects v F J P (tryBuildFromLarva ability larvaCount) fun _ => True :=
  (tryBuildUnit_economy h hmakes).bind fun _ _ => .ite (fun _ => .pure trivial)
    fun _ => .pure trivial

theorem buildFromLarvaIf_keeps (h : ∀ call, EconomyCall economy v s call → P call) {c : Prop}
    [Decidable c] {ability : AbilityID} (hmakes : (ability, .zergLarva) ∈ economy.makers)
    {larvaCount : Nat} :
    Respects v F J P (buildFromLarvaIf c ability larvaCount) fun _ => True :=
  .ite (fun _ => tryBuildFromLarva_keeps h hmakes) fun _ => .pure trivial

theorem buildUltralisk_keeps (h : ∀ call, EconomyCall economy v s call → P call)
    {ultraliskCount larvaCount : Nat} :
    Respects v F J P (buildUltralisk ultraliskCount larvaCount) fun _ => True := by
  refine .gets_bind fun _ _ => countUnitType_keeps.bind fun _ _ => .ite (fun _ => ?_)
    fun _ => .pure trivial
  exact (tryBuildFromLarva_keeps h (by decide)).bind fun _ _ => .pure trivial

theorem buildGroundUnits_keeps (h : ∀ call, EconomyCall economy v s call → P call)
    {larvaCount : Nat} :
    Respects v F J P (buildGroundUnits larvaCount) fun _ => True := by
  refine countUnitTypeTotal_keeps.bind fun _ _ => countUnitTypeTotal_keeps.bind fun _ _ =>
    countUnitTypeTotal_keeps.bind fun _ _ => countUnitType_keeps.bind fun _ _ =>
    countUnitType_keeps.bind fun _ _ => ?_
  refine (Keeps.when fun _ => alsoTryBuildUnit_economy h (by decide)).bind fun _ _ => ?_
  refine countUnitType_keeps.bind fun _ _ => countUnitType_keeps.bind fun _ _ =>
    countUnitType_keeps.bind fun _ _ => ?_
  refine (Keeps.when fun _ => alsoTryBuildUnit_economy h (by decide)).bind fun _ _ => ?_
  refine countUnitType_keeps.bind fun _ _ => countUnitType_keeps.bind fun _ _ => ?_
  refine (buildFromLarvaIf_keeps h (by decide)).bind fun _ _ =>
    (buildFromLarvaIf_keeps h (by decide)).bind fun _ _ => ?_
  exact buildFromLarvaIf_keeps h (by decide)

theorem buildFlyers_keeps (h : ∀ call, EconomyCall economy v s call → P call)
    {larvaCount : Nat} : Respects v F J P (buildFlyers larvaCount) fun _ => True := by
  refine countUnitTypeTotal_keeps.bind fun _ _ => countUnitType_keeps.bind fun _ _ =>
    countUnitType_keeps.bind fun _ _ => .ite (fun _ => ?_) fun _ => .pure trivial
  refine (Keeps.ite (fun _ => tryBuildFromLarva_keeps h (by decide))
    fun _ => .pure trivial).bind fun _ _ => ?_
  exact tryBuildFromLarva_keeps h (by decide)

theorem buildSwarm_keeps (h : ∀ call, EconomyCall economy v s call → P call)
    {larvaCount : Nat} : Respects v F J P (buildSwarm larvaCount) fun _ => True := by
  refine .gets_bind fun _ _ => countUnitTypeTotal_keeps.bind fun _ _ =>
    countUnitType_keeps.bind fun _ _ => countUnitType_keeps.bind fun _ _ =>
    countUnitType_keeps.bind fun _ _ => ?_
  refine (Keeps.when fun _ => alsoTryBuildUnit_economy h (by decide)).bind fun _ _ => ?_
  refine countUnitType_keeps.bind fun _ _ => ?_
  refine (buildFromLarvaIf_keeps h (by decide)).bind fun _ _ => ?_
  refine countUnitType_keeps.bind fun _ _ => countUnitType_keeps.bind fun _ _ =>
    countUnitType_keeps.bind fun _ _ => countUnitType_keeps.bind fun _ _ => ?_
  refine (buildFromLarvaIf_keeps h (by decide)).bind fun _ _ => ?_
  exact .when fun _ => alsoTryBuildUnit_economy h (by decide)

theorem buildQueens_keeps (h : ∀ call, EconomyCall economy v s call → P call) :
    Respects v F J P buildQueens fun _ => True := by
  refine .ask_bind (.ask_bind (countUnitTypeTotal_keeps.bind fun _ _ =>
    countUnitTypeBuilding_keeps.bind fun _ _ => countUnitTypeBuilding_keeps.bind fun _ _ =>
    countUnitType_keeps.bind fun _ _ => ?_))
  refine (Keeps.when fun _ => ?_).bind fun _ _ => countUnitType_keeps.bind fun _ _ =>
    countUnitType_keeps.bind fun _ _ => .when fun _ => alsoTryBuildUnit_economy h (by decide)
  refine (Keeps.tryEach fun unitType htype => tryBuildUnit_economy h ?_).bind
    fun _ _ => .pure trivial
  rcases List.mem_cons.1 htype with rfl | htype
  · decide
  rcases List.mem_cons.1 htype with rfl | htype
  · decide
  · rw [List.mem_singleton.1 htype]
    decide

theorem buildArmy_keeps (h : ∀ call, EconomyCall economy v s call → P call) :
    Respects v F J P buildArmy fun _ => True := by
  have hfirst {c d : Prop} [Decidable c] [Decidable d] {ultraliskCount larvaCount : Nat} :
      Respects v F J P (if c then do
        let larvaCount ← buildFromLarvaIf d .trainViper larvaCount
        buildUltralisk ultraliskCount larvaCount
      else pure (false, larvaCount)) fun _ => True := by
    refine .ite (fun _ => ?_) fun _ => .pure trivial
    exact (buildFromLarvaIf_keeps h (by decide)).bind fun _ _ => buildUltralisk_keeps h
  refine countUnitType_keeps.bind fun _ _ => countUnitTypeTotal_keeps.bind fun _ _ =>
    countUnitTypeTotal_keeps.bind fun _ _ => .gets_bind fun _ _ =>
    (buildQueens_keeps h).bind fun _ _ => ?_
  refine hfirst.bind fun result _ => .ite (fun _ => .pure trivial) fun _ => ?_
  refine (Keeps.ite (fun _ => buildGroundUnits_keeps h) fun _ => buildFlyers_keeps h).bind
    fun _ _ => ?_
  exact hfirst.bind fun result _ => .ite (fun _ => .pure trivial) fun _ => buildSwarm_keeps h

theorem tryBuildDrone_keeps (h : ∀ call, EconomyCall economy v s call → P call) :
    Respects v F J P tryBuildDrone fun _ => True := by
  refine .ask_bind (.gets_bind fun _ _ => countUnitType_keeps.bind fun _ _ => .ask_bind
    (countUnitType_keeps.bind fun _ _ => .ask_bind (.ite (fun _ => .pure trivial) fun _ => ?_)))
  refine getExpectedWorkers_keeps.bind fun _ _ => .ite (fun _ => .pure trivial) fun _ => ?_
  exact .ite (fun _ => tryBuildUnit_economy h (by decide)) fun _ => .pure trivial

theorem tryBuildOverlord_keeps (h : ∀ call, EconomyCall economy v s call → P call) :
    Respects v F J P tryBuildOverlord fun _ => True := by
  refine .ask_bind (countUnitType_keeps.bind fun _ _ => .ite (fun _ => .pure trivial) fun _ =>
    .ask_bind (.ite (fun _ => .pure trivial) fun _ => ?_))
  exact .ite (fun _ => tryBuildUnit_economy h (by decide)) fun _ => .pure trivial

theorem tryBuildAtSpires_keeps (h : ∀ call, EconomyCall economy v s call → P call)
    {ability : AbilityID} (hspire : (ability, .zergSpire) ∈ economy.makers)
    (hgreater : (ability, .zergGreaterSpire) ∈ economy.makers) :
    Respects v F J P (tryBuildAtSpires ability) fun _ => True :=
  (alsoTryBuildUnit_economy h hspire).bind fun _ _ => alsoTryBuildUnit_economy h hgreater

theorem continueFlyerUpgrade_keeps (h : ∀ call, EconomyCall economy v s call → P call)
    {baseCount : Nat} {upgrade : UpgradeID} :
    Respects v F J P (continueFlyerUpgrade baseCount upgrade) fun _ => True := by
  have hattack : Respects v F J P (tryBuildAtSpires .researchZergFlyerAttack) fun _ => True :=
    tryBuildAtSpires_keeps h (by decide) (by decide)
  have harmor : Respects v F J P (tryBuildAtSpires .researchZergFlyerArmor) fun _ => True :=
    tryBuildAtSpires_keeps h (by decide) (by decide)
  refine .ite (fun _ => hattack) fun _ => .ite (fun _ => harmor) fun _ =>
    .ite (fun _ => hattack) fun _ => .ite (fun _ => harmor) fun _ => ?_
  refine hattack.bind fun _ _ => harmor.bind fun _ _ => ?_
  refine (alsoTryBuildUnit_economy h (by decide)).bind fun _ _ => ?_
  exact alsoTryBuildUnit_economy h (by decide)

theorem continueGroundUpgrade_keeps (h : ∀ call, EconomyCall economy v s call → P call)
    {baseCount : Nat} {lairTech hiveTech : Bool} {upgrade : UpgradeID} :
    Respects v F J P (continueGroundUpgrade baseCount lairTech hiveTech upgrade)
      fun _ => True := by
  have hresearch {ability : AbilityID} {unitType : UnitTypeID}
      (hmakes : (ability, unitType) ∈ economy.makers) :
      Respects v F J P (alsoTryBuildUnit ability unitType) fun _ => True :=
    alsoTryBuildUnit_economy h hmakes
  refine (Keeps.when fun _ => hresearch (by decide)).bind fun _ _ => ?_
  refine (Keeps.when fun _ => hresearch (by decide)).bind fun _ _ => ?_
  refine (Keeps.when fun _ => hresearch (by decide)).bind fun _ _ => .when fun _ => ?_
  refine (hresearch (by decide)).bind fun _ _ => (hresearch (by decide)).bind fun _ _ => ?_
  refine (hresearch (by decide)).bind fun _ _ => (hresearch (by decide)).bind fun _ _ => ?_
  exact (hresearch (by decide)).bind fun _ _ => hresearch (by decide)

theorem manageUpgrades_keeps (h : ∀ call, EconomyCall economy v s call → P call) :
    Respects v F J P manageUpgrades fun _ => True := by
  have hresearch {ability : AbilityID} {unitType : UnitTypeID}
      (hmakes : (ability, unitType) ∈ economy.makers) :
      Respects v F J P (alsoTryBuildUnit ability unitType) fun _ => True :=
    alsoTryBuildUnit_economy h hmakes
  refine .ask_bind (.ask_bind (countUnitType_keeps.bind fun _ _ => countUnitType_keeps.bind
    fun _ _ => .gets_bind fun _ _ => .ite (fun _ => hresearch (by decide)) fun _ => .forEach
      fun upgrade _ => ?_))
  refine (Keeps.ite (Q := fun _ => True) (fun _ => continueFlyerUpgrade_keeps h)
    fun _ => continueGroundUpgrade_keeps h).bind fun _ _ => ?_
  refine .ite (fun _ => hresearch (by decide)) fun _ => .when fun _ => ?_
  refine (hresearch (by decide)).bind fun _ _ => (hresearch (by decide)).bind fun _ _ => ?_
  exact hresearch (by decide)

theorem manageEconomy_keeps (hJ : FixesEconomy s J)
    (hcreep : ¬ReadsCreep v s.base.startLocation → ∀ e, F e)
    (h : ∀ call, EconomyCall economy v s call → P call)
    (hhive : ∀ call, HiveCall v s call → P call) :
    Respects v F J P manageEconomy fun _ => True := by
  refine .ask_bind (.ask_bind ((buildOrder_keeps hJ hcreep h hhive).bind fun _ _ =>
    (tryInjectLarva_keeps hhive).bind fun _ _ => (manageWorkers_economy economy h).bind fun _ _ =>
    (manageUpgrades_keeps h).bind fun _ _ => ?_))
  refine (tryBuildDrone_keeps h).bind fun _ _ => .ite (fun _ => .pure trivial) fun _ => ?_
  refine (tryBuildOverlord_keeps h).bind fun _ _ => .ite (fun _ => .pure trivial) fun _ => ?_
  refine (Keeps.when fun _ => buildArmy_keeps h).bind fun _ _ => ?_
  refine (buildExtractor_keeps h).bind fun _ _ => .ite (fun _ => .pure trivial) fun _ => ?_
  exact (tryBuildExpansionHatch_keeps hJ h).bind fun _ _ => .pure trivial

end Economy

end ZergMultiplayerBot

end Sc2Api
