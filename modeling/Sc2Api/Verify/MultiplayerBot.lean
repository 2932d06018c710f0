import Sc2Api.Verify.Bots

/-!
# What the functions of all bots keep

The same for the functions of `MultiplayerBot`: which of their calls are to be allowed, and what
they need so that nothing undefined happens.
-/

namespace Sc2Api

open Lib Program BotM

namespace MultiplayerBot

variable {κ : Type} {v : BotView} {F : BotFault → Prop} {J : MultiplayerBot → κ → Prop}
  {P : ActionCall → Prop}

/-! ## Counting -/

section Counting

theorem countUnitType_keeps {unitType : UnitTypeID} :
    Respects v F J P (countUnitType unitType)
      (· = (v.getUnits .self (isUnit unitType)).length) :=
  .ask_bind (.pure rfl)

theorem countUnitTypeBuilding_keeps {productionBuilding : UnitTypeID} {ability : AbilityID} :
    Respects v F J P (countUnitTypeBuilding productionBuilding ability) fun _ => True :=
  .ask_bind (.pure trivial)

theorem countUnitTypeTotal_keeps {unitTypes : List UnitTypeID} {production : UnitTypeID}
    {ability : AbilityID} :
    Respects v F J P (countUnitTypeTotal unitTypes production ability) fun _ => True := by
  refine (Keeps.foldEach (Q := fun _ _ => True) trivial fun _ _ _ _ _ _ => ?_).bind fun _ _ => ?_
  · exact countUnitType_keeps.bind fun _ _ => .pure trivial
  · exact countUnitTypeBuilding_keeps.bind fun _ _ => .pure trivial

theorem getExpectedWorkers_keeps {vespeneBuildingType : UnitTypeID} :
    Respects v F J P (getExpectedWorkers vespeneBuildingType)
      (· = workerPlaces (v.getUnits .self isTownHall)
        (v.getUnits .self (isUnit vespeneBuildingType))) :=
  .ask_bind (.ask_bind (.pure rfl))

theorem getRandomUnit_keeps {unitType : UnitTypeID} :
    Respects v F J P (getRandomUnit unitType)
      fun found => ∀ unit, found = some unit → unit ∈ v.getUnits .self (isUnit unitType) := by
  refine .ask_bind (.ite (fun _ => .pure fun unit hunit => ?_) fun hsome => ?_)
  · cases hunit
  refine (getRandomEntry_keeps fun hnone => ?_).bind fun unit hunit => .pure ?_
  · rw [List.isEmpty_iff] at hsome
    exact absurd hnone hsome
  · intro unit' hunit'
    cases hunit'
    exact hunit

end Counting

/-! ## Places -/

section Places

/-- The mineral field is the nearest of those that the bot can see. -/
def NearestPatch (v : BotView) (start : Point2D) (patch : Unit) : Prop :=
  patch ∈ v.getUnits .neutral (isUnit .neutralMineralField) ∧
    ∀ other ∈ v.getUnits .neutral (isUnit .neutralMineralField),
      distanceSquared2D patch.pos.toPoint2D start ≤ distanceSquared2D other.pos.toPoint2D start

theorem filter_getUnits (alliance : Alliance) (filter : Unit → Bool) :
    (v.getUnits alliance).filter filter = v.getUnits alliance filter := by
  unfold BotView.getUnits
  rw [List.filter_filter]
  refine List.filter_congr fun unit _ => ?_
  rw [Bool.and_true, Bool.and_comm]

theorem findNearestMineralPatch_keeps {start : Point2D} :
    Respects v F J P (findNearestMineralPatch start)
      fun found => ∀ patch, found = some patch → NearestPatch v start patch := by
  refine .ask_bind (.pure fun patch hpatch => ?_)
  rw [filter_getUnits] at hpatch
  obtain ⟨hscan, -⟩ | ⟨x, hx, hscan, -, hleast⟩ := leastBelow_spec
    (fun u : Unit => distanceSquared2D u.pos.toPoint2D start) floatMax
    (v.getUnits .neutral (isUnit .neutralMineralField))
  · rw [hscan] at hpatch
    cases hpatch
  · rw [hscan] at hpatch
    cases hpatch
    exact ⟨hx, hleast⟩

theorem tryFindRandomPathableLocation_keeps {unit : Unit} :
    Respects v F J P (tryFindRandomPathableLocation unit) fun _ => True := by
  refine .gets_bind fun s _ => ?_
  refine getRandomFraction_keeps.bind fun _ _ => getRandomFraction_keeps.bind fun _ _ => ?_
  exact pathingDistanceFromUnit_keeps.bind fun _ _ => .pure trivial

end Places

/-! ## Units -/

section Units

/-- What `AttackWithUnit` and `ScoutWithUnit` may call for a unit. -/
structure AllowsAttack (v : BotView) (P : ActionCall → Prop) (unit : Unit) : Prop where
  attack : ∀ enemy ∈ v.getUnits .enemy,
    P (.unitCommandPoint (some unit.tag) .attack enemy.pos.toPoint2D false)
  attackUnit : ∀ enemy ∈ v.getUnits .enemy,
    P (.unitCommandTarget (some unit.tag) .attack (some enemy.tag) false)
  smart : ∀ point, P (.unitCommandPoint (some unit.tag) .smart point false)

theorem attackWithUnit_keeps {unit : Unit} (h : AllowsAttack v P unit) :
    Respects v F J P (attackWithUnit unit) fun _ => True := by
  refine .ask_bind ?_
  cases henemies : v.getUnits .enemy with
  | nil => exact .pure trivial
  | cons enemy enemies =>
    refine .when fun _ => .emit (h.attack enemy ?_) trivial
    rw [henemies]
    exact List.mem_cons_self

theorem attackWithUnitType_keeps {unitType : UnitTypeID}
    (h : ∀ unit ∈ v.getUnits .self (isUnit unitType), AllowsAttack v P unit) :
    Respects v F J P (attackWithUnitType unitType) fun _ => True :=
  .ask_bind (.forEach fun unit hunit => attackWithUnit_keeps (h unit hunit))

theorem scoutWithUnit_keeps {unit : Unit} (h : AllowsAttack v P unit) :
    Respects v F J P (scoutWithUnit unit) fun _ => True := by
  refine .ask_bind (.ite (fun _ => .pure trivial) fun _ => ?_)
  refine .gets_bind fun s _ => ?_
  cases s.base.gameInfo.enemyStartLocations.head? with
  | some targetPos =>
    cases henemies : v.getUnits .enemy isAttackable with
    | cons enemy enemies =>
      refine .emit (h.attackUnit enemy ?_) trivial
      have henemy : enemy ∈ v.getUnits .enemy isAttackable := henemies ▸ List.mem_cons_self
      obtain ⟨hunit, halliance, -⟩ := mem_getUnits_iff.1 henemy
      exact mem_getUnits_iff.2 ⟨hunit, halliance, rfl⟩
    | nil =>
      refine .ite (fun _ => ?_) fun _ => .emit (h.smart targetPos) trivial
      exact tryFindRandomPathableLocation_keeps.bind fun _ _ => .emit (h.smart _) trivial
  | none =>
    refine tryFindRandomPathableLocation_keeps.bind fun _ _ => ?_
    exact .when fun _ => .emit (h.smart _) trivial

theorem scoutWithUnits_keeps {unitType : UnitTypeID}
    (h : ∀ unit ∈ v.getUnits .self (isUnit unitType), AllowsAttack v P unit) :
    Respects v F J P (scoutWithUnits unitType) fun _ => True :=
  .ask_bind (.forEach fun unit hunit => scoutWithUnit_keeps (h unit hunit))

theorem retreatWithUnit_keeps {unit : Unit} {retreatPosition : Point2D}
    (hstop : P (.unitCommand (some unit.tag) .stop false))
    (hmove : P (.unitCommandPoint (some unit.tag) .move retreatPosition false)) :
    Respects v F J P (retreatWithUnit unit retreatPosition) fun _ => True := by
  refine .ite (fun _ => ?_) fun _ => ?_
  · exact .when fun _ => .emit hstop trivial
  · exact .when fun _ => .emit hmove trivial

end Units

/-! ## Building -/

section Building

/-- A worker that may be sent to build: no worker is on its way to build the same. -/
structure Builder (v : BotView) (workerType : UnitTypeID) (ability : AbilityID)
    (worker : Unit) : Prop where
  mem : worker ∈ v.getUnits .self (isUnit workerType)
  free : isOrdered (v.getUnits .self (isUnit workerType)) ability = false

/-- The location is off the expansions that a state of the bot has. -/
def OffExpansions (J : MultiplayerBot → κ → Prop) (location : Point2D) : Prop :=
  ∃ bot own, J bot own ∧
    ∀ expansion ∈ bot.expansions, 7 ^ 2 ≤ distanceSquared2D location expansion.toPoint2D

variable {ability : AbilityID} {workerType : UnitTypeID}

theorem tryBuildStructure_keeps {location : Point2D} {isExpansion : Bool}
    (h : ∀ worker, Builder v workerType ability worker → Placed v ability location true →
      (isExpansion = true ∨ OffExpansions J location) →
      P (.unitCommandPoint (some worker.tag) ability location false)) :
    Respects v F J P (tryBuildStructure ability workerType location isExpansion)
      fun done => done = true → Placed v ability location true := by
  refine .ask_bind (.ite (fun _ => .pure nofun) fun hworkers => ?_)
  obtain ⟨hsome, hfree⟩ := not_or.1 hworkers
  refine (getRandomEntry_keeps fun hnone => absurd hnone fun hnil => ?_).bind
    fun worker hworker => ?_
  · rw [hnil] at hsome
    exact hsome rfl
  refine pathingDistanceFromUnit_keeps.bind fun _ _ => .ite (fun _ => .pure nofun) fun _ => ?_
  refine .gets_bind fun s hs => .ite (fun _ => .pure nofun) fun hclear => ?_
  refine placement_keeps.bind fun yes hplaced => .ite (fun hyes => ?_) fun _ => .pure nofun
  rw [hyes] at hplaced
  refine .emit_bind ?_ (.pure fun _ => hplaced)
  refine h worker ⟨hworker, Bool.eq_false_iff.2 hfree⟩ hplaced ?_
  by_cases hexpansion : isExpansion = true
  · exact .inl hexpansion
  · refine .inr ⟨s.base, s.own, hs, fun expansion hmem => ?_⟩
    by_contra hnear
    refine hclear ⟨by simpa using hexpansion, ?_⟩
    exact List.any_eq_true.2 ⟨expansion, hmem, decide_eq_true (not_le.1 hnear)⟩

theorem tryBuildStructureOn_keeps {locationTag : Tag} {target : Unit}
    (hfound : v.getUnit locationTag = some target)
    (h : ∀ worker, Builder v workerType ability worker →
      Placed v ability target.pos.toPoint2D true →
      P (.unitCommandTarget (some worker.tag) ability (some target.tag) false)) :
    Respects v F J P (tryBuildStructureOn ability workerType locationTag) fun _ => True := by
  refine .ask_bind (.ask_bind (.ite (fun _ => .pure trivial) fun hworkers => ?_))
  obtain ⟨hsome, hfree⟩ := not_or.1 hworkers
  refine (getRandomEntry_keeps fun hnone => absurd hnone fun hnil => ?_).bind
    fun worker hworker => ?_
  · rw [hnil] at hsome
    exact hsome rfl
  refine (dereference_keeps fun hnull => ?_).bind fun targetUnit htarget => ?_
  · rw [hfound] at hnull
    cases hnull
  rw [hfound] at htarget
  cases htarget
  refine placement_keeps.bind fun yes hplaced => .ite (fun hyes => ?_) fun _ => .pure trivial
  rw [hyes] at hplaced
  refine .emit_bind ?_ (.pure trivial)
  rw [hfound]
  exact h worker ⟨hworker, Bool.eq_false_iff.2 hfree⟩ hplaced

/-- The place at which `TryExpand` builds: the expansion that is nearest to the start of those
the game accepts, the corner of the map if it accepts none. -/
def Chosen (v : BotView) (ability : AbilityID) (bot : MultiplayerBot) (place : Point3D) : Prop :=
  let distance := fun (expansion : Point3D) =>
    distanceSquared2D bot.startLocation.toPoint2D expansion.toPoint2D
  ∃ best, LeastAccepted distance (fun expansion => Placed v ability expansion.toPoint2D true)
    (fun expansion => Placed v ability expansion.toPoint2D false) (floatMax ^ 2)
    (bot.expansions.filter fun expansion => ¬distance expansion < floatHundredth ^ 2) best ∧
    place = best.2.getD {}

/-- `TryExpand` moves the staging location halfway to where it builds. -/
theorem tryExpand_keeps
    (hbuild : ∀ worker bot own place, Builder v workerType ability worker → J bot own →
      Chosen v ability bot place → Placed v ability place.toPoint2D true →
      P (.unitCommandPoint (some worker.tag) ability place.toPoint2D false))
    (hmove : ∀ bot own bot' own' place, J bot own → Chosen v ability bot place →
      Placed v ability place.toPoint2D true → J bot' own' →
      J { bot' with stagingLocation := midpoint bot'.stagingLocation place } own') :
    Respects v F J P (tryExpand ability workerType) fun _ => True := by
  refine .gets_bind fun s hs => ?_
  refine (Keeps.leastAccepted (fun expansion => Placed v ability expansion.toPoint2D true)
    (fun expansion => Placed v ability expansion.toPoint2D false)
    fun expansion _ => placement_keeps.mono fun yes hyes => ?_).bind fun best hbest => ?_
  · cases yes
    · exact hyes
    · exact hyes
  have hchosen : Chosen v ability s.base (best.2.getD {}) := ⟨best, hbest, rfl⟩
  refine (tryBuildStructure_keeps fun worker hworker hplaced _ => ?_).bind fun done hdone => ?_
  · exact hbuild worker s.base s.own _ hworker hs hchosen hplaced
  refine .ite (fun _ => .pure trivial) fun hyes => .ask_bind (.ite (fun _ => ?_) fun _ => ?_)
  · have hplaced := hdone (by simpa using hyes)
    refine .modify_bind (fun s' hs' => ?_) (.pure trivial)
    exact hmove s.base s.own s'.base s'.own _ hs hchosen hplaced hs'
  · exact .pure trivial

theorem tryBuildGas_keeps {baseLocation : Point2D}
    (h : ∀ worker, Builder v workerType ability worker →
      ∀ geyser ∈ v.getUnits .neutral isVespeneGeyser,
      distanceSquared2D baseLocation geyser.pos.toPoint2D < 15 ^ 2 →
      Placed v ability geyser.pos.toPoint2D true →
      P (.unitCommandTarget (some worker.tag) ability (some geyser.tag) false)) :
    Respects v F J P (tryBuildGas ability workerType baseLocation) fun _ => True := by
  refine .ask_bind ((Keeps.leastAccepted
    (fun geyser => Placed v ability geyser.pos.toPoint2D true)
    (fun geyser => Placed v ability geyser.pos.toPoint2D false)
    fun geyser _ => placement_keeps.mono fun yes hyes => ?_).bind
      fun best hbest => .ite (fun _ => .pure trivial) fun hsome => ?_)
  · cases yes
    · exact hyes
    · exact hyes
  cases hclosest : best.2 with
  | none =>
    rw [hclosest] at hsome
    exact absurd rfl hsome
  | some geyser =>
    obtain ⟨hmem, -, hnear, -⟩ := hbest.of_some geyser hclosest
    have hunits := (mem_getUnits_iff.1 hmem).1
    exact tryBuildStructureOn_keeps (getUnit_of_mem hunits) fun worker hworker hplaced =>
      h worker hworker geyser hmem hnear hplaced

/-- A unit that can be given an order to train or research. -/
structure Maker (v : BotView) (unitType : UnitTypeID) (ability : AbilityID) (unit : Unit) :
    Prop where
  mem : unit ∈ v.getUnits .self (isUnit unitType)
  idle : unit.orders = []
  complete : unit.buildProgress = 1
  supply : v.foodUsed < v.foodCap ∨ ability = .trainOverlord

theorem tryBuildUnit_keeps {unitType : UnitTypeID}
    (h : ∀ unit, Maker v unitType ability unit →
      P (.unitCommand (some unit.tag) ability false)) :
    Respects v F J P (tryBuildUnit ability unitType) fun _ => True := by
  refine .ask_bind (.ite (fun _ => .pure trivial) fun hfood => ?_)
  refine getRandomUnit_keeps.bind fun found hfound => ?_
  cases found with
  | none => exact .pure trivial
  | some unit =>
    refine .ite (fun _ => .pure trivial) fun hready => ?_
    refine .emit_bind (h unit ⟨hfound unit rfl, ?_, ?_, ?_⟩) (.pure trivial)
    · simpa using (not_or.1 hready).1
    · simpa using (not_or.1 hready).2
    · by_cases hability : ability = .trainOverlord
      · exact .inr hability
      · exact .inl (Int32.not_le.1 fun hle => hfood ⟨hle, hability⟩)

end Building

/-! ## Workers -/

section Workers

variable {gather : AbilityID} {vespeneBuildingType : UnitTypeID}

/-- Where a worker is sent to gather: a building over vespene that wants workers, or the mineral
field that is nearest to a base. A null pointer makes no action. -/
def GatherTarget (v : BotView) (vespeneBuildingType : UnitTypeID) (target : Option Unit) : Prop :=
  ∀ unit, target = some unit →
    (unit ∈ v.getUnits .self (isUnit vespeneBuildingType) ∧
      unit.assignedHarvesters < unit.idealHarvesters) ∨
    ∃ base ∈ v.getUnits .self isTownHall, NearestPatch v base.pos.toPoint2D unit

theorem mineIdleWorkers_keeps {worker : Unit}
    (h : ∀ target, GatherTarget v vespeneBuildingType target →
      P (.unitCommandTarget (some worker.tag) gather (target.map (·.tag)) false)) :
    Respects v F J P (mineIdleWorkers worker gather vespeneBuildingType) fun _ => True := by
  refine .ask_bind (.ask_bind (.ite (fun _ => .pure trivial) fun hbases => ?_))
  have hpatch : ∀ base ∈ v.getUnits .self isTownHall,
      Respects v F J P (do
        let patch ← findNearestMineralPatch base.pos.toPoint2D
        unitCommandTarget worker gather patch) fun _ => True := by
    intro base hbase
    refine findNearestMineralPatch_keeps.bind fun patch hpatch => .emit (h patch ?_) trivial
    exact fun unit hunit => .inr ⟨base, hbase, hpatch unit hunit⟩
  cases hgeyser : (v.getUnits .self (isUnit vespeneBuildingType)).find?
      fun geyser => geyser.assignedHarvesters < geyser.idealHarvesters with
  | some geyser =>
    refine .emit (h (some geyser) fun unit hunit => ?_) trivial
    cases hunit
    exact .inl ⟨List.mem_of_find?_eq_some hgeyser, by simpa using List.find?_some hgeyser⟩
  | none =>
    cases hbase : (v.getUnits .self isTownHall).find? fun base =>
        isActive base ∧ base.assignedHarvesters < base.idealHarvesters with
    | some base => exact hpatch base (List.mem_of_find?_eq_some hbase)
    | none =>
      refine .ite (fun _ => .pure trivial) fun _ => ?_
      refine (getRandomEntry_keeps fun hnone => ?_).bind fun base hbase => hpatch base hbase
      rw [List.isEmpty_iff] at hbases
      exact absurd hnone hbases

theorem reassign_keeps {workers : List Unit} {pick : Unit → BotM κ Bool}
    (hpick : ∀ worker ∈ workers, Respects v F J P (pick worker) fun _ => True)
    (h : ∀ worker ∈ workers, ∀ target, GatherTarget v vespeneBuildingType target →
      P (.unitCommandTarget (some worker.tag) gather (target.map (·.tag)) false)) :
    Respects v F J P (reassign workers pick gather vespeneBuildingType) fun _ => True := by
  refine .tryEach fun worker hworker => (hpick worker hworker).bind fun _ _ =>
    .ite (fun _ => ?_) fun _ => .pure trivial
  exact (mineIdleWorkers_keeps (h worker hworker)).bind fun _ _ => .pure trivial

theorem manageWorkers_keeps {workerType : UnitTypeID}
    (h : ∀ worker ∈ v.getUnits .self (isUnit workerType), ∀ target,
      GatherTarget v vespeneBuildingType target →
      P (.unitCommandTarget (some worker.tag) gather (target.map (·.tag)) false)) :
    Respects v F J P (manageWorkers workerType gather vespeneBuildingType) fun _ => True := by
  refine .ask_bind (.ask_bind (.ite (fun _ => .pure trivial) fun _ => .ask_bind ?_))
  refine (Keeps.tryEach fun base _ => .ite (fun _ => ?_) fun _ => .pure trivial).bind
    fun _ _ => .ite (fun _ => .pure trivial) fun _ => ?_
  · exact reassign_keeps (fun _ _ => .pure trivial) h
  refine (Keeps.tryEach fun geyser _ => .ite (fun _ => .pure trivial) fun _ =>
    .ite (fun _ => ?_) fun _ => .ite (fun _ => ?_) fun _ => .pure trivial).bind
      fun _ _ => .pure trivial
  · exact reassign_keeps (fun _ _ => .pure trivial) h
  · refine reassign_keeps (fun worker _ => ?_) h
    unfold minesElsewhere
    cases worker.orders with
    | nil => exact .pure trivial
    | cons order _ => exact .ask_bind (.pure trivial)

end Workers

end MultiplayerBot

end Sc2Api
