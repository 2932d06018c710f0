import Sc2Api.BotRuns
import Sc2Api.Verify.Queries

/-!
# What the functions of a bot keep

For each function of all bots the calls it may make and what is known of them: the units they
are given to, what the game has answered before.
-/

namespace Sc2Api

open Lib Program

variable {κ α : Type}

/-- `Keeps` for an invariant of the bot that does not depend on the number of questions. -/
abbrev BotM.Respects (v : BotView) (F : BotFault → Prop) (J : MultiplayerBot → κ → Prop)
    (P : ActionCall → Prop) (x : BotM κ α) (Q : α → Prop) : Prop :=
  Keeps v F (fun s : BotState κ => J s.base s.own) P x Q

/-- The game has at some time given this answer to whether the building can be placed. -/
def Placed (v : BotView) (ability : AbilityID) (location : Point2D) (answer : Bool) : Prop :=
  ∃ n, QueryInterface.placementOf ability location none (v.game n) = .ok answer

/-! ## Questions -/

namespace BotM

variable {v : BotView} {F : BotFault → Prop} {J : MultiplayerBot → κ → Prop}
  {P : ActionCall → Prop}

theorem answer_keeps {answers : BotView → Nat → α} :
    Respects v F J P (answer answers) fun a => ∃ n, a = answers v n := by
  refine .gets_bind fun s _ => .modify_bind ?_ (Keeps.ask.mono fun _ ha => ⟨s.asked, ha⟩)
  exact fun _ hs => hs

theorem dereference_keeps {x : Option α} (h : x = none → F .nullUnit) :
    Respects v F J P (dereference x) (x = some ·) := by
  cases x with
  | none => exact .fail (h rfl)
  | some x => exact .pure rfl

theorem readVariable_keeps {x : Option α} (h : x = none → F .uninitialized) :
    Respects v F J P (readVariable x) (x = some ·) := by
  cases x with
  | none => exact .fail (h rfl)
  | some x => exact .pure rfl

theorem at_keeps {list : List α} {i : Nat} (h : list.length ≤ i → F .outOfRange) :
    Respects v F J P (at_ list i) (list[i]? = some ·) := by
  refine .ofExcept (fun e herror => ?_) fun a hok => ?_
  · unfold elementAt at herror
    cases hi : list[i]? with
    | none =>
      rw [hi] at herror
      cases herror
      exact h (List.getElem?_eq_none_iff.1 hi)
    | some x => rw [hi] at herror; cases herror
  · unfold elementAt at hok
    cases hi : list[i]? with
    | none => rw [hi] at hok; cases hok
    | some x => rw [hi] at hok; cases hok; rfl

/-- An entry of the container, which must not be empty. -/
theorem getRandomEntry_keeps {container : List α} (h : container = [] → F .outOfRange) :
    Respects v F J P (getRandomEntry container) (· ∈ container) := by
  refine answer_keeps.bind fun n _ => ?_
  refine (at_keeps fun hlength => h ?_).mono fun _ ha => List.mem_of_getElem? ha
  refine List.length_eq_zero_iff.1 (Nat.eq_zero_of_not_pos fun hpos => ?_)
  exact absurd (Nat.mod_lt n hpos) hlength.not_gt

theorem getRandomScalar_keeps :
    Respects v F J P getRandomScalar fun x => -1 ≤ x ∧ x ≤ 1 :=
  answer_keeps.bind fun x _ => .pure x.2

/-- A random point is off its centre by no more than the radius. -/
theorem abs_sub_le_of_scalar {x r c : CFloat} (hx : -1 ≤ x ∧ x ≤ 1) :
    |c + x * r - c| ≤ |r| := by
  rw [add_sub_cancel_left, abs_mul]
  exact mul_le_of_le_one_left (abs_nonneg r) (abs_le.2 hx)

theorem getRandomFraction_keeps :
    Respects v F J P getRandomFraction fun x => 0 ≤ x ∧ x ≤ 1 :=
  answer_keeps.bind fun x _ => .pure x.2

/-- A single query has an answer. -/
theorem exists_checkedResults {μ ρ : Type} {results : Proto.ResponseQuery → List μ}
    {read : μ → ρ} {failure : ρ} {outcome : QueryOutcome} :
    ∃ r, elementAt (QueryInterface.checkedResults results read failure 1 outcome) 0 = .ok r := by
  have hlength : (QueryInterface.checkedResults results read failure 1 outcome).length = 1 := by
    unfold QueryInterface.checkedResults
    cases outcome.message? with
    | none => rfl
    | some responseQuery =>
      by_cases hone : (results responseQuery).length = 1
      · simp only [hone, ne_eq, not_true_eq_false, if_false, List.length_map]
      · simp only [hone, ne_eq, not_false_eq_true, if_true, List.length_replicate]
  obtain ⟨r, hr⟩ := List.length_eq_one_iff.1 hlength
  exact ⟨r, by rw [hr]; rfl⟩

theorem placement_answers {ability : AbilityID} {location : Point2D} {unit : Option Unit} :
    Respects v F J P (placement ability location unit) fun a => ∃ n,
      QueryInterface.placementOf ability location (unit.map (·.tag)) (v.game n) = .ok a := by
  refine answer_keeps.bind fun game ⟨n, hgame⟩ => .ofExcept (fun e herror => ?_) fun a hok => ?_
  · obtain ⟨r, hr⟩ : ∃ r,
        QueryInterface.placementOf ability location (unit.map (·.tag)) game = .ok r :=
      exists_checkedResults
    rw [hr] at herror
    cases herror
  · refine ⟨n, ?_⟩
    rw [hgame] at hok
    cases hplacement : QueryInterface.placementOf ability location (unit.map (·.tag))
        (v.game n) with
    | error e => rw [hplacement] at hok; cases hok
    | ok answer => rw [hplacement] at hok; cases hok; rfl

theorem placement_keeps {ability : AbilityID} {location : Point2D} :
    Respects v F J P (placement ability location) (Placed v ability location) :=
  placement_answers

theorem pathingDistance_keeps {start end_ : Point2D} :
    Respects v F J P (pathingDistance start end_) fun _ => True := by
  refine answer_keeps.bind fun game _ => .ofExcept (fun e herror => ?_) fun _ _ => trivial
  obtain ⟨r, hr⟩ : ∃ r, QueryInterface.pathingDistanceFrom start end_ game = .ok r :=
    exists_checkedResults
  rw [hr] at herror
  cases herror

theorem pathingDistanceFromUnit_keeps {unit : Unit} {end_ : Point2D} :
    Respects v F J P (pathingDistanceFromUnit unit end_) fun _ => True := by
  refine answer_keeps.bind fun game _ => .ofExcept (fun e herror => ?_) fun _ _ => trivial
  obtain ⟨r, hr⟩ : ∃ r, QueryInterface.pathingDistanceFromUnit unit.tag end_ game = .ok r :=
    exists_checkedResults
  rw [hr] at herror
  cases herror

theorem getAbilitiesForUnit_keeps {unit : Unit} :
    Respects v F J P (getAbilitiesForUnit unit)
      fun abilities => ∃ n, abilities = v.abilities n unit.tag :=
  answer_keeps.bind fun _ ⟨n, hanswer⟩ => .pure ⟨n, by rw [hanswer]⟩

theorem hasCreep_keeps {point : Point2D}
    (h : ∀ e, Sc2Api.hasCreep v.observation point = .error e → F (.undefined e)) :
    Respects v F J P (hasCreep point)
      fun yes => Sc2Api.hasCreep v.observation point = .ok yes := by
  refine .ask_bind (.ofExcept (fun e herror => ?_) fun a hok => ?_)
  · cases hcreep : Sc2Api.hasCreep v.observation point with
    | error undefined =>
      rw [hcreep] at herror
      cases herror
      exact h undefined hcreep
    | ok yes => rw [hcreep] at herror; cases herror
  · cases hcreep : Sc2Api.hasCreep v.observation point with
    | error undefined => rw [hcreep] at hok; cases hok
    | ok yes => rw [hcreep] at hok; cases hok; rfl

/-! ## Filters -/

/-- Whether the attribute is among those of the unit's type. -/
def IsStructure (v : BotView) (unit : Unit) (answer : Bool) : Prop :=
  ∃ data, v.unitTypeData[unit.unitType.toNat]? = some data ∧
    answer = decide (Attribute.struct ∈ data.attributes)

theorem isStructure_keeps {unit : Unit}
    (h : v.unitTypeData.length ≤ unit.unitType.toNat → F .outOfRange) :
    Respects v F J P (isStructure unit) (IsStructure v unit) :=
  .ask_bind ((at_keeps h).bind fun data hdata => .pure ⟨data, hdata, rfl⟩)

/-- The types that `IsArmy` names. -/
def notArmy : List UnitTypeID :=
  [.zergOverlord, .protossProbe, .zergDrone, .terranScv, .zergQueen, .zergLarva, .zergEgg,
    .terranMule, .terranNuke]

/-- A unit of the player that is no structure, no worker and none of the others named. -/
structure IsArmy (v : BotView) (unit : Unit) : Prop where
  own : unit ∈ v.getUnits .self
  notStructure : IsStructure v unit false
  type : unit.unitType ∉ notArmy

theorem IsStructure.inj {unit : Unit} {a b : Bool} (ha : IsStructure v unit a)
    (hb : IsStructure v unit b) : a = b := by
  obtain ⟨data, hdata, rfl⟩ := ha
  obtain ⟨data', hdata', rfl⟩ := hb
  cases hdata.symm.trans hdata'
  rfl

theorem isArmy_keeps {unit : Unit} (hown : unit ∈ v.getUnits .self)
    (h : v.unitTypeData.length ≤ unit.unitType.toNat → F .outOfRange) :
    Respects v F J P (isArmy unit) fun keep => keep = true ↔ IsArmy v unit := by
  refine (isStructure_keeps h).bind fun yes hstruct => .ite (fun hyes => ?_) fun hno => ?_
  · refine .pure (iff_of_false Bool.false_ne_true fun harmy => ?_)
    exact absurd (hstruct.inj harmy.notStructure) (Bool.ne_false_iff.2 hyes)
  · rw [Bool.eq_false_iff.2 hno] at hstruct
    refine .pure (decide_eq_true_iff.trans ⟨fun htype => ⟨hown, hstruct, htype⟩, fun harmy => ?_⟩)
    exact harmy.type

theorem mem_getUnits_iff {alliance : Alliance} {filter : Unit → Bool} {unit : Unit} :
    unit ∈ v.getUnits alliance filter ↔
      unit ∈ v.units ∧ unit.alliance = alliance ∧ filter unit = true := by
  unfold BotView.getUnits
  rw [List.mem_filter, Bool.and_eq_true, decide_eq_true_iff]

/-- A unit that is there is found by its tag. -/
theorem getUnit_of_mem {unit : Unit} (h : unit ∈ v.units) : v.getUnit unit.tag = some unit := by
  unfold BotView.getUnit
  cases hfind : v.units.find? fun u => u.tag = unit.tag with
  | none =>
    have hother := List.find?_eq_none.1 hfind unit h
    simp at hother
  | some found =>
    have htag : found.tag = unit.tag := by simpa using List.find?_some hfind
    rw [List.inj_on_of_nodup_map v.tags_nodup (List.mem_of_find?_eq_some hfind) h htag]

/-- The types of the units on one side have data. -/
def KnowsTypes (v : BotView) (alliance : Alliance) : Prop :=
  ∀ unit ∈ v.getUnits alliance, unit.unitType.toNat < v.unitTypeData.length

/-- Looking a type up may go wrong only where it is not known. -/
theorem outOfRange_of_unknown {alliance : Alliance} (h : ¬KnowsTypes v alliance → ∀ e, F e)
    {unit : Unit} (hunit : unit ∈ v.getUnits alliance)
    (hdata : v.unitTypeData.length ≤ unit.unitType.toNat) : F .outOfRange :=
  h (fun hknows => absurd (hknows unit hunit) hdata.not_gt) _

theorem structures_keeps (h : ¬KnowsTypes v .self → ∀ e, F e) :
    Respects v F J P (getUnitsIf .self isStructure) fun units =>
      ∀ unit, unit ∈ units ↔ unit ∈ v.getUnits .self ∧ IsStructure v unit true := by
  refine .ask_bind (Keeps.filterEach fun unit hunit => ?_)
  refine (isStructure_keeps (outOfRange_of_unknown h hunit)).mono
    fun yes hyes => ⟨fun htrue => htrue ▸ hyes, fun hstruct => hyes.inj hstruct⟩

theorem army_keeps (h : ¬KnowsTypes v .self → ∀ e, F e) :
    Respects v F J P (getUnitsIf .self isArmy) fun army => ∀ unit, unit ∈ army ↔ IsArmy v unit := by
  refine .ask_bind ((Keeps.filterEach fun unit hunit => ?_).mono
    fun _ harmy unit => (harmy unit).trans (and_iff_right_of_imp IsArmy.own))
  exact isArmy_keeps hunit (outOfRange_of_unknown h hunit)

end BotM

end Sc2Api
