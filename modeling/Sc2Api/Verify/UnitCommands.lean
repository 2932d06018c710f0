import Sc2Api.UnitCommands
import Sc2Api.Verify.ActionRuns

/-!
# The overloads agree on units that are there

The forms of `UnitCommand` for one unit check their pointers and add nothing when one is
null. Those for several units read a null target, and add an action without units when
there are none.
-/

namespace Sc2Api

namespace UnitCommand

variable {a : ActionImp} {ability : AbilityID} {queuedCommand : Bool}

theorem unitTags_eq (units : List (Option Tag)) : unitTags units = .ok units.reduceOption := by
  induction units with
  | nil => rfl
  | cons unit units ih =>
    unfold unitTags
    rw [ih]
    cases unit with
    | none =>
      rw [List.reduceOption_cons_of_none]
      rfl
    | some tag =>
      rw [List.reduceOption_cons_of_some]
      rfl

theorem addCommand_eq (units : List (Option Tag)) (target : Option Proto.Target) :
    addCommand a units ability target queuedCommand =
      .ok (a.addUnitCommand units ability target queuedCommand) := by
  unfold addCommand
  rw [unitTags_eq]
  rfl

/-! ## The overloads -/

theorem forUnits_self (units : List (Option Tag)) :
    forUnits a units ability .self queuedCommand =
      .ok (a.unitsCommand units ability queuedCommand) :=
  addCommand_eq units none

theorem forUnits_point (units : List (Option Tag)) (point : Point2D) :
    forUnits a units ability (.point point) queuedCommand =
      .ok (a.unitsCommandPoint units ability point queuedCommand) :=
  addCommand_eq units _

theorem forUnits_target (units : List (Option Tag)) (target : Tag) :
    forUnits a units ability (.unit (some target)) queuedCommand =
      .ok (a.unitsCommandTarget units ability target queuedCommand) :=
  addCommand_eq units _

theorem forUnits_null (units : List (Option Tag)) :
    forUnits a units ability (.unit none) queuedCommand = .error .nullUnit := rfl

/-! The forms for one unit are those of `ActionImp`, which never read a null pointer. -/

theorem forUnit_self (unit : Option Tag) :
    forUnit a unit ability .self queuedCommand =
      .ok (a.unitCommand unit ability queuedCommand) := by
  cases unit with
  | none => rfl
  | some tag => exact forUnits_self [some tag]

theorem forUnit_point (unit : Option Tag) (point : Point2D) :
    forUnit a unit ability (.point point) queuedCommand =
      .ok (a.unitCommandPoint unit ability point queuedCommand) := by
  cases unit with
  | none => rfl
  | some tag => exact forUnits_point [some tag] point

theorem forUnit_target (unit target : Option Tag) :
    forUnit a unit ability (.unit target) queuedCommand =
      .ok (a.unitCommandTarget unit ability target queuedCommand) := by
  cases unit with
  | none => rfl
  | some tag =>
    cases target with
    | none => rfl
    | some target => exact forUnits_target [some tag] target

theorem forUnit_of_null {unit : Option Tag} {target : CommandTarget}
    (h : unit = none ∨ target = .unit none) :
    forUnit a unit ability target queuedCommand = .ok a := by
  rcases h with rfl | rfl
  · cases target <;> rfl
  · cases unit <;> rfl

theorem forUnit_of_some (tag : Tag) {target : CommandTarget} (h : target ≠ .unit none) :
    forUnit a (some tag) ability target queuedCommand =
      forUnits a [some tag] ability target queuedCommand := by
  cases target with
  | self => rfl
  | point point => rfl
  | unit target =>
    cases target with
    | none => exact absurd rfl h
    | some target => rfl

/-- With a target that can be read, the forms for several units add one action, which
commands those that are not null. -/
theorem forUnits_of_nonnull (units : List (Option Tag)) {target : CommandTarget}
    (h : target ≠ .unit none) :
    ∃ a' action, forUnits a units ability target queuedCommand = .ok a' ∧
      a'.held = a.held ++ [action] ∧ action.commandTags = units.reduceOption := by
  cases target with
  | self => exact ⟨_, _, forUnits_self units, a.held_addAction _, rfl⟩
  | point point => exact ⟨_, _, forUnits_point units point, a.held_addAction _, rfl⟩
  | unit target =>
    cases target with
    | none => exact absurd rfl h
    | some target => exact ⟨_, _, forUnits_target units target, a.held_addAction _, rfl⟩

end UnitCommand

/-! ## Proper calls -/

/-- A call of `UnitCommand`, for one unit or for several. -/
inductive UnitCommandCall
  | one (unit : Option Tag)
  | several (units : List (Option Tag))

namespace UnitCommandCall

open UnitCommand

def effect (a : ActionImp) (ability : AbilityID) (target : CommandTarget) (queuedCommand : Bool) :
    UnitCommandCall → Except NullUnit ActionImp
  | one unit => forUnit a unit ability target queuedCommand
  | several units => forUnits a units ability target queuedCommand

/-- The call reads no null pointer, adds no action that commands no unit, and has for one
unit the same effect in both forms. -/
structure Proper (a : ActionImp) (ability : AbilityID) (target : CommandTarget)
    (queuedCommand : Bool) (call : UnitCommandCall) : Prop where
  adds : ∃ a', call.effect a ability target queuedCommand = .ok a' ∧
    (a'.held = a.held ∨ ∃ action, a'.held = a.held ++ [action] ∧ action.commandTags ≠ [])
  agrees : ∀ unit, call = .one unit ∨ call = .several [unit] →
    forUnit a unit ability target queuedCommand = forUnits a [unit] ability target queuedCommand

/-- The target can be read and there is a unit to command. -/
def Commands (target : CommandTarget) : UnitCommandCall → Prop
  | one unit => target ≠ .unit none ∧ unit ≠ none
  | several units => target ≠ .unit none ∧ units.reduceOption ≠ []

variable {a : ActionImp} {ability : AbilityID} {target : CommandTarget} {queuedCommand : Bool}

/-- An action without units is not the same as none. -/
theorem forUnits_ne_of_null {unit : Option Tag} (h : unit = none ∨ target = .unit none) :
    forUnit a unit ability target queuedCommand ≠
      forUnits a [unit] ability target queuedCommand := by
  rw [forUnit_of_null h]
  intro heq
  by_cases htarget : target = .unit none
  · rw [htarget, forUnits_null] at heq
    cases heq
  · obtain ⟨a', action, hrun, hheld, -⟩ : ∃ a' action,
        forUnits a [unit] ability target queuedCommand = .ok a' ∧
          a'.held = a.held ++ [action] ∧ action.commandTags = [unit].reduceOption :=
      forUnits_of_nonnull [unit] htarget
    rw [hrun] at heq
    obtain rfl := Except.ok.inj heq
    exact absurd hheld (by simp)

theorem forUnit_eq_forUnits_iff {unit : Option Tag} :
    forUnit a unit ability target queuedCommand =
        forUnits a [unit] ability target queuedCommand ↔ target ≠ .unit none ∧ unit ≠ none := by
  constructor
  · intro h
    exact ⟨fun htarget => forUnits_ne_of_null (.inr htarget) h,
      fun hunit => forUnits_ne_of_null (.inl hunit) h⟩
  · rintro ⟨htarget, hunit⟩
    obtain ⟨tag, rfl⟩ := Option.ne_none_iff_exists'.1 hunit
    exact forUnit_of_some tag htarget

/-- For several units: the call is safe exactly when it commands one of them. -/
theorem forUnits_adds_iff {units : List (Option Tag)} :
    (∃ a', forUnits a units ability target queuedCommand = .ok a' ∧
      (a'.held = a.held ∨ ∃ action, a'.held = a.held ++ [action] ∧ action.commandTags ≠ [])) ↔
        target ≠ .unit none ∧ units.reduceOption ≠ [] := by
  by_cases htarget : target = .unit none
  · refine iff_of_false ?_ fun h => h.1 htarget
    rintro ⟨a', hrun, -⟩
    rw [htarget, forUnits_null] at hrun
    cases hrun
  · obtain ⟨a', action, hrun, hheld, htags⟩ : ∃ a' action,
        forUnits a units ability target queuedCommand = .ok a' ∧
          a'.held = a.held ++ [action] ∧ action.commandTags = units.reduceOption :=
      forUnits_of_nonnull units htarget
    rw [hrun, ← htags]
    constructor
    · rintro ⟨a'', hok, hadds⟩
      obtain rfl := Except.ok.inj hok
      refine ⟨htarget, ?_⟩
      rcases hadds with hsame | ⟨action', hadds, hne⟩
      · rw [hheld] at hsame
        exact absurd hsame (by simp)
      · rw [hheld] at hadds
        obtain rfl : action = action' := by simpa using hadds
        exact hne
    · rintro ⟨-, hne⟩
      exact ⟨a', rfl, .inr ⟨action, hheld, hne⟩⟩

/-- A call is as documented exactly when it commands a unit. -/
theorem proper_iff (a : ActionImp) (ability : AbilityID) (target : CommandTarget)
    (queuedCommand : Bool) (call : UnitCommandCall) :
    call.Proper a ability target queuedCommand ↔ call.Commands target := by
  cases call with
  | one unit =>
    constructor
    · intro h
      exact forUnit_eq_forUnits_iff.1 (h.agrees unit (.inl rfl))
    · rintro ⟨htarget, hunit⟩
      have hagrees : forUnit a unit ability target queuedCommand =
          forUnits a [unit] ability target queuedCommand :=
        forUnit_eq_forUnits_iff.2 ⟨htarget, hunit⟩
      obtain ⟨tag, rfl⟩ := Option.ne_none_iff_exists'.1 hunit
      refine ⟨?_, ?_⟩
      · show ∃ a', forUnit a (some tag) ability target queuedCommand = .ok a' ∧ _
        rw [hagrees]
        exact forUnits_adds_iff.2 ⟨htarget, by simp⟩
      · intro unit' h
        obtain rfl : some tag = unit' := by simpa using h
        exact hagrees
  | several units =>
    constructor
    · exact fun h => forUnits_adds_iff.1 h.adds
    · rintro ⟨htarget, hunits⟩
      refine ⟨forUnits_adds_iff.2 ⟨htarget, hunits⟩, ?_⟩
      intro unit h
      obtain rfl : units = [unit] := by simpa using h
      refine forUnit_eq_forUnits_iff.2 ⟨htarget, ?_⟩
      rintro rfl
      exact hunits rfl

/-- A command for no unit at all is added to the batch. -/
theorem empty_command_added : ¬(several []).Proper {} 16 .self false := by
  rintro ⟨⟨a', hrun, hadds⟩, -⟩
  obtain rfl := Except.ok.inj hrun
  rcases hadds with hsame | ⟨action, hadds, hne⟩
  · exact absurd hsame (by decide)
  · obtain rfl := List.singleton_inj.1 hadds
    exact hne rfl

end UnitCommandCall

end Sc2Api
