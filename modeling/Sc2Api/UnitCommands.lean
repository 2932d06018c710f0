import Sc2Api.Actions

/-!
# The overloads of `UnitCommand`

The three forms of `ActionImp::UnitCommand`, each for one unit and for several, with every
read through a `Unit*`: reading through one that is null is the error `NullUnit`.
-/

namespace Sc2Api

/-- A read through a null `Unit*`. -/
inductive NullUnit
  | nullUnit
  deriving DecidableEq, Repr

/-- `unit->tag`. -/
def derefUnit : Option Tag → Except NullUnit Tag
  | none => .error .nullUnit
  | some tag => .ok tag

/-- The target of a form, which for a unit may be null. -/
inductive CommandTarget
  | self
  | point (point : Point2D)
  | unit (target : Option Tag)
  deriving DecidableEq, Repr

namespace UnitCommand

/-- The loop over the units, which skips null entries. -/
def unitTags : List (Option Tag) → Except NullUnit (List Tag)
  | [] => return []
  | unit :: units => do
    if unit.isNone then unitTags units
    else
      let tag ← derefUnit unit
      let tags ← unitTags units
      return tag :: tags

/-- What the forms for several units have in common. -/
def addCommand (a : ActionImp) (units : List (Option Tag)) (ability : AbilityID)
    (target : Option Proto.Target) (queuedCommand : Bool) : Except NullUnit ActionImp := do
  let tags ← unitTags units
  return a.addAction { actionRaw := some (.unitCommand {
    abilityId := some ability.toInt32
    target
    queueCommand := some queuedCommand
    unitTags := tags }) }

/-- The forms for several units; a target is read without a check. -/
def forUnits (a : ActionImp) (units : List (Option Tag)) (ability : AbilityID)
    (target : CommandTarget) (queuedCommand : Bool := false) : Except NullUnit ActionImp := do
  match target with
  | .self => addCommand a units ability none queuedCommand
  | .point point =>
    addCommand a units ability (some (.worldSpacePos { x := some point.x, y := some point.y }))
      queuedCommand
  | .unit target =>
    let tag ← derefUnit target
    addCommand a units ability (some (.unitTag tag)) queuedCommand

/-- The forms for one unit, which check the unit and the target. -/
def forUnit (a : ActionImp) (unit : Option Tag) (ability : AbilityID) (target : CommandTarget)
    (queuedCommand : Bool := false) : Except NullUnit ActionImp := do
  match target with
  | .self | .point _ =>
    if unit.isNone then return a
    forUnits a [unit] ability target queuedCommand
  | .unit targetUnit =>
    if unit.isNone ∨ targetUnit.isNone then return a
    forUnits a [unit] ability target queuedCommand

end UnitCommand

end Sc2Api
