import Sc2Api.Actions

/-!
# The batch of feature layer actions

`ActionFeatureLayerImp` collects clicks in the feature layer the way `ActionImp` collects
commands. Every call adds one action.
-/

namespace Sc2Api

/-- The `static_cast`: the enumerators have the same numbers. -/
def PointSelectionType.toProto : PointSelectionType → Proto.SelectionPointType
  | .ptSelect => .select
  | .ptToggle => .toggle
  | .ptAllType => .allType
  | .ptAddAllType => .addAllType

def Point2DI.toProto (point : Point2DI) : Proto.PointI := { x := some point.x, y := some point.y }

structure ActionFeatureLayerImp where
  requestActions : Option (List Proto.ActionSent) := none
  deriving DecidableEq, Repr

namespace ActionFeatureLayerImp

/-- `GetRequestAction()->add_actions()->mutable_action_feature_layer()`, filled in. -/
def addAction (a : ActionFeatureLayerImp) (action : Proto.ActionSpatial) :
    ActionFeatureLayerImp :=
  let sent : Proto.ActionSent := { actionFeatureLayer := some action }
  { a with requestActions := some (a.requestActions.getD [] ++ [sent]) }

def unitCommand (a : ActionFeatureLayerImp) (ability : AbilityID) : ActionFeatureLayerImp :=
  a.addAction (.unitCommand { abilityId := some ability.toInt32 })

def unitCommandPoint (a : ActionFeatureLayerImp) (ability : AbilityID) (point : Point2DI)
    (minimap : Bool := false) : ActionFeatureLayerImp :=
  a.addAction (.unitCommand {
    abilityId := some ability.toInt32
    target := some (
      if minimap then .minimapCoord point.toProto else .screenCoord point.toProto) })

def cameraMove (a : ActionFeatureLayerImp) (center : Point2DI) : ActionFeatureLayerImp :=
  a.addAction (.cameraMove (some center.toProto))

def selectPoint (a : ActionFeatureLayerImp) (center : Point2DI)
    (selectionType : PointSelectionType) : ActionFeatureLayerImp :=
  a.addAction (.unitSelectionPoint (some center.toProto) (some selectionType.toProto))

/-- The flag has no name in the source: it is not looked at. -/
def selectRect (a : ActionFeatureLayerImp) (p0 p1 : Point2DI) (_addToSelection : Bool := false) :
    ActionFeatureLayerImp :=
  a.addAction (.unitSelectionRect [{ p0 := some p0.toProto, p1 := some p1.toProto }] none)

/-- `SendActions` of a client `c`: the request it sent, if any, and what became of both. -/
def sendActions (a : ActionFeatureLayerImp) (c : Control) :
    Option (List Proto.ActionSent) × ActionFeatureLayerImp × Control :=
  match a.requestActions with
  | none => (none, a, c)
  | some actions =>
    let (sent, c) := c.sendRequest .action
    if !sent then (none, a, c)
    else (some actions, { a with requestActions := none }, c.waitForResponse.2)

end ActionFeatureLayerImp

/-- A call that adds an action. -/
inductive FeatureLayerCall
  | unitCommand (ability : AbilityID)
  | unitCommandPoint (ability : AbilityID) (point : Point2DI) (minimap : Bool)
  | cameraMove (center : Point2DI)
  | selectPoint (center : Point2DI) (selectionType : PointSelectionType)
  | selectRect (p0 p1 : Point2DI) (addToSelection : Bool)
  deriving DecidableEq, Repr

def ActionFeatureLayerImp.call (a : ActionFeatureLayerImp) :
    FeatureLayerCall → ActionFeatureLayerImp
  | .unitCommand ability => a.unitCommand ability
  | .unitCommandPoint ability point minimap => a.unitCommandPoint ability point minimap
  | .cameraMove center => a.cameraMove center
  | .selectPoint center selectionType => a.selectPoint center selectionType
  | .selectRect p0 p1 addToSelection => a.selectRect p0 p1 addToSelection

end Sc2Api
