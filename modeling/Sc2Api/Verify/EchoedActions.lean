import Sc2Api.FeatureLayerActions
import Sc2Api.Verify.AbilityIds
import Sc2Api.Verify.ActionRuns

/-!
# Actions that the game reports back

What a client reads of its own batch when a response reports it unchanged. The raw unit
commands come back as they were given; of the clicks in the feature layer a command without
a target comes back without a target type, and a rectangle without its flag.
-/

namespace Sc2Api

open Lib

/-- A response that reports the actions of a batch. -/
def Proto.ResponseObservation.reporting (actions : List ActionSent) : ResponseObservation where
  actions := actions.map (·.toAction)

/-! ## Unit commands -/

namespace ActionCall

/-- The call does not send the batch. -/
def Adds : ActionCall → Prop
  | sendActions _ => False
  | _ => True

/-- The unit command that a call gives. -/
def unitCommand? : ActionCall → Option ActionRaw
  | unitsCommand units ability _ => some { abilityId := ability, unitTags := units.reduceOption }
  | unitsCommandPoint units ability point _ => some {
      abilityId := ability
      unitTags := units.reduceOption
      targetType := .targetPosition
      targetPoint := point }
  | unitsCommandTarget units ability target _ => some {
      abilityId := ability
      unitTags := units.reduceOption
      targetType := .targetUnitTag
      targetTag := target }
  | unitCommand unit ability _ => unit.map fun tag => { abilityId := ability, unitTags := [tag] }
  | unitCommandPoint unit ability point _ => unit.map fun tag => {
      abilityId := ability
      unitTags := [tag]
      targetType := .targetPosition
      targetPoint := point }
  | unitCommandTarget unit ability target _ => unit.bind fun tag => target.map fun target => {
      abilityId := ability
      unitTags := [tag]
      targetType := .targetUnitTag
      targetTag := target }
  | toggleAutocast _ _ | toggleAutocastUnit _ _ | sendChat _ _ | sendActions _ => none

/-- What a call adds is read back as its unit command. -/
theorem filterMap_enqueued (call : ActionCall) :
    call.enqueued.filterMap (fun action => convertRawAction action.toAction) =
      call.unitCommand?.toList := by
  cases call with
  | unitCommand unit ability queued =>
    cases unit <;> simp [enqueued, unitCommand?, convertRawAction, Proto.ActionSent.ofCommand]
  | unitCommandPoint unit ability point queued =>
    cases unit <;> simp [enqueued, unitCommand?, convertRawAction, Proto.ActionSent.ofCommand,
      Proto.Point.toPoint2D]
  | unitCommandTarget unit ability target queued =>
    cases unit <;> cases target <;>
      simp [enqueued, unitCommand?, convertRawAction, Proto.ActionSent.ofCommand]
  | unitsCommandPoint units ability point queued =>
    simp [enqueued, unitCommand?, convertRawAction, Proto.ActionSent.ofCommand,
      Proto.Point.toPoint2D]
  | _ => simp [enqueued, unitCommand?, convertRawAction, Proto.ActionSent.ofCommand]

end ActionCall

namespace ActionImp

/-- Calls that do not send the batch add to it. -/
theorem held_of_adds (a : ActionImp) {calls : List ActionCall} (h : ∀ call ∈ calls, call.Adds) :
    (actionMachine.final a calls).held = a.held ++ calls.flatMap ActionCall.enqueued := by
  induction calls generalizing a with
  | nil => exact (List.append_nil _).symm
  | cons call calls ih =>
    have hcall := h call List.mem_cons_self
    have hnone : (actionMachine.step a call).2 = none := by
      cases call with
      | sendActions c => exact absurd hcall id
      | _ => rfl
    have hstep := a.step_conserves call
    rw [hnone, Option.getD_none, List.nil_append] at hstep
    rw [Machine.final_cons, ih _ fun call' hmem => h call' (List.mem_cons_of_mem call hmem), hstep,
      List.append_assoc, List.flatMap_cons]

/-- The unit commands of a batch come back as they were given, and nothing else does. -/
theorem reported_batch_echoes {a : ActionImp} {calls : List ActionCall}
    (hempty : a.requestActions = none) (hcalls : ∀ call ∈ calls, call.Adds)
    (actions : List ActionRaw) :
    convertRawActions
        (.reporting ((actionMachine.final a calls).requestActions.getD [])) actions =
      actions ++ calls.filterMap (·.unitCommand?) := by
  have hheld : (actionMachine.final a calls).requestActions.getD [] =
      calls.flatMap ActionCall.enqueued := by
    have hnil : a.held = [] := by
      unfold held
      rw [hempty]
      rfl
    have hfinal := a.held_of_adds hcalls
    rwa [hnil, List.nil_append] at hfinal
  unfold convertRawActions Proto.ResponseObservation.reporting
  dsimp only
  rw [hheld, List.filterMap_map]
  exact congrArg (actions ++ ·) (filterMap_flatMap_eq ActionCall.filterMap_enqueued calls)

/-- A batch with each kind of target, null units, an autocast toggle and a message. -/
theorem reported_batch_echoes_mixed :
    let calls := [.unitsCommand [some 5, none] 16 false, .sendChat "gl hf" .all,
      .unitCommandTarget (some 5) 23 (some 9) true, .toggleAutocastUnit 5 380,
      .unitsCommandPoint [none] 16 ⟨1, 2⟩ false]
    convertRawActions
        (.reporting ((actionMachine.final {} calls).requestActions.getD [])) [] =
      [] ++ calls.filterMap (·.unitCommand?) :=
  reported_batch_echoes rfl (by simp [ActionCall.Adds]) []

end ActionImp

/-! ## Feature layer actions -/

theorem foldl_convertSpatialAction (actions : SpatialActions) (l : List Proto.ActionSpatial) :
    l.foldl convertSpatialAction actions =
      { unitCommands := actions.unitCommands ++
          l.flatMap fun action => (convertSpatialAction {} action).unitCommands
        cameraMoves := actions.cameraMoves ++
          l.flatMap fun action => (convertSpatialAction {} action).cameraMoves
        selectPoints := actions.selectPoints ++
          l.flatMap fun action => (convertSpatialAction {} action).selectPoints
        selectRects := actions.selectRects ++
          l.flatMap fun action => (convertSpatialAction {} action).selectRects } := by
  induction l generalizing actions with
  | nil => simp
  | cons action l ih =>
    rw [List.foldl_cons, ih, convertSpatialAction_append]
    simp only [List.flatMap_cons, List.append_assoc]

namespace FeatureLayerCall

/-- The action that a call adds. -/
def action : FeatureLayerCall → Proto.ActionSpatial
  | unitCommand ability => .unitCommand { abilityId := some ability.toInt32 }
  | unitCommandPoint ability point minimap => .unitCommand {
      abilityId := some ability.toInt32
      target := some (
        if minimap then .minimapCoord point.toProto else .screenCoord point.toProto) }
  | cameraMove center => .cameraMove (some center.toProto)
  | selectPoint center selectionType =>
    .unitSelectionPoint (some center.toProto) (some selectionType.toProto)
  | selectRect p0 p1 _ =>
    .unitSelectionRect [{ p0 := some p0.toProto, p1 := some p1.toProto }] none

/-! What a call gives, by kind; a command without a target has no target type. -/

def unitCommand? : FeatureLayerCall → Option SpatialUnitCommand
  | unitCommand ability => some { abilityId := ability, queued := false }
  | unitCommandPoint ability point minimap => some {
      abilityId := ability
      targetType := some (if minimap then .targetMinimap else .targetScreen)
      target := point
      queued := false }
  | _ => none

def cameraMove? : FeatureLayerCall → Option SpatialCameraMove
  | cameraMove center => some ⟨center⟩
  | _ => none

def selectPoint? : FeatureLayerCall → Option SpatialSelectPoint
  | selectPoint center selectionType => some ⟨center, selectionType⟩
  | _ => none

def selectRect? : FeatureLayerCall → Option SpatialSelectRect
  | selectRect p0 p1 addToSelection => some ⟨[⟨p0, p1⟩], addToSelection⟩
  | _ => none

/-- The rectangle that comes back. -/
def echoedRect? : FeatureLayerCall → Option SpatialSelectRect
  | selectRect p0 p1 _ => some ⟨[⟨p0, p1⟩], false⟩
  | _ => none

/-- What a response says of a call is what it gives, but for the flag of a rectangle. -/
theorem convertSpatialAction_action (call : FeatureLayerCall) :
    convertSpatialAction {} call.action =
      { unitCommands := call.unitCommand?.toList
        cameraMoves := call.cameraMove?.toList
        selectPoints := call.selectPoint?.toList
        selectRects := call.echoedRect?.toList } := by
  cases call with
  | unitCommand ability =>
    simp [convertSpatialAction, action, unitCommand?, cameraMove?, selectPoint?, echoedRect?]
  | unitCommandPoint ability point minimap =>
    cases minimap <;>
      simp [convertSpatialAction, action, unitCommand?, cameraMove?, selectPoint?, echoedRect?,
        Point2DI.toProto, Proto.PointI.toPoint2DI]
  | cameraMove center =>
    simp [convertSpatialAction, action, unitCommand?, cameraMove?, selectPoint?, echoedRect?,
      Point2DI.toProto, Proto.PointI.toPoint2DI]
  | selectPoint center selectionType =>
    cases selectionType <;>
      simp [convertSpatialAction, action, unitCommand?, cameraMove?, selectPoint?, echoedRect?,
        Point2DI.toProto, Proto.PointI.toPoint2DI, convertPointSelectionType,
        PointSelectionType.toProto]
  | selectRect p0 p1 addToSelection =>
    simp [convertSpatialAction, action, unitCommand?, cameraMove?, selectPoint?, echoedRect?,
      Point2DI.toProto, Proto.PointI.toPoint2DI]

end FeatureLayerCall

namespace ActionFeatureLayerImp

/-- The actions still to be sent. -/
def held (a : ActionFeatureLayerImp) : List Proto.ActionSent := a.requestActions.getD []

theorem held_call (a : ActionFeatureLayerImp) (call : FeatureLayerCall) :
    (a.call call).held = a.held ++ [{ actionFeatureLayer := some call.action }] := by
  cases call <;> rfl

theorem held_foldl_call (a : ActionFeatureLayerImp) (calls : List FeatureLayerCall) :
    (calls.foldl call a).held =
      a.held ++ calls.map fun call => { actionFeatureLayer := some call.action } := by
  induction calls generalizing a with
  | nil => exact (List.append_nil _).symm
  | cons call calls ih =>
    rw [List.foldl_cons, ih, held_call, List.append_assoc, List.map_cons]
    rfl

/-- What a client reads of the batch of a sequence of calls that is reported back. -/
def echo (calls : List FeatureLayerCall) : SpatialActions :=
  convertFeatureLayerActions
    (.reporting ((calls.foldl call {}).requestActions.getD [])) {}

theorem echo_eq (calls : List FeatureLayerCall) :
    echo calls =
      { unitCommands := calls.filterMap (·.unitCommand?)
        cameraMoves := calls.filterMap (·.cameraMove?)
        selectPoints := calls.filterMap (·.selectPoint?)
        selectRects := calls.filterMap (·.echoedRect?) } := by
  have hheld : (calls.foldl call {}).requestActions.getD [] =
      calls.map fun call => { actionFeatureLayer := some call.action } :=
    held_foldl_call {} calls
  have hspatial : ((calls.map fun call : FeatureLayerCall =>
      ({ actionFeatureLayer := some call.action } : Proto.ActionSent)).map
        (·.toAction)).filterMap (·.actionFeatureLayer) = calls.map (·.action) := by
    rw [List.map_map, List.filterMap_map]
    exact congrFun (List.filterMap_eq_map (f := FeatureLayerCall.action)) calls
  unfold echo convertFeatureLayerActions Proto.ResponseObservation.reporting
  dsimp only
  rw [hheld, hspatial, foldl_convertSpatialAction]
  simp only [List.nil_append, List.flatMap_map]
  congr 1
  all_goals
    refine flatMap_eq_filterMap (fun call => ?_) calls
    rw [call.convertSpatialAction_action]

/-- The reported batch yields the commands as they were given, per kind and in order, and
every member of a unit command is set. -/
structure Echoes (calls : List FeatureLayerCall) : Prop where
  unitCommands : (echo calls).unitCommands = calls.filterMap (·.unitCommand?)
  targetType : ∀ command ∈ (echo calls).unitCommands, command.targetType ≠ none
  cameraMoves : (echo calls).cameraMoves = calls.filterMap (·.cameraMove?)
  selectPoints : (echo calls).selectPoints = calls.filterMap (·.selectPoint?)
  selectRects : (echo calls).selectRects = calls.filterMap (·.selectRect?)

end ActionFeatureLayerImp

namespace FeatureLayerCall

/-- A call of which nothing is lost: not a command without a target, nor a rectangle that is
to add to the selection. -/
def Kept : FeatureLayerCall → Prop
  | unitCommand _ => False
  | selectRect _ _ addToSelection => addToSelection = false
  | _ => True

theorem kept_iff (call : FeatureLayerCall) :
    call.Kept ↔ (∀ command ∈ call.unitCommand?, command.targetType ≠ none) ∧
      call.echoedRect? = call.selectRect? := by
  cases call <;> simp [Kept, unitCommand?, echoedRect?, selectRect?, eq_comm]

end FeatureLayerCall

namespace ActionFeatureLayerImp

/-- A batch comes back as it was given exactly when its calls lose nothing. -/
theorem echoes_iff (calls : List FeatureLayerCall) :
    Echoes calls ↔ ∀ call ∈ calls, call.Kept := by
  have hrects : calls.filterMap (·.echoedRect?) = calls.filterMap (·.selectRect?) ↔
      ∀ call ∈ calls, call.echoedRect? = call.selectRect? :=
    filterMap_eq_filterMap_iff fun call => by cases call <;> rfl
  have hkept : (∀ call ∈ calls, call.Kept) ↔
      (∀ call ∈ calls, ∀ command ∈ call.unitCommand?, command.targetType ≠ none) ∧
        ∀ call ∈ calls, call.echoedRect? = call.selectRect? := by
    simp only [FeatureLayerCall.kept_iff, forall_and]
  have htargets : (∀ command ∈ calls.filterMap (·.unitCommand?), command.targetType ≠ none) ↔
      ∀ call ∈ calls, ∀ command ∈ call.unitCommand?, command.targetType ≠ none := by
    simp only [List.mem_filterMap, forall_exists_index, and_imp]
    exact ⟨fun h call hmem command hc => h command call hmem hc,
      fun h command call hmem hc => h call hmem command hc⟩
  rw [hkept, ← hrects, ← htargets]
  constructor
  · intro h
    obtain ⟨-, htarget, -, -, hrect⟩ := h
    rw [echo_eq] at htarget hrect
    exact ⟨htarget, hrect⟩
  · rintro ⟨htarget, hrect⟩
    constructor <;> rw [echo_eq]
    · exact htarget
    · exact hrect

/-- The command comes back without a target type, the rectangle without its flag. -/
theorem target_type_and_flag_lost :
    ¬Echoes [.unitCommand 23, .selectRect ⟨1, 2⟩ ⟨3, 4⟩ true] := by
  intro h
  exact absurd h.selectRects (by decide)

/-- An agent sends its feature layer actions as its `ActionFeatureLayerImp` does. -/
theorem sendActions_agent (a : ActionFeatureLayerImp) (agent : Agent)
    (h : agent.requestActionsFeatureLayer = a.requestActions.isSome) :
    agent.sendActionsFeatureLayer = { agent with
      requestActionsFeatureLayer := (a.sendActions agent.control).2.1.requestActions.isSome
      control := (a.sendActions agent.control).2.2 } := by
  obtain ⟨requestActions⟩ := a
  obtain ⟨control, batch, commands, batchFeatureLayer, events⟩ := agent
  cases h
  unfold Agent.sendActionsFeatureLayer sendActions
  cases requestActions with
  | none => rfl
  | some actions => cases hsent : (control.sendRequest .action).1 <;> simp [hsent]

end ActionFeatureLayerImp

end Sc2Api
