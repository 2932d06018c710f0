import Sc2Api.Debug
import Mathlib.Algebra.Order.Group.Multiset
import Mathlib.Tactic.Abel

/-!
# Every debug command is sent once

What a `SendDebug` sends are the commands queued since the one before, each once; of those
that replace each other, the last. The one that is not taken back is the test of the
application: its flag stays, and every later `SendDebug` sends it again.
-/

namespace Sc2Api

open Lib

/-! ## Commands -/

/-- A command of the debug interface, as the game gets it. -/
inductive DebugItem
  | text (text : Proto.DebugText)
  | line (line : Proto.DebugLine)
  | box (box : Proto.DebugBox)
  | sphere (sphere : Proto.DebugSphere)
  | unitValue (value : Proto.DebugSetUnitValue)
  | gameState (state : Proto.DebugGameState)
  | createUnit (unit : Proto.DebugCreateUnit)
  | killUnit (tag : Tag)
  | testProcess (test : Proto.DebugTestProcess)
  | score (score : Option CFloat)
  | endGame (endResult : Option Proto.DebugEndGame.EndResult)
  | action (action : Proto.ActionRaw)
  deriving DecidableEq, Repr

def Proto.DebugCommand.items : Proto.DebugCommand → List DebugItem
  | .draw debugDraw => debugDraw.text.map DebugItem.text ++ debugDraw.lines.map DebugItem.line ++
      debugDraw.boxes.map DebugItem.box ++ debugDraw.spheres.map DebugItem.sphere
  | .gameState state => [.gameState state]
  | .createUnit unit => [.createUnit unit]
  | .killUnit tags => tags.map DebugItem.killUnit
  | .testProcess test => [.testProcess test]
  | .score points => [.score points]
  | .endGame endResult => [.endGame endResult]
  | .unitValue value => [.unitValue value]

def DebugRequest.items : DebugRequest → List DebugItem
  | .debug commands => commands.flatMap (·.items)
  | .action request => [.action request]

def GameStateCall.state : GameStateCall → Proto.DebugGameState
  | debugShowMap => .showMap
  | debugEnemyControl => .controlEnemy
  | debugIgnoreFood => .food
  | debugIgnoreResourceCost => .free
  | debugGiveAllResources => .allResources
  | debugGodMode => .god
  | debugIgnoreMineral => .minerals
  | debugNoCooldowns => .cooldown
  | debugGiveAllTech => .techTree
  | debugGiveAllUpgrades => .upgrade
  | debugFastBuild => .fastBuild

namespace DebugCall

def isSend : DebugCall → Bool
  | sendDebug _ => true
  | _ => false

/-- The command that a call queues beside the others: none for a null unit or no units. -/
def item? : DebugCall → Option DebugItem
  | debugTextOut out color =>
    some (.text { text := some out, size := some 0, color := some color.toProto })
  | debugTextOut2D out pt color size => some (.text {
      text := some out
      size := some size
      virtualPos := some pt.toProto
      color := some color.toProto })
  | debugTextOut3D out pt color size => some (.text {
      text := some out
      size := some size
      worldPos := some pt.toProto
      color := some color.toProto })
  | debugLineOut p0 p1 color => some (.line {
      line := some { p0 := some p0.toProto, p1 := some p1.toProto }
      color := some color.toProto })
  | debugBoxOut pMin pMax color => some (.box {
      min := some pMin.toProto
      max := some pMax.toProto
      color := some color.toProto })
  | debugSphereOut p r color =>
    some (.sphere { p := some p.toProto, r := some r, color := some color.toProto })
  | gameState call => some (.gameState call.state)
  | debugSetEnergy value unit => unit.map fun tag =>
      .unitValue { unitValue := some .energy, value := some value, unitTag := some tag }
  | debugSetLife value unit => unit.map fun tag =>
      .unitValue { unitValue := some .life, value := some value, unitTag := some tag }
  | debugSetShields value unit => unit.map fun tag =>
      .unitValue { unitValue := some .shields, value := some value, unitTag := some tag }
  | debugCreateUnit unitType p playerId count =>
    if count ≥ 1 then some (.createUnit {
      unitType := some unitType
      owner := some playerId.toInt32
      pos := some p.toProto
      quantity := some count })
    else none
  | debugKillUnit unit => unit.map .killUnit
  | _ => none

/-! The commands of which the last call counts. -/

def score? : DebugCall → Option DebugItem
  | debugSetScore score => some (.score (some score))
  | _ => none

def endGame? : DebugCall → Option DebugItem
  | debugEndGame victory =>
    some (.endGame (some (if victory then .declareVictory else .surrender)))
  | _ => none

def testApp? : DebugCall → Option DebugItem
  | debugTestApp appTest delayMs =>
    some (.testProcess { test := some appTest.toProto, delayMs := some delayMs })
  | _ => none

def camera? : DebugCall → Option DebugItem
  | debugMoveCamera pos => some (.action (.cameraMove (some pos.toProto)))
  | _ => none

/-- The commands that calls queue. -/
def queued (calls : List DebugCall) : List DebugItem :=
  calls.filterMap item? ++ (lastValue score? calls).toList ++ (lastValue endGame? calls).toList ++
    (lastValue testApp? calls).toList ++ (lastValue camera? calls).toList

end DebugCall

namespace DebugImp

/-! ## What is held -/

/-- The commands in the buffers. -/
def buffered (d : DebugImp) : List DebugItem :=
  d.debugText.map (fun entry => DebugItem.text entry.toProto) ++
    d.debugLine.map (fun line => DebugItem.line line.toProto) ++
    d.debugBox.map (fun box => DebugItem.box box.toProto) ++
    d.debugSphere.map (fun sphere => DebugItem.sphere sphere.toProto) ++
    d.debugUnitValues.map (fun setUnitValue => DebugItem.unitValue setUnitValue.toProto) ++
    d.debugState.map DebugItem.gameState ++
    (d.debugUnit.filter (·.count ≥ 1)).map (fun unit => DebugItem.createUnit unit.toProto) ++
    d.debugKillTag.map DebugItem.killUnit

def heldScore (d : DebugImp) : Option DebugItem :=
  if d.setScore then some (.score (some d.score)) else none

def heldEndGame (d : DebugImp) : List DebugItem :=
  (if d.endgameSurrender then [.endGame (some .surrender)] else []) ++
    (if d.endgameVictory then [.endGame (some .declareVictory)] else [])

def heldTest (d : DebugImp) : Option DebugItem :=
  if d.appTestSet then
    some (.testProcess { test := some d.appTest.toProto, delayMs := some d.appTestDelayMs })
  else none

def heldCamera (d : DebugImp) : Option DebugItem :=
  if d.hasMoveCamera then some (.action (.cameraMove (some d.moveCamera.toProto))) else none

/-- The request has what the buffers and the flags hold. -/
theorem items_commands (d : DebugImp) :
    d.commands.flatMap (·.items) =
      d.buffered ++ d.heldTest.toList ++ d.heldScore.toList ++ d.heldEndGame := by
  have hkill : (if d.debugKillTag.length > 0 then
      [Proto.DebugCommand.killUnit d.debugKillTag] else []).flatMap (·.items) =
        d.debugKillTag.map .killUnit := by
    cases d.debugKillTag <;> simp [Proto.DebugCommand.items]
  have htest : (if d.appTestSet then [Proto.DebugCommand.testProcess
      { test := some d.appTest.toProto, delayMs := some d.appTestDelayMs }]
      else []).flatMap (·.items) = d.heldTest.toList := by
    unfold heldTest
    cases d.appTestSet <;> rfl
  have hscore : (if d.setScore then
      [Proto.DebugCommand.score (some d.score)] else []).flatMap (·.items) =
        d.heldScore.toList := by
    unfold heldScore
    cases d.setScore <;> rfl
  have hsurrender : (if d.endgameSurrender then
      [Proto.DebugCommand.endGame (some .surrender)] else []).flatMap (·.items) =
        if d.endgameSurrender then [.endGame (some .surrender)] else [] := by
    cases d.endgameSurrender <;> rfl
  have hvictory : (if d.endgameVictory then
      [Proto.DebugCommand.endGame (some .declareVictory)] else []).flatMap (·.items) =
        if d.endgameVictory then [.endGame (some .declareVictory)] else [] := by
    cases d.endgameVictory <;> rfl
  unfold commands buffered heldEndGame
  simp only [List.flatMap_append, hkill, htest, hscore, hsurrender, hvictory]
  simp only [List.flatMap_map, Proto.DebugCommand.items, List.map_cons, List.map_nil,
    List.append_nil, List.nil_append, List.append_assoc, ← List.map_eq_flatMap]

/-! ## What a call adds -/

section Buffers

variable (d : DebugImp)

theorem buffered_debugText (entry : DebugText) :
    ({ d with debugText := d.debugText ++ [entry] } : DebugImp).buffered.Perm
      (d.buffered ++ [.text entry.toProto]) := by
  rw [← Multiset.coe_eq_coe]
  simp only [buffered, List.map_append, List.map_cons, List.map_nil, ← Multiset.coe_add]
  abel

theorem buffered_debugLine (line : DebugLine) :
    ({ d with debugLine := d.debugLine ++ [line] } : DebugImp).buffered.Perm
      (d.buffered ++ [.line line.toProto]) := by
  rw [← Multiset.coe_eq_coe]
  simp only [buffered, List.map_append, List.map_cons, List.map_nil, ← Multiset.coe_add]
  abel

theorem buffered_debugBox (box : DebugBox) :
    ({ d with debugBox := d.debugBox ++ [box] } : DebugImp).buffered.Perm
      (d.buffered ++ [.box box.toProto]) := by
  rw [← Multiset.coe_eq_coe]
  simp only [buffered, List.map_append, List.map_cons, List.map_nil, ← Multiset.coe_add]
  abel

theorem buffered_debugSphere (sphere : DebugSphere) :
    ({ d with debugSphere := d.debugSphere ++ [sphere] } : DebugImp).buffered.Perm
      (d.buffered ++ [.sphere sphere.toProto]) := by
  rw [← Multiset.coe_eq_coe]
  simp only [buffered, List.map_append, List.map_cons, List.map_nil, ← Multiset.coe_add]
  abel

theorem buffered_pushState (state : Proto.DebugGameState) :
    (d.pushState state).buffered.Perm (d.buffered ++ [.gameState state]) := by
  rw [← Multiset.coe_eq_coe]
  simp only [buffered, pushState, List.map_append, List.map_cons, List.map_nil,
    ← Multiset.coe_add]
  abel

theorem buffered_pushUnitValue (unitValue : UnitValue) (value : CFloat) (unit : Option Tag) :
    (d.pushUnitValue unitValue value unit).buffered.Perm
      (d.buffered ++ (unit.map fun tag => DebugItem.unitValue {
        unitValue := some unitValue.toProto
        value := some value
        unitTag := some tag }).toList) := by
  cases unit with
  | none => exact List.Perm.of_eq (List.append_nil _).symm
  | some tag =>
    rw [← Multiset.coe_eq_coe]
    simp only [buffered, pushUnitValue, List.map_append, List.map_cons, List.map_nil,
      Option.map_some, Option.toList_some, ← Multiset.coe_add, DebugSetUnitValue.toProto]
    abel

theorem buffered_debugCreateUnit (unitType : UnitTypeID) (p : Point2D) (playerId count : UInt32) :
    (d.debugCreateUnit unitType p playerId count).buffered.Perm
      (d.buffered ++ (DebugCall.debugCreateUnit unitType p playerId count).item?.toList) := by
  rw [← Multiset.coe_eq_coe]
  unfold DebugCall.item?
  by_cases hcount : count ≥ 1
  · simp only [buffered, debugCreateUnit, List.filter_append, List.filter_cons, hcount,
      decide_true, if_true, List.filter_nil, List.map_append, List.map_cons, List.map_nil,
      Option.toList_some, ← Multiset.coe_add, DebugUnit.toProto]
    abel
  · simp only [buffered, debugCreateUnit, List.filter_append, List.filter_cons, hcount,
      decide_false, Bool.false_eq_true, if_false, List.filter_nil, List.append_nil,
      Option.toList_none]

theorem buffered_debugKillUnit (unit : Option Tag) :
    (d.debugKillUnit unit).buffered.Perm (d.buffered ++ (unit.map .killUnit).toList) := by
  cases unit with
  | none => exact List.Perm.of_eq (List.append_nil _).symm
  | some tag =>
    rw [← Multiset.coe_eq_coe]
    simp only [buffered, debugKillUnit, List.map_append, List.map_cons, List.map_nil,
      Option.map_some, Option.toList_some, ← Multiset.coe_add]
    abel

end Buffers

/-- A call queues its command, or replaces one of its kind. -/
structure Queues (d d' : DebugImp) (call : DebugCall) : Prop where
  buffered : d'.buffered.Perm (d.buffered ++ call.item?.toList)
  score : d'.heldScore = call.score?.or d.heldScore
  endGame : d'.heldEndGame = (call.endGame?.map fun item => [item]).getD d.heldEndGame
  test : d'.heldTest = call.testApp?.or d.heldTest
  camera : d'.heldCamera = call.camera?.or d.heldCamera

/-- A call that only adds to the buffers. -/
theorem Queues.of_buffered {d d' : DebugImp} {call : DebugCall}
    (buffered : d'.buffered.Perm (d.buffered ++ call.item?.toList))
    (flags : d'.heldScore = d.heldScore ∧ d'.heldEndGame = d.heldEndGame ∧
      d'.heldTest = d.heldTest ∧ d'.heldCamera = d.heldCamera)
    (others : call.score? = none ∧ call.endGame? = none ∧ call.testApp? = none ∧
      call.camera? = none) : Queues d d' call := by
  obtain ⟨hscore, hendGame, htest, hcamera⟩ := flags
  obtain ⟨hscore?, hendGame?, htestApp?, hcamera?⟩ := others
  refine ⟨buffered, ?_, ?_, ?_, ?_⟩
  · rw [hscore, hscore?, Option.none_or]
  · rw [hendGame, hendGame?]
    rfl
  · rw [htest, htestApp?, Option.none_or]
  · rw [hcamera, hcamera?, Option.none_or]

theorem step_queues (d : DebugImp) {call : DebugCall} (h : ¬call.isSend = true) :
    Queues d (debugMachine.step d call).1 call := by
  cases call with
  | debugTextOut out color =>
    exact .of_buffered (d.buffered_debugText _) ⟨rfl, rfl, rfl, rfl⟩ ⟨rfl, rfl, rfl, rfl⟩
  | debugTextOut2D out pt color size =>
    exact .of_buffered (d.buffered_debugText _) ⟨rfl, rfl, rfl, rfl⟩ ⟨rfl, rfl, rfl, rfl⟩
  | debugTextOut3D out pt color size =>
    exact .of_buffered (d.buffered_debugText _) ⟨rfl, rfl, rfl, rfl⟩ ⟨rfl, rfl, rfl, rfl⟩
  | debugLineOut p0 p1 color =>
    exact .of_buffered (d.buffered_debugLine _) ⟨rfl, rfl, rfl, rfl⟩ ⟨rfl, rfl, rfl, rfl⟩
  | debugBoxOut pMin pMax color =>
    exact .of_buffered (d.buffered_debugBox _) ⟨rfl, rfl, rfl, rfl⟩ ⟨rfl, rfl, rfl, rfl⟩
  | debugSphereOut p r color =>
    exact .of_buffered (d.buffered_debugSphere _) ⟨rfl, rfl, rfl, rfl⟩ ⟨rfl, rfl, rfl, rfl⟩
  | gameState call =>
    cases call <;>
      exact .of_buffered (d.buffered_pushState _) ⟨rfl, rfl, rfl, rfl⟩ ⟨rfl, rfl, rfl, rfl⟩
  | debugSetScore score => exact ⟨List.Perm.of_eq (List.append_nil _).symm, rfl, rfl, rfl, rfl⟩
  | debugEndGame victory =>
    cases victory <;> exact ⟨List.Perm.of_eq (List.append_nil _).symm, rfl, rfl, rfl, rfl⟩
  | debugSetEnergy value unit =>
    refine .of_buffered (d.buffered_pushUnitValue .energy value unit) ?_ ⟨rfl, rfl, rfl, rfl⟩
    cases unit <;> exact ⟨rfl, rfl, rfl, rfl⟩
  | debugSetLife value unit =>
    refine .of_buffered (d.buffered_pushUnitValue .life value unit) ?_ ⟨rfl, rfl, rfl, rfl⟩
    cases unit <;> exact ⟨rfl, rfl, rfl, rfl⟩
  | debugSetShields value unit =>
    refine .of_buffered (d.buffered_pushUnitValue .shields value unit) ?_ ⟨rfl, rfl, rfl, rfl⟩
    cases unit <;> exact ⟨rfl, rfl, rfl, rfl⟩
  | debugCreateUnit unitType p playerId count =>
    exact .of_buffered (d.buffered_debugCreateUnit unitType p playerId count)
      ⟨rfl, rfl, rfl, rfl⟩ ⟨rfl, rfl, rfl, rfl⟩
  | debugKillUnit unit =>
    refine .of_buffered (d.buffered_debugKillUnit unit) ?_ ⟨rfl, rfl, rfl, rfl⟩
    cases unit <;> exact ⟨rfl, rfl, rfl, rfl⟩
  | debugMoveCamera pos => exact ⟨List.Perm.of_eq (List.append_nil _).symm, rfl, rfl, rfl, rfl⟩
  | debugTestApp appTest delayMs =>
    exact ⟨List.Perm.of_eq (List.append_nil _).symm, rfl, rfl, rfl, rfl⟩
  | sendDebug c => exact absurd rfl h

/-! ## What a `SendDebug` sends -/

/-- The requests of `SendDebug` go out. -/
def Sends (d : DebugImp) (c : Control) : Prop :=
  (c.sendRequest .debug).1 = true ∧ (d.hasMoveCamera = true →
    ((c.sendRequest .debug).2.waitForResponse.2.sendRequest .action).1 = true)

instance (d : DebugImp) (c : Control) : Decidable (d.Sends c) :=
  inferInstanceAs (Decidable (_ ∧ _))

/-- `sendDebug` talks to the game as `Control.sendDebug` does. -/
theorem sendDebug_control (d : DebugImp) (c : Control) :
    (d.sendDebug c).2.2 = c.sendDebug d.hasMoveCamera := by
  cases hcamera : d.hasMoveCamera <;>
    simp [sendDebug, Control.sendDebug, cleared, hcamera]

theorem sendDebug_next (d : DebugImp) (c : Control) :
    (d.sendDebug c).2.1 = { d.cleared with hasMoveCamera := false } := by
  cases hcamera : d.hasMoveCamera <;> simp [sendDebug, cleared, hcamera]

theorem sendDebug_items {d : DebugImp} {c : Control} (h : d.Sends c) :
    (d.sendDebug c).1.flatMap (·.items) =
      d.commands.flatMap (·.items) ++ d.heldCamera.toList := by
  obtain ⟨hdebug, haction⟩ := h
  cases hcamera : d.hasMoveCamera with
  | false => simp [sendDebug, cleared, heldCamera, hcamera, hdebug, DebugRequest.items]
  | true =>
    simp [sendDebug, cleared, heldCamera, hcamera, hdebug, haction hcamera, DebugRequest.items]

/-! ## Runs -/

open DebugCall in
/-- What is held is what was queued since the last `SendDebug`, and the last test of all. -/
structure Holds (d : DebugImp) (calls : List DebugCall) : Prop where
  buffered : d.buffered.Perm ((since isSend calls).filterMap item?)
  score : d.heldScore = lastValue score? (since isSend calls)
  endGame : d.heldEndGame = (lastValue endGame? (since isSend calls)).toList
  test : d.heldTest = lastValue testApp? calls
  camera : d.heldCamera = lastValue camera? (since isSend calls)

theorem Holds.nil : Holds {} [] := ⟨List.Perm.refl _, rfl, rfl, rfl, rfl⟩

theorem Holds.sendDebug {d : DebugImp} {calls : List DebugCall} (h : Holds d calls)
    (c : Control) : Holds (d.sendDebug c).2.1 (calls ++ [.sendDebug c]) := by
  rw [sendDebug_next]
  have hsend : (DebugCall.sendDebug c).isSend = true := rfl
  refine ⟨?_, ?_, ?_, ?_, ?_⟩
  · rw [since_concat_of_pos hsend]
    exact List.Perm.refl _
  · rw [since_concat_of_pos hsend]
    rfl
  · rw [since_concat_of_pos hsend]
    rfl
  · rw [lastValue_concat]
    exact h.test
  · rw [since_concat_of_pos hsend]
    rfl

theorem Holds.queues {d d' : DebugImp} {calls : List DebugCall} {call : DebugCall}
    (h : Holds d calls) (hqueues : Queues d d' call) (hcall : ¬call.isSend = true) :
    Holds d' (calls ++ [call]) := by
  refine ⟨?_, ?_, ?_, ?_, ?_⟩
  · rw [since_concat_of_neg hcall, List.filterMap_append]
    refine (hqueues.buffered.trans (h.buffered.append_right _)).trans (List.Perm.of_eq ?_)
    rw [List.filterMap_cons]
    cases call.item? <;> rfl
  · rw [since_concat_of_neg hcall, lastValue_concat, hqueues.score, h.score]
  · rw [since_concat_of_neg hcall, lastValue_concat, hqueues.endGame, h.endGame]
    cases call.endGame? <;> rfl
  · rw [lastValue_concat, hqueues.test, h.test]
  · rw [since_concat_of_neg hcall, lastValue_concat, hqueues.camera, h.camera]

theorem Holds.step {d : DebugImp} {calls : List DebugCall} (h : Holds d calls)
    (call : DebugCall) : Holds (debugMachine.step d call).1 (calls ++ [call]) := by
  by_cases hcall : call.isSend = true
  · cases call with
    | sendDebug c => exact h.sendDebug c
    | _ => cases hcall
  · exact h.queues (step_queues d hcall) hcall

theorem holds_final (calls : List DebugCall) : Holds (debugMachine.final {} calls) calls := by
  induction calls using List.reverseRecOn with
  | nil => exact .nil
  | append_singleton calls call ih =>
    rw [Machine.final_concat]
    exact ih.step call

/-- The requests of a `SendDebug` have what was queued, if the test held is one of it. -/
theorem sendDebug_perm_iff {d : DebugImp} {calls : List DebugCall} {c : Control}
    (h : Holds d calls) (hsends : d.Sends c) :
    ((d.sendDebug c).1.flatMap (·.items)).Perm (DebugCall.queued (since DebugCall.isSend calls)) ↔
      lastValue DebugCall.testApp? calls =
        lastValue DebugCall.testApp? (since DebugCall.isSend calls) := by
  rw [sendDebug_items hsends, items_commands, h.score, h.endGame, h.test, h.camera,
    ← Multiset.coe_eq_coe]
  unfold DebugCall.queued
  simp only [← Multiset.coe_add, Multiset.coe_eq_coe.2 h.buffered]
  generalize (lastValue DebugCall.testApp? calls) = held
  generalize (lastValue DebugCall.testApp? (since DebugCall.isSend calls)) = queued
  -- The test is the third of the commands sent, and the fourth of those queued.
  constructor
  · intro heq
    rw [add_right_comm _ (held.toList : Multiset DebugItem),
      add_right_comm _ (held.toList : Multiset DebugItem)] at heq
    exact eq_of_toList_perm (Multiset.coe_eq_coe.1 (add_left_cancel (add_right_cancel heq)))
  · rintro rfl
    abel

end DebugImp

namespace DebugCall

/-- Every request of the call goes out. -/
def Sends (d : DebugImp) : DebugCall → Prop
  | sendDebug c => d.Sends c
  | _ => True

instance decidableSends (d : DebugImp) : ∀ call : DebugCall, Decidable (call.Sends d)
  | sendDebug c => inferInstanceAs (Decidable (d.Sends c))
  | debugTextOut .. | debugTextOut2D .. | debugTextOut3D .. | debugLineOut .. | debugBoxOut ..
  | debugSphereOut .. | gameState _ | debugSetScore _ | debugEndGame _ | debugSetEnergy ..
  | debugSetLife .. | debugSetShields .. | debugCreateUnit .. | debugKillUnit _
  | debugMoveCamera _ | debugTestApp .. => isTrue trivial

/-- The requests of every `SendDebug` have the commands queued since the one before, each as
often as it was queued, and no others. -/
def SendsQueued (calls : List DebugCall) : Prop :=
  ∀ k c, calls[k]? = some (sendDebug c) →
    ∃ requests : List DebugRequest, (debugMachine.outputs {} calls)[k]? = some requests ∧
      (requests.flatMap (·.items)).Perm (queued (since isSend (calls.take k)))

/-- Before a `SendDebug`, a test of the application has been asked for since the last one, if
ever. -/
def TestsRenewed (calls : List DebugCall) : Prop :=
  ∀ k c, calls[k]? = some (sendDebug c) → (∃ call ∈ calls.take k, call.testApp?.isSome) →
    ∃ call ∈ since isSend (calls.take k), call.testApp?.isSome

theorem any_isSend_iff {call : Option DebugCall} :
    call.any isSend = true ↔ ∃ c, call = some (sendDebug c) := by
  constructor
  · intro h
    obtain ⟨call, rfl, hsend⟩ := (Option.any_eq_true _ _).1 h
    cases call with
    | sendDebug c => exact ⟨c, rfl⟩
    | _ => cases hsend
  · rintro ⟨c, rfl⟩
    rfl

instance (calls : List DebugCall) : Decidable (TestsRenewed calls) :=
  decidable_of_iff (∀ k < calls.length, calls[k]?.any isSend = true →
      (∃ call ∈ calls.take k, call.testApp?.isSome) →
        ∃ call ∈ since isSend (calls.take k), call.testApp?.isSome) <| by
    simp only [any_isSend_iff]
    exact ⟨fun h k c hk => h k (List.getElem?_eq_some_iff.1 hk).1 ⟨c, hk⟩,
      fun h k _ ⟨c, hk⟩ => h k c hk⟩

/-- A test of the application is sent again by every `SendDebug` that follows, so what is sent
is what was queued only as long as every `SendDebug` has a new one. -/
theorem sends_queued_iff (calls : List DebugCall)
    (h : debugMachine.Along (fun d call => call.Sends d) {} calls) :
    SendsQueued calls ↔ TestsRenewed calls := by
  refine forall_congr' fun k => forall_congr' fun c => forall_congr' fun hk => ?_
  have hsends : (debugMachine.final {} (calls.take k)).Sends c := h.of_getElem? hk
  rw [Machine.outputs_getElem?, hk, Option.map_some, ← lastValue_eq_iff_of_suffix
    (since_suffix isSend (calls.take k)),
    ← DebugImp.sendDebug_perm_iff (DebugImp.holds_final (calls.take k)) hsends]
  constructor
  · rintro ⟨requests, hrequests, hperm⟩
    obtain rfl := Option.some.inj hrequests
    exact hperm
  · exact fun hperm => ⟨_, rfl, hperm⟩

/-- A client whose game answers. -/
def answered : Control where
  proto := { world := { deliveries := .const { waiting := [.answer {}] } } }

theorem sends_queued_renewed : SendsQueued [
    debugTestApp .exit 50, debugMoveCamera ⟨30, 40⟩, gameState .debugShowMap,
    sendDebug answered, debugKillUnit (some 7), debugTestApp .hang 0, debugSetScore 100,
    sendDebug (answered.sendDebug true)] :=
  (sends_queued_iff _ (by decide +kernel)).2 (by decide +kernel)

/-- One crash is asked for, and two are sent. -/
theorem test_sent_again :
    debugMachine.Along (fun d call => call.Sends d) {} [debugTestApp .crash 0,
      sendDebug answered, sendDebug (answered.sendDebug false)] ∧
    ¬ SendsQueued [debugTestApp .crash 0, sendDebug answered,
      sendDebug (answered.sendDebug false)] := by
  refine ⟨by decide +kernel, fun h => ?_⟩
  obtain ⟨requests, hrequests, hperm⟩ := h 2 _ rfl
  obtain rfl := Option.some.inj hrequests
  exact absurd hperm.length_eq (by decide +kernel)

end DebugCall

end Sc2Api
