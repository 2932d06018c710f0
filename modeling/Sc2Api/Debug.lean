import Sc2Api.Control

/-!
# The debug interface

`DebugImp` queues what a bot wants drawn, set, created, killed or tested, and `SendDebug`
makes one request of it, and a second one when the camera is to move. A `Unit*` argument is
the tag it points to, `none` for a null pointer. A member the constructor leaves unset is
only read after a call has set it.
-/

namespace Sc2Api

open Lib

/-! ## Messages -/

namespace Proto

structure Color where
  r : Option UInt32 := none
  g : Option UInt32 := none
  b : Option UInt32 := none
  deriving DecidableEq, Repr

structure DebugText where
  color : Option Color := none
  text : Option String := none
  virtualPos : Option Point := none
  worldPos : Option Point := none
  size : Option UInt32 := none
  deriving DecidableEq, Repr

structure Line where
  p0 : Option Point := none
  p1 : Option Point := none
  deriving DecidableEq, Repr

structure DebugLine where
  color : Option Color := none
  line : Option Line := none
  deriving DecidableEq, Repr

structure DebugBox where
  color : Option Color := none
  min : Option Point := none
  max : Option Point := none
  deriving DecidableEq, Repr

structure DebugSphere where
  color : Option Color := none
  p : Option Point := none
  r : Option CFloat := none
  deriving DecidableEq, Repr

structure DebugDraw where
  text : List DebugText := []
  lines : List DebugLine := []
  boxes : List DebugBox := []
  spheres : List DebugSphere := []
  deriving DecidableEq, Repr

inductive DebugGameState
  | showMap
  | controlEnemy
  | food
  | free
  | allResources
  | god
  | minerals
  | gas
  | cooldown
  | techTree
  | upgrade
  | fastBuild
  deriving DecidableEq, Repr

structure DebugCreateUnit where
  unitType : Option UInt32 := none
  owner : Option Int32 := none
  pos : Option Point := none
  quantity : Option UInt32 := none
  deriving DecidableEq, Repr

inductive DebugTestProcess.Test
  | hang
  | crash
  | exit
  deriving DecidableEq, Repr

structure DebugTestProcess where
  test : Option DebugTestProcess.Test := none
  delayMs : Option Int32 := none
  deriving DecidableEq, Repr

inductive DebugEndGame.EndResult
  | surrender
  | declareVictory
  deriving DecidableEq, Repr

inductive DebugSetUnitValue.UnitValue
  | energy
  | life
  | shields
  deriving DecidableEq, Repr

structure DebugSetUnitValue where
  unitValue : Option DebugSetUnitValue.UnitValue := none
  value : Option CFloat := none
  unitTag : Option Tag := none
  deriving DecidableEq, Repr

/-- The `oneof command` of `DebugCommand`. -/
inductive DebugCommand
  | draw (draw : DebugDraw)
  | gameState (state : DebugGameState)
  | createUnit (unit : DebugCreateUnit)
  | killUnit (tag : List Tag)
  | testProcess (test : DebugTestProcess)
  | score (score : Option CFloat)
  | endGame (endResult : Option DebugEndGame.EndResult)
  | unitValue (value : DebugSetUnitValue)
  deriving DecidableEq, Repr

end Proto

/-! ## Buffers -/

structure Color where
  r : UInt8 := 255
  g : UInt8 := 255
  b : UInt8 := 255
  deriving DecidableEq, Repr

def Color.toProto (color : Color) : Proto.Color where
  r := some color.r.toUInt32
  g := some color.g.toUInt32
  b := some color.b.toUInt32

def Point2D.toProto (p : Point2D) : Proto.Point := { x := some p.x, y := some p.y }

def Point3D.toProto (p : Point3D) : Proto.Point := { x := some p.x, y := some p.y, z := some p.z }

structure DebugText where
  text : String
  hasCoords : Bool
  is3d : Bool := false
  pt : Point3D := {}
  color : Color
  size : UInt32 := 0
  deriving DecidableEq, Repr

structure DebugLine where
  p0 : Point3D
  p1 : Point3D
  color : Color
  deriving DecidableEq, Repr

structure DebugBox where
  pMin : Point3D
  pMax : Point3D
  color : Color
  deriving DecidableEq, Repr

structure DebugSphere where
  p : Point3D
  r : CFloat
  color : Color
  deriving DecidableEq, Repr

inductive UnitValue
  | energy
  | life
  | shields
  deriving DecidableEq, Repr

structure DebugSetUnitValue where
  unitValue : UnitValue
  value : CFloat
  tag : Tag
  deriving DecidableEq, Repr

structure DebugUnit where
  unitType : UnitTypeID
  pos : Point2D
  playerId : UInt32
  count : UInt32
  deriving DecidableEq, Repr

inductive AppTest
  | hang
  | crash
  | exit
  deriving DecidableEq, Repr

structure DebugImp where
  debugText : List DebugText := []
  debugLine : List DebugLine := []
  debugBox : List DebugBox := []
  debugSphere : List DebugSphere := []
  debugState : List Proto.DebugGameState := []
  debugUnitValues : List DebugSetUnitValue := []
  debugUnit : List DebugUnit := []
  debugKillTag : List Tag := []
  hasMoveCamera : Bool := false
  moveCamera : Point2D := {}
  appTestSet : Bool := false
  appTest : AppTest := .hang
  appTestDelayMs : Int32 := 0
  endgameSurrender : Bool := false
  endgameVictory : Bool := false
  setScore : Bool := false
  score : CFloat := 0
  deriving DecidableEq, Repr

namespace DebugImp

/-! ## Queueing -/

/-- `DebugTextOut` at the top left of the screen. -/
def debugTextOut (d : DebugImp) (out : String) (color : Color) : DebugImp :=
  { d with debugText := d.debugText ++ [{ text := out, hasCoords := false, color }] }

/-- `DebugTextOut` at a point of the screen. -/
def debugTextOut2D (d : DebugImp) (out : String) (pt : Point2D) (color : Color) (size : UInt32) :
    DebugImp :=
  { d with debugText := d.debugText ++
    [{ text := out, hasCoords := true, is3d := false, pt := ⟨pt.x, pt.y, 0⟩, color, size }] }

/-- `DebugTextOut` at a point of the world. -/
def debugTextOut3D (d : DebugImp) (out : String) (pt : Point3D) (color : Color) (size : UInt32) :
    DebugImp :=
  { d with debugText := d.debugText ++
    [{ text := out, hasCoords := true, is3d := true, pt, color, size }] }

def debugLineOut (d : DebugImp) (p0 p1 : Point3D) (color : Color) : DebugImp :=
  { d with debugLine := d.debugLine ++ [⟨p0, p1, color⟩] }

def debugBoxOut (d : DebugImp) (pMin pMax : Point3D) (color : Color) : DebugImp :=
  { d with debugBox := d.debugBox ++ [⟨pMin, pMax, color⟩] }

def debugSphereOut (d : DebugImp) (p : Point3D) (r : CFloat) (color : Color) : DebugImp :=
  { d with debugSphere := d.debugSphere ++ [⟨p, r, color⟩] }

/-- What the toggles of the game state have in common. -/
def pushState (d : DebugImp) (state : Proto.DebugGameState) : DebugImp :=
  { d with debugState := d.debugState ++ [state] }

def debugShowMap (d : DebugImp) : DebugImp := d.pushState .showMap
def debugEnemyControl (d : DebugImp) : DebugImp := d.pushState .controlEnemy
def debugIgnoreFood (d : DebugImp) : DebugImp := d.pushState .food
def debugIgnoreResourceCost (d : DebugImp) : DebugImp := d.pushState .free
def debugGiveAllResources (d : DebugImp) : DebugImp := d.pushState .allResources
def debugGodMode (d : DebugImp) : DebugImp := d.pushState .god
def debugIgnoreMineral (d : DebugImp) : DebugImp := d.pushState .minerals
def debugNoCooldowns (d : DebugImp) : DebugImp := d.pushState .cooldown
def debugGiveAllTech (d : DebugImp) : DebugImp := d.pushState .techTree
def debugGiveAllUpgrades (d : DebugImp) : DebugImp := d.pushState .upgrade
def debugFastBuild (d : DebugImp) : DebugImp := d.pushState .fastBuild

def debugSetScore (d : DebugImp) (score : CFloat) : DebugImp :=
  { d with setScore := true, score }

def debugEndGame (d : DebugImp) (victory : Bool) : DebugImp :=
  if victory then { d with endgameSurrender := false, endgameVictory := true }
  else { d with endgameSurrender := true, endgameVictory := false }

/-- What the setters of unit values have in common. -/
def pushUnitValue (d : DebugImp) (unitValue : UnitValue) (value : CFloat) (unit : Option Tag) :
    DebugImp :=
  match unit with
  | none => d
  | some tag => { d with debugUnitValues := d.debugUnitValues ++ [⟨unitValue, value, tag⟩] }

def debugSetEnergy (d : DebugImp) (value : CFloat) (unit : Option Tag) : DebugImp :=
  d.pushUnitValue .energy value unit

def debugSetLife (d : DebugImp) (value : CFloat) (unit : Option Tag) : DebugImp :=
  d.pushUnitValue .life value unit

def debugSetShields (d : DebugImp) (value : CFloat) (unit : Option Tag) : DebugImp :=
  d.pushUnitValue .shields value unit

def debugCreateUnit (d : DebugImp) (unitType : UnitTypeID) (p : Point2D) (playerId : UInt32)
    (count : UInt32) : DebugImp :=
  { d with debugUnit := d.debugUnit ++ [⟨unitType, p, playerId, count⟩] }

def debugKillUnit (d : DebugImp) (unit : Option Tag) : DebugImp :=
  match unit with
  | none => d
  | some tag => { d with debugKillTag := d.debugKillTag ++ [tag] }

/-- `moveCamera` is the member `debug_move_camera_`. -/
def debugMoveCamera (d : DebugImp) (pos : Point2D) : DebugImp :=
  { d with hasMoveCamera := true, moveCamera := pos }

def debugTestApp (d : DebugImp) (appTest : AppTest) (delayMs : Int32) : DebugImp :=
  { d with appTestSet := true, appTest, appTestDelayMs := delayMs }

end DebugImp

/-! ## The request -/

def DebugText.toProto (entry : DebugText) : Proto.DebugText where
  text := some entry.text
  size := some entry.size
  worldPos := if entry.hasCoords && entry.is3d then some entry.pt.toProto else none
  virtualPos :=
    if entry.hasCoords && !entry.is3d then some { x := some entry.pt.x, y := some entry.pt.y }
    else none
  color := some entry.color.toProto

def DebugLine.toProto (line : DebugLine) : Proto.DebugLine where
  line := some { p0 := some line.p0.toProto, p1 := some line.p1.toProto }
  color := some line.color.toProto

def DebugBox.toProto (box : DebugBox) : Proto.DebugBox where
  min := some box.pMin.toProto
  max := some box.pMax.toProto
  color := some box.color.toProto

def DebugSphere.toProto (sphere : DebugSphere) : Proto.DebugSphere where
  p := some sphere.p.toProto
  r := some sphere.r
  color := some sphere.color.toProto

def UnitValue.toProto : UnitValue → Proto.DebugSetUnitValue.UnitValue
  | .energy => .energy
  | .life => .life
  | .shields => .shields

def DebugSetUnitValue.toProto (setUnitValue : DebugSetUnitValue) : Proto.DebugSetUnitValue where
  unitValue := some setUnitValue.unitValue.toProto
  value := some setUnitValue.value
  unitTag := some setUnitValue.tag

def DebugUnit.toProto (unit : DebugUnit) : Proto.DebugCreateUnit where
  unitType := some unit.unitType
  owner := some unit.playerId.toInt32
  pos := some unit.pos.toProto
  quantity := some unit.count

/-- The `static_cast`: the enumerators have the same numbers. -/
def AppTest.toProto : AppTest → Proto.DebugTestProcess.Test
  | .hang => .hang
  | .crash => .crash
  | .exit => .exit

/-- A request that `SendDebug` makes. -/
inductive DebugRequest
  | debug (commands : List Proto.DebugCommand)
  | action (action : Proto.ActionRaw)
  deriving DecidableEq, Repr

namespace DebugImp

/-- The commands of the request, in the order in which the buffers are walked. -/
def commands (d : DebugImp) : List Proto.DebugCommand :=
  d.debugText.map (fun entry => Proto.DebugCommand.draw { text := [entry.toProto] }) ++
    d.debugLine.map (fun line => Proto.DebugCommand.draw { lines := [line.toProto] }) ++
    d.debugBox.map (fun box => Proto.DebugCommand.draw { boxes := [box.toProto] }) ++
    d.debugSphere.map (fun sphere => Proto.DebugCommand.draw { spheres := [sphere.toProto] }) ++
    d.debugUnitValues.map
      (fun setUnitValue => Proto.DebugCommand.unitValue setUnitValue.toProto) ++
    d.debugState.map Proto.DebugCommand.gameState ++
    (d.debugUnit.filter (·.count ≥ 1)).map
      (fun unit => Proto.DebugCommand.createUnit unit.toProto) ++
    (if d.debugKillTag.length > 0 then [Proto.DebugCommand.killUnit d.debugKillTag] else []) ++
    (if d.appTestSet then
      [Proto.DebugCommand.testProcess
        { test := some d.appTest.toProto, delayMs := some d.appTestDelayMs }]
      else []) ++
    (if d.setScore then [Proto.DebugCommand.score (some d.score)] else []) ++
    (if d.endgameSurrender then [Proto.DebugCommand.endGame (some .surrender)] else []) ++
    (if d.endgameVictory then [Proto.DebugCommand.endGame (some .declareVictory)] else [])

/-- The members after the first request: those of the application test stay. -/
def cleared (d : DebugImp) : DebugImp :=
  { d with
    setScore := false
    score := 0
    endgameSurrender := false
    endgameVictory := false
    debugText := []
    debugLine := []
    debugBox := []
    debugSphere := []
    debugState := []
    debugUnit := []
    debugKillTag := []
    debugUnitValues := [] }

/-- `SendDebug` of a client `c`: the requests it sent, and what became of both. The results of
`SendRequest` are not looked at. -/
def sendDebug (d : DebugImp) (c : Control) : List DebugRequest × DebugImp × Control :=
  let (sent, c) := c.sendRequest .debug
  let requests := if sent then [DebugRequest.debug d.commands] else []
  let d := d.cleared
  let c := c.waitForResponse.2
  if d.hasMoveCamera then
    let camera := Proto.ActionRaw.cameraMove (some d.moveCamera.toProto)
    let (sent, c) := c.sendRequest .action
    (requests ++ (if sent then [.action camera] else []), { d with hasMoveCamera := false },
      c.waitForResponse.2)
  else (requests, d, c)

end DebugImp

/-! ## Calls -/

/-- The toggles of the game state. -/
inductive GameStateCall
  | debugShowMap
  | debugEnemyControl
  | debugIgnoreFood
  | debugIgnoreResourceCost
  | debugGiveAllResources
  | debugGodMode
  | debugIgnoreMineral
  | debugNoCooldowns
  | debugGiveAllTech
  | debugGiveAllUpgrades
  | debugFastBuild
  deriving DecidableEq, Repr

def DebugImp.gameState (d : DebugImp) : GameStateCall → DebugImp
  | .debugShowMap => d.debugShowMap
  | .debugEnemyControl => d.debugEnemyControl
  | .debugIgnoreFood => d.debugIgnoreFood
  | .debugIgnoreResourceCost => d.debugIgnoreResourceCost
  | .debugGiveAllResources => d.debugGiveAllResources
  | .debugGodMode => d.debugGodMode
  | .debugIgnoreMineral => d.debugIgnoreMineral
  | .debugNoCooldowns => d.debugNoCooldowns
  | .debugGiveAllTech => d.debugGiveAllTech
  | .debugGiveAllUpgrades => d.debugGiveAllUpgrades
  | .debugFastBuild => d.debugFastBuild

/-- What a bot can do with its `DebugInterface`. The client at the time of a `SendDebug` may
be in any state. -/
inductive DebugCall
  | debugTextOut (out : String) (color : Color)
  | debugTextOut2D (out : String) (pt : Point2D) (color : Color) (size : UInt32)
  | debugTextOut3D (out : String) (pt : Point3D) (color : Color) (size : UInt32)
  | debugLineOut (p0 p1 : Point3D) (color : Color)
  | debugBoxOut (pMin pMax : Point3D) (color : Color)
  | debugSphereOut (p : Point3D) (r : CFloat) (color : Color)
  | gameState (call : GameStateCall)
  | debugSetScore (score : CFloat)
  | debugEndGame (victory : Bool)
  | debugSetEnergy (value : CFloat) (unit : Option Tag)
  | debugSetLife (value : CFloat) (unit : Option Tag)
  | debugSetShields (value : CFloat) (unit : Option Tag)
  | debugCreateUnit (unitType : UnitTypeID) (p : Point2D) (playerId : UInt32) (count : UInt32)
  | debugKillUnit (unit : Option Tag)
  | debugMoveCamera (pos : Point2D)
  | debugTestApp (appTest : AppTest) (delayMs : Int32)
  | sendDebug (c : Control)

/-- The debug interface as a machine, which answers with the requests that were sent. -/
def debugMachine : Machine DebugImp DebugCall (List DebugRequest) where
  step d
    | .debugTextOut out color => (d.debugTextOut out color, [])
    | .debugTextOut2D out pt color size => (d.debugTextOut2D out pt color size, [])
    | .debugTextOut3D out pt color size => (d.debugTextOut3D out pt color size, [])
    | .debugLineOut p0 p1 color => (d.debugLineOut p0 p1 color, [])
    | .debugBoxOut pMin pMax color => (d.debugBoxOut pMin pMax color, [])
    | .debugSphereOut p r color => (d.debugSphereOut p r color, [])
    | .gameState call => (d.gameState call, [])
    | .debugSetScore score => (d.debugSetScore score, [])
    | .debugEndGame victory => (d.debugEndGame victory, [])
    | .debugSetEnergy value unit => (d.debugSetEnergy value unit, [])
    | .debugSetLife value unit => (d.debugSetLife value unit, [])
    | .debugSetShields value unit => (d.debugSetShields value unit, [])
    | .debugCreateUnit unitType p playerId count =>
      (d.debugCreateUnit unitType p playerId count, [])
    | .debugKillUnit unit => (d.debugKillUnit unit, [])
    | .debugMoveCamera pos => (d.debugMoveCamera pos, [])
    | .debugTestApp appTest delayMs => (d.debugTestApp appTest delayMs, [])
    | .sendDebug c => ((d.sendDebug c).2.1, (d.sendDebug c).1)

end Sc2Api
