import Sc2Api.GameTypes

/-!
# Setting up a game

Participants, ports and interface settings (`sc2_gametypes.h`,
`sc2_game_settings.h`), and the join request built from them.
-/

namespace Sc2Api

/-! ## Participants -/

inductive Race
  | terran
  | zerg
  | protoss
  | random
  deriving DecidableEq, Repr, Inhabited

/-- `int(race)`. -/
def Race.toNat : Race → Nat
  | .terran => 0
  | .zerg => 1
  | .protoss => 2
  | .random => 3

inductive Difficulty
  | veryEasy
  | easy
  | medium
  | mediumHard
  | hard
  | hardVeryHard
  | veryHard
  | cheatVision
  | cheatMoney
  | cheatInsane
  deriving DecidableEq, Repr, Inhabited

inductive PlayerType
  | participant
  | computer
  | observer
  deriving DecidableEq, Repr, Inhabited

/-- The identity of an `Agent*`. -/
abbrev AgentId := Nat

structure PlayerSetup where
  type : PlayerType := .participant
  agent : Option AgentId := none
  race : Race := .terran
  difficulty : Difficulty := .easy
  deriving DecidableEq, Repr

def createParticipant (race : Race) (agent : Option AgentId) : PlayerSetup :=
  { type := .participant, race, agent }

def createComputer (race : Race) (difficulty : Difficulty := .easy) : PlayerSetup :=
  { type := .computer, race, agent := none, difficulty }

/-! ## Ports -/

structure PortSet where
  gamePort : Int32 := -1
  basePort : Int32 := -1
  deriving DecidableEq, Repr

def PortSet.isValid (p : PortSet) : Bool := p.gamePort > 0 && p.basePort > 0

structure Ports where
  serverPorts : PortSet := {}
  clientPorts : List PortSet := []
  sharedPort : Int32 := -1
  deriving DecidableEq, Repr

def Ports.isValid (p : Ports) : Bool :=
  !(p.sharedPort < 1) && p.serverPorts.isValid && !p.clientPorts.isEmpty &&
    p.clientPorts.all (·.isValid)

/-! ## Interface settings -/

structure RenderSettings where
  mapX : Int32 := 800
  mapY : Int32 := 600
  minimapX : Int32 := 300
  minimapY : Int32 := 300
  deriving DecidableEq, Repr

structure FeatureLayerSettings where
  cameraWidth : CFloat := 24
  mapX : Int32 := 64
  mapY : Int32 := 64
  minimapX : Int32 := 64
  minimapY : Int32 := 64
  deriving DecidableEq, Repr

structure InterfaceSettings where
  useFeatureLayers : Bool := false
  featureLayerSettings : FeatureLayerSettings := {}
  useRender : Bool := false
  renderSettings : RenderSettings := {}
  deriving DecidableEq, Repr

/-! ## The join request -/

namespace Proto

inductive Race
  | noRace
  | terran
  | zerg
  | protoss
  | random
  deriving DecidableEq, Repr, Inhabited

/-- The enumerator of a number, when it has one. -/
def Race.ofNat? : Nat → Option Race
  | 0 => some .noRace
  | 1 => some .terran
  | 2 => some .zerg
  | 3 => some .protoss
  | 4 => some .random
  | _ => none

structure PortSet where
  gamePort : Int32
  basePort : Int32
  deriving DecidableEq, Repr

/-- `width` is absent in the render setup. -/
structure SpatialCameraSetup where
  width : Option CFloat := none
  resolution : Point2DI
  minimapResolution : Point2DI
  deriving DecidableEq, Repr

structure InterfaceOptions where
  raw : Bool
  score : Bool
  featureLayer : Option SpatialCameraSetup := none
  render : Option SpatialCameraSetup := none
  deriving DecidableEq, Repr

structure RequestJoinGame where
  race : Option Race
  sharedPort : Option Int32 := none
  serverPorts : Option PortSet := none
  clientPorts : List PortSet := []
  options : InterfaceOptions
  deriving DecidableEq, Repr

end Proto

def PortSet.toProto (p : PortSet) : Proto.PortSet := ⟨p.gamePort, p.basePort⟩

/-- The interface options of a join request. -/
def InterfaceSettings.toProto (settings : InterfaceSettings) : Proto.InterfaceOptions where
  raw := true
  score := true
  featureLayer :=
    if settings.useFeatureLayers then
      let layer := settings.featureLayerSettings
      some {
        width := some layer.cameraWidth
        resolution := ⟨layer.mapX, layer.mapY⟩
        minimapResolution := ⟨layer.minimapX, layer.minimapY⟩ }
    else none
  render :=
    if settings.useRender then
      let render := settings.renderSettings
      some {
        resolution := ⟨render.mapX, render.mapY⟩
        minimapResolution := ⟨render.minimapX, render.minimapY⟩ }
    else none

/-- The message `ControlImp::RequestJoinGame` fills in. -/
def joinGameRequest (setup : PlayerSetup) (settings : InterfaceSettings) (ports : Ports) :
    Proto.RequestJoinGame where
  race := Proto.Race.ofNat? (setup.race.toNat + 1)
  sharedPort := if ports.isValid then some ports.sharedPort else none
  serverPorts := if ports.isValid then some ports.serverPorts.toProto else none
  clientPorts := if ports.isValid then ports.clientPorts.map (·.toProto) else []
  options := settings.toProto

end Sc2Api
