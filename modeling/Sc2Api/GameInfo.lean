import Sc2Api.ClientRuns

/-!
# Game info

What a client knows of a game as a whole (`sc2_map_info.h`), converted from a response
when it is first asked for and edited when the game starts. The record is one for all
games of a client.
-/

namespace Sc2Api

open Lib

/-! ## Messages -/

namespace Proto

inductive PlayerType
  | participant
  | computer
  | observer
  deriving DecidableEq, Repr, Inhabited

inductive Difficulty
  | veryEasy
  | easy
  | medium
  | mediumHard
  | hard
  | harder
  | veryHard
  | cheatVision
  | cheatMoney
  | cheatInsane
  deriving DecidableEq, Repr, Inhabited

structure StartRaw where
  mapSize : Option PointI := none
  pathingGrid : Option ImageData := none
  terrainHeight : Option ImageData := none
  placementGrid : Option ImageData := none
  playableArea : Option RectangleI := none
  startLocations : List Point := []
  deriving DecidableEq, Repr

structure PlayerInfo where
  playerId : Option UInt32 := none
  type : Option PlayerType := none
  raceRequested : Option Race := none
  raceActual : Option Race := none
  difficulty : Option Difficulty := none
  deriving DecidableEq, Repr

/-- `InterfaceOptions` as a response has it; a resolution that is absent reads as zeros. -/
structure GameOptions where
  raw : Option Bool := none
  featureLayer : Option SpatialCameraSetup := none
  render : Option SpatialCameraSetup := none
  deriving DecidableEq, Repr

structure ResponseGameInfo where
  mapName : Option String := none
  localMapPath : Option String := none
  playerInfo : List PlayerInfo := []
  startRaw : Option StartRaw := none
  options : Option GameOptions := none
  deriving DecidableEq, Repr

end Proto

/-! ## Records -/

structure ImageData where
  width : Int32 := 0
  height : Int32 := 0
  bitsPerPixel : Int32 := 0
  data : List UInt8 := []
  deriving DecidableEq, Repr

structure SpatialSetup where
  cameraWidth : CFloat := 0
  mapResolutionX : Int32 := 0
  mapResolutionY : Int32 := 0
  minimapResolutionX : Int32 := 0
  minimapResolutionY : Int32 := 0
  deriving DecidableEq, Repr

structure InterfaceOptions where
  raw : Bool := false
  featureLayer : SpatialSetup := {}
  render : SpatialSetup := {}
  deriving DecidableEq, Repr

structure PlayerInfo where
  playerId : UInt32
  playerType : PlayerType
  raceRequested : Race
  raceActual : Race
  difficulty : Difficulty
  deriving DecidableEq, Repr

/-- The constructor of the source leaves the options unset, where the defaults stand here. -/
structure GameInfo where
  mapName : String := ""
  localMapPath : String := ""
  width : Int32 := 0
  height : Int32 := 0
  pathingGrid : ImageData := {}
  terrainHeight : ImageData := {}
  placementGrid : ImageData := {}
  playableMin : Point2D := {}
  playableMax : Point2D := {}
  enemyStartLocations : List Point2D := []
  startLocations : List Point2D := []
  options : InterfaceOptions := {}
  playerInfo : List PlayerInfo := []
  deriving DecidableEq, Repr

/-! ## Conversion -/

def convertRaceFromProto : Proto.Race → Race
  | .terran => .terran
  | .zerg => .zerg
  | .protoss => .protoss
  | .noRace | .random => .random

def convertPlayerTypeFromProto : Proto.PlayerType → PlayerType
  | .participant => .participant
  | .computer => .computer
  | .observer => .observer

def convertDifficultyFromProto : Proto.Difficulty → Difficulty
  | .veryEasy => .veryEasy
  | .easy => .easy
  | .medium => .medium
  | .mediumHard => .mediumHard
  | .hard => .hard
  | .harder => .hardVeryHard
  | .veryHard => .veryHard
  | .cheatVision => .cheatVision
  | .cheatMoney => .cheatMoney
  | .cheatInsane => .cheatInsane

/-- `Convert(image, data)`, whose result nobody looks at here. -/
def convertImageData (image : Proto.ImageData) : ImageData where
  width := (image.size.getD {}).x.getD 0
  height := (image.size.getD {}).y.getD 0
  bitsPerPixel := image.bitsPerPixel.getD 0
  data := image.data.getD []

def convertSpatialSetup (setup : Option Proto.SpatialCameraSetup) : SpatialSetup :=
  let setup := setup.getD { resolution := {}, minimapResolution := {} }
  { cameraWidth := setup.width.getD 0
    mapResolutionX := setup.resolution.x
    mapResolutionY := setup.resolution.y
    minimapResolutionX := setup.minimapResolution.x
    minimapResolutionY := setup.minimapResolution.y }

def convertInterfaceOptions (options : Proto.GameOptions) (out : InterfaceOptions) :
    Bool × InterfaceOptions :=
  match options.raw with
  | none => (false, out)
  | some raw =>
    (true, {
      raw
      featureLayer := convertSpatialSetup options.featureLayer
      render := convertSpatialSetup options.render })

def convertPlayerInfo (player : Proto.PlayerInfo) : PlayerInfo where
  playerId := player.playerId.getD 0
  playerType := convertPlayerTypeFromProto (player.type.getD .participant)
  raceRequested := convertRaceFromProto (player.raceRequested.getD .noRace)
  raceActual := convertRaceFromProto (player.raceActual.getD .noRace)
  difficulty := convertDifficultyFromProto (player.difficulty.getD .veryEasy)

/-- `Point2D(float(p.x()), float(p.y()))` -/
def Proto.PointI.toPoint2D (p : Proto.PointI) : Point2D :=
  ⟨((p.x.getD 0).toInt : ℚ), ((p.y.getD 0).toInt : ℚ)⟩

/-- `Convert(response_game_info_ptr, game_info)`. The start locations are inserted before
those that are there, and the players appended. -/
def convertGameInfo (response : Proto.ResponseGameInfo) (out : GameInfo) : Bool × GameInfo :=
  match response.startRaw with
  | none => (false, out)
  | some startRaw =>
    match startRaw.mapSize.bind (·.x), startRaw.mapSize.bind (·.y) with
    | some x, some y =>
      let playable := startRaw.playableArea.getD {}
      let enemyStartLocations := startRaw.startLocations.map (·.toPoint2D)
      let out := { out with
        mapName := response.mapName.getD ""
        localMapPath := response.localMapPath.getD ""
        width := x
        height := y
        pathingGrid := (startRaw.pathingGrid.map convertImageData).getD out.pathingGrid
        terrainHeight := (startRaw.terrainHeight.map convertImageData).getD out.terrainHeight
        placementGrid := (startRaw.placementGrid.map convertImageData).getD out.placementGrid
        playableMin := (playable.p0.map (·.toPoint2D)).getD out.playableMin
        playableMax := (playable.p1.map (·.toPoint2D)).getD out.playableMax
        enemyStartLocations
        startLocations := enemyStartLocations ++ out.startLocations
        playerInfo := out.playerInfo ++ response.playerInfo.map convertPlayerInfo }
      match response.options with
      | none => (false, out)
      | some options =>
        let (converted, options) := convertInterfaceOptions options out.options
        (converted, { out with options })
    | _, _ => (false, out)

/-! ## The client -/

/-- `TERRAN_COMMANDCENTER`, `PROTOSS_NEXUS` and `ZERG_HATCHERY` -/
def townHalls : List UnitTypeID := [18, 59, 86]

/-- A client with what it knows of its game as a whole. -/
structure GameClient where
  client : ControlImp := {}
  gameInfo : GameInfo := {}
  startLocation : Point3D := {}

namespace GameClient

/-- `ObservationImp::GetGameInfo`. The answer is that of its round trip, `none` if that
fails; whether the conversion succeeds is not looked at. -/
def getGameInfo (g : GameClient) (answer : Option Proto.ResponseGameInfo) :
    GameInfo × GameClient :=
  if g.client.observationImp.gameInfoCached then (g.gameInfo, g)
  else match answer with
    | none => (g.gameInfo, g)
    | some response =>
      let g := { g with
        gameInfo := (convertGameInfo response g.gameInfo).2
        client := { g.client with observationImp :=
          { g.client.observationImp with gameInfoCached := true } } }
      (g.gameInfo, g)

/-- The bot's town halls, in the order in which the existing units are met. -/
def ownTownHalls (g : GameClient) (order : UnitPool.Order) : List Unit :=
  ((g.client.observationImp.unitPool.existingUnits order).map
    g.client.observationImp.unitPool.deref).filter fun unit =>
      unit.alliance = .self ∧ unit.unitType ∈ townHalls

/-- `ControlImp::OnGameStart`. -/
def onGameStart (g : GameClient) (order : UnitPool.Order) : GameClient :=
  match g.ownTownHalls order with
  | [] => g
  | unit :: _ =>
    { g with
      startLocation := unit.pos
      gameInfo := { g.gameInfo with startLocations := [⟨unit.pos.x, unit.pos.y⟩] } }

end GameClient

/-- What may happen to a client in its games. -/
inductive GameOp
  | client (op : ClientOp)
  | onGameStart (order : UnitPool.Order)
  | getGameInfo (answer : Option Proto.ResponseGameInfo)

/-- `GetGameInfo` answers with what it returns. -/
def gameMachine : Machine GameClient GameOp (Option GameInfo) where
  step g
    | .client op => ({ g with client := (Sc2Api.client.step g.client op).1 }, none)
    | .onGameStart order => (g.onGameStart order, none)
    | .getGameInfo answer => ((g.getGameInfo answer).2, some (g.getGameInfo answer).1)

/-! ## Games -/

/-- What happens in a game besides its start; a round trip of `GetGameInfo` may fail. -/
inductive Doing
  | getGameInfo (answered : Bool)
  | getObservation (orders : UpdateOrders) (answer : Option Proto.Response)
  | issueEvents (order : UnitPool.Order) (commands : List Tag)

/-- A game: how it is joined, the response to requests for its info, and what happens
before and after it starts. -/
structure Game where
  setup : PlayerSetup := {}
  settings : InterfaceSettings := {}
  ports : Ports := {}
  sent : Bool := true
  response : Proto.ResponseGameInfo
  before : List Doing := []
  order : UnitPool.Order := default
  after : List Doing := []

def Doing.op (response : Proto.ResponseGameInfo) : Doing → GameOp
  | getGameInfo answered => .getGameInfo (if answered then some response else none)
  | getObservation orders answer => .client (.getObservation orders answer)
  | issueEvents order commands => .client (.issueEvents order commands)

namespace Game

/-- The operations until the game starts. -/
def opening (g : Game) : List GameOp :=
  .client (.requestJoinGame g.setup g.settings g.ports g.sent) :: g.before.map (·.op g.response)

def ops (g : Game) : List GameOp :=
  g.opening ++ .onGameStart g.order :: g.after.map (·.op g.response)

end Game

/-- Games one after the other. -/
def games : Machine GameClient Game PUnit.{1} where
  step c g := (gameMachine.final c g.ops, .unit)

end Sc2Api
