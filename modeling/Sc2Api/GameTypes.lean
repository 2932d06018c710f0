import Mathlib.Data.Rat.Defs

/-!
# Types of the game

Identifiers, points and enumerations shared by the messages and the client. A
`float` of the source is a rational: the code only copies floats and compares
them with constants, which is exact on finite values.
-/

namespace Sc2Api

/-- `float`, restricted to its finite values. -/
abbrev CFloat := ℚ

/-- The game's identifier of a unit; `NullTag` is 0. -/
abbrev Tag := UInt64

abbrev GameLoop := UInt32

abbrev AbilityID := UInt32
abbrev UnitTypeID := UInt32
abbrev UpgradeID := UInt32
abbrev BuffID := UInt32

structure Point2D where
  x : CFloat := 0
  y : CFloat := 0
  deriving DecidableEq, Repr, Inhabited

structure Point3D where
  x : CFloat := 0
  y : CFloat := 0
  z : CFloat := 0
  deriving DecidableEq, Repr, Inhabited

structure Point2DI where
  x : Int32 := 0
  y : Int32 := 0
  deriving DecidableEq, Repr, Inhabited

structure Rect2DI where
  fromPt : Point2DI := {}
  toPt : Point2DI := {}
  deriving DecidableEq, Repr, Inhabited

/-- How a unit is shown (`Unit::DisplayType`). -/
inductive DisplayType
  | visible
  | snapshot
  | hidden
  deriving DecidableEq, Repr, Inhabited

/-- Relation of a unit to the player (`Unit::Alliance`). -/
inductive Alliance
  | self
  | ally
  | neutral
  | enemy
  deriving DecidableEq, Repr, Inhabited

/-- `Unit::CloakState`; `unknown` is set when the message has no cloak field. -/
inductive CloakState
  | cloaked
  | cloakedDetected
  | notCloaked
  | unknown
  deriving DecidableEq, Repr, Inhabited

inductive GameResult
  | win
  | loss
  | tie
  | undecided
  deriving DecidableEq, Repr, Inhabited

/-- The status the game reports with a response (`SC2APIProtocol::Status`). -/
inductive Status
  | launched
  | initGame
  | inGame
  | inReplay
  | ended
  | quit
  | unknown
  deriving DecidableEq, Repr, Inhabited

/-- What the client knows about its game application (`AppState`). -/
inductive AppState
  | normal
  | timeout
  | timeoutZombie
  | crashed
  deriving DecidableEq, Repr, Inhabited

/-- Errors reported through `OnError`. -/
inductive ClientError
  | errorSC2
  | invalidAbilityRemap
  | invalidResponse
  | noAbilitiesForTag
  | responseNotConsumed
  | responseMismatch
  | connectionClosed
  | sc2UnknownStatus
  | sc2AppFailure
  | sc2ProtocolError
  | sc2ProtocolTimeout
  | wrongGameVersion
  deriving DecidableEq, Repr, Inhabited

end Sc2Api
