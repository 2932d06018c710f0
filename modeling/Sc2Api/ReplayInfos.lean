import Sc2Api.ObserverObjects
import Sc2Api.ReplayAttempts

/-!
# What is decided about a replay

One `ReplayInfo` serves all replays of an observer. `StartReplay` looks at it after every
call of `GatherReplayInfo`, without asking whether the call succeeded.
-/

namespace Sc2Api

/-! ## The players of a replay -/

/-- `players` and `num_players`; what lies beyond them is from other replays. -/
structure ReplayPlayers where
  players : Vector ReplayPlayerInfo maxNumPlayers
  numPlayers : Nat

namespace ReplayPlayers

/-- `players[num_players] = player_info; ++num_players;` -/
def store (a : ReplayPlayers) (info : ReplayPlayerInfo) : Option ReplayPlayers :=
  if h : a.numPlayers < maxNumPlayers then
    some ⟨a.players.set a.numPlayers info h, a.numPlayers + 1⟩
  else none

/-- The loop of `addPlayers` over the array itself, with no result once it writes outside
of the array. -/
def storeAll : List Proto.PlayerInfoExtra → ReplayPlayers → Option (Bool × ReplayPlayers)
  | [], a => some (true, a)
  | info :: infos, a =>
    if maxNumPlayers ≤ a.numPlayers then some (false, a)
    else do
      let a ← a.store (ReplayObserver.convertReplayPlayer info)
      storeAll infos a

/-- The players that are there. -/
def toList (a : ReplayPlayers) : List ReplayPlayerInfo := a.players.toList.take a.numPlayers

end ReplayPlayers

/-! ## Outcomes and decisions -/

/-- How a call of `GatherReplayInfo` can end. -/
inductive GatherOutcome
  | notSent
  | noResponse
  | wrongResponse
  | responded (info : Proto.ResponseReplayInfo)
  deriving DecidableEq, Repr

/-- Neither names nor version are too long. -/
def Proto.ResponseReplayInfo.fits (info : Proto.ResponseReplayInfo) : Bool :=
  info.mapName.utf8ByteSize < maxPathSize && info.localMapPath.utf8ByteSize < maxPathSize &&
    info.gameVersion.utf8ByteSize < maxVersionSize

namespace GatherOutcome

def ofResponse : Option GameResponse → GatherOutcome
  | none => .noResponse
  | some response =>
    if response.case ≠ .replayInfo then .wrongResponse else .responded response.answer.replayInfo

/-- The record is filled in, though there may be too many players. -/
def informs : GatherOutcome → Bool
  | .responded info => info.fits
  | _ => false

end GatherOutcome

/-- `ignores` is the answer of `IgnoreReplay`, `versionMatch` what `ShouldRelaunch` finds
out with a client of some version, and `baseBuild` what it hands to `FindBaseExe`. -/
structure ReplayDecisions where
  ignores : Bool
  versionMatch : ReplayVersion → Bool
  baseBuild : UInt32

def minimumReplayDuration : CFloat := 30

/-- `ReplayObserver::IgnoreReplay`. -/
def ReplayInfo.ignoreReplay (info : ReplayInfo) : Bool := info.duration < minimumReplayDuration

/-- `version_match` -/
def ReplayInfo.versionMatch (info : ReplayInfo) (client : ReplayVersion) : Bool :=
  info.baseBuild = client.baseBuild ∧ info.dataVersion = client.dataVersion

def ReplayInfo.decisions (info : ReplayInfo) : ReplayDecisions :=
  ⟨info.ignoreReplay, info.versionMatch, info.baseBuild⟩

namespace ReplayObserver

/-- How `GatherReplayInfo` is going to end. -/
def gatherOutcome (r : ReplayObserver) : GatherOutcome :=
  if !(r.control.sendRequest .replayInfo).1 then .notSent
  else .ofResponse (r.control.exchange .replayInfo).1

/-- What is decided about a file once its info is gathered. -/
def decisionsFor (r : ReplayObserver) (file : String) : ReplayDecisions :=
  (r.gatherReplayInfo file).2.replayInfo.decisions

end ReplayObserver

/-- What has happened to an observer, each time in a world of its own. -/
abbrev ObserverHistory := List (World × ObserverOp)

namespace ObserverHistory

/-- The observer as the next operation finds it. -/
def observer (past : ObserverHistory) (world : World) : ReplayObserver :=
  let r := (observerMachine.final {} past).observer
  { r with control := r.control.inWorld world }

end ObserverHistory

end Sc2Api
