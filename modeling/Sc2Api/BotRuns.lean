import Sc2Api.MultiplayerBot

/-!
# Runs of bots

The callbacks that a bot gets, one after the other, each with what it sees then. A run ends at
the first callback that is not defined.
-/

namespace Sc2Api

open Lib

inductive BotCallback
  | onGameStart
  | onStep
  | onUnitIdle (unit : Unit)
  | onUpgradeCompleted (upgrade : UpgradeID)
  | onNuclearLaunchDetected
  deriving DecidableEq, Repr

/-- The callbacks that the class of a race has for itself. -/
structure BotClass (κ : Type) where
  onStep : BotM κ PUnit
  onUnitIdle : Unit → BotM κ PUnit
  onUpgradeCompleted : UpgradeID → BotM κ PUnit

namespace BotClass

variable {κ : Type}

/-- `cos`, `sin` and `turns` are those of the search for expansions. -/
def callback (bot : BotClass κ) (cos sin : CFloat → CFloat) (turns : Nat) :
    BotCallback → BotM κ PUnit
  | .onGameStart => MultiplayerBot.onGameStart cos sin turns
  | .onStep => bot.onStep
  | .onUnitIdle unit => bot.onUnitIdle unit
  | .onUpgradeCompleted upgrade => bot.onUpgradeCompleted upgrade
  | .onNuclearLaunchDetected => MultiplayerBot.onNuclearLaunchDetected

variable (bot : BotClass κ) (cos sin : CFloat → CFloat) (turns : Nat)

/-- The state behind one more callback, with the calls of each callback so far. -/
def turn (result : BotState κ × List (List ActionCall)) (event : BotView × BotCallback) :
    Except BotFault (BotState κ × List (List ActionCall)) := do
  let (_, s, calls) ← bot.callback cos sin turns event.2 event.1 result.1
  return (s, result.2 ++ [calls])

def run (s : BotState κ) (events : List (BotView × BotCallback)) :
    Except BotFault (BotState κ × List (List ActionCall)) :=
  events.foldlM (bot.turn cos sin turns) (s, [])

end BotClass

end Sc2Api
