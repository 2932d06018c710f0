import Sc2Api.ArgParser
import Sc2Api.Coordinator
import Sc2Api.Executables
import Sc2Api.PropertyReader

/-!
# Settings

`ParseSettings` merges the settings in ExecuteInfo.txt with those on the command line, less what
it prints.
-/

namespace Sc2Api

open Lib

inductive SettingsFailure
  /-- `LoadFile` does not end well. -/
  | file (failure : PropertyReader.Failure)
  /-- `std::stoi` throws. -/
  | exception (error : ConversionError)
  | eraseRange
  /-- The number that `atoi` reads is no `int`. -/
  | overflow
  deriving DecidableEq, Repr

/-- The user directory, which may be empty, the divider of directories, the content of the files
that can be opened, and the file system. -/
structure SettingsWorld where
  userDirectory : Text
  directoryDivider : Char
  content : Text → Option Text
  fileSystem : FileSystem

/-- `ParseFromFile`, with the text of the file if it can be opened. -/
def parseFromFile (turns : Nat) (processSettings : ProcessSettings) (gameSettings : GameSettings)
    (file : Option Text) : Except SettingsFailure (Bool × ProcessSettings × GameSettings) := do
  let (loaded, reader) ← (PropertyReader.loadFile turns file).mapError .file
  if !loaded then return (false, processSettings, gameSettings)
  let (_, processPath) := reader.readString "executable".toList processSettings.processPath.toList
  let (_, realTime) ← (reader.readInt "realtime".toList 0).mapError .exception
  let (_, portStart) ← (reader.readInt "port".toList processSettings.portStart).mapError .exception
  let (_, mapName) := reader.readString "map".toList gameSettings.mapName.toList
  let (_, timeoutMs) ←
    (reader.readInt "timeout".toList processSettings.timeoutMs).mapError .exception
  let processSettings := { processSettings with
    processPath := String.ofList processPath
    realtime := realTime ≠ 0
    portStart, timeoutMs }
  return (true, processSettings, { gameSettings with mapName := String.ofList mapName })

def executeInfoFilepath (w : SettingsWorld) : Text :=
  w.userDirectory ++ w.directoryDivider :: "StarCraft II".toList ++
    w.directoryDivider :: "ExecuteInfo.txt".toList

/-- What `ParseFromFile` and `FindLatestExe` leave of the settings. -/
def settingsFromFile (w : SettingsWorld) (turns : Nat) (processSettings : ProcessSettings)
    (gameSettings : GameSettings) : Except SettingsFailure (ProcessSettings × GameSettings) := do
  if w.userDirectory.length = 0 then return (processSettings, gameSettings)
  let (parsed, processSettings, gameSettings) ←
    parseFromFile turns processSettings gameSettings (w.content (executeInfoFilepath w))
  if !parsed then return (processSettings, gameSettings)
  let (_, processPath) ← (findLatestExe w.fileSystem processSettings.processPath.toList).mapError
    fun _ => .eraseRange
  return ({ processSettings with processPath := String.ofList processPath }, gameSettings)

def declaredOptions : List Arg := [
  { abbreviation := "-e".toList, fullname := "--executable".toList, required := true },
  { abbreviation := "-s".toList, fullname := "--step_size".toList, required := false },
  { abbreviation := "-p".toList, fullname := "--port".toList, required := false },
  { abbreviation := "-r".toList, fullname := "--realtime".toList, required := false },
  { abbreviation := "-m".toList, fullname := "--map".toList, required := false },
  { abbreviation := "-t".toList, fullname := "--timeout".toList, required := false }]

/-- A setting that is a number on the command line, if it is there. -/
def numberSetting (p : ArgParser) (identifier : Text) (old : Int32) :
    Except SettingsFailure Int32 :=
  let (given, text) := p.get identifier []
  if given then atoi .overflow text else .ok old

def realtimeSetting (p : ArgParser) (old : Bool) : Bool :=
  let (given, text) := p.get "realtime".toList []
  if given then text = "true".toList else old

/-- What the command line says goes over the settings. The result of `Parse` is not looked at. -/
def settingsFromArguments (p : ArgParser) (processSettings : ProcessSettings)
    (gameSettings : GameSettings) :
    Except SettingsFailure (Bool × ProcessSettings × GameSettings) := do
  let (_, processPath) := p.get "executable".toList processSettings.processPath.toList
  let processSettings := { processSettings with processPath := String.ofList processPath }
  if processPath.length < 2 then return (false, processSettings, gameSettings)
  let stepSize ← numberSetting p "step_size".toList processSettings.stepSize
  let realtime := realtimeSetting p processSettings.realtime
  let timeoutMs ← numberSetting p "timeout".toList processSettings.timeoutMs
  let (_, mapName) := p.get "map".toList gameSettings.mapName.toList
  return (true, { processSettings with stepSize, realtime, timeoutMs },
    { gameSettings with mapName := String.ofList mapName })

def parseSettings (w : SettingsWorld) (turns : Nat) (argv : List Text)
    (processSettings : ProcessSettings) (gameSettings : GameSettings) :
    Except SettingsFailure (Bool × ProcessSettings × GameSettings) := do
  let (processSettings, gameSettings) ← settingsFromFile w turns processSettings gameSettings
  let (_, p) := (ArgParser.addOptions {} declaredOptions).parse argv
  settingsFromArguments p processSettings gameSettings

end Sc2Api
