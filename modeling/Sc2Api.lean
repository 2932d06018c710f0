import Sc2Api.Verify.AppFailures
import Sc2Api.Verify.BaseExe
import Sc2Api.Verify.CallRuns
import Sc2Api.Verify.ConvertedUnits
import Sc2Api.Verify.DataTables
import Sc2Api.Verify.DebugRuns
import Sc2Api.Verify.EchoedActions
import Sc2Api.Verify.Expansions
import Sc2Api.Verify.FailedOrders
import Sc2Api.Verify.GameData
import Sc2Api.Verify.GameInfoRuns
import Sc2Api.Verify.GameStarts
import Sc2Api.Verify.JoinGame
import Sc2Api.Verify.LatestExe
import Sc2Api.Verify.Leftovers
import Sc2Api.Verify.LiveEvents
import Sc2Api.Verify.LostEvents
import Sc2Api.Verify.MapImages
import Sc2Api.Verify.MessageReads
import Sc2Api.Verify.PlayRuns
import Sc2Api.Verify.PortRuns
import Sc2Api.Verify.ProcessRuns
import Sc2Api.Verify.PropertyFiles
import Sc2Api.Verify.ProtoRuns
import Sc2Api.Verify.ProtossRuns
import Sc2Api.Verify.ProxyRuns
import Sc2Api.Verify.Redelivery
import Sc2Api.Verify.RelaunchRuns
import Sc2Api.Verify.RenderedFrames
import Sc2Api.Verify.ReplayFrames
import Sc2Api.Verify.ReplayInfoRuns
import Sc2Api.Verify.ResponseQueueRuns
import Sc2Api.Verify.Score
import Sc2Api.Verify.Serialization
import Sc2Api.Verify.ServerRuns
import Sc2Api.Verify.Settings
import Sc2Api.Verify.TerranRuns
import Sc2Api.Verify.UnitCommands
import Sc2Api.Verify.UnitPoolRuns
import Sc2Api.Verify.Vision
import Sc2Api.Verify.ZergQueens
import Sc2Api.Verify.ZergRuns
