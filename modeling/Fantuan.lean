import Fantuan.AvatarCounts
import Fantuan.Broadcasts
import Fantuan.CacheServer.AvatarNames
import Fantuan.CacheServer.DbConn
import Fantuan.CacheServer.Logouts
import Fantuan.CacheServer.PoolOrder
import Fantuan.CacheServer.PoolShutdown
import Fantuan.CacheServer.ProcedureCalls
import Fantuan.CacheServer.SqlStatements
import Fantuan.ClientBase.ClientLogins
import Fantuan.ClientBase.ClientRecv
import Fantuan.ConnectionCloses
import Fantuan.DelayBuffers
import Fantuan.EasyNet.BaseLoop
import Fantuan.EasyNet.Connections
import Fantuan.FinalizedPlayers
import Fantuan.FinalizingQueues
import Fantuan.GateAllocation
import Fantuan.GateServer.AllocAcks
import Fantuan.GateServer.Conversations
import Fantuan.GateServer.RegionBinds
import Fantuan.GateServer.Relays
import Fantuan.GateServer.Shutdowns
import Fantuan.Gen.Accepting
import Fantuan.Gen.Counts
import Fantuan.Gen.FieldLimits
import Fantuan.Gen.FtdConversions
import Fantuan.Gen.Rebuilding
import Fantuan.Log.LogImpl
import Fantuan.LoginGuards
import Fantuan.LoopShutdowns
import Fantuan.MasterServer.Channels
import Fantuan.MasterServer.GateCapacity
import Fantuan.MasterServer.RegionAnswer
import Fantuan.MasterServer.RegionReleases
import Fantuan.MasterServer.Shutdowns
import Fantuan.PacketProgress
import Fantuan.RegionServer.AllocAnswers
import Fantuan.RegionServer.ClientTimes
import Fantuan.RegionServer.FirstEnters
import Fantuan.RegionServer.NearbyGrids
import Fantuan.RegionServer.Residents
import Fantuan.ServerBase.DataCenter
import Fantuan.ServerBase.LogicLoop
import Fantuan.ServerBase.LoginDisconnects
import Fantuan.ServerBase.LoginTokens
import Fantuan.ServerBase.SendResults
import Fantuan.ServerBase.SessionMaps
import Fantuan.SessionLookups
import Fantuan.StaleIds
import Fantuan.StarNet.Acceptors
import Fantuan.StarNet.ContextPools
import Fantuan.StarNet.IoRefs
import Fantuan.StarNet.PeerServer
import Fantuan.StarNet.PeerSets
import Fantuan.StarNet.StreamRoundTrip
import Fantuan.TimeHandshakes
import Fantuan.Timeouts
import Fantuan.Tool.Alarms
import Fantuan.Tool.MemoryPool
import Fantuan.Tool.PerfCounter
import Fantuan.Tool.PoolCounts
import Fantuan.Tool.StateTables
