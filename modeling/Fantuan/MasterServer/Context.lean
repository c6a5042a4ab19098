import Fantuan.Lib.Table
import Fantuan.MasterServer.PlayerFsm
import Fantuan.ServerBase.ServerCommon
import Fantuan.StarNet.Packet
import Fantuan.Tool.ObjectPool

/-! The data of the master server: player contexts, server contexts, the loop's members
and the messages it sends. The generated send stubs and receivers are left out: whether a
send succeeds and what a packet holds are parameters.
-/
namespace Fantuan.MasterServer.Context
open Lib.Table ServerBase.ServerCommon Tool.ObjectPool PlayerFsm

def channelMax := 16
def channelNameMax := 32
def avatarCountMax := 10
def playerContextMax := 5000
def invalidChannelId : UInt8 := 0xff
def invalidServerId : UInt8 := 0xff

structure PrdAvatar where
  avatarId : UInt64
  avatarName : WString
  deriving DecidableEq

/-- The first m_iAvatarCount entries of m_arrayAvatar are the list of avatars. -/
structure MasterPlayerContext where
  sessionId : UInt32
  accountName : WString
  finalizing : Bool
  state : PlayerState
  gateServerId : UInt8
  avatars : List PrdAvatar
  avatarName : WString
  avatarId : UInt64
  lastChannelId : UInt8
  regionServerId : UInt8
  deriving DecidableEq

def MasterPlayerContext.clear : MasterPlayerContext where
  sessionId := 0
  accountName := []
  finalizing := false
  state := .none
  gateServerId := 0
  avatars := []
  avatarName := []
  avatarId := 0
  lastChannelId := 0
  regionServerId := 0

structure LoginServerContext where
  serverId : UInt8
  isConnected : Bool
  players : Map UInt32 Object

structure GateServerContext where
  serverId : UInt8
  isConnected : Bool
  sessionMax : UInt16
  sessionCount : UInt16
  players : Map UInt32 Object

/-- A region context is its map of players: nothing reads the other members. -/
structure ChannelContext where
  channelId : UInt8
  channelName : WString
  initialRegionServerId : UInt8
  regions : UInt8 → Map UInt32 Object

structure GateConfigItem where
  serverId : UInt8
  serverIp : UInt32
  serverPort : UInt16
  sessionMax : UInt16

structure ChannelConfigItem where
  channelId : UInt8
  channelName : WString
  initialRegionServerId : UInt8

/-- The items in the order in which Init walks them. -/
structure MasterServerConfig where
  gateConfigItems : List GateConfigItem
  channelConfigItems : List ChannelConfigItem

def MasterServerConfig.getGateConfigItem (config : MasterServerConfig) (serverId : UInt8) :
    Option GateConfigItem :=
  config.gateConfigItems.find? fun item => item.serverId = serverId

/-- Packets to the client, which go through DelaySendData. -/
inductive ClientPacket where
  | loginNtf (serverIp : UInt32) (serverPort : UInt16)
  | channelListNtf (channels : List (List UInt8))
  | channelSelectAck (result : Int32)
  | channelLeaveAck
  deriving DecidableEq

/-- m_iDelayTypeId, m_iDelayLen and m_DelayBuf. -/
inductive Delay where
  | none
  | received (typeId : UInt16) (data : List UInt8)
  | written (packet : ClientPacket)
  deriving DecidableEq

inductive Message where
  | onLoginFailedAck (sessionId : UInt32) (reason : Int8)
  | gateAllocReq (gate : UInt8) (sessionId : UInt32) (accountName : WString)
  | gateReleaseReq (gate : UInt8) (sessionId : UInt32) (accountName : WString)
  | disconnect (gate : UInt8) (sessionId : UInt32)
  | sendData (gate : UInt8) (sessionId : UInt32) (delay : Delay)
  | loginPacketForward (sessionId : UInt32) (delay : Delay)
  | cachePacketForward (sessionId : UInt32) (delay : Delay)
  | cacheOnLoginReq (sessionId : UInt32) (accountName : WString)
  | cacheOnLogoutReq (sessionId : UInt32)
  | regionAllocReq (region : UInt8) (sessionId : UInt32) (avatarId : UInt64) (avatarName : WString)
  | regionReleaseReq (region : UInt8) (sessionId : UInt32)
  | regionLeaveReq (region : UInt8) (sessionId : UInt32)
  | regionEnterReq (region : UInt8) (sessionId : UInt32)
  | client (packet : ClientPacket)
  deriving DecidableEq

/-- What the loop did, for one of its players where there is one. -/
inductive Event where
  | sent (player : Option Object) (message : Message) (success : Bool)
  | allocated (player : Object)
  | queued (player : Object)
  | deleted (player : Object)
  deriving DecidableEq

/-- What a receiver passes on; other stands for a packet that reaches no player. -/
inductive Packet where
  | avatarListReq
  | avatarListAck (result : Int32) (avatars : List PrdAvatar)
  | avatarCreateReq
  | avatarCreateAck (result : Int32) (newAvatar : PrdAvatar)
  | avatarSelectReq (avatarName : WString)
  | avatarSelectAck (result : Int32) (avatarName : WString) (avatarId : UInt64) (lastChannelId : UInt8)
  | channelSelectReq (channelName : WString)
  | channelLeaveReq
  | other

/-- A send made with n events logged succeeds when net n does. -/
structure Env where
  config : MasterServerConfig
  net : Nat → Bool
  wchar2Char : WString → Option (List UInt8)
  onPacketReceived : UInt16 → List UInt8 → Packet

/-- The newest event is first in the log; undefined is set by an access outside an array
or through a null pointer. -/
structure Loop where
  shutdownStatus : ShutdownStatus
  playerContextPool : Pool
  contexts : Object → MasterPlayerContext
  playerContextByName : Map WString Object
  playerContextBySessionId : Map UInt32 Object
  loginServerContext : LoginServerContext
  gateServerContext : UInt8 → Option GateServerContext
  channelContext : UInt8 → Option ChannelContext
  channelCount : UInt8
  finalizingQueue : List Object
  delay : Delay
  log : List Event
  undefined : Bool

def Loop.new : Loop where
  shutdownStatus := .notShutdown
  playerContextPool := Tool.ObjectPool.new playerContextMax
  contexts := fun _ => .clear
  playerContextByName := ∅
  playerContextBySessionId := ∅
  loginServerContext := ⟨0,false,∅⟩
  gateServerContext := fun _ => none
  channelContext := fun _ => none
  channelCount := 0
  finalizingQueue := []
  delay := .none
  log := []
  undefined := false

def Loop.addGate (s : Loop) (item : GateConfigItem) : Loop :=
  if item.serverId.toNat > serverCountMax ∨ (s.gateServerContext item.serverId).isSome then s
  else {s with
    gateServerContext := Function.update s.gateServerContext item.serverId
      (some ⟨item.serverId,false,item.sessionMax,0,∅⟩)
    undefined := s.undefined || serverCountMax ≤ item.serverId.toNat}

/-- m_strChannelName of a context has no room for the end of a name of CHANNELNAME_MAX characters. -/
def Loop.addChannel (s : Loop) (item : ChannelConfigItem) : Loop :=
  if item.channelId.toNat > channelMax ∨ (s.channelContext item.channelId).isSome then s
  else {s with
    channelContext := Function.update s.channelContext item.channelId
      (some ⟨item.channelId,item.channelName,item.initialRegionServerId,fun _ => ∅⟩)
    undefined := s.undefined || channelMax ≤ item.channelId.toNat ||
      channelNameMax ≤ item.channelName.length}

def Loop.init (config : MasterServerConfig) : Loop :=
  let gates := config.gateConfigItems.foldl Loop.addGate .new
  config.channelConfigItems.foldl Loop.addChannel
    {gates with channelCount := UInt8.ofNat config.channelConfigItems.length}

def Loop.update (s : Loop) (player : Object)
    (change : MasterPlayerContext → MasterPlayerContext) : Loop :=
  {s with contexts := Function.update s.contexts player (change (s.contexts player))}

@[simp] theorem update_same (s : Loop) (player : Object)
    (change : MasterPlayerContext → MasterPlayerContext) :
    (s.update player change).contexts player = change (s.contexts player) :=
  Function.update_self ..

theorem update_other (s : Loop) (player other : Object)
    (change : MasterPlayerContext → MasterPlayerContext) (different : other ≠ player) :
    (s.update player change).contexts other = s.contexts other :=
  Function.update_of_ne different ..

end Fantuan.MasterServer.Context
