import Fantuan.Lib.Drain
import Fantuan.MasterServer.Player

/-! The commands of the master loop and its passes. A run is a sequence of commands and
passes in any order, from the state that Init leaves.
-/
namespace Fantuan.MasterServer.Commands
open Lib.Table Lib.Drain ServerBase.ServerCommon Tool.ObjectPool PlayerFsm Context ServerLoop Player

inductive Command where
  | shutdown
  | onLoginReport (serverId : UInt8)
  | onGateReport (serverId : UInt8) (sessionCount : UInt16)
  | onLoginReq (sessionId : UInt32) (accountName : WString)
  | gateAllocAck (gate : UInt8) (loginSessionId : UInt32) (accountName : WString) (gateSessionId : UInt32)
  | onGateLoginReq (sessionId : UInt32)
  | onRegionAllocAck (sessionId : UInt32) (region : UInt8) (result : Int32)
  | onRegionLeaveReq (sessionId : UInt32)
  | onRegionPlayerFailReq (sessionId : UInt32)
  | onSessionDisconnect (sessionId : UInt32)
  | packetForward (sessionId : UInt32) (typeId : UInt16) (data : List UInt8)
  | other

def onCommandShutdown (env : Env) (s : Loop) : Loop :=
  (values s.playerContextByName).foldl (fun s player => shutdownPlayer env player s)
    {s with shutdownStatus := .startShutdown}

def onCommandOnLoginReport (serverId : UInt8) (s : Loop) : Loop :=
  {s with loginServerContext := {s.loginServerContext with isConnected := true, serverId := serverId}}

def onCommandOnGateReport (serverId : UInt8) (sessionCount : UInt16) (s : Loop) : Loop :=
  if serverId.toNat > serverCountMax ∨ (s.gateServerContext serverId).isNone then
    {s with undefined := s.undefined || serverId.toNat = serverCountMax}
  else updateGate serverId (fun gate => {gate with isConnected := true, sessionCount := sessionCount})
    {s with undefined := s.undefined || serverId.toNat = serverCountMax}

def onCommandOnLoginReq (env : Env) (sessionId : UInt32) (accountName : WString) (s : Loop) : Loop :=
  if !s.loginServerContext.isConnected then send env none (.onLoginFailedAck sessionId 1) s
  else match find accountName s.playerContextByName with
    | some player => shutdownPlayer env player (send env none (.onLoginFailedAck sessionId 2) s)
    | none =>
      match s.playerContextPool.allocate with
      | (none,_) => send env none (.onLoginFailedAck sessionId 2) s
      | (some player,pool) =>
        onLoginReq env player sessionId accountName {s with
          playerContextPool := pool
          playerContextByName := insert accountName player s.playerContextByName
          playerContextBySessionId := insert sessionId player s.playerContextBySessionId
          loginServerContext := {s.loginServerContext with
            players := insert sessionId player s.loginServerContext.players}
          log := .allocated player :: s.log}

def onCommandGateAllocAck (env : Env) (gate : UInt8) (loginSessionId : UInt32) (accountName : WString)
    (gateSessionId : UInt32) (s : Loop) : Loop :=
  match find accountName s.playerContextByName with
  | some player =>
    if (s.contexts player).sessionId = loginSessionId then gateAllocAck env player gate gateSessionId s
    else s
  | none => s

/-- The commands that name a session go to its player, if there is one. -/
def forSession (sessionId : UInt32) (handle : Object → Loop → Loop) (s : Loop) : Loop :=
  match find sessionId s.playerContextBySessionId with
  | some player => handle player s
  | none => s

def handlePacket (env : Env) (player : Object) (packet : Packet) (s : Loop) : Loop :=
  match packet with
  | .avatarListReq => onAvatarListReq env player s
  | .avatarListAck result avatars => onAvatarListAck env player result avatars (holdAvatars avatars s)
  | .avatarCreateReq => onAvatarCreateReq env player s
  | .avatarCreateAck result newAvatar => onAvatarCreateAck env player result newAvatar s
  | .avatarSelectReq avatarName => onAvatarSelectReq env player avatarName s
  | .avatarSelectAck result avatarName avatarId lastChannelId =>
    onAvatarSelectAck env player result avatarName avatarId lastChannelId s
  | .channelSelectReq channelName => onChannelSelectReq env player channelName s
  | .channelLeaveReq => onChannelLeaveReq s
  | .other => s

def onCommandPacketForward (env : Env) (sessionId : UInt32) (typeId : UInt16) (data : List UInt8) :
    Loop → Loop :=
  forSession sessionId fun player s =>
    handlePacket env player (env.onPacketReceived typeId data) (delaySendData typeId data s)

def onCommand (env : Env) (command : Command) (s : Loop) : Loop :=
  if s.shutdownStatus ≠ .notShutdown then s
  else match command with
    | .shutdown => onCommandShutdown env s
    | .onLoginReport serverId => onCommandOnLoginReport serverId s
    | .onGateReport serverId sessionCount => onCommandOnGateReport serverId sessionCount s
    | .onLoginReq sessionId accountName => onCommandOnLoginReq env sessionId accountName s
    | .gateAllocAck gate loginSessionId accountName gateSessionId =>
      onCommandGateAllocAck env gate loginSessionId accountName gateSessionId s
    | .onGateLoginReq sessionId => forSession sessionId (onGateLoginReq env) s
    | .onRegionAllocAck sessionId region result =>
      forSession sessionId (fun player => onRegionAllocAck env player region result) s
    | .onRegionLeaveReq sessionId => forSession sessionId (onRegionLeaveReq env) s
    | .onRegionPlayerFailReq sessionId => forSession sessionId (onRegionPlayerFailReq env) s
    | .onSessionDisconnect sessionId => forSession sessionId (onSessionDisconnect env) s
    | .packetForward sessionId typeId data => onCommandPacketForward env sessionId typeId data s
    | .other => s

def deleteFinalizing (s : Loop) : Loop :=
  {drainBack deletePlayer s.finalizingQueue s with finalizingQueue := []}

def loopPass (s : Loop) : Loop :=
  let drained := deleteFinalizing s
  if drained.shutdownStatus = .startShutdown ∧ drained.playerContextBySessionId = ∅ then
    {drained with shutdownStatus := .readyForShutdown}
  else drained

inductive Action where
  | command (command : Command)
  | pass

def step (env : Env) (s : Loop) : Action → Loop
  | .command command => onCommand env command s
  | .pass => loopPass s

/-- One gate, one channel, and sends that succeed; the packets are told apart by type. -/
def sampleEnv (net : Nat → Bool) : Env where
  config := ⟨[⟨1,16777343,5000,10⟩],[⟨0,[97],2⟩]⟩
  net := net
  wchar2Char := fun _ => some [97]
  onPacketReceived := fun typeId _ => match typeId with
    | 1 => .avatarListReq
    | 2 => .avatarListAck 0 [⟨7,[98]⟩]
    | 3 => .avatarSelectReq [98]
    | 4 => .avatarSelectAck 0 [98] 7 0
    | 5 => .channelSelectReq [97]
    | _ => .other

def loginSession : UInt32 := 10

def gateSession : UInt32 := 16777216

def enterGate : List Action :=
  [.command (.onLoginReport 1),.command (.onLoginReq loginSession [99]),
    .command (.gateAllocAck 1 loginSession [99] gateSession),.command (.onGateLoginReq gateSession)]

/-- A player logs in, selects an avatar and a channel, and enters region 2. -/
def enterRegion : List Action :=
  enterGate ++ [1,2,3,4,5].map (fun typeId => (.command (.packetForward gateSession typeId []) : Action)) ++
    ([.command (.onRegionAllocAck gateSession 2 0)] : List Action)

end Fantuan.MasterServer.Commands
