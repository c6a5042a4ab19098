import Fantuan.MasterServer.Context

/-! MasterServerLoop: what it does for one player. Asynchronous sends are log entries;
a failing send is a log entry too.
-/
namespace Fantuan.MasterServer.ServerLoop
open Lib.Table StarNet.Packet ServerBase.ServerCommon Tool.ObjectPool PlayerFsm Context

def send (env : Env) (player : Option Object) (message : Message) (s : Loop) : Loop :=
  {s with log := .sent player message (env.net s.log.length) :: s.log}

def sends (env : Env) (s : Loop) : Bool := env.net s.log.length

def sendIf (env : Env) (need : Bool) (player : Object) (message : Message) (s : Loop) : Loop :=
  if need then send env (some player) message s else s

/-- A stub that serialises its packet puts it into the delay buffer. -/
def write (env : Env) (player : Object) (packet : ClientPacket) (s : Loop) : Loop :=
  let sent := send env (some player) (.client packet) s
  if sends env s then {sent with delay := .written packet} else sent

def delaySendData (typeId : UInt16) (data : List UInt8) (s : Loop) : Loop :=
  {s with
    delay := .received typeId data
    undefined := s.undefined || maxInputBuffer < data.length}

def reaches (event : PlayerEvent) (player : Object) (s : Loop) : Option PlayerState :=
  transition (s.contexts player).state event

def stateTransition (event : PlayerEvent) (player : Object) (s : Loop) : Loop :=
  match reaches event player s with
  | some next => s.update player fun context => {context with state := next}
  | none => s

def isReadyForShutdown (s : Loop) : Bool := s.shutdownStatus = .readyForShutdown

def updateGate (gate : UInt8) (change : GateServerContext → GateServerContext) (s : Loop) : Loop :=
  {s with
    gateServerContext := Function.update s.gateServerContext gate
      ((s.gateServerContext gate).map change)}

def changeRegion (region : UInt8) (change : Map UInt32 Object → Map UInt32 Object)
    (channel : ChannelContext) : ChannelContext :=
  let changed := Function.update channel.regions region (change (channel.regions region))
  {channel with regions := changed}

/-- The map of the player's region server in its last channel is changed, if the channel
is there. -/
def updateRegion (player : Object) (change : Map UInt32 Object → Map UInt32 Object) (s : Loop) : Loop :=
  let context := s.contexts player
  {s with
    channelContext := Function.update s.channelContext context.lastChannelId
      ((s.channelContext context.lastChannelId).map (changeRegion context.regionServerId change))
    undefined := s.undefined || channelMax ≤ context.lastChannelId.toNat ||
      ((s.channelContext context.lastChannelId).isSome && serverCountMax ≤ context.regionServerId.toNat)}

def addPlayerToRegionServerContext (player : Object) (s : Loop) : Loop :=
  updateRegion player (insert (s.contexts player).sessionId player) s

def deletePlayerFromRegionServerContext (player : Object) (s : Loop) : Loop :=
  updateRegion player (erase (s.contexts player).sessionId) s

def deletePlayerFromLoginServerContext (player : Object) (s : Loop) : Loop :=
  {s with
    loginServerContext := {s.loginServerContext with
      players := erase (s.contexts player).sessionId s.loginServerContext.players}}

def deletePlayerFromGateServerContext (player : Object) (s : Loop) : Loop :=
  let context := s.contexts player
  if serverCountMax ≤ context.gateServerId.toNat then s
  else updateGate context.gateServerId
    (fun gate => {gate with players := erase context.sessionId gate.players}) s

/-- The id of the first gate with a free session, whose count goes up. -/
def gateAllocReq (s : Loop) : Option UInt8 × Loop :=
  let free := (List.range serverCountMax).findSome? fun i =>
    match s.gateServerContext (UInt8.ofNat i) with
    | some gate => if gate.sessionMax > gate.sessionCount then some (UInt8.ofNat i,gate) else none
    | none => none
  match free with
  | some (i,gate) => (some gate.serverId,
      updateGate i (fun gate => {gate with sessionCount := gate.sessionCount + 1}) s)
  | none => (none,s)

def loginSession2GateSession (player : Object) (loginSessionId gateSessionId : UInt32) (s : Loop) : Loop :=
  let left := {s with
    loginServerContext := {s.loginServerContext with
      players := erase loginSessionId s.loginServerContext.players}}
  let serverId := serverId gateSessionId
  let read := {left with undefined := left.undefined || serverCountMax ≤ serverId.toNat}
  match read.gateServerContext serverId with
  | none => read
  | some _ =>
    let moved := updateGate serverId
      (fun gate => {gate with players := insert gateSessionId player gate.players})
      (read.update player fun context => {context with sessionId := gateSessionId})
    if (find loginSessionId moved.playerContextBySessionId).isSome then
      {moved with
        playerContextBySessionId :=
          insert gateSessionId player (erase loginSessionId moved.playerContextBySessionId)}
    else moved

def addPlayerToFinalizingQueue (player : Object) (s : Loop) : Loop :=
  let marked := s.update player fun context => {context with finalizing := true}
  {marked with
    finalizingQueue := marked.finalizingQueue ++ [player]
    log := .queued player :: marked.log}

structure ShutdownNeeds where
  loginFailedAck : Bool := false
  gateRelease : Bool := false
  gateDisconnect : Bool := false
  cacheDisconnect : Bool := false
  regionRelease : Bool := false
  regionLeave : Bool := false

def shutdownNeeds : PlayerState → ShutdownNeeds
  | .onLoginReq => {loginFailedAck := true}
  | .gateAllocReq | .gateAllocAck => {loginFailedAck := true, gateRelease := true}
  | .gateAllocFailAck => {loginFailedAck := true}
  | .gateAllocNtf => {gateRelease := true}
  | .onGateLoginReq => {gateDisconnect := true}
  | .cacheLoginReq | .onAvatarListReq | .avatarListReq | .onAvatarListAck | .avatarListAck
  | .onAvatarCreateReq | .avatarCreateReq | .onAvatarCreateAck | .onAvatarSelectReq
  | .avatarSelectReq | .onAvatarSelectAck | .avatarSelectAck | .channelListNtf
  | .onChannelSelectReq | .onRegionAllocFailAck | .channelSelectFailAck
  | .onChannelLeave_onRegionLeaveReq | .finalizing_onRegionLeaveReq =>
    {gateDisconnect := true, cacheDisconnect := true}
  | .regionAllocReq | .onRegionAllocAck | .channelSelectAck =>
    {gateDisconnect := true, cacheDisconnect := true, regionRelease := true}
  | .regionEnterReq | .onChannelLeaveReq | .finalizing =>
    {gateDisconnect := true, cacheDisconnect := true, regionLeave := true}
  | .logout => {gateDisconnect := true}
  | .none | .onChannelLeave_regionLeaveAck | .finalizing_regionLeaveAck => {}

/-- The sends of ShutdownPlayer after the region has been dealt with. -/
def finishShutdown (env : Env) (needs : ShutdownNeeds) (player : Object) (s : Loop) : Loop :=
  let context := s.contexts player
  let ready := isReadyForShutdown s
  addPlayerToFinalizingQueue player <|
    sendIf env (needs.cacheDisconnect && !ready) player (.cacheOnLogoutReq context.sessionId) <|
    sendIf env (needs.gateDisconnect && !ready) player
      (.disconnect context.gateServerId context.sessionId) <|
    sendIf env (needs.gateRelease && !ready) player
      (.gateReleaseReq context.gateServerId context.sessionId context.accountName) <|
    sendIf env (needs.loginFailedAck && !ready) player (.onLoginFailedAck context.sessionId 3) s

def shutdownPlayer (env : Env) (player : Object) (s : Loop) : Loop :=
  if (s.contexts player).finalizing then s
  else
    let needs := shutdownNeeds (s.contexts player).state
    let ready := isReadyForShutdown s
    let begun := if (s.contexts player).state = .regionEnterReq then stateTransition .finalize player s
      else s
    let context := begun.contexts player
    let released := if needs.regionRelease && !ready then
        deletePlayerFromRegionServerContext player
          (send env (some player) (.regionReleaseReq context.regionServerId context.sessionId) begun)
      else begun
    if needs.regionLeave && !ready then
      let left := send env (some player) (.regionLeaveReq context.regionServerId context.sessionId) released
      -- the region has to be left first: the player is shut down when it answers
      if sends env released then stateTransition .regionLeaveAck player left
      else finishShutdown env needs player left
    else finishShutdown env needs player released

/-- The server context from which DeletePlayer takes the player. -/
inductive Place where
  | nowhere | login | gate
  deriving DecidableEq

def deletePlace : PlayerState → Place
  | .onLoginReq | .gateAllocReq | .gateAllocFailAck => .login
  | .none => .nowhere
  | _ => .gate

def deletesFromRegion : PlayerState → Bool
  | .onRegionAllocFailAck | .channelSelectFailAck | .onChannelLeave_onRegionLeaveReq
  | .onChannelLeave_regionLeaveAck | .finalizing_onRegionLeaveReq | .regionAllocReq
  | .onRegionAllocAck | .channelSelectAck | .regionEnterReq | .onChannelLeaveReq | .finalizing
  | .finalizing_regionLeaveAck | .logout => true
  | _ => false

def deletePlayer (player : Object) (s : Loop) : Loop :=
  let state := (s.contexts player).state
  let served := match deletePlace state with
    | .nowhere => s
    | .login => deletePlayerFromLoginServerContext player s
    | .gate => deletePlayerFromGateServerContext player s
  let left := if deletesFromRegion state then deletePlayerFromRegionServerContext player served
    else served
  let context := left.contexts player
  let unlisted := {left with
    playerContextByName := erase context.accountName left.playerContextByName
    playerContextBySessionId := erase context.sessionId left.playerContextBySessionId}
  let cleared := unlisted.update player fun _ => .clear
  {cleared with
    playerContextPool := cleared.playerContextPool.release player
    log := .deleted player :: cleared.log}

inductive ChannelFault where
  | null | notConverted

def channelData (env : Env) (s : Loop) : Except ChannelFault (List (List UInt8)) :=
  (List.range s.channelCount.toNat).mapM fun i =>
    match s.channelContext (UInt8.ofNat i) with
    | none => throw .null
    | some channel =>
      match env.wchar2Char channel.channelName with
      | none => throw .notConverted
      | some name => pure name

/-- The result tells whether SendChannelList returns 0. -/
def sendChannelList (env : Env) (player : Object) (s : Loop) : Bool × Loop :=
  match channelData env s with
  | .error .null => (false,{s with undefined := true})
  | .error .notConverted => (false,s)
  | .ok names =>
    let written := write env player (.channelListNtf names) s
    if !sends env s then (false,written)
    else
      let context := written.contexts player
      (sends env written,
        send env (some player) (.sendData context.gateServerId context.sessionId written.delay) written)

def getChannelId (channelName : WString) (s : Loop) : UInt8 :=
  let found := (List.range s.channelCount.toNat).findSome? fun i =>
    match s.channelContext (UInt8.ofNat i) with
    | some channel => if channel.channelName = channelName then some channel.channelId else none
    | none => none
  found.getD invalidChannelId

def getInitialRegionServerId (channelId : UInt8) (s : Loop) : UInt8 :=
  let found := (List.range s.channelCount.toNat).findSome? fun i =>
    match s.channelContext (UInt8.ofNat i) with
    | some channel => if channel.channelId = channelId then some channel.initialRegionServerId else none
    | none => none
  found.getD invalidServerId

end Fantuan.MasterServer.ServerLoop
