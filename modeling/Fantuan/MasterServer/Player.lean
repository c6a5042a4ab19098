import Fantuan.MasterServer.ServerLoop

/-! MasterPlayerContext: the handlers of a player's requests and answers. Most of them
check a transition, send something and check the next transition.
-/
namespace Fantuan.MasterServer.Player
open Lib.Table ServerBase.ServerCommon Tool.ObjectPool PlayerFsm Context ServerLoop

/-- A transition to another state than the expected one shuts the player down. -/
def expect (env : Env) (player : Object) (event : PlayerEvent) (expected : PlayerState)
    (next : Loop → Loop) (s : Loop) : Loop :=
  let moved := stateTransition event player s
  if reaches event player s = some expected then next moved else shutdownPlayer env player moved

/-- A failing send shuts the player down. -/
def attempt (env : Env) (player : Object) (message : Loop → Message) (next : Loop → Loop)
    (s : Loop) : Loop :=
  let sent := send env (some player) (message s) s
  if sends env s then next sent else shutdownPlayer env player sent

def attemptWrite (env : Env) (player : Object) (packet : ClientPacket) (next : Loop → Loop)
    (s : Loop) : Loop :=
  let written := write env player packet s
  if sends env s then next written else shutdownPlayer env player written

/-- A failing send shuts the player down, and the handler goes on. -/
def attemptThen (env : Env) (player : Object) (message : Loop → Message) (next : Loop → Loop)
    (s : Loop) : Loop :=
  let sent := send env (some player) (message s) s
  next (if sends env s then sent else shutdownPlayer env player sent)

def toClient (player : Object) (s : Loop) : Message :=
  .sendData (s.contexts player).gateServerId (s.contexts player).sessionId s.delay

def toCache (player : Object) (s : Loop) : Message :=
  .cachePacketForward (s.contexts player).sessionId s.delay

def toLogin (player : Object) (s : Loop) : Message :=
  .loginPacketForward (s.contexts player).sessionId s.delay

def onLoginReq (env : Env) (player : Object) (sessionId : UInt32) (accountName : WString)
    (s : Loop) : Loop :=
  expect env player .onLoginReq .onLoginReq (fun s =>
    let named := s.update player fun context =>
      {context with sessionId := sessionId, accountName := accountName}
    match gateAllocReq named with
    | (none,full) => full
    | (some gate,counted) =>
      let chosen := counted.update player fun context => {context with gateServerId := gate}
      let sent := send env (some player) (.gateAllocReq gate sessionId accountName) chosen
      if sends env chosen then expect env player .gateAllocReq .gateAllocReq id sent else sent) s

def gateAllocAck (env : Env) (player : Object) (gate : UInt8) (gateSessionId : UInt32)
    (s : Loop) : Loop :=
  if gate = 0 then shutdownPlayer env player (stateTransition .gateAllocFailAck player s)
  else expect env player .gateAllocAck .gateAllocAck (fun s =>
    let chosen := s.update player fun context => {context with gateServerId := gate}
    match env.config.getGateConfigItem gate with
    | none => shutdownPlayer env player chosen
    | some item =>
      attemptWrite env player (.loginNtf item.serverIp item.serverPort)
        (attempt env player (toLogin player)
          (expect env player .gateAllocNtf .gateAllocNtf fun s =>
            loginSession2GateSession player (s.contexts player).sessionId gateSessionId s)) chosen) s

def onGateLoginReq (env : Env) (player : Object) (s : Loop) : Loop :=
  if (s.contexts player).finalizing then s
  else expect env player .onGateLoginReq .onGateLoginReq
    (attempt env player
      (fun s => .cacheOnLoginReq (s.contexts player).sessionId (s.contexts player).accountName)
      (stateTransition .cacheLoginReq player)) s

def onSessionDisconnect (env : Env) (player : Object) (s : Loop) : Loop := shutdownPlayer env player s

def onAvatarListReq (env : Env) (player : Object) (s : Loop) : Loop :=
  if (s.contexts player).finalizing then s
  else expect env player .onAvatarListReq .onAvatarListReq
    (attempt env player (toCache player) (expect env player .avatarListReq .avatarListReq id)) s

/-- The avatars are copied into an array of AVATARCOUNT_MAX. -/
def holdAvatars (avatars : List PrdAvatar) (s : Loop) : Loop :=
  {s with undefined := s.undefined || avatarCountMax < avatars.length}

def onAvatarListAck (env : Env) (player : Object) (result : Int32) (avatars : List PrdAvatar)
    (s : Loop) : Loop :=
  if (s.contexts player).finalizing then s
  else expect env player .onAvatarListAck .onAvatarListAck (fun s =>
    if result ≠ 0 then shutdownPlayer env player s
    else attemptThen env player (toClient player) (stateTransition .avatarListAck player)
      (holdAvatars avatars (s.update player fun context => {context with avatars := avatars}))) s

def onAvatarCreateReq (env : Env) (player : Object) (s : Loop) : Loop :=
  if (s.contexts player).finalizing then s
  else expect env player .onAvatarCreateReq .onAvatarCreateReq (fun s =>
    if avatarCountMax ≤ (s.contexts player).avatars.length then shutdownPlayer env player s
    else attempt env player (toCache player) (stateTransition .avatarCreateReq player) s) s

def onAvatarCreateAck (env : Env) (player : Object) (result : Int32) (newAvatar : PrdAvatar)
    (s : Loop) : Loop :=
  if (s.contexts player).finalizing then s
  else expect env player .onAvatarCreateAck .onAvatarCreateAck (fun s =>
    if result ≠ 0 then shutdownPlayer env player s
    else if avatarCountMax ≤ (s.contexts player).avatars.length then s
    else attemptThen env player (toClient player) (stateTransition .avatarCreateAck player)
      (s.update player fun context => {context with avatars := context.avatars ++ [newAvatar]})) s

def onAvatarSelectReq (env : Env) (player : Object) (avatarName : WString) (s : Loop) : Loop :=
  if (s.contexts player).finalizing then s
  else expect env player .onAvatarSelectReq .onAvatarSelectReq (fun s =>
    if (s.contexts player).avatars.any fun avatar => avatar.avatarName = avatarName then
      attempt env player (toCache player) (stateTransition .avatarSelectReq player) s
    else shutdownPlayer env player s) s

/-- The channel list, after which the player is in the state of the list. -/
def notifyChannels (env : Env) (player : Object) (s : Loop) : Loop :=
  let (success,listed) := sendChannelList env player s
  if success then stateTransition .channelListNtf player listed else shutdownPlayer env player listed

def onAvatarSelectAck (env : Env) (player : Object) (result : Int32) (avatarName : WString)
    (avatarId : UInt64) (lastChannelId : UInt8) (s : Loop) : Loop :=
  if (s.contexts player).finalizing then s
  else expect env player .onAvatarSelectAck .onAvatarSelectAck (fun s =>
    if result ≠ 0 then shutdownPlayer env player s
    else attemptThen env player (toClient player) (fun s =>
      let moved := stateTransition .avatarSelectAck player s
      if reaches .avatarSelectAck player s = some .avatarSelectAck then notifyChannels env player moved
      else moved)
      (s.update player fun context => {context with
        avatarName := avatarName, avatarId := avatarId, lastChannelId := lastChannelId})) s

def onChannelSelectReq (env : Env) (player : Object) (channelName : WString) (s : Loop) : Loop :=
  if (s.contexts player).finalizing then s
  else expect env player .onChannelSelectReq .onChannelSelectReq (fun s =>
    let channelId := getChannelId channelName s
    if channelId = invalidChannelId then
      let written := write env player (.channelSelectAck (-1)) s
      if sends env s then send env (some player) (toClient player written) written else written
    else attempt env player
      (fun s => .regionAllocReq (getInitialRegionServerId channelId s) (s.contexts player).sessionId
        (s.contexts player).avatarId (s.contexts player).avatarName)
      (fun s => stateTransition .regionAllocReq player
        (s.update player fun context => {context with lastChannelId := channelId})) s) s

def onChannelLeaveReq (s : Loop) : Loop := s

def onRegionAllocAck (env : Env) (player : Object) (region : UInt8) (result : Int32)
    (s : Loop) : Loop :=
  if (s.contexts player).finalizing then s
  else expect env player .onRegionAllocAck .onRegionAllocAck (fun s =>
    if result ≠ 0 then
      attemptWrite env player (.channelSelectAck result)
        (attempt env player (toClient player) fun s =>
          notifyChannels env player (stateTransition .channelSelectAck player s))
        (stateTransition .onRegionAllocFailAck player s)
    else attemptWrite env player (.channelSelectAck result)
      (attempt env player (toClient player) fun s =>
        let acked := stateTransition .channelSelectAck player s
        if reaches .channelSelectAck player s = some .channelSelectAck then
          attempt env player
            (fun s => .regionEnterReq (s.contexts player).regionServerId (s.contexts player).sessionId)
            (fun s =>
              let entered := stateTransition .regionEnterReq player s
              if reaches .regionEnterReq player s = some .regionEnterReq then
                addPlayerToRegionServerContext player entered
              else entered) acked
        else acked)
      (s.update player fun context => {context with regionServerId := region})) s

def onRegionLeaveReq (env : Env) (player : Object) (s : Loop) : Loop :=
  let moved := stateTransition .onRegionLeaveReq player s
  if reaches .onRegionLeaveReq player s = none then shutdownPlayer env player moved
  else attemptWrite env player .channelLeaveAck
    (attempt env player (toClient player) fun s =>
      match (s.contexts player).state with
      | .onChannelLeave_onRegionLeaveReq =>
        stateTransition .channelListNtf player (sendChannelList env player s).2
      | .onChannelLeave_regionLeaveAck =>
        attempt env player (fun s => .cacheOnLogoutReq (s.contexts player).sessionId)
          (fun s => shutdownPlayer env player (stateTransition .logout player s)) s
      | _ => s)
    (deletePlayerFromRegionServerContext player moved)

def onRegionPlayerFailReq (env : Env) (player : Object) (s : Loop) : Loop :=
  if (s.contexts player).finalizing then s
  else
    let context := s.contexts player
    addPlayerToFinalizingQueue player <|
      send env (some player) (.cacheOnLogoutReq context.sessionId) <|
      send env (some player) (.disconnect context.gateServerId context.sessionId) s

end Fantuan.MasterServer.Player
