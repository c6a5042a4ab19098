import Fantuan.CacheServer.CacheDBEvent
import Fantuan.CacheServer.DbConnPool
import Fantuan.CacheServer.ServerLoop
import Fantuan.Tool.StateMachine

/-! CachePlayerContext: the handlers of a player's requests and of the results of its DB
events. A packet to the client is first written into the delay buffer, then forwarded by the
master.
-/
namespace Fantuan.CacheServer.Player
open Lib.Table ServerBase.ServerCommon Tool.ObjectPool Tool.StateMachine CacheDBEvent ServerLoop

inductive PlayerEvent where
  | onLoginReq | onAvatarListReq | avatarListAck | onAvatarSelectReq | avatarSelectAck
  | onRegionEnterReq | regionEnterAck | onLogoutReq
  deriving DecidableEq

-- the source adds no row for ONLOGOUTREQ itself
def initStateMachine : PlayerState → List (PlayerEvent × PlayerState)
  | .none => [(.onLoginReq,.onLoginReq)]
  | .onLoginReq => [(.onAvatarListReq,.onAvatarListReq),(.onLogoutReq,.onLogoutReq)]
  | .onAvatarListReq => [(.avatarListAck,.avatarListAck)]
  | .avatarListAck => [(.onAvatarSelectReq,.onAvatarSelectReq),(.onLogoutReq,.onLogoutReq)]
  | .onAvatarSelectReq => [(.avatarSelectAck,.avatarSelectAck)]
  | .avatarSelectAck => [(.onAvatarListReq,.onAvatarListReq),(.onRegionEnterReq,.onRegionEnterReq),
      (.onLogoutReq,.onLogoutReq)]
  | .onRegionEnterReq => [(.regionEnterAck,.regionEnterAck),(.onLogoutReq,.onLogoutReq)]
  | .regionEnterAck => [(.onLogoutReq,.onLogoutReq)]
  | .onLogoutReq => []

def transition (state : PlayerState) (event : PlayerEvent) : Option PlayerState :=
  outputState initStateMachine state event

/-- Packets to the client, with names as ftdAvatar has them. -/
inductive Packet where
  | avatarListAck (ret : Int32) (arrayAvatar : List (UInt64 × List UInt8))
  | avatarCreateAck (ret : Int32) (newAvatar : UInt64 × List UInt8)
  | avatarSelectAck (ret : Int32) (avatar : UInt64 × List UInt8) (lastChannelId : UInt8)
  deriving DecidableEq

/-- What the stubs of the master, a region and the client are called for. -/
inductive Message where
  | packetForward (sessionId : UInt32) (delay : Option Packet)
  | regionEnterAck (regionServer : Option UInt8) (sessionId : UInt32) (ret : Int32)
  | client (packet : Packet)
  deriving DecidableEq

/-- What is done, beside the changes of the state. A login has a number; an event is the one
that was pushed under it. -/
inductive Mark where
  | sent (message : Message) (success : Bool)
  | allocated (success : Bool)
  | handled (event : Nat)
  | queued (login : Nat)
  | deleted (login : Nat)
  deriving DecidableEq

/-- The members of CacheServerConfig that the loop and its players read. -/
structure Config where
  saveDBInterval : UInt32
  dbConnCount : Nat

/-- A send or an allocation with n marks logged succeeds when net n or memory n does; answers
is what MySQL answers to each event. -/
structure Env where
  config : Config
  net : Nat → Bool
  memory : Nat → Bool
  answers : Nat → Answer
  wchar2Char : WString → Option (List UInt8)
  char2WChar : List UInt8 → Option WString
  hasPeerServer : UInt8 → Bool

/-- Clear does not touch m_arrayAvatar. The logins are numbered in the order in which they are
made, and logins is the last one of each context; the newest mark is first in the log. -/
structure Cache extends Loop where
  dbConnPool : DbConnPool.Pool
  dbEvents : Nat → PlayerDBEvent
  arrayAvatar : Object → List Avatar
  currTime : UInt32
  undefined : Bool
  delay : Option Packet
  logins : Object → Nat
  loginCount : Nat
  log : List Mark

def Cache.update (s : Cache) (player : Object)
    (change : CachePlayerContext → CachePlayerContext) : Cache :=
  {s with contexts := Function.update s.contexts player (change (s.contexts player))}

@[simp] theorem update_same (s : Cache) (player : Object)
    (change : CachePlayerContext → CachePlayerContext) :
    (s.update player change).contexts player = change (s.contexts player) :=
  Function.update_self ..

theorem update_other (s : Cache) (player other : Object)
    (change : CachePlayerContext → CachePlayerContext) (different : other ≠ player) :
    (s.update player change).contexts other = s.contexts other :=
  Function.update_of_ne different ..

theorem update_field {Field : Type} (field : CachePlayerContext → Field) (s : Cache)
    (player other : Object) (change : CachePlayerContext → CachePlayerContext)
    (same : field (change (s.contexts player)) = field (s.contexts player)) :
    field ((s.update player change).contexts other) = field (s.contexts other) := by
  by_cases here : other = player
  · rw [here,update_same,same]
  · rw [update_other s player other change here]

/-- Without a transition nothing follows. -/
def expect (event : PlayerEvent) (player : Object) (next : Cache → Cache) (s : Cache) : Cache :=
  match transition (s.contexts player).state event with
  | some state => next (s.update player fun context => {context with state := state})
  | none => s

/-- A failing send ends the handler. -/
def attempt (env : Env) (message : Message) (next : Cache → Cache) (s : Cache) : Cache :=
  let success := env.net s.log.length
  let sent := {s with log := .sent message success :: s.log}
  if success then next sent else sent

/-- The packet is saved, then forwarded to the player's session. -/
def sendClient (env : Env) (player : Object) (packet : Packet) (next : Cache → Cache) : Cache → Cache :=
  attempt env (.client packet) fun s =>
    let saved := {s with delay := some packet}
    attempt env (.packetForward (saved.contexts player).sessionId saved.delay) next saved

def allocateEvent (env : Env) (failed next : Cache → Cache) (s : Cache) : Cache :=
  let success := env.memory s.log.length
  let allocated := {s with log := .allocated success :: s.log}
  if success then next allocated else failed allocated

/-- m_iSessionId is the sequence id, and the pool refuses the sequence 0. -/
def pushSequenceEvent (player : Object) (data : EventData) (returnable : Bool) (s : Cache) : Cache :=
  let sessionId := (s.contexts player).sessionId
  {s with
    dbEvents := Function.update s.dbEvents s.dbConnPool.pushed ⟨sessionId,0,data⟩
    dbConnPool :=
      DbConnPool.pushSequenceEvent sessionId.toUInt64 data.eventId returnable s.dbConnPool}

def addPlayerToFinalizingQueue (player : Object) (s : Cache) : Cache :=
  let marked := s.update player fun context => {context with finalizing := true}
  {marked with
    finalizingQueue := s.finalizingQueue ++ [player]
    log := .queued (s.logins player) :: s.log}

theorem addPlayerToFinalizingQueue_finalizing (player : Object) (s : Cache) :
    ((addPlayerToFinalizingQueue player s).contexts player).finalizing = true := by
  simp [addPlayerToFinalizingQueue]

def needSave : PlayerState → Bool
  | .onLoginReq | .onAvatarListReq | .avatarListAck | .onAvatarSelectReq | .avatarSelectAck
  | .onRegionEnterReq => false
  | _ => true

def shutdown (env : Env) (player : Object) (s : Cache) : Cache :=
  if needSave (s.contexts player).state then
    allocateEvent env id (pushSequenceEvent player .avatarFinalize true) s
  else addPlayerToFinalizingQueue player s

def shutdownPlayer (env : Env) (player : Object) (s : Cache) : Cache :=
  if (s.contexts player).finalizing then s else shutdown env player s

def onLoginReq (player : Object) (sessionId : UInt32) (accountName : WString) : Cache → Cache :=
  expect .onLoginReq player fun s =>
    s.update player fun context => {context with accountName := accountName, sessionId := sessionId}

def onAvatarLogoutReq (env : Env) (player : Object) : Cache → Cache :=
  allocateEvent env (shutdownPlayer env player) fun s =>
    pushSequenceEvent player (.avatarLogout (s.contexts player).avatarContext.avatarId) true s

def onLogoutReq (env : Env) (player : Object) : Cache → Cache :=
  expect .onLogoutReq player fun s =>
    shutdownPlayer env player <|
      if (s.contexts player).avatarContext.enterRegion then onAvatarLogoutReq env player s else s

def onRegionEnterReq (env : Env) (player : Object) (serverId : UInt8) (avatarName : WString) :
    Cache → Cache :=
  expect .onRegionEnterReq player <| allocateEvent env id fun s =>
    let avatarId := (s.contexts player).avatarContext.avatarId
    pushSequenceEvent player (.avatarEnterRegion avatarId avatarName) true <|
      s.update player fun context => {context with regionServerId := serverId}

def onAvatarListReq (env : Env) (player : Object) : Cache → Cache :=
  expect .onAvatarListReq player <|
    allocateEvent env (sendClient env player (.avatarListAck 0 []) id) fun s =>
      pushSequenceEvent player (.getAvatarList (s.contexts player).accountName []) true s

/-- No state is checked. -/
def onAvatarCreateReq (env : Env) (player : Object) (avatarName : WString) : Cache → Cache :=
  allocateEvent env (sendClient env player (.avatarCreateAck 0 (0,[])) id) fun s =>
    pushSequenceEvent player (.avatarCreate (s.contexts player).accountName ⟨0,avatarName⟩) true s

def avatars (player : Object) (s : Cache) : List Avatar :=
  (s.arrayAvatar player).take (s.contexts player).avatarCount.toNat

def onAvatarSelectReq (env : Env) (player : Object) (avatarName : WString) : Cache → Cache :=
  expect .onAvatarSelectReq player fun s =>
    match (avatars player s).find? fun avatar => avatar.avatarName = avatarName with
    | some avatar =>
      allocateEvent env (sendClient env player (.avatarSelectAck (-1) (0,[]) 0) id)
        (pushSequenceEvent player (.avatarSelectData avatar.avatarId avatarName 0) true) s
    | none => s

/-- What an alarm saves needs no answer. -/
def onSaveDataReq (env : Env) (player : Object) (sendNtf : Bool) : Cache → Cache :=
  allocateEvent env id fun s =>
    let avatar := (s.contexts player).avatarContext
    (pushSequenceEvent player (.avatarSaveData avatar.avatarName avatar.lastChannelId) sendNtf s).update
      player fun context => {context with
        avatarContext := {context.avatarContext with dirty := (false,false)}
        nextSaveDataTime := s.currTime + env.config.saveDBInterval}

def saveAvatars (player : Object) (ret : Int32) (arrayAvatar : List Avatar) (s : Cache) : Cache :=
  if ret = 0 then
    {s.update player fun context => {context with avatarCount := UInt8.ofNat arrayAvatar.length} with
      arrayAvatar := Function.update s.arrayAvatar player arrayAvatar}
  else s

-- the entries are converted up to the player's m_iAvatarCount, which an event that has failed
-- leaves as it was
def onPlayerEventGetAvatarListResult (env : Env) (player : Object) (ret : Int32)
    (arrayAvatar : List Avatar) : Cache → Cache :=
  expect .avatarListAck player fun s =>
    let listed := saveAvatars player ret arrayAvatar s
    let entries := (List.range (listed.contexts player).avatarCount.toNat).map fun i =>
      let avatar := arrayAvatar.getD i ⟨0,[]⟩
      (avatar.avatarId,env.wchar2Char avatar.avatarName)
    if entries.any (fun entry => entry.2.isNone) then listed
    else
      let sent := (List.range arrayAvatar.length).map fun i =>
        ((entries.map fun entry => (entry.1,entry.2.getD [])).getD i (0,[]))
      sendClient env player (.avatarListAck ret sent) id listed

def onPlayerEventAvatarCreateResult (env : Env) (player : Object) (ret : Int32) (avatar : Avatar)
    (s : Cache) : Cache :=
  if ret ≠ 0 then sendClient env player (.avatarCreateAck ret (0,[])) id s
  else
    match env.wchar2Char avatar.avatarName with
    | none => s
    | some name =>
      if avatarCountMax ≤ (s.contexts player).avatarCount.toNat then s
      else
        let added := {s.update player fun context =>
            {context with avatarCount := context.avatarCount + 1} with
          arrayAvatar := Function.update s.arrayAvatar player (avatars player s ++ [avatar])}
        sendClient env player (.avatarCreateAck ret (avatar.avatarId,name)) id added

/-- The avatar is taken over before the state is checked. -/
def selectAvatar (player : Object) (avatarId : UInt64) (avatarName : WString) (lastChannelId : UInt8)
    (s : Cache) : Cache :=
  s.update player fun context =>
    let old := if context.avatarContext.avatarId ≠ 0 then .clear else context.avatarContext
    {context with avatarContext := {old with
      avatarName := avatarName, avatarId := avatarId, lastChannelId := lastChannelId}}

/-- A player that does not wait for the acknowledgement is shut down. -/
def acknowledgeSelect (env : Env) (player : Object) (packet : Packet) : Cache → Cache :=
  sendClient env player packet fun s =>
    match transition (s.contexts player).state .avatarSelectAck with
    | some state => s.update player fun context => {context with state := state}
    | none => shutdownPlayer env player s

def onPlayerEventAvatarSelectResult (env : Env) (player : Object) (ret : Int32) (avatarId : UInt64)
    (avatarName : WString) (lastChannelId : UInt8) (s : Cache) : Cache :=
  if ret ≠ 0 then acknowledgeSelect env player (.avatarSelectAck ret (0,[]) 0) s
  else
    let selected := selectAvatar player avatarId avatarName lastChannelId s
    match env.wchar2Char avatarName with
    | none => selected
    | some name =>
      acknowledgeSelect env player (.avatarSelectAck ret (avatarId,name) lastChannelId) selected

/-- The entry is inserted under the avatar that the player has now. -/
def addPlayerContextByAvatarId (player : Object) (s : Cache) : Cache :=
  {s with playerContextByAvatarId :=
    insert (s.contexts player).avatarContext.avatarId player s.playerContextByAvatarId}

def setEnterRegion (player : Object) (enterRegion : Bool) (s : Cache) : Cache :=
  s.update player fun context =>
    {context with avatarContext := {context.avatarContext with enterRegion := enterRegion}}

def onPlayerEventAvatarEnterRegionResult (env : Env) (player : Object) (ret : Int32) (s : Cache) :
    Cache :=
  let entered :=
    if ret = 0 then setEnterRegion player true (addPlayerContextByAvatarId player s) else s
  let context := entered.contexts player
  let regionServer := if env.hasPeerServer context.regionServerId then some context.regionServerId
    else none
  attempt env (.regionEnterAck regionServer context.sessionId ret)
    (expect .regionEnterAck player id) entered

def onPlayerEventResult (env : Env) (player : Object) (event : PlayerDBEvent) : Cache → Cache :=
  match event.data with
  | .getAvatarList _ arrayAvatar => onPlayerEventGetAvatarListResult env player event.ret arrayAvatar
  | .avatarCreate _ avatar => onPlayerEventAvatarCreateResult env player event.ret avatar
  | .avatarSelectData avatarId avatarName lastChannelId =>
    onPlayerEventAvatarSelectResult env player event.ret avatarId avatarName lastChannelId
  | .avatarEnterRegion _ _ => onPlayerEventAvatarEnterRegionResult env player event.ret
  | .avatarSaveData _ _ => id
  | .avatarLogout _ => setEnterRegion player false
  | .avatarFinalize => addPlayerToFinalizingQueue player

end Fantuan.CacheServer.Player
