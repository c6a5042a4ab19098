import Fantuan.RegionServer.ServerLoop
import Fantuan.Tool.StateMachine

/-! RegionPlayerContext: the handlers of a player's requests, and ShutdownPlayer. A packet to
the client is first written into the delay buffer of the loop, then sent through the gate.
-/
namespace Fantuan.RegionServer.Player
open Lib.Table ServerBase.ServerCommon Tool.ObjectPool Tool.StateMachine ServerLoop

inductive PlayerEvent where
  | onRegionAllocReq | regionAllocAck | onRegionReleaseReq | onRegionEnterReq | regionEnterReq
  | onRegionEnterAck | onRegionLeaveReq | serverTimeNtf | onClientTimeReq | serverTime2Ntf
  | initAvatarNtf
  deriving DecidableEq

-- the source adds no row for ONREGIONLEAVEREQ and none for INITAVATARNTF
def initStateMachine : PlayerState → List (PlayerEvent × PlayerState)
  | .none => [(.onRegionAllocReq,.onRegionAllocReq)]
  | .onRegionAllocReq => [(.regionAllocAck,.regionAllocAck),(.onRegionReleaseReq,.onRegionReleaseReq)]
  | .regionAllocAck => [(.onRegionReleaseReq,.onRegionReleaseReq),
      (.onRegionEnterReq,.onRegionEnterReq)]
  | .onRegionReleaseReq => [(.onRegionEnterReq,.onRegionEnterReq),
      (.onRegionReleaseReq,.onRegionReleaseReq)]
  | .onRegionEnterReq => [(.regionEnterReq,.regionEnterReq),(.onRegionLeaveReq,.onRegionLeaveReq)]
  | .regionEnterReq => [(.onRegionEnterAck,.onRegionEnterAck),(.onRegionLeaveReq,.onRegionLeaveReq)]
  | .onRegionEnterAck => [(.serverTimeNtf,.serverTimeNtf),(.onRegionLeaveReq,.onRegionLeaveReq)]
  | .serverTimeNtf => [(.onClientTimeReq,.onClientTimeReq),(.onRegionLeaveReq,.onRegionLeaveReq)]
  | .onClientTimeReq => [(.serverTime2Ntf,.serverTime2Ntf),(.onRegionLeaveReq,.onRegionLeaveReq)]
  | .serverTime2Ntf => [(.initAvatarNtf,.initAvatarNtf),(.onRegionLeaveReq,.onRegionLeaveReq)]
  | .initAvatarNtf => []
  | .onRegionLeaveReq => []

def transition (state : PlayerState) (event : PlayerEvent) : Option PlayerState :=
  outputState initStateMachine state event

/-- Packets to the client. -/
inductive Packet where
  | serverTimeNtf (serverTime : UInt32)
  | initialAvatarDataNtf (avatarId : UInt64) (avatarName : List UInt8)
  | regionAvatarEnterNtf (avatarId : UInt64) (avatarName : List UInt8)
  | regionAvatarLeaveNtf (avatarId : UInt64)
  | regionChatNtf (avatarId : UInt64) (message : List UInt8)
  deriving DecidableEq

/-- What the stubs of the master, the cache, the gates and the client are called for. -/
inductive Message where
  | onRegionAllocAck (sessionId : UInt32) (serverId : UInt8) (result : Int32)
  | onRegionLeaveReq (sessionId : UInt32) (serverId : UInt8)
  | onRegionPlayerFailReq (sessionId : UInt32) (reason : Int32)
  | onRegionEnterReq (sessionId : UInt32) (serverId : UInt8) (avatarName : WString)
  | regionBindReq (gateServer : Option UInt8) (sessionId : UInt32) (serverId : UInt8)
  | sendData (gateServer : Option UInt8) (sessionId : UInt32) (delay : Option Packet)
  | broadcastData (gateServer : UInt8) (sessionIds : List UInt32) (delay : Option Packet)
  | client (packet : Packet)
  deriving DecidableEq

structure Event where
  message : Message
  success : Bool
  deriving DecidableEq

/-- The members of RegionServerConfig that the loop and its players read. -/
structure Config where
  serverId : UInt8
  playerMax : UInt16
  gateSessionIndexMax : UInt16

/-- A send made with n events logged succeeds when net n does, and an allocation of an avatar
when memory n does. -/
structure Env where
  config : Config
  net : Nat → Bool
  memory : Nat → Bool
  wchar2Char : WString → Option (List UInt8)
  hasPeerServer : UInt8 → Bool
  logicLoopByMap : UInt16 → Option Nat

/-- An avatar object is the map to which it teleports; the newest event is first in the log. -/
structure Region extends Loop where
  shutdownStatus : ShutdownStatus
  currTime : UInt32
  avatars : Object → Option UInt16
  delay : Option Packet
  log : List Event

def Region.update (s : Region) (player : Object)
    (change : RegionPlayerContext → RegionPlayerContext) : Region :=
  {s with contexts := Function.update s.contexts player (change (s.contexts player))}

@[simp] theorem update_same (s : Region) (player : Object)
    (change : RegionPlayerContext → RegionPlayerContext) :
    (s.update player change).contexts player = change (s.contexts player) :=
  Function.update_self ..

theorem update_other (s : Region) (player other : Object)
    (change : RegionPlayerContext → RegionPlayerContext) (different : other ≠ player) :
    (s.update player change).contexts other = s.contexts other :=
  Function.update_of_ne different ..

def sends (env : Env) (s : Region) : Bool := env.net s.log.length

def send (env : Env) (message : Message) (s : Region) : Region :=
  {s with log := ⟨message,sends env s⟩ :: s.log}

/-- A stub that serialises its packet saves it. -/
def write (env : Env) (packet : Packet) (s : Region) : Region :=
  let sent := send env (.client packet) s
  if sends env s then {sent with delay := some packet} else sent

def reaches (event : PlayerEvent) (player : Object) (s : Region) : Option PlayerState :=
  transition (s.contexts player).state event

def setState (player : Object) (next : PlayerState) (s : Region) : Region :=
  s.update player fun context => {context with state := next}

def stateTransition (event : PlayerEvent) (player : Object) (s : Region) : Region :=
  match reaches event player s with
  | some next => setState player next s
  | none => s

def addPlayerToFinalizingQueue (player : Object) (s : Region) : Region :=
  let marked := s.update player fun context => {context with finalizing := true}
  {marked with finalizingQueue := s.finalizingQueue ++ [player]}

/-- bNeedRegionLeave, which is set together with bNeedDelete, guards an empty block. -/
def needDelete : PlayerState → Bool
  | .none => false
  | _ => true

def shutdownPlayer (player : Object) (s : Region) : Region :=
  if (s.contexts player).finalizing then s
  else if needDelete (s.contexts player).state then addPlayerToFinalizingQueue player s
  else s

theorem shutdownPlayer_log (player : Object) (s : Region) : (shutdownPlayer player s).log = s.log := by
  rw [shutdownPlayer]
  split
  · rfl
  · split <;> rfl

/-- Without a transition nothing follows. -/
def expect (event : PlayerEvent) (player : Object) (next : Region → Region) (s : Region) : Region :=
  match reaches event player s with
  | some state => next (setState player state s)
  | none => s

def attempt (env : Env) (player : Object) (message : Message) (next : Region → Region)
    (s : Region) : Region :=
  if sends env s then next (send env message s) else shutdownPlayer player (send env message s)

def attemptWrite (env : Env) (player : Object) (packet : Packet) (next : Region → Region)
    (s : Region) : Region :=
  if sends env s then next (write env packet s) else shutdownPlayer player (write env packet s)

/-- The delay buffer is sent to the player's client. -/
def attemptData (env : Env) (player : Object) (next : Region → Region) (s : Region) : Region :=
  attempt env player (.sendData (s.contexts player).gateServer (s.contexts player).sessionId s.delay)
    next s

def onRegionAllocReq (env : Env) (player : Object) (sessionId : UInt32) (avatarId : UInt64)
    (avatarName : WString) : Region → Region :=
  expect .onRegionAllocReq player fun s =>
    attempt env player (.onRegionAllocAck sessionId env.config.serverId 0)
      (stateTransition .regionAllocAck player) <|
      s.update player fun context => {context with
        sessionId := sessionId
        avatarId := avatarId
        avatarName := avatarName
        gateServer :=
          if env.hasPeerServer (serverId sessionId) then some (serverId sessionId) else none}

def onRegionReleaseReq (player : Object) (s : Region) : Region :=
  if (s.contexts player).finalizing then s
  else expect .onRegionReleaseReq player (shutdownPlayer player) s

/-- A player without an avatar gets a new one, which has no map yet. -/
def onRegionEnterReq (env : Env) (player : Object) (s : Region) : Region :=
  if (s.contexts player).finalizing then s
  else expect .onRegionEnterReq player (fun s =>
    let enter (s : Region) := attempt env player (.onRegionEnterReq (s.contexts player).sessionId
      env.config.serverId (s.contexts player).avatarName) (stateTransition .regionEnterReq player) s
    if (s.avatars player).isSome then enter s
    else if env.memory s.log.length then
      enter {s with avatars := Function.update s.avatars player (some 0)}
    else shutdownPlayer player s) s

def onRegionEnterAck (env : Env) (player : Object) (s : Region) : Region :=
  if (s.contexts player).finalizing then s
  else expect .onRegionEnterAck player (fun s =>
    attempt env player (.regionBindReq (s.contexts player).gateServer (s.contexts player).sessionId
        env.config.serverId)
      (attemptWrite env player (.serverTimeNtf s.currTime)
        (attemptData env player (stateTransition .serverTimeNtf player))) s) s

def broadcastSessionMax := 128

/-- The sessions of the players in the map go to their gates. -/
def broadcastData (env : Env) (s : Region) : Region :=
  let sessionIds := (values s.playerContextByAvatarId).map fun player => (s.contexts player).sessionId
  let inside := {s with
    undefined := s.undefined || sessionIds.any fun id => serverCountMax ≤ (serverId id).toNat}
  (List.range serverCountMax).foldl (fun s gate =>
    let there := (sessionIds.filter fun id => (serverId id).toNat = gate).take broadcastSessionMax
    if there.isEmpty then s else send env (.broadcastData (UInt8.ofNat gate) there s.delay) s) inside

/-- A name that cannot be converted ends the handler without a shutdown. -/
def withName (env : Env) (player : Object) (next : List UInt8 → Region → Region) (s : Region) :
    Region :=
  match env.wchar2Char (s.contexts player).avatarName with
  | some name => next name s
  | none => s

def broadcastAvatarLeaveNtf (env : Env) (player : Object) (s : Region) : Region :=
  attemptWrite env player (.regionAvatarLeaveNtf (s.contexts player).avatarId) (broadcastData env) s

def onRegionLeaveReq (env : Env) (player : Object) (s : Region) : Region :=
  if (s.contexts player).finalizing then s
  else expect .onRegionLeaveReq player (fun s =>
    broadcastAvatarLeaveNtf env player (shutdownPlayer player s)) s

def sendInitialAvatarData (env : Env) (player : Object) : Region → Region :=
  withName env player fun name s =>
    attemptWrite env player (.initialAvatarDataNtf (s.contexts player).avatarId name)
      (attemptData env player (stateTransition .initAvatarNtf player)) s

/-- A player that has never been on a map starts on the first one. -/
def initialMapEnter (env : Env) (player : Object) (s : Region) : Region :=
  match s.avatars player with
  | none => {s with undefined := true}
  | some teleport =>
    let mapId := if teleport = 0 then 1 else teleport
    let placed := {s with avatars := Function.update s.avatars player (some mapId)}
    match env.logicLoopByMap mapId with
    | some logicLoop => placed.update player fun context =>
        {context with logicLoop := some logicLoop, mapId := mapId}
    | none => shutdownPlayer player placed

def broadcastAvatarEnterNtf (env : Env) (player : Object) : Region → Region :=
  withName env player fun name s =>
    attemptWrite env player (.regionAvatarEnterNtf (s.contexts player).avatarId name)
      (broadcastData env) s

def sendAvatarEnterNtf (env : Env) (player other : Object) : Region → Region :=
  withName env other fun name s =>
    attemptWrite env player (.regionAvatarEnterNtf (s.contexts other).avatarId name)
      (attemptData env player id) s

def sendRegionAvatars (env : Env) (player : Object) (s : Region) : Region :=
  (values s.playerContextByAvatarId).foldl (fun s other =>
    if player = other then s else sendAvatarEnterNtf env player other s) s

def onClientTimeReq (env : Env) (player : Object) (clientTime : UInt32) (s : Region) : Region :=
  if (s.contexts player).finalizing then s
  else expect .onClientTimeReq player (fun s =>
    attemptWrite env player (.serverTimeNtf (s.currTime + (s.currTime - clientTime) / 2))
      (attemptData env player fun s =>
        sendRegionAvatars env player <| broadcastAvatarEnterNtf env player <|
          initialMapEnter env player <| sendInitialAvatarData env player <|
          stateTransition .serverTime2Ntf player s) s) s

def onRegionChatReq (env : Env) (player : Object) (message : List UInt8) : Region → Region :=
  withName env player fun _ s =>
    attemptWrite env player (.regionChatNtf (s.contexts player).avatarId message) (broadcastData env) s

end Fantuan.RegionServer.Player
