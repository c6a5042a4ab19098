import Fantuan.Lib.Run
import Fantuan.RegionServer.Player

/-! The commands of the region loop and its passes. A run is a sequence of them in any order,
from the state that the constructor leaves. No thread of a map changes a player.
-/
namespace Fantuan.RegionServer.Commands
open Lib.Table ServerBase.ServerCommon Tool.ObjectPool ServerLoop Player

/-- A bit of tolerance is added to the maximum. -/
def poolMax (config : Config) : UInt16 := config.playerMax + config.playerMax / 10

def init (config : Config) : Region where
  playerCount := 0
  playerContextPool := Tool.ObjectPool.new (poolMax config).toNat
  contexts := fun _ => .clear
  playerContextByAvatarId := ∅
  finalizingQueue := []
  gateServerContext := fun _ => none
  gateSessionIndexMax := config.gateSessionIndexMax
  undefined := false
  shutdownStatus := .notShutdown
  currTime := 0
  avatars := fun _ => none
  delay := none
  log := []

/-- There is nothing in the slots of a gate that has no context. -/
def slotAt (gate : UInt8) (index : UInt16) (s : Loop) : Option Object :=
  match s.gateServerContext gate with
  | some slots => slots index
  | none => none

def slotOf (sessionId : UInt32) (s : Loop) : Option Object :=
  slotAt (serverId sessionId) (sessionIndex sessionId) s

/-- The index that is one too high is let through to the array. -/
def forSession (sessionId : UInt32) (handle : Object → Region → Region) (s : Region) : Region :=
  if serverCountMax ≤ (serverId sessionId).toNat ∨ s.gateSessionIndexMax < sessionIndex sessionId then s
  else
    let read := {s with
      undefined := s.undefined || (s.gateServerContext (serverId sessionId)).isSome &&
        sessionIndex sessionId = s.gateSessionIndexMax}
    match slotOf sessionId s.toLoop with
    | some player => handle player read
    | none => read

/-- A slot that is taken stays as it is; the result tells whether the player is put into it. -/
def pushPlayerToGateServerContext (sessionId : UInt32) (player : Object) (s : Region) : Bool × Region :=
  let slots := (s.gateServerContext (serverId sessionId)).getD fun _ => none
  let taken := (slots (sessionIndex sessionId)).isSome
  let filled := if taken then slots else Function.update slots (sessionIndex sessionId) (some player)
  (!taken,{s with
    gateServerContext := Function.update s.gateServerContext (serverId sessionId) (some filled)})

def validSession (sessionId : UInt32) (s : Region) : Bool :=
  (serverId sessionId).toNat < serverCountMax && sessionIndex sessionId < s.gateSessionIndexMax

/-- The results of both insertions are ignored. -/
def onCommandOnRegionAllocReq (env : Env) (sessionId : UInt32) (avatarId : UInt64)
    (avatarName : WString) (s : Region) : Region :=
  if !validSession sessionId s then s
  else match s.playerContextPool.allocate with
    | (none,_) => s
    | (some player,pool) =>
      let counted := {s with
        playerContextPool := pool
        playerCount := s.playerCount + 1
        playerContextByAvatarId := insert avatarId player s.playerContextByAvatarId}
      onRegionAllocReq env player sessionId avatarId avatarName
        (pushPlayerToGateServerContext sessionId player counted).2

def onCommandOnRegionEnterAck (env : Env) (player : Object) (result : Int32) (s : Region) : Region :=
  if result ≠ 0 then shutdownPlayer player s else onRegionEnterAck env player s

/-- What RegionClientRecv passes on; other stands for a packet that reaches no handler. -/
inductive ClientPacket where
  | clientTimeReq (clientTime : UInt32)
  | regionChatReq (message : List UInt8)
  | other

def onPacketReceived (env : Env) (player : Object) (packet : ClientPacket) (s : Region) : Region :=
  match packet with
  | .clientTimeReq clientTime => onClientTimeReq env player clientTime s
  | .regionChatReq message => onRegionChatReq env player message s
  | .other => s

inductive Action where
  | shutdown
  | onRegionAllocReq (sessionId : UInt32) (avatarId : UInt64) (avatarName : WString)
  | onRegionReleaseReq (sessionId : UInt32)
  | onRegionEnterReq (sessionId : UInt32)
  | onRegionEnterAck (sessionId : UInt32) (result : Int32)
  | onRegionLeaveReq (sessionId : UInt32)
  | packetForward (sessionId : UInt32) (packet : ClientPacket)
  | shutdownPlayerReq (player : Object)
  | tick (currTime : UInt32)
  | pass

def whileRunning (handle : Region → Region) (s : Region) : Region :=
  if s.shutdownStatus = .notShutdown then handle s else s

def step (env : Env) (s : Region) : Action → Region
  | .shutdown => whileRunning (fun s => {s with shutdownStatus := .startShutdown}) s
  | .onRegionAllocReq sessionId avatarId avatarName =>
    whileRunning (onCommandOnRegionAllocReq env sessionId avatarId avatarName) s
  | .onRegionReleaseReq sessionId => whileRunning (forSession sessionId onRegionReleaseReq) s
  | .onRegionEnterReq sessionId => whileRunning (forSession sessionId (onRegionEnterReq env)) s
  | .onRegionEnterAck sessionId result =>
    whileRunning (forSession sessionId fun player => onCommandOnRegionEnterAck env player result) s
  | .onRegionLeaveReq sessionId => whileRunning (forSession sessionId (onRegionLeaveReq env)) s
  | .packetForward sessionId packet =>
    whileRunning (forSession sessionId fun player => onPacketReceived env player packet) s
  | .shutdownPlayerReq player => shutdownPlayer player s
  | .tick currTime => {s with currTime := currTime}
  | .pass => {s with toLoop := loopPass s.toLoop}

/-- Region 2 for ten players, with gates of a thousand sessions and sends that succeed. -/
def sampleEnv : Env where
  config := ⟨2,10,1000⟩
  net := fun _ => true
  memory := fun _ => true
  wchar2Char := fun _ => some [97]
  hasPeerServer := fun _ => true
  logicLoopByMap := fun _ => some 0

def firstSession : UInt32 := 16777216
def secondSession : UInt32 := 16777472

def entered : List Action :=
  [.onRegionAllocReq firstSession 7 [97],.onRegionEnterReq firstSession,
    .onRegionEnterAck firstSession 0,.packetForward firstSession (.clientTimeReq 0)]

end Fantuan.RegionServer.Commands
