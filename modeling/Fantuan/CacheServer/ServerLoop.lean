import Fantuan.Lib.Drain
import Fantuan.Lib.Table
import Fantuan.ServerBase.ServerCommon
import Fantuan.Tool.ObjectPool

/-! CacheServerLoop: the players of the cache, by their sessions and avatars, and the pass
that applies the returned DB events and deletes the finalizing players. What an event's
result does is a parameter.
-/
namespace Fantuan.CacheServer.ServerLoop
open Lib.Table Lib.Drain ServerBase.ServerCommon Tool.ObjectPool

inductive PlayerState where
  | none | onLoginReq | onAvatarListReq | avatarListAck | onAvatarSelectReq | avatarSelectAck
  | onRegionEnterReq | regionEnterAck | onLogoutReq
  deriving DecidableEq

/-- dirty is m_arrayDirty, by AVATAR_DATA_BASIC and AVATAR_DATA_LEVEL. -/
structure CacheAvatarContext where
  avatarName : WString
  avatarId : UInt64
  level : UInt16
  lastChannelId : UInt8
  enterRegion : Bool
  dirty : Bool × Bool
  deriving DecidableEq

def CacheAvatarContext.clear : CacheAvatarContext := ⟨[],0,0,0,false,(false,false)⟩

structure CachePlayerContext where
  sessionId : UInt32
  accountName : WString
  state : PlayerState
  avatarCount : UInt8
  finalizing : Bool
  regionServerId : UInt8
  nextSaveDataTime : UInt32
  avatarContext : CacheAvatarContext
  deriving DecidableEq

def CachePlayerContext.clear : CachePlayerContext where
  sessionId := 0
  accountName := []
  state := .none
  avatarCount := 0
  finalizing := false
  regionServerId := 0
  nextSaveDataTime := 0
  avatarContext := .clear

structure Loop where
  shutdownStatus : ShutdownStatus
  playerContextPool : Pool
  contexts : Object → CachePlayerContext
  playerContextBySessionId : Map UInt32 Object
  playerContextByAvatarId : Map UInt64 Object
  finalizingQueue : List Object

def deletePlayer (player : Object) (s : Loop) : Loop :=
  let context := s.contexts player
  {s with
    playerContextBySessionId := erase context.sessionId s.playerContextBySessionId
    playerContextByAvatarId := erase context.avatarContext.avatarId s.playerContextByAvatarId
    contexts := Function.update s.contexts player .clear
    playerContextPool := s.playerContextPool.release player}

section
variable {DBEvent : Type} (onDBEventResult : DBEvent → Loop → Loop)

def applyResults (returnList : List DBEvent) (s : Loop) : Loop :=
  returnList.foldl (fun s event => onDBEventResult event s) s

def deleteFinalizing (s : Loop) : Loop :=
  {drainBack deletePlayer s.finalizingQueue s with finalizingQueue := []}

def loopPass (returnList : List DBEvent) (s : Loop) : Loop :=
  let drained := deleteFinalizing (applyResults onDBEventResult returnList s)
  if drained.shutdownStatus = .startShutdown then {drained with shutdownStatus := .readyForShutdown}
  else drained

end

structure Gone (player : Object) (s : Loop) : Prop where
  sessions : ∀ sessionId, find sessionId s.playerContextBySessionId ≠ some player
  avatars : ∀ avatarId, find avatarId s.playerContextByAvatarId ≠ some player

/-- The player is only where DeletePlayer looks: under its session and its avatar. -/
structure Placed (player : Object) (s : Loop) : Prop where
  sessions : ∀ sessionId, find sessionId s.playerContextBySessionId = some player →
    sessionId = (s.contexts player).sessionId
  avatars : ∀ avatarId, find avatarId s.playerContextByAvatarId = some player →
    avatarId = (s.contexts player).avatarContext.avatarId

theorem deletePlayer_gone (player : Object) (s : Loop) :
    Gone player (deletePlayer player s) ↔ Placed player s := by
  have sessions := erase_unlisted (s.contexts player).sessionId player s.playerContextBySessionId
  have avatars := erase_unlisted (s.contexts player).avatarContext.avatarId player
    s.playerContextByAvatarId
  constructor
  · rintro ⟨noSession,noAvatar⟩
    exact ⟨sessions.mp noSession,avatars.mp noAvatar⟩
  · rintro ⟨oneSession,oneAvatar⟩
    exact ⟨sessions.mpr oneSession,avatars.mpr oneAvatar⟩

/-- Every player that is queued when the results are applied is returned to the pool once,
cleared and gone, and the queue is empty. -/
def Passed (s after : Loop) : Prop :=
  after.finalizingQueue = [] ∧ Disposed (fun s => s.playerContextPool.objectList)
    (fun player s => s.contexts player = .clear) Gone s.finalizingQueue s after

theorem deleteFinalizing_passed (s : Loop) : Passed s (deleteFinalizing s) ↔
    s.finalizingQueue.length ≤ 1 ∧ ∀ player ∈ s.finalizingQueue, Placed player s := by
  have drained := drainBack_disposed (fun s : Loop => s.playerContextPool.objectList)
    (fun player s => s.contexts player = .clear) Gone deletePlayer (fun _ _ => rfl)
    (fun player s => Function.update_self ..) s.finalizingQueue s
  simp only [deletePlayer_gone] at drained
  have empty : (deleteFinalizing s).finalizingQueue = [] := rfl
  rw [← drained,Passed,and_iff_right empty]
  exact disposed_congr _ _ _ s.finalizingQueue s _ (deleteFinalizing s) rfl (fun _ => Iff.rfl)
    fun _ => ⟨fun gone => {gone with},fun gone => {gone with}⟩

theorem loopPass_passed {DBEvent : Type} (onDBEventResult : DBEvent → Loop → Loop)
    (returnList : List DBEvent) (s : Loop) :
    let applied := applyResults onDBEventResult returnList s
    Passed applied (loopPass onDBEventResult returnList s) ↔
      applied.finalizingQueue.length ≤ 1 ∧ ∀ player ∈ applied.finalizingQueue, Placed player applied := by
  intro applied
  rw [← deleteFinalizing_passed,loopPass]
  split
  · apply and_congr Iff.rfl
    exact disposed_congr _ _ _ applied.finalizingQueue applied (deleteFinalizing applied) _ rfl
      (fun _ => Iff.rfl) fun _ => ⟨fun gone => {gone with},fun gone => {gone with}⟩
  · rfl

end Fantuan.CacheServer.ServerLoop
