import Fantuan.Lib.Drain
import Fantuan.Lib.Table
import Fantuan.ServerBase.ServerCommon
import Fantuan.Tool.ObjectPool

/-! RegionServerLoop: the players of a region, by their avatars and in the slots of their
gates, and the pass that deletes the finalizing ones. The avatar object, which Clear
keeps, is left out.
-/
namespace Fantuan.RegionServer.ServerLoop
open Lib.Table Lib.Drain ServerBase.ServerCommon Tool.ObjectPool

inductive PlayerState where
  | none | onRegionAllocReq | regionAllocAck | onRegionReleaseReq | onRegionEnterReq | regionEnterReq
  | onRegionEnterAck | onRegionLeaveReq | serverTimeNtf | onClientTimeReq | serverTime2Ntf
  | initAvatarNtf
  deriving DecidableEq

/-- A gate server, a map and a logic loop are their ids. -/
structure RegionPlayerContext where
  sessionId : UInt32
  avatarId : UInt64
  avatarName : WString
  finalizing : Bool
  gateServer : Option UInt8
  state : PlayerState
  mapId : UInt16
  map : Option UInt16
  logicLoop : Option Nat
  deriving DecidableEq

def RegionPlayerContext.clear : RegionPlayerContext where
  sessionId := 0
  avatarId := 0
  avatarName := []
  finalizing := false
  gateServer := .none
  state := .none
  mapId := 0
  map := .none
  logicLoop := .none

/-- m_arrayPlayerContext, by session index. -/
abbrev GateServerContext := UInt16 → Option Object

/-- gateSessionIndexMax is the size of every m_arrayPlayerContext; undefined is set by an
access outside an array or through a null pointer. -/
structure Loop where
  playerCount : UInt16
  playerContextPool : Pool
  contexts : Object → RegionPlayerContext
  playerContextByAvatarId : Map UInt64 Object
  finalizingQueue : List Object
  gateServerContext : UInt8 → Option GateServerContext
  gateSessionIndexMax : UInt16
  undefined : Bool

/-- The slot of a session id is an element of an array that is there. -/
def hasSlot (sessionId : UInt32) (s : Loop) : Bool :=
  (serverId sessionId).toNat < serverCountMax && (s.gateServerContext (serverId sessionId)).isSome &&
    sessionIndex sessionId < s.gateSessionIndexMax

def emptySlot (sessionId : UInt32) (s : Loop) : Loop :=
  {s with
    gateServerContext := Function.update s.gateServerContext (serverId sessionId)
      ((s.gateServerContext (serverId sessionId)).map fun slots =>
        Function.update slots (sessionIndex sessionId) none)
    undefined := s.undefined || !hasSlot sessionId s}

/-- An avatar that has another session is left in the map. -/
def eraseAvatar (player : Object) (s : Loop) : Loop :=
  let context := s.contexts player
  match find context.avatarId s.playerContextByAvatarId with
  | some other =>
    if (s.contexts other).sessionId = context.sessionId then
      {s with playerContextByAvatarId := erase context.avatarId s.playerContextByAvatarId}
    else s
  | none => s

def deletePlayer (player : Object) (s : Loop) : Loop :=
  let left := emptySlot (s.contexts player).sessionId (eraseAvatar player s)
  {left with
    contexts := Function.update left.contexts player .clear
    playerCount := left.playerCount - 1
    playerContextPool := left.playerContextPool.release player}

def loopPass (s : Loop) : Loop :=
  {drainBack deletePlayer s.finalizingQueue s with finalizingQueue := []}

/-- No map and no slot has the player, and the deletion stayed inside the arrays. -/
structure Gone (player : Object) (s : Loop) : Prop where
  avatars : ∀ avatarId, find avatarId s.playerContextByAvatarId ≠ some player
  slots : ∀ gate slots index, s.gateServerContext gate = some slots → slots index ≠ some player
  inside : s.undefined = false

/-- The player is only where DeletePlayer looks: under its avatar and in the slot of its
session, which exists. -/
structure Placed (player : Object) (s : Loop) : Prop where
  avatars : ∀ avatarId, find avatarId s.playerContextByAvatarId = some player →
    avatarId = (s.contexts player).avatarId
  slots : ∀ gate slots index, s.gateServerContext gate = some slots → slots index = some player →
    gate = serverId (s.contexts player).sessionId ∧ index = sessionIndex (s.contexts player).sessionId
  inside : s.undefined = false ∧ hasSlot (s.contexts player).sessionId s = true

theorem emptySlot_slots (sessionId : UInt32) (player : Object) (s : Loop) :
    (∀ gate slots index, (emptySlot sessionId s).gateServerContext gate = some slots →
      slots index ≠ some player) ↔
    ∀ gate slots index, s.gateServerContext gate = some slots → slots index = some player →
      gate = serverId sessionId ∧ index = sessionIndex sessionId := by
  unfold emptySlot
  dsimp only
  constructor
  · intro empty gate slots index here holds
    by_cases same : gate = serverId sessionId
    · subst gate
      refine ⟨rfl,?_⟩
      by_contra different
      apply empty (serverId sessionId) (Function.update slots (sessionIndex sessionId) none) index
      · rw [Function.update_self,here]
        rfl
      · rw [Function.update_of_ne different]
        exact holds
    · exact absurd holds (empty gate slots index (by rw [Function.update_of_ne same,here]))
  · intro only gate slots index here holds
    by_cases same : gate = serverId sessionId
    · subst gate
      rw [Function.update_self] at here
      obtain ⟨before,found,rfl⟩ := Option.map_eq_some_iff.mp here
      by_cases slot : index = sessionIndex sessionId
      · rw [slot,Function.update_self] at holds
        cases holds
      · rw [Function.update_of_ne slot] at holds
        exact slot (only (serverId sessionId) before index found holds).2
    · rw [Function.update_of_ne same] at here
      exact same (only gate slots index here holds).1

theorem eraseAvatar_avatars (player : Object) (s : Loop) :
    (∀ avatarId, find avatarId (eraseAvatar player s).playerContextByAvatarId ≠ some player) ↔
    ∀ avatarId, find avatarId s.playerContextByAvatarId = some player →
      avatarId = (s.contexts player).avatarId := by
  unfold eraseAvatar
  dsimp only
  cases found : find (s.contexts player).avatarId s.playerContextByAvatarId with
  | none =>
    constructor
    · exact fun absent avatarId here => absurd here (absent avatarId)
    · intro only avatarId here
      rw [only avatarId here,found] at here
      cases here
  | some other =>
    dsimp only
    split
    · exact erase_unlisted _ player _
    next different =>
      constructor
      · exact fun absent avatarId here => absurd here (absent avatarId)
      · intro only avatarId here
        rw [only avatarId here,found] at here
        obtain rfl := Option.some.inj here
        exact different rfl

theorem eraseAvatar_rest (player : Object) (s : Loop) :
    eraseAvatar player s =
      {s with playerContextByAvatarId := (eraseAvatar player s).playerContextByAvatarId} := by
  unfold eraseAvatar
  dsimp only
  split
  · split <;> rfl
  · rfl

theorem deletePlayer_gone (player : Object) (s : Loop) :
    Gone player (deletePlayer player s) ↔ Placed player s := by
  have avatars := eraseAvatar_avatars player s
  have slots := emptySlot_slots (s.contexts player).sessionId player (eraseAvatar player s)
  have undefined : (deletePlayer player s).undefined =
      (s.undefined || !hasSlot (s.contexts player).sessionId s) := by
    unfold deletePlayer emptySlot
    rw [eraseAvatar_rest]
    rfl
  have same : (eraseAvatar player s).gateServerContext = s.gateServerContext := by
    rw [eraseAvatar_rest]
  rw [same] at slots
  constructor
  · rintro ⟨unlisted,emptied,inside⟩
    rw [undefined] at inside
    exact ⟨avatars.mp unlisted,slots.mp emptied,by simpa using inside⟩
  · rintro ⟨listed,placed,inside⟩
    refine ⟨avatars.mpr listed,slots.mpr placed,?_⟩
    rw [undefined,inside.1,inside.2]
    rfl

/-- Every queued player is returned to the pool once, cleared and gone, and the queue is
empty. -/
def Passed (s after : Loop) : Prop :=
  after.finalizingQueue = [] ∧ Disposed (fun s => s.playerContextPool.objectList)
    (fun player s => s.contexts player = .clear) Gone s.finalizingQueue s after

theorem loopPass_passed (s : Loop) : Passed s (loopPass s) ↔
    s.finalizingQueue.length ≤ 1 ∧ ∀ player ∈ s.finalizingQueue, Placed player s := by
  have frees (player : Object) (s : Loop) : (deletePlayer player s).playerContextPool.objectList =
      s.playerContextPool.objectList ++ [player] := by
    unfold deletePlayer emptySlot
    rw [eraseAvatar_rest]
    rfl
  have drained := drainBack_disposed (fun s : Loop => s.playerContextPool.objectList)
    (fun player s => s.contexts player = .clear) Gone deletePlayer frees
    (fun player s => Function.update_self ..) s.finalizingQueue s
  simp only [deletePlayer_gone] at drained
  have empty : (loopPass s).finalizingQueue = [] := rfl
  rw [← drained,Passed,and_iff_right empty]
  exact disposed_congr _ _ _ s.finalizingQueue s (drainBack deletePlayer s.finalizingQueue s) (loopPass s)
    rfl (fun _ => Iff.rfl) fun _ => ⟨fun gone => {gone with},fun gone => {gone with}⟩

end Fantuan.RegionServer.ServerLoop
