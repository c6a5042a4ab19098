import Fantuan.MasterServer.Commands

/-! The maps of the loop, and what DeletePlayer does to each of them. A player is erased
under the keys that his context holds, from the maps that his state selects.
-/
namespace Fantuan.MasterServer.Deletion
open Lib.Table Lib.Drain ServerBase.ServerCommon Tool.ObjectPool PlayerFsm Context ServerLoop Commands

def loginPlayers (s : Loop) : Map UInt32 Object := s.loginServerContext.players

def gatePlayers (gate : UInt8) (s : Loop) : Map UInt32 Object :=
  match s.gateServerContext gate with
  | some context => context.players
  | none => ∅

def regionPlayers (channel region : UInt8) (s : Loop) : Map UInt32 Object :=
  match s.channelContext channel with
  | some context => context.regions region
  | none => ∅

theorem gatePlayers_updateGate (s : Loop) (gate other : UInt8)
    (change : GateServerContext → GateServerContext) :
    gatePlayers other (updateGate gate change s) =
      if other = gate then (match s.gateServerContext gate with
        | some context => (change context).players
        | none => ∅) else gatePlayers other s := by
  by_cases same : other = gate
  · subst other
    rw [if_pos rfl,gatePlayers,updateGate]
    dsimp only
    rw [Function.update_self]
    cases s.gateServerContext gate <;> rfl
  · rw [if_neg same,gatePlayers,updateGate]
    dsimp only
    rw [Function.update_of_ne same]
    rfl

theorem gatePlayers_change (s : Loop) (gate other : UInt8)
    (change : Map UInt32 Object → Map UInt32 Object) (empty : change ∅ = ∅) :
    gatePlayers other (updateGate gate (fun context =>
      {context with players := change context.players}) s) =
      if other = gate then change (gatePlayers gate s) else gatePlayers other s := by
  rw [gatePlayers_updateGate]
  split
  · rw [gatePlayers]
    cases s.gateServerContext gate with
    | some context => rfl
    | none => exact empty.symm
  · rfl

theorem regionPlayers_updateRegion (s : Loop) (player : Object) (channel region : UInt8)
    (change : Map UInt32 Object → Map UInt32 Object) :
    regionPlayers channel region (updateRegion player change s) =
      if channel = (s.contexts player).lastChannelId ∧ region = (s.contexts player).regionServerId ∧
        (s.channelContext channel).isSome = true then change (regionPlayers channel region s)
      else regionPlayers channel region s := by
  by_cases same : channel = (s.contexts player).lastChannelId
  · rw [regionPlayers,updateRegion,regionPlayers]
    dsimp only
    rw [← same,Function.update_self]
    cases s.channelContext channel with
    | none => simp
    | some context =>
      by_cases sameRegion : region = (s.contexts player).regionServerId
      · simp [sameRegion,changeRegion]
      · simp [sameRegion,changeRegion]
  · rw [if_neg fun both => same both.1,regionPlayers,updateRegion]
    dsimp only
    rw [Function.update_of_ne same]
    rfl

theorem erase_empty (key : UInt32) : erase key (∅ : Map UInt32 Object) = ∅ := rfl

theorem gatePlayers_delete (s : Loop) (player : Object) (gate : UInt8) :
    gatePlayers gate (deletePlayerFromGateServerContext player s) =
      if gate = (s.contexts player).gateServerId ∧ gate.toNat < serverCountMax then
        erase (s.contexts player).sessionId (gatePlayers gate s)
      else gatePlayers gate s := by
  rw [deletePlayerFromGateServerContext]
  split
  next large =>
    rw [if_neg]
    rintro ⟨rfl,small⟩
    omega
  next small =>
    rw [gatePlayers_change s (s.contexts player).gateServerId gate _ (erase_empty _)]
    by_cases same : gate = (s.contexts player).gateServerId
    · rw [if_pos same,if_pos ⟨same,by rw [same]; omega⟩,same]
    · rw [if_neg same,if_neg fun both => same both.1]

/-- What DeletePlayer leaves alone before it forgets the player. -/
structure SameCore (s t : Loop) : Prop where
  contexts : t.contexts = s.contexts
  log : t.log = s.log
  byName : t.playerContextByName = s.playerContextByName
  bySessionId : t.playerContextBySessionId = s.playerContextBySessionId
  pool : t.playerContextPool = s.playerContextPool
  queue : t.finalizingQueue = s.finalizingQueue
  status : t.shutdownStatus = s.shutdownStatus

theorem SameCore.trans (s t u : Loop) (first : SameCore s t) (second : SameCore t u) :
    SameCore s u :=
  ⟨second.contexts.trans first.contexts,second.log.trans first.log,second.byName.trans first.byName,
    second.bySessionId.trans first.bySessionId,second.pool.trans first.pool,
    second.queue.trans first.queue,second.status.trans first.status⟩

/-- The server context that the state selects, without the player. -/
def unserved (player : Object) (s : Loop) : Loop :=
  match deletePlace (s.contexts player).state with
  | .nowhere => s
  | .login => deletePlayerFromLoginServerContext player s
  | .gate => deletePlayerFromGateServerContext player s

def unregioned (player : Object) (s : Loop) : Loop :=
  if deletesFromRegion (s.contexts player).state then deletePlayerFromRegionServerContext player s
  else s

theorem unserved_core (player : Object) (s : Loop) : SameCore s (unserved player s) := by
  rw [unserved]
  split
  · exact ⟨rfl,rfl,rfl,rfl,rfl,rfl,rfl⟩
  · exact ⟨rfl,rfl,rfl,rfl,rfl,rfl,rfl⟩
  · rw [deletePlayerFromGateServerContext]
    split <;> exact ⟨rfl,rfl,rfl,rfl,rfl,rfl,rfl⟩

theorem unregioned_core (player : Object) (s : Loop) : SameCore s (unregioned player s) := by
  rw [unregioned]
  split <;> exact ⟨rfl,rfl,rfl,rfl,rfl,rfl,rfl⟩

structure Deleted (player : Object) (s t : Loop) : Prop where
  contexts : t.contexts = Function.update s.contexts player .clear
  log : t.log = .deleted player :: s.log
  byName : t.playerContextByName = erase (s.contexts player).accountName s.playerContextByName
  bySessionId : t.playerContextBySessionId =
    erase (s.contexts player).sessionId s.playerContextBySessionId
  pool : t.playerContextPool = s.playerContextPool.release player
  queue : t.finalizingQueue = s.finalizingQueue
  status : t.shutdownStatus = s.shutdownStatus
  login : loginPlayers t = if deletePlace (s.contexts player).state = .login then
    erase (s.contexts player).sessionId (loginPlayers s) else loginPlayers s
  gates : ∀ gate, gatePlayers gate t = if deletePlace (s.contexts player).state = .gate ∧
      gate = (s.contexts player).gateServerId ∧ gate.toNat < serverCountMax then
    erase (s.contexts player).sessionId (gatePlayers gate s) else gatePlayers gate s
  regions : ∀ channel region, regionPlayers channel region t =
    if deletesFromRegion (s.contexts player).state = true ∧
        channel = (s.contexts player).lastChannelId ∧ region = (s.contexts player).regionServerId ∧
        (s.channelContext channel).isSome = true then
      erase (s.contexts player).sessionId (regionPlayers channel region s)
    else regionPlayers channel region s

theorem unserved_login (player : Object) (s : Loop) :
    loginPlayers (unserved player s) = if deletePlace (s.contexts player).state = .login then
      erase (s.contexts player).sessionId (loginPlayers s) else loginPlayers s := by
  rw [unserved]
  cases place : deletePlace (s.contexts player).state with
  | nowhere => rfl
  | login => rfl
  | gate =>
    rw [if_neg (by simp),deletePlayerFromGateServerContext]
    dsimp only
    split <;> rfl

theorem unserved_gates (player : Object) (s : Loop) (gate : UInt8) :
    gatePlayers gate (unserved player s) = if deletePlace (s.contexts player).state = .gate ∧
        gate = (s.contexts player).gateServerId ∧ gate.toNat < serverCountMax then
      erase (s.contexts player).sessionId (gatePlayers gate s) else gatePlayers gate s := by
  rw [unserved]
  cases place : deletePlace (s.contexts player).state with
  | nowhere => rfl
  | login => rfl
  | gate =>
    dsimp only
    rw [gatePlayers_delete]
    simp only [true_and]

theorem unserved_channels (player : Object) (s : Loop) :
    (unserved player s).channelContext = s.channelContext := by
  rw [unserved]
  split
  · rfl
  · rfl
  · rw [deletePlayerFromGateServerContext]
    split <;> rfl

theorem deletePlayer_deleted (player : Object) (s : Loop) : Deleted player s (deletePlayer player s) := by
  let left := unregioned player (unserved player s)
  have first := unserved_core player s
  have second := unregioned_core player (unserved player s)
  have core : SameCore s left := SameCore.trans s _ _ first second
  have channels := unserved_channels player s
  have whole : deletePlayer player s = {left with
      contexts := Function.update left.contexts player .clear
      playerContextByName := erase (left.contexts player).accountName left.playerContextByName
      playerContextBySessionId := erase (left.contexts player).sessionId left.playerContextBySessionId
      playerContextPool := left.playerContextPool.release player
      log := .deleted player :: left.log} := by
    simp only [left,unregioned,first.contexts]
    rfl
  constructor
  · rw [whole,core.contexts]
  · rw [whole,core.log]
  · rw [whole,core.contexts,core.byName]
  · rw [whole,core.contexts,core.bySessionId]
  · rw [whole,core.pool]
  · rw [whole]
    exact core.queue
  · rw [whole]
    exact core.status
  · have same : loginPlayers (deletePlayer player s) = loginPlayers left := by
      rw [whole]
      rfl
    have kept : loginPlayers left = loginPlayers (unserved player s) := by
      simp only [left,unregioned]
      split <;> rfl
    rw [same,kept,unserved_login]
  · intro gate
    have same : gatePlayers gate (deletePlayer player s) = gatePlayers gate left := by
      rw [whole]
      rfl
    have kept : gatePlayers gate left = gatePlayers gate (unserved player s) := by
      simp only [left,unregioned]
      split <;> rfl
    rw [same,kept,unserved_gates]
  · intro channel region
    have same : regionPlayers channel region (deletePlayer player s) =
        regionPlayers channel region left := by
      rw [whole]
      rfl
    have kept : regionPlayers channel region (unserved player s) = regionPlayers channel region s := by
      rw [regionPlayers,channels,regionPlayers]
    rw [same]
    simp only [left,unregioned,first.contexts]
    cases leaves : deletesFromRegion (s.contexts player).state with
    | false =>
      rw [if_neg Bool.false_ne_true,if_neg fun both => Bool.false_ne_true both.1,kept]
    | true =>
      rw [if_pos rfl,deletePlayerFromRegionServerContext,regionPlayers_updateRegion,first.contexts,
        channels,kept]
      simp only [true_and]

/-- Init sets up servers and channels without players. -/
structure Unused (s : Loop) : Prop where
  core : SameCore .new s
  login : loginPlayers s = ∅
  gates : ∀ gate, gatePlayers gate s = ∅
  regions : ∀ channel region, regionPlayers channel region s = ∅

theorem addGate_unused (s : Loop) (item : GateConfigItem) (unused : Unused s) :
    Unused (s.addGate item) := by
  obtain ⟨core,login,gates,regions⟩ := unused
  rw [Loop.addGate]
  split
  · exact ⟨core,login,gates,regions⟩
  · refine ⟨⟨core.contexts,core.log,core.byName,core.bySessionId,core.pool,core.queue,core.status⟩,
      login,fun gate => ?_,regions⟩
    by_cases same : gate = item.serverId
    · rw [gatePlayers]
      dsimp only
      rw [same,Function.update_self]
    · have before := gates gate
      rw [gatePlayers] at before ⊢
      dsimp only
      rw [Function.update_of_ne same]
      exact before

theorem addChannel_unused (s : Loop) (item : ChannelConfigItem) (unused : Unused s) :
    Unused (s.addChannel item) := by
  obtain ⟨core,login,gates,regions⟩ := unused
  rw [Loop.addChannel]
  split
  · exact ⟨core,login,gates,regions⟩
  · refine ⟨⟨core.contexts,core.log,core.byName,core.bySessionId,core.pool,core.queue,core.status⟩,
      login,gates,fun channel region => ?_⟩
    by_cases same : channel = item.channelId
    · rw [regionPlayers]
      dsimp only
      rw [same,Function.update_self]
    · have before := regions channel region
      rw [regionPlayers] at before ⊢
      dsimp only
      rw [Function.update_of_ne same]
      exact before

theorem init_unused (config : MasterServerConfig) : Unused (.init config) := by
  have start : Unused .new :=
    ⟨⟨rfl,rfl,rfl,rfl,rfl,rfl,rfl⟩,rfl,fun _ => rfl,fun _ _ => rfl⟩
  have gates (items : List GateConfigItem) (s : Loop) (unused : Unused s) :
      Unused (items.foldl Loop.addGate s) := by
    induction items generalizing s with
    | nil => exact unused
    | cons item items ih => exact ih _ (addGate_unused s item unused)
  have channels (items : List ChannelConfigItem) (s : Loop) (unused : Unused s) :
      Unused (items.foldl Loop.addChannel s) := by
    induction items generalizing s with
    | nil => exact unused
    | cons item items ih => exact ih _ (addChannel_unused s item unused)
  obtain ⟨core,login,gate,region⟩ := gates config.gateConfigItems .new start
  exact channels _ _
    ⟨⟨core.contexts,core.log,core.byName,core.bySessionId,core.pool,core.queue,core.status⟩,
      login,gate,region⟩

/-- An access of DeletePlayer to the channel and region of the player, if it makes one, is
inside the arrays. -/
def regionInside (player : Object) (s : Loop) : Bool :=
  let context := s.contexts player
  !deletesFromRegion context.state || (decide (context.lastChannelId.toNat < channelMax) &&
    (!(s.channelContext context.lastChannelId).isSome ||
      decide (context.regionServerId.toNat < serverCountMax)))

theorem deletePlayer_undefined (player : Object) (s : Loop) :
    (deletePlayer player s).undefined = (s.undefined || !regionInside player s) := by
  have core := unserved_core player s
  have channels := unserved_channels player s
  have served : (unserved player s).undefined = s.undefined := by
    rw [unserved]
    split
    · rfl
    · rfl
    · rw [deletePlayerFromGateServerContext]
      split <;> rfl
  have left : (deletePlayer player s).undefined = (unregioned player (unserved player s)).undefined := by
    rw [unregioned,core.contexts]
    rfl
  rw [left,unregioned,core.contexts,regionInside]
  cases leaves : deletesFromRegion (s.contexts player).state with
  | false => simp [served]
  | true =>
    rw [if_pos rfl,deletePlayerFromRegionServerContext,updateRegion]
    simp only [core.contexts,channels,served,Bool.not_true,Bool.false_or,Bool.not_and,Bool.not_or,
      Bool.not_not,Bool.or_assoc,← decide_not,Nat.not_lt]

/-- No map has the player, and the deletion stayed inside the arrays. -/
structure Gone (player : Object) (s : Loop) : Prop where
  names : ∀ accountName, find accountName s.playerContextByName ≠ some player
  sessions : ∀ sessionId, find sessionId s.playerContextBySessionId ≠ some player
  login : ∀ sessionId, find sessionId (loginPlayers s) ≠ some player
  gates : ∀ gate sessionId, find sessionId (gatePlayers gate s) ≠ some player
  regions : ∀ channel region sessionId, find sessionId (regionPlayers channel region s) ≠ some player
  inside : s.undefined = false

/-- The player is only where DeletePlayer looks: under its name, its session and, in the
server contexts that its state selects, its session. -/
structure Placed (player : Object) (s : Loop) : Prop where
  names : ∀ accountName, find accountName s.playerContextByName = some player →
    accountName = (s.contexts player).accountName
  sessions : ∀ sessionId, find sessionId s.playerContextBySessionId = some player →
    sessionId = (s.contexts player).sessionId
  login : ∀ sessionId, find sessionId (loginPlayers s) = some player →
    deletePlace (s.contexts player).state = .login ∧ sessionId = (s.contexts player).sessionId
  gates : ∀ gate sessionId, find sessionId (gatePlayers gate s) = some player →
    (deletePlace (s.contexts player).state = .gate ∧ gate = (s.contexts player).gateServerId ∧
      gate.toNat < serverCountMax) ∧ sessionId = (s.contexts player).sessionId
  regions : ∀ channel region sessionId, find sessionId (regionPlayers channel region s) = some player →
    (deletesFromRegion (s.contexts player).state = true ∧
      channel = (s.contexts player).lastChannelId ∧ region = (s.contexts player).regionServerId ∧
      (s.channelContext channel).isSome = true) ∧ sessionId = (s.contexts player).sessionId
  inside : s.undefined = false ∧ regionInside player s = true

theorem deletePlayer_gone (player : Object) (s : Loop) :
    Gone player (deletePlayer player s) ↔ Placed player s := by
  have deleted := deletePlayer_deleted player s
  have undefined := deletePlayer_undefined player s
  have names := erase_unlisted (s.contexts player).accountName player s.playerContextByName
  have sessions := erase_unlisted (s.contexts player).sessionId player s.playerContextBySessionId
  have erased (erases : Prop) [Decidable erases] (table : Map UInt32 Object) :=
    erase_if_unlisted erases (s.contexts player).sessionId player table
  constructor
  · rintro ⟨noName,noSession,noLogin,noGate,noRegion,inside⟩
    rw [deleted.byName] at noName
    rw [deleted.bySessionId] at noSession
    rw [deleted.login] at noLogin
    simp only [deleted.gates] at noGate
    simp only [deleted.regions] at noRegion
    rw [undefined] at inside
    exact ⟨names.mp noName,sessions.mp noSession,(erased _ _).mp noLogin,
      fun gate => (erased _ _).mp (noGate gate),
      fun channel region => (erased _ _).mp (noRegion channel region),by simpa using inside⟩
  · rintro ⟨oneName,oneSession,oneLogin,oneGate,oneRegion,inside⟩
    refine ⟨?_,?_,?_,fun gate => ?_,fun channel region => ?_,?_⟩
    · rw [deleted.byName]
      exact names.mpr oneName
    · rw [deleted.bySessionId]
      exact sessions.mpr oneSession
    · rw [deleted.login]
      exact (erased _ _).mpr oneLogin
    · rw [deleted.gates gate]
      exact (erased _ _).mpr (oneGate gate)
    · rw [deleted.regions channel region]
      exact (erased _ _).mpr (oneRegion channel region)
    · rw [undefined,inside.1,inside.2]
      rfl

/-- Every queued player is returned to the pool once, cleared and gone, and the queue is
empty. -/
def Passed (s after : Loop) : Prop :=
  after.finalizingQueue = [] ∧ Disposed (fun s => s.playerContextPool.objectList)
    (fun player s => s.contexts player = .clear) Gone s.finalizingQueue s after

theorem deleteFinalizing_passed (s : Loop) : Passed s (deleteFinalizing s) ↔
    s.finalizingQueue.length ≤ 1 ∧ ∀ player ∈ s.finalizingQueue, Placed player s := by
  have frees (player : Object) (s : Loop) : (deletePlayer player s).playerContextPool.objectList =
      s.playerContextPool.objectList ++ [player] := by
    rw [(deletePlayer_deleted player s).pool]
    rfl
  have blank (player : Object) (s : Loop) : (deletePlayer player s).contexts player = .clear := by
    rw [(deletePlayer_deleted player s).contexts,Function.update_self]
  have drained := drainBack_disposed (fun s : Loop => s.playerContextPool.objectList)
    (fun player s => s.contexts player = .clear) Gone deletePlayer frees blank s.finalizingQueue s
  simp only [deletePlayer_gone] at drained
  have empty : (deleteFinalizing s).finalizingQueue = [] := rfl
  rw [← drained,Passed,and_iff_right empty]
  exact disposed_congr _ _ _ s.finalizingQueue s _ (deleteFinalizing s) rfl (fun _ => Iff.rfl)
    fun _ => ⟨fun gone => {gone with},fun gone => {gone with}⟩

theorem loopPass_passed (s : Loop) : Passed s (loopPass s) ↔
    s.finalizingQueue.length ≤ 1 ∧ ∀ player ∈ s.finalizingQueue, Placed player s := by
  rw [← deleteFinalizing_passed,loopPass]
  split
  · apply and_congr Iff.rfl
    exact disposed_congr _ _ _ s.finalizingQueue s (deleteFinalizing s) _ rfl (fun _ => Iff.rfl)
      fun _ => ⟨fun gone => {gone with},fun gone => {gone with}⟩
  · rfl

end Fantuan.MasterServer.Deletion
