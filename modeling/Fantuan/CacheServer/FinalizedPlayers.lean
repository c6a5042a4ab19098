import Fantuan.CacheServer.Commands

/-! The players in the finalizing queue of the cache, and the commands and results that are still handled for them.
No handler of the cache looks at m_bFinalizing.
-/
namespace Fantuan.CacheServer.FinalizedPlayers
open Lib.Table Lib.Run ServerBase.ServerCommon Tool.ObjectPool CacheDBEvent ServerLoop Player Commands

def sessionOf : Action → Option UInt32
  | .onLogoutReq sessionId | .onRegionEnterReq sessionId _ _ | .packetForward sessionId _ => some sessionId
  | _ => none

def target (s : Cache) : Action → Option Object
  | .result => s.dbConnPool.returnList.head?.bind fun event =>
    find (s.dbEvents event).sessionId s.playerContextBySessionId
  | .onLoginReq _ _ => if s.shutdownStatus = .notShutdown then s.playerContextPool.allocate.1 else none
  | action =>
    if s.shutdownStatus = .notShutdown then (sessionOf action).bind fun id => find id s.playerContextBySessionId
    else none

def isSend : Mark → Bool
  | .sent _ _ => true
  | _ => false

def sends (s : Cache) : Nat := s.log.countP isSend

/-- The player is as it was, it is not queued again, no DB event is pushed, and no stub is called for it. -/
structure Frame (player : Object) (s t : Cache) : Prop where
  context : t.contexts player = s.contexts player
  array : t.arrayAvatar player = s.arrayAvatar player
  queue : t.finalizingQueue = s.finalizingQueue
  pushed : t.dbConnPool.pushed = s.dbConnPool.pushed
  silent : sends t = sends s

def Framed (env : Env) (s : Cache) (action : Action) : Prop :=
  ∀ player, target s action = some player → (s.contexts player).finalizing = true → Frame player s (step env s action)

/-- The avatar is the one that the player has selected already. -/
def Selected (context : CachePlayerContext) (avatarId : UInt64) (avatarName : WString) (lastChannelId : UInt8) : Prop :=
  context.avatarContext =
    {if context.avatarContext.avatarId ≠ 0 then .clear else context.avatarContext with
      avatarName := avatarName, avatarId := avatarId, lastChannelId := lastChannelId}

def SparedResult (env : Env) (context : CachePlayerContext) (event : PlayerDBEvent) : Prop :=
  match event.data with
  | .getAvatarList _ _ => transition context.state .avatarListAck = none
  | .avatarCreate _ avatar => event.ret = 0 ∧
    (env.wchar2Char avatar.avatarName = none ∨ avatarCountMax ≤ context.avatarCount.toNat)
  | .avatarSelectData avatarId avatarName lastChannelId => event.ret = 0 ∧ env.wchar2Char avatarName = none ∧
    Selected context avatarId avatarName lastChannelId
  | .avatarEnterRegion _ _ => False
  | .avatarSaveData _ _ => True
  | .avatarLogout _ => context.avatarContext.enterRegion = false
  | .avatarFinalize => False

/-- A packet that its handler refuses. An event with the session id 0 is refused by the pool. -/
def SparedPacket (env : Env) (context : CachePlayerContext) (marks : Nat) : ClientPacket → Prop
  | .avatarListReq => transition context.state .onAvatarListReq = none
  | .avatarCreateReq avatarName =>
    env.char2WChar avatarName = none ∨ env.memory marks = true ∧ context.sessionId = 0
  | .avatarSelectReq avatarName =>
    env.char2WChar avatarName = none ∨ transition context.state .onAvatarSelectReq = none
  | .other => True

/-- What is handled for a player in the queue is refused for its state, or changes nothing. -/
def Spared (env : Env) (s : Cache) (action : Action) : Prop :=
  ∀ player, target s action = some player → (s.contexts player).finalizing = true →
    match action with
    | .onLoginReq _ _ => transition (s.contexts player).state .onLoginReq = none
    | .onLogoutReq _ => transition (s.contexts player).state .onLogoutReq = none
    | .onRegionEnterReq _ _ _ => transition (s.contexts player).state .onRegionEnterReq = none
    | .packetForward _ packet => SparedPacket env (s.contexts player) s.log.length packet
    | .result => ∀ event, s.dbConnPool.returnList.head? = some event →
      SparedResult env (s.contexts player) (s.dbEvents event)
    | _ => True

theorem transition_moves (state next : PlayerState) (event : PlayerEvent)
    (reached : transition state event = some next) : next ≠ state := by
  rintro rfl
  have rows : ∀ row ∈ initStateMachine next, row.2 ≠ next := by
    cases next <;> decide
  exact rows _ (Tool.StateMachine.outputState_mem initStateMachine next next event reached) rfl

theorem frame_refl (player : Object) (s : Cache) : Frame player s s := ⟨rfl,rfl,rfl,rfl,rfl⟩

/-- The state of the player stays, and no call of a stub is forgotten. -/
structure Still (player : Object) (s t : Cache) : Prop where
  state : (t.contexts player).state = (s.contexts player).state
  sends : sends s ≤ sends t

section
variable (env : Env) (player : Object) (s : Cache)

theorem still_refl : Still player s s := ⟨rfl,Nat.le_refl _⟩

theorem still_trans (t u : Cache) (first : Still player s t) (second : Still player t u) : Still player s u :=
  ⟨second.state.trans first.state,Nat.le_trans first.sends second.sends⟩

theorem mark_still (mark : Mark) : Still player s {s with log := mark :: s.log} := by
  refine ⟨rfl,?_⟩
  rw [sends,sends,List.countP_cons]
  exact Nat.le_add_right _ _

theorem attempt_still (message : Message) (next : Cache → Cache) (still : ∀ t, Still player t (next t)) :
    Still player s (attempt env message next s) := by
  rw [attempt]
  split
  · exact still_trans player _ _ _ (mark_still player s _) (still _)
  · exact mark_still player s _

theorem attempt_sends (message : Message) (next : Cache → Cache) (grows : ∀ t, sends t ≤ sends (next t)) :
    sends s < sends (attempt env message next s) := by
  have sent (success : Bool) : sends s < sends {s with log := .sent message success :: s.log} := by
    rw [sends,sends,List.countP_cons_of_pos rfl]
    exact Nat.lt_succ_self _
  rw [attempt]
  split
  · exact Nat.lt_of_lt_of_le (sent _) (grows _)
  · exact sent _

theorem forward_still (packet : Packet) (next : Cache → Cache) (still : ∀ t, Still player t (next t)) :
    let saved := {s with delay := some packet}
    Still player s (attempt env (.packetForward (saved.contexts player).sessionId saved.delay) next saved) := by
  intro saved
  have forwarded := attempt_still env player saved (.packetForward (saved.contexts player).sessionId saved.delay) next
    still
  exact ⟨forwarded.state,forwarded.sends⟩

theorem sendClient_still (packet : Packet) (next : Cache → Cache) (still : ∀ t, Still player t (next t)) :
    Still player s (sendClient env player packet next s) :=
  attempt_still env player s _ _ fun t => forward_still env player t packet next still

theorem sendClient_sends (packet : Packet) (next : Cache → Cache) (grows : ∀ t, sends t ≤ sends (next t)) :
    sends s < sends (sendClient env player packet next s) := by
  refine attempt_sends env s _ _ fun t => Nat.le_of_lt ?_
  let saved := {t with delay := some packet}
  exact attempt_sends env saved (.packetForward (saved.contexts player).sessionId saved.delay) next grows

theorem allocateEvent_still (failed next : Cache → Cache) (fails : ∀ t, Still player t (failed t))
    (still : ∀ t, Still player t (next t)) : Still player s (allocateEvent env failed next s) := by
  rw [allocateEvent]
  split
  · exact still_trans player _ _ _ (mark_still player s _) (still _)
  · exact still_trans player _ _ _ (mark_still player s _) (fails _)

theorem push_still (data : EventData) (returnable : Bool) :
    Still player s (pushSequenceEvent player data returnable s) := ⟨rfl,Nat.le_refl _⟩

theorem update_still (change : CachePlayerContext → CachePlayerContext)
    (kept : (change (s.contexts player)).state = (s.contexts player).state) :
    Still player s (s.update player change) := by
  refine ⟨?_,Nat.le_refl _⟩
  rw [update_same]
  exact kept

theorem shutdownPlayer_still : Still player s (shutdownPlayer env player s) := by
  rw [shutdownPlayer]
  split
  · exact still_refl player s
  · rw [shutdown]
    split
    · exact allocateEvent_still env player s _ _ (still_refl player) fun t => push_still player t _ _
    · exact still_trans player _ _ _ (update_still player s (fun context => {context with finalizing := true}) rfl)
        ⟨rfl,(mark_still player s _).sends⟩

theorem expect_frame (event : PlayerEvent) (next : Cache → Cache) (still : ∀ t, Still player t (next t)) :
    Frame player s (expect event player next s) ↔ transition (s.contexts player).state event = none := by
  rw [expect]
  cases reached : transition (s.contexts player).state event with
  | none => exact iff_of_true (frame_refl player s) rfl
  | some state =>
    refine iff_of_false (fun frame => ?_) (Option.some_ne_none _)
    have moved := (still (s.update player fun context => {context with state := state})).state
    rw [update_same] at moved
    have kept := congrArg CachePlayerContext.state frame.context
    exact transition_moves _ state event reached (moved.symm.trans kept)

theorem loud_frame (t : Cache) (loud : sends s < sends t) : ¬ Frame player s t := by
  intro frame
  rw [frame.silent] at loud
  exact absurd loud (Nat.lt_irrefl _)

theorem onLogoutReq_frame : Frame player s (onLogoutReq env player s) ↔
    transition (s.contexts player).state .onLogoutReq = none := by
  refine expect_frame player s _ _ fun t => ?_
  refine still_trans player t _ _ ?_ (shutdownPlayer_still env player _)
  split
  · exact allocateEvent_still env player t _ _ (shutdownPlayer_still env player) fun u => push_still player u _ _
  · exact still_refl player t

theorem onRegionEnterReq_frame (serverId : UInt8) (avatarName : WString) :
    Frame player s (onRegionEnterReq env player serverId avatarName s) ↔
      transition (s.contexts player).state .onRegionEnterReq = none := by
  refine expect_frame player s _ _ fun t => allocateEvent_still env player t _ _ (still_refl player) fun u => ?_
  exact still_trans player u _ _ (update_still player u (fun context => {context with regionServerId := serverId}) rfl)
    (push_still player _ _ _)

theorem onAvatarListReq_frame : Frame player s (onAvatarListReq env player s) ↔
    transition (s.contexts player).state .onAvatarListReq = none := by
  refine expect_frame player s _ _ fun t => allocateEvent_still env player t _ _ (fun u => ?_) fun u => ?_
  · exact sendClient_still env player u _ _ (still_refl player)
  · exact push_still player u _ _

theorem onAvatarSelectReq_frame (avatarName : WString) : Frame player s (onAvatarSelectReq env player avatarName s) ↔
    transition (s.contexts player).state .onAvatarSelectReq = none := by
  refine expect_frame player s _ _ fun t => ?_
  split
  · refine allocateEvent_still env player t _ _ (fun u => ?_) fun u => push_still player u _ _
    exact sendClient_still env player u _ _ (still_refl player)
  · exact still_refl player t

theorem onAvatarCreateReq_frame (avatarName : WString) : Frame player s (onAvatarCreateReq env player avatarName s) ↔
    env.memory s.log.length = true ∧ (s.contexts player).sessionId = 0 := by
  rw [onAvatarCreateReq,allocateEvent]
  have allocated (success : Bool) : sends {s with log := .allocated success :: s.log} = sends s := by
    rw [sends,List.countP_cons_of_neg Bool.false_ne_true]
    rfl
  cases memory : env.memory s.log.length with
  | true =>
    rw [if_pos rfl,and_iff_right rfl]
    constructor
    · intro frame
      by_contra session
      have pushed := frame.pushed
      have sequence : (s.contexts player).sessionId.toUInt64 ≠ 0 := by
        intro zero
        apply session
        rw [← UInt64.toNat_inj,UInt32.toNat_toUInt64] at zero
        exact UInt32.toNat_inj.mp zero
      rw [pushSequenceEvent] at pushed
      dsimp only at pushed
      rw [DbConnPool.pushSequenceEvent,if_neg sequence] at pushed
      exact absurd pushed (Nat.succ_ne_self _)
    · intro session
      refine ⟨rfl,rfl,rfl,?_,allocated true⟩
      rw [pushSequenceEvent]
      dsimp only
      have zero : UInt32.toUInt64 0 = 0 := rfl
      rw [session,DbConnPool.pushSequenceEvent,if_pos zero]
  | false =>
    refine iff_of_false (loud_frame player s _ ?_) fun both => Bool.false_ne_true both.1
    exact (allocated false).symm.trans_lt (sendClient_sends env player _ _ _ fun _ => Nat.le_refl _)

theorem onPacketReceived_frame (packet : ClientPacket) : Frame player s (onPacketReceived env player packet s) ↔
    SparedPacket env (s.contexts player) s.log.length packet := by
  cases packet with
  | avatarListReq => exact onAvatarListReq_frame env player s
  | avatarCreateReq avatarName =>
    rw [onPacketReceived,SparedPacket]
    cases named : env.char2WChar avatarName with
    | none => exact iff_of_true (frame_refl player s) (.inl rfl)
    | some name =>
      rw [or_iff_right (Option.some_ne_none _)]
      exact onAvatarCreateReq_frame env player s name
  | avatarSelectReq avatarName =>
    rw [onPacketReceived,SparedPacket]
    cases named : env.char2WChar avatarName with
    | none => exact iff_of_true (frame_refl player s) (.inl rfl)
    | some name =>
      rw [or_iff_right (Option.some_ne_none _)]
      exact onAvatarSelectReq_frame env player s name
  | other => exact iff_of_true (frame_refl player s) trivial

theorem onPlayerEventGetAvatarListResult_frame (ret : Int32) (arrayAvatar : List Avatar) :
    Frame player s (onPlayerEventGetAvatarListResult env player ret arrayAvatar s) ↔
      transition (s.contexts player).state .avatarListAck = none := by
  refine expect_frame player s _ _ fun t => ?_
  have listed : Still player t (saveAvatars player ret arrayAvatar t) := by
    rw [saveAvatars]
    split
    · have counted := update_still player t (fun context =>
        {context with avatarCount := UInt8.ofNat arrayAvatar.length}) rfl
      exact ⟨counted.state,counted.sends⟩
    · exact still_refl player t
  dsimp only
  split
  · exact listed
  · exact still_trans player t _ _ listed (sendClient_still env player _ _ _ (still_refl player))

theorem onPlayerEventAvatarCreateResult_frame (ret : Int32) (avatar : Avatar) :
    Frame player s (onPlayerEventAvatarCreateResult env player ret avatar s) ↔
      ret = 0 ∧ (env.wchar2Char avatar.avatarName = none ∨ avatarCountMax ≤ (s.contexts player).avatarCount.toNat) := by
  rw [onPlayerEventAvatarCreateResult]
  by_cases failed : ret = 0
  · rw [if_neg (not_not.mpr failed),and_iff_right failed]
    cases named : env.wchar2Char avatar.avatarName with
    | none => exact iff_of_true (frame_refl player s) (.inl rfl)
    | some name =>
      rw [or_iff_right (Option.some_ne_none _)]
      dsimp only
      split
      next full => exact iff_of_true (frame_refl player s) full
      next room =>
        let added := {s.update player fun context => {context with avatarCount := context.avatarCount + 1} with
          arrayAvatar := Function.update s.arrayAvatar player (avatars player s ++ [avatar])}
        refine iff_of_false (loud_frame player s _ ?_) room
        exact sendClient_sends env player added _ _ fun _ => Nat.le_refl _
  · rw [if_pos failed]
    refine iff_of_false (loud_frame player s _ ?_) fun both => failed both.1
    exact sendClient_sends env player s _ _ fun _ => Nat.le_refl _

theorem acknowledgeSelect_sends (packet : Packet) : sends s < sends (acknowledgeSelect env player packet s) := by
  rw [acknowledgeSelect]
  refine sendClient_sends env player s _ _ fun t => ?_
  split
  · exact Nat.le_refl _
  · exact (shutdownPlayer_still env player t).sends

theorem onPlayerEventAvatarSelectResult_frame (ret : Int32) (avatarId : UInt64) (avatarName : WString)
    (lastChannelId : UInt8) :
    Frame player s (onPlayerEventAvatarSelectResult env player ret avatarId avatarName lastChannelId s) ↔
      ret = 0 ∧ env.wchar2Char avatarName = none ∧ Selected (s.contexts player) avatarId avatarName lastChannelId := by
  rw [onPlayerEventAvatarSelectResult]
  by_cases failed : ret = 0
  · rw [if_neg (not_not.mpr failed),and_iff_right failed]
    cases named : env.wchar2Char avatarName with
    | none =>
      rw [and_iff_right rfl]
      dsimp only
      constructor
      · intro frame
        have context := frame.context
        rw [selectAvatar,update_same] at context
        exact (congrArg CachePlayerContext.avatarContext context).symm
      · intro selected
        refine ⟨?_,rfl,rfl,rfl,rfl⟩
        rw [selectAvatar,update_same]
        dsimp only
        rw [Selected] at selected
        rw [← selected]
    | some name =>
      refine iff_of_false (loud_frame player s _ ?_) fun both => Option.some_ne_none _ both.1
      exact acknowledgeSelect_sends env player (selectAvatar player avatarId avatarName lastChannelId s) _
  · rw [if_pos failed]
    refine iff_of_false (loud_frame player s _ ?_) fun both => failed both.1
    exact acknowledgeSelect_sends env player s _

theorem onPlayerEventAvatarEnterRegionResult_frame (ret : Int32) :
    ¬ Frame player s (onPlayerEventAvatarEnterRegionResult env player ret s) := by
  refine loud_frame player s _ ?_
  have grows (t : Cache) : sends t ≤ sends (expect .regionEnterAck player id t) := by
    rw [expect]
    split
    · exact Nat.le_refl _
    · exact Nat.le_refl _
  rw [onPlayerEventAvatarEnterRegionResult]
  split
  · exact attempt_sends env (setEnterRegion player true (addPlayerContextByAvatarId player s)) _ _ grows
  · exact attempt_sends env s _ _ grows

theorem onPlayerEventResult_frame (event : PlayerDBEvent) :
    Frame player s (onPlayerEventResult env player event s) ↔ SparedResult env (s.contexts player) event := by
  obtain ⟨sessionId,ret,data⟩ := event
  cases data with
  | getAvatarList accountName arrayAvatar => exact onPlayerEventGetAvatarListResult_frame env player s ret arrayAvatar
  | avatarCreate accountName avatar => exact onPlayerEventAvatarCreateResult_frame env player s ret avatar
  | avatarSelectData avatarId avatarName lastChannelId =>
    exact onPlayerEventAvatarSelectResult_frame env player s ret avatarId avatarName lastChannelId
  | avatarEnterRegion avatarId avatarName =>
    exact iff_of_false (onPlayerEventAvatarEnterRegionResult_frame env player s ret) id
  | avatarSaveData avatarName lastChannelId => exact iff_of_true (frame_refl player s) trivial
  | avatarLogout avatarId =>
    change Frame player s (setEnterRegion player false s) ↔ (s.contexts player).avatarContext.enterRegion = false
    constructor
    · intro frame
      have context := frame.context
      rw [setEnterRegion,update_same] at context
      have left := congrArg (fun context : CachePlayerContext => context.avatarContext.enterRegion) context
      exact left.symm
    · intro left
      refine ⟨?_,rfl,rfl,rfl,rfl⟩
      rw [setEnterRegion,update_same,← left]
  | avatarFinalize =>
    refine iff_of_false (fun frame => ?_) id
    have queue := congrArg List.length frame.queue
    change (s.finalizingQueue ++ [player]).length = s.finalizingQueue.length at queue
    rw [List.length_append] at queue
    exact absurd queue (Nat.succ_ne_self _)

end

section
variable (env : Env) (s : Cache)

theorem target_session (action : Action) (sessionId : UInt32) (player : Object)
    (asked : sessionOf action = some sessionId) (here : target s action = some player) :
    s.shutdownStatus = .notShutdown ∧ find sessionId s.playerContextBySessionId = some player := by
  have shape : target s action =
      if s.shutdownStatus = .notShutdown then (sessionOf action).bind fun id => find id s.playerContextBySessionId
      else none := by
    cases action with
    | result | onLoginReq => cases asked
    | _ => rfl
  rw [shape,asked] at here
  split at here
  next running => exact ⟨running,here⟩
  · cases here

theorem session_frame (action : Action) (sessionId : UInt32) (handle : Object → Cache → Cache) (player : Object)
    (asked : sessionOf action = some sessionId) (here : target s action = some player)
    (stepped : step env s action = whileRunning (forSession sessionId handle) s) :
    Frame player s (step env s action) ↔ Frame player s (handle player s) := by
  obtain ⟨running,inside⟩ := target_session s action sessionId player asked here
  rw [stepped,whileRunning,if_pos running,forSession,inside]

theorem login_frame (sessionId : UInt32) (accountName : WString) (player : Object)
    (here : target s (.onLoginReq sessionId accountName) = some player) :
    Frame player s (step env s (.onLoginReq sessionId accountName)) ↔
      transition (s.contexts player).state .onLoginReq = none := by
  rw [target] at here
  split at here
  next running =>
    rcases taken : s.playerContextPool.allocate with ⟨object,pool⟩
    rw [taken] at here
    dsimp only at here
    subst here
    let listed : Cache := {s with
      playerContextPool := pool
      playerContextBySessionId := insert sessionId player s.playerContextBySessionId
      logins := Function.update s.logins player s.loginCount
      loginCount := s.loginCount + 1}
    have stepped : step env s (.onLoginReq sessionId accountName) = onLoginReq player sessionId accountName listed := by
      rw [step,whileRunning,if_pos running,onCommandOnLoginReq,taken]
    have frame := expect_frame player listed .onLoginReq (fun t => t.update player fun context =>
      {context with accountName := accountName, sessionId := sessionId}) fun t => update_still player t _ rfl
    rw [stepped]
    exact ⟨fun same => frame.mp ⟨same.context,same.array,same.queue,same.pushed,same.silent⟩,fun refused =>
      have same := frame.mpr refused
      ⟨same.context,same.array,same.queue,same.pushed,same.silent⟩⟩
  · cases here

theorem result_frame (player : Object) (here : target s .result = some player) :
    Frame player s (step env s .result) ↔ ∀ event, s.dbConnPool.returnList.head? = some event →
      SparedResult env (s.contexts player) (s.dbEvents event) := by
  rw [target] at here
  cases returned : s.dbConnPool.returnList with
  | nil =>
    rw [returned] at here
    cases here
  | cons event rest =>
    rw [returned] at here
    change find (s.dbEvents event).sessionId s.playerContextBySessionId = some player at here
    let popped : Cache := {s with
      dbConnPool := DbConnPool.popFromDBEventReturnList s.dbConnPool
      log := .handled event :: s.log}
    have stepped : step env s .result = onPlayerEventResult env player (s.dbEvents event) popped := by
      rw [step,onDBEventResult,returned]
      dsimp only
      rw [forSession,here]
    have silent : sends popped = sends s := by
      rw [sends,List.countP_cons_of_neg Bool.false_ne_true]
      rfl
    rw [stepped]
    have frame := onPlayerEventResult_frame env player popped (s.dbEvents event)
    constructor
    · intro same other head
      obtain rfl := Option.some.inj head
      exact frame.mp ⟨same.context,same.array,same.queue,same.pushed,same.silent.trans silent.symm⟩
    · intro spared
      have same := frame.mpr (spared event rfl)
      exact ⟨same.context,same.array,same.queue,same.pushed,same.silent.trans silent⟩

theorem framed_iff (action : Action) : Framed env s action ↔ Spared env s action := by
  refine forall_congr' fun player => imp_congr_right fun here => imp_congr_right fun _ => ?_
  cases action with
  | onLoginReq sessionId accountName => exact login_frame env s sessionId accountName player here
  | onLogoutReq sessionId =>
    exact (session_frame env s _ sessionId (onLogoutReq env) player rfl here rfl).trans (onLogoutReq_frame env player s)
  | onRegionEnterReq sessionId serverId avatarName =>
    exact (session_frame env s _ sessionId (fun player => onRegionEnterReq env player serverId avatarName) player rfl here
      rfl).trans (onRegionEnterReq_frame env player s serverId avatarName)
  | packetForward sessionId packet =>
    exact (session_frame env s _ sessionId (fun player => onPacketReceived env player packet) player rfl here rfl).trans
      (onPacketReceived_frame env player s packet)
  | result => exact result_frame env s player here
  | shutdown | saveData | tick | work | drain =>
    refine iff_of_true ?_ trivial
    rw [target] at here
    · split at here <;> cases here
    · intro same
      cases same
    · intro sessionId accountName same
      cases same

end

/-- In the cache a player in the queue is left alone exactly in the runs in which what is still handled for it is
refused by its state, or would change nothing. -/
theorem cache_framed_iff (env : Env) (actions : List Action) :
    Guarded (step env) (Framed env) (init env.config) actions ↔
      Guarded (step env) (Spared env) (init env.config) actions :=
  guarded_congr (step env) (Spared env) (Framed env) (fun _ => True) (fun _ _ _ _ => trivial)
    (fun s action _ => framed_iff env s action) _ actions trivial

end Fantuan.CacheServer.FinalizedPlayers
