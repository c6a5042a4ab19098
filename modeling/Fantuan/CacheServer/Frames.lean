import Fantuan.CacheServer.PlayerSteps

/-! What the handlers leave alone. Whatever a handler is called for, it changes the players, the log
and what it sends, or pushes an event; nothing is assumed about the state.
-/
namespace Fantuan.CacheServer.Frames
open Lib.Table Lib.Drain Tool.ObjectPool Tool.StateMachine CacheDBEvent ServerLoop Player Commands

structure Local (s t : Cache) : Prop where
  status : t.shutdownStatus = s.shutdownStatus
  contextPool : t.playerContextPool = s.playerContextPool
  sessions : t.playerContextBySessionId = s.playerContextBySessionId
  pool : t.dbConnPool = s.dbConnPool
  events : t.dbEvents = s.dbEvents

inductive HandlerStep : Cache → Cache → Prop
  | change (s t : Cache) (own : Local s t) : HandlerStep s t
  | push (s : Cache) (player : Object) (data : EventData) (returnable : Bool) :
      HandlerStep s (pushSequenceEvent player data returnable s)

abbrev Handles : Cache → Cache → Prop := Relation.ReflTransGen HandlerStep

theorem local_handles (s t : Cache) (own : Local s t) : Handles s t := .single (.change s t own)

section
variable (env : Env) (player : Object) (s : Cache)

theorem update_handles (change : CachePlayerContext → CachePlayerContext) :
    Handles s (s.update player change) :=
  local_handles s _ ⟨rfl,rfl,rfl,rfl,rfl⟩

theorem log_handles (mark : Mark) : Handles s {s with log := mark :: s.log} :=
  local_handles s _ ⟨rfl,rfl,rfl,rfl,rfl⟩

theorem push_handles (data : EventData) (returnable : Bool) :
    Handles s (pushSequenceEvent player data returnable s) :=
  .single (.push s player data returnable)

theorem expect_handles (event : PlayerEvent) (next : Cache → Cache)
    (continues : ∀ t, Handles t (next t)) : Handles s (expect event player next s) := by
  rw [expect]
  split
  · exact (update_handles player s _).trans (continues _)
  · exact .refl

theorem attempt_handles (message : Message) (next : Cache → Cache)
    (continues : ∀ t, Handles t (next t)) : Handles s (attempt env message next s) := by
  have sent := log_handles s (.sent message (env.net s.log.length))
  rw [attempt]
  split
  · exact sent.trans (continues _)
  · exact sent

theorem allocateEvent_handles (failed next : Cache → Cache) (fails : ∀ t, Handles t (failed t))
    (continues : ∀ t, Handles t (next t)) : Handles s (allocateEvent env failed next s) := by
  have allocated := log_handles s (.allocated (env.memory s.log.length))
  rw [allocateEvent]
  split
  · exact allocated.trans (continues _)
  · exact allocated.trans (fails _)

theorem sendClient_handles (packet : Packet) (next : Cache → Cache)
    (continues : ∀ t, Handles t (next t)) : Handles s (sendClient env player packet next s) := by
  refine attempt_handles env s _ _ fun t => ?_
  have saved : Handles t {t with delay := some packet} := local_handles t _ ⟨rfl,rfl,rfl,rfl,rfl⟩
  exact saved.trans (attempt_handles env _ _ _ continues)

theorem sendClient_last (packet : Packet) : Handles s (sendClient env player packet id s) :=
  sendClient_handles env player s packet id fun _ => .refl

theorem shutdownPlayer_handles : Handles s (shutdownPlayer env player s) := by
  rw [shutdownPlayer]
  split
  · exact .refl
  · rw [shutdown]
    split
    · exact allocateEvent_handles env s _ _ (fun _ => .refl) fun t => push_handles player t _ true
    · exact local_handles s _ ⟨rfl,rfl,rfl,rfl,rfl⟩

theorem onAvatarLogoutReq_handles : Handles s (onAvatarLogoutReq env player s) :=
  allocateEvent_handles env s _ _ (shutdownPlayer_handles env player) fun t => push_handles player t _ true

theorem onLogoutReq_handles : Handles s (onLogoutReq env player s) := by
  refine expect_handles player s _ _ fun t => ?_
  split
  · exact (onAvatarLogoutReq_handles env player t).trans (shutdownPlayer_handles env player _)
  · exact shutdownPlayer_handles env player t

theorem onRegionEnterReq_handles (serverId : UInt8) (avatarName : List UInt16) :
    Handles s (onRegionEnterReq env player serverId avatarName s) := by
  refine expect_handles player s _ _ fun t => ?_
  refine allocateEvent_handles env t _ _ (fun _ => .refl) fun u => ?_
  exact (update_handles player u _).trans (push_handles player _ _ true)

theorem onAvatarListReq_handles : Handles s (onAvatarListReq env player s) := by
  refine expect_handles player s _ _ fun t => ?_
  refine allocateEvent_handles env t _ _ ?_ fun u => push_handles player u _ true
  exact fun u => sendClient_last env player u _

theorem onAvatarCreateReq_handles (avatarName : List UInt16) :
    Handles s (onAvatarCreateReq env player avatarName s) :=
  allocateEvent_handles env s _ _ (fun t => sendClient_last env player t _) fun t =>
    push_handles player t _ true

theorem onAvatarSelectReq_handles (avatarName : List UInt16) :
    Handles s (onAvatarSelectReq env player avatarName s) := by
  refine expect_handles player s _ _ fun t => ?_
  split
  · refine allocateEvent_handles env t _ _ ?_ fun u => push_handles player u _ true
    exact fun u => sendClient_last env player u _
  · exact .refl

theorem onSaveDataReq_handles (sendNtf : Bool) : Handles s (onSaveDataReq env player sendNtf s) := by
  refine allocateEvent_handles env s _ _ (fun _ => .refl) fun t => ?_
  exact (push_handles player t _ sendNtf).trans (update_handles player _ _)

theorem saveDataToDB_handles : Handles s (saveDataToDB env s) := by
  rw [saveDataToDB]
  induction values s.playerContextBySessionId generalizing s with
  | nil => exact .refl
  | cons player players ih =>
    rw [List.foldl_cons]
    split
    · exact ih s
    · exact (onSaveDataReq_handles env player s false).trans (ih _)

theorem onPacketReceived_handles (packet : ClientPacket) :
    Handles s (onPacketReceived env player packet s) := by
  cases packet with
  | avatarListReq => exact onAvatarListReq_handles env player s
  | avatarCreateReq avatarName =>
    rw [onPacketReceived]
    split
    · exact onAvatarCreateReq_handles env player s _
    · exact .refl
  | avatarSelectReq avatarName =>
    rw [onPacketReceived]
    split
    · exact onAvatarSelectReq_handles env player s _
    · exact .refl
  | other => exact .refl

theorem saveAvatars_handles (ret : Int32) (arrayAvatar : List Avatar) :
    Handles s (saveAvatars player ret arrayAvatar s) := by
  rw [saveAvatars]
  split
  · exact local_handles s _ ⟨rfl,rfl,rfl,rfl,rfl⟩
  · exact .refl

theorem onPlayerEventGetAvatarListResult_handles (ret : Int32) (arrayAvatar : List Avatar) :
    Handles s (onPlayerEventGetAvatarListResult env player ret arrayAvatar s) := by
  refine expect_handles player s _ _ fun t => ?_
  have saved := saveAvatars_handles player t ret arrayAvatar
  dsimp only
  split
  · exact saved
  · exact saved.trans (sendClient_last env player _ _)

theorem onPlayerEventAvatarCreateResult_handles (ret : Int32) (avatar : Avatar) :
    Handles s (onPlayerEventAvatarCreateResult env player ret avatar s) := by
  rw [onPlayerEventAvatarCreateResult]
  split
  · exact sendClient_last env player s _
  · split
    · exact .refl
    · split
      · exact .refl
      · refine .trans ?_ (sendClient_last env player _ _)
        exact local_handles s _ ⟨rfl,rfl,rfl,rfl,rfl⟩

theorem acknowledgeSelect_handles (packet : Packet) : Handles s (acknowledgeSelect env player packet s) := by
  refine sendClient_handles env player s packet _ fun t => ?_
  split
  · exact update_handles player t _
  · exact shutdownPlayer_handles env player t

theorem onPlayerEventAvatarSelectResult_handles (ret : Int32) (avatarId : UInt64)
    (avatarName : List UInt16) (lastChannelId : UInt8) :
    Handles s (onPlayerEventAvatarSelectResult env player ret avatarId avatarName lastChannelId s) := by
  have selected : Handles s (selectAvatar player avatarId avatarName lastChannelId s) :=
    update_handles player s _
  rw [onPlayerEventAvatarSelectResult]
  split
  · exact acknowledgeSelect_handles env player s _
  · dsimp only
    split
    · exact selected
    · exact selected.trans (acknowledgeSelect_handles env player _ _)

theorem onPlayerEventAvatarEnterRegionResult_handles (ret : Int32) :
    Handles s (onPlayerEventAvatarEnterRegionResult env player ret s) := by
  have entered : Handles s
      (if ret = 0 then setEnterRegion player true (addPlayerContextByAvatarId player s) else s) := by
    split
    · exact local_handles s _ ⟨rfl,rfl,rfl,rfl,rfl⟩
    · exact .refl
  rw [onPlayerEventAvatarEnterRegionResult]
  refine entered.trans (attempt_handles env _ _ _ fun t => ?_)
  exact expect_handles player t _ _ fun _ => .refl

theorem onPlayerEventResult_handles (event : PlayerDBEvent) :
    Handles s (onPlayerEventResult env player event s) := by
  obtain ⟨sessionId,ret,data⟩ := event
  cases data with
  | getAvatarList => exact onPlayerEventGetAvatarListResult_handles env player s ret _
  | avatarCreate => exact onPlayerEventAvatarCreateResult_handles env player s ret _
  | avatarSelectData => exact onPlayerEventAvatarSelectResult_handles env player s ret _ _ _
  | avatarEnterRegion => exact onPlayerEventAvatarEnterRegionResult_handles env player s ret
  | avatarSaveData => exact .refl
  | avatarLogout => exact local_handles s _ ⟨rfl,rfl,rfl,rfl,rfl⟩
  | avatarFinalize => exact local_handles s _ ⟨rfl,rfl,rfl,rfl,rfl⟩

omit env player

theorem forSession_handles (sessionId : UInt32) (handle : Object → Cache → Cache)
    (handles : ∀ player, Handles s (handle player s)) : Handles s (forSession sessionId handle s) := by
  rw [forSession]
  split
  · exact handles _
  · exact .refl

theorem whileRunning_handles (handle : Cache → Cache) (handles : Handles s (handle s)) :
    Handles s (whileRunning handle s) := by
  rw [whileRunning]
  split
  · exact handles
  · exact .refl

end

def isRequest : Action → Bool
  | .onLogoutReq _ | .onRegionEnterReq _ _ _ | .packetForward _ _ | .saveData => true
  | _ => false

theorem request_handles (env : Env) (s : Cache) (action : Action) (request : isRequest action = true) :
    Handles s (step env s action) := by
  cases action with
  | onLogoutReq sessionId =>
    exact whileRunning_handles s _ (forSession_handles s sessionId _ fun player =>
      onLogoutReq_handles env player s)
  | onRegionEnterReq sessionId serverId avatarName =>
    exact whileRunning_handles s _ (forSession_handles s sessionId _ fun player =>
      onRegionEnterReq_handles env player s serverId avatarName)
  | packetForward sessionId packet =>
    exact whileRunning_handles s _ (forSession_handles s sessionId _ fun player =>
      onPacketReceived_handles env player s packet)
  | saveData => exact whileRunning_handles s _ (saveDataToDB_handles env s)
  | shutdown => cases request
  | onLoginReq => cases request
  | tick => cases request
  | work => cases request
  | result => cases request
  | drain => cases request

theorem result_handles (env : Env) (s : Cache) : ∃ taken : Cache,
    taken.shutdownStatus = s.shutdownStatus ∧
      taken.dbConnPool = DbConnPool.popFromDBEventReturnList s.dbConnPool ∧
      Handles taken (step env s .result) := by
  cases list : s.dbConnPool.returnList with
  | nil =>
    refine ⟨s,rfl,?_,?_⟩
    · rw [DbConnPool.popFromDBEventReturnList,list,List.tail_nil,← list]
    · rw [step,onDBEventResult,list]
  | cons event rest =>
    refine ⟨{s with
      dbConnPool := DbConnPool.popFromDBEventReturnList s.dbConnPool
      log := .handled event :: s.log},rfl,rfl,?_⟩
    rw [step,onDBEventResult,list]
    exact forSession_handles _ _ _ fun player => onPlayerEventResult_handles env player _ _

theorem login_handles (env : Env) (s : Cache) (sessionId : UInt32) (accountName : List UInt16) :
    ∃ taken : Cache, taken.shutdownStatus = s.shutdownStatus ∧ taken.dbConnPool = s.dbConnPool ∧
      Handles taken (step env s (.onLoginReq sessionId accountName)) := by
  rw [step,whileRunning]
  split
  · rw [onCommandOnLoginReq]
    split
    · exact ⟨s,rfl,rfl,.refl⟩
    next player pool _ =>
      let taken := {s with
        playerContextPool := pool
        playerContextBySessionId := insert sessionId player s.playerContextBySessionId
        logins := Function.update s.logins player s.loginCount
        loginCount := s.loginCount + 1}
      refine ⟨taken,rfl,rfl,?_⟩
      exact expect_handles player taken _ _ fun t => update_handles player t _
  · exact ⟨s,rfl,rfl,.refl⟩

theorem drainBack_rest (queue : List Object) (s : Cache) :
    (drainBack Commands.deletePlayer queue s).shutdownStatus = s.shutdownStatus ∧
      (drainBack Commands.deletePlayer queue s).dbConnPool = s.dbConnPool :=
  drainBack_invariant Commands.deletePlayer
    (fun t => t.shutdownStatus = s.shutdownStatus ∧ t.dbConnPool = s.dbConnPool) queue
    (fun _ _ _ same => same) s ⟨rfl,rfl⟩

theorem drain_pool (s : Cache) : (drain s).dbConnPool = s.dbConnPool := by
  have rest := (drainBack_rest s.finalizingQueue s).2
  rw [drain,checkShutdown]
  split
  · exact rest
  · exact rest

theorem handles_pool (kept : DbConnPool.Pool → Prop)
    (pushes : ∀ pool sequenceId eventId returnable, kept pool →
      kept (DbConnPool.pushSequenceEvent sequenceId eventId returnable pool))
    (s t : Cache) (handles : Handles s t) (start : kept s.dbConnPool) : kept t.dbConnPool := by
  induction handles with
  | refl => exact start
  | tail _ step ih =>
    cases step with
    | change _ own =>
      rw [own.pool]
      exact ih
    | push => exact pushes _ _ _ _ ih

/-- Outside the DB threads the cache takes at most one result from the pool, and pushes events. -/
theorem step_pool (kept : DbConnPool.Pool → Prop)
    (pushes : ∀ pool sequenceId eventId returnable, kept pool →
      kept (DbConnPool.pushSequenceEvent sequenceId eventId returnable pool))
    (env : Env) (s : Cache) (action : Action) (own : ∀ worker, action ≠ .work worker)
    (start : action ≠ .result → kept s.dbConnPool)
    (takes : action = .result → kept (DbConnPool.popFromDBEventReturnList s.dbConnPool)) :
    kept (step env s action).dbConnPool := by
  have request (request : isRequest action = true) (other : action ≠ .result) :
      kept (step env s action).dbConnPool :=
    handles_pool kept pushes _ _ (request_handles env s action request) (start other)
  cases action with
  | work worker => exact absurd rfl (own worker)
  | shutdown =>
    rw [step,whileRunning]
    split
    · exact start (by simp)
    · exact start (by simp)
  | tick => exact start (by simp)
  | onLoginReq sessionId accountName =>
    obtain ⟨taken,-,same,handles⟩ := login_handles env s sessionId accountName
    exact handles_pool kept pushes _ _ handles (by rw [same]; exact start (by simp))
  | result =>
    obtain ⟨taken,-,same,handles⟩ := result_handles env s
    exact handles_pool kept pushes _ _ handles (by rw [same]; exact takes rfl)
  | drain =>
    rw [step,drain_pool]
    exact start (by simp)
  | onLogoutReq => exact request rfl (by simp)
  | onRegionEnterReq => exact request rfl (by simp)
  | packetForward => exact request rfl (by simp)
  | saveData => exact request rfl (by simp)

theorem handles_status (s t : Cache) (handles : Handles s t) : t.shutdownStatus = s.shutdownStatus := by
  induction handles with
  | refl => rfl
  | tail _ step ih =>
    cases step with
    | change _ own => exact own.status.trans ih
    | push => exact ih

/-- Only COMMAND_SHUTDOWN and a pass change the status. -/
theorem step_status (env : Env) (s : Cache) (action : Action) (kept : action ≠ .shutdown)
    (loops : action ≠ .drain) : (step env s action).shutdownStatus = s.shutdownStatus := by
  cases action with
  | shutdown => exact absurd rfl kept
  | drain => exact absurd rfl loops
  | tick => rfl
  | work worker =>
    rw [step,work]
    split <;> rfl
  | onLoginReq sessionId accountName =>
    obtain ⟨taken,same,-,handles⟩ := login_handles env s sessionId accountName
    rw [handles_status _ _ handles,same]
  | result =>
    obtain ⟨taken,same,-,handles⟩ := result_handles env s
    rw [handles_status _ _ handles,same]
  | onLogoutReq => exact handles_status _ _ (request_handles env s _ rfl)
  | onRegionEnterReq => exact handles_status _ _ (request_handles env s _ rfl)
  | packetForward => exact handles_status _ _ (request_handles env s _ rfl)
  | saveData => exact handles_status _ _ (request_handles env s _ rfl)

end Fantuan.CacheServer.Frames
