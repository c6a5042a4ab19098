import Mathlib.Logic.Relation
import Fantuan.CacheServer.Commands

/-! What a command, a DB thread or a result can do to the players of the cache: all of them but
a login and a drain are chains of these steps.
-/
namespace Fantuan.CacheServer.PlayerSteps
open Lib.Table Lib.Drain Tool.ObjectPool Tool.StateMachine CacheDBEvent ServerLoop Player Commands

def Listed (s : Cache) (player : Object) : Prop :=
  find (s.contexts player).sessionId s.playerContextBySessionId = some player

def Keyed (s : Cache) : Prop :=
  ∀ sessionId player, find sessionId s.playerContextBySessionId = some player →
    (s.contexts player).sessionId = sessionId

def isCall : Mark → Bool
  | .sent _ _ | .allocated _ => true
  | _ => false

/-- Where a player waits for the result of an event that decides what becomes of it. -/
def awaits : EventData → Option PlayerState
  | .avatarSelectData _ _ _ => some .onAvatarSelectReq
  | .avatarFinalize => some .onLogoutReq
  | _ => none

def decides (data : EventData) : Bool := (awaits data).isSome

structure Kept (old new : CachePlayerContext) : Prop where
  sessionId : new.sessionId = old.sessionId
  state : new.state = old.state
  finalizing : new.finalizing = old.finalizing
  avatarId : new.avatarContext.avatarId = old.avatarContext.avatarId
  enterRegion : new.avatarContext.enterRegion = true → old.avatarContext.enterRegion = true

/-- The avatar of a player that is listed under its avatar stays. -/
def Chosen (s : Cache) (player : Object) (avatarId : UInt64) : Prop :=
  find (s.contexts player).avatarContext.avatarId s.playerContextByAvatarId = some player →
    (s.contexts player).avatarContext.avatarId = avatarId

/-- No other player is listed under the player's avatar. -/
def Alone (s : Cache) (player : Object) : Prop :=
  ∀ other ∈ find (s.contexts player).avatarContext.avatarId s.playerContextByAvatarId, other = player

/-- The result of an event does not make the avatars of two players clash. -/
def Fits (s : Cache) (player : Object) (event : PlayerDBEvent) : Prop :=
  event.ret = 0 → match event.data with
    | .avatarSelectData avatarId _ _ => Chosen s player avatarId
    | .avatarEnterRegion _ _ => Alone s player
    | _ => True

def enter (player : Object) (s : Cache) : Cache :=
  setEnterRegion player true (addPlayerContextByAvatarId player s)

/-- Loud steps decide that a player leaves, or take part in the choice of its avatar; in a strict
chain the avatars do not clash. -/
inductive CacheStep (env : Env) (loud strict : Prop) : Cache → Cache → Prop
  | call (s : Cache) (mark : Mark) (plain : isCall mark = true) :
      CacheStep env loud strict s {s with log := mark :: s.log}
  | save (s : Cache) (delay : Option Packet) : CacheStep env loud strict s {s with delay := delay}
  | array (s : Cache) (arrayAvatar : Object → List Avatar) :
      CacheStep env loud strict s {s with arrayAvatar := arrayAvatar}
  | clock (s : Cache) (currTime : UInt32) : CacheStep env loud strict s {s with currTime := currTime}
  | stop (s : Cache) : CacheStep env loud strict s {s with shutdownStatus := .startShutdown}
  | work (s : Cache) (worker : Nat) : CacheStep env loud strict s (work env worker s)
  | change (s : Cache) (player : Object) (change : CachePlayerContext → CachePlayerContext)
      (listed : Listed s player) (kept : Kept (s.contexts player) (change (s.contexts player))) :
      CacheStep env loud strict s (s.update player change)
  | move (s : Cache) (player : Object) (event : PlayerEvent) (next : PlayerState)
      (listed : Listed s player) (allowed : event = .avatarSelectAck → loud)
      (reached : transition (s.contexts player).state event = some next) :
      CacheStep env loud strict s (s.update player fun context => {context with state := next})
  | push (s : Cache) (player : Object) (data : EventData) (returnable : Bool)
      (listed : Listed s player) (allowed : decides data = true → loud) :
      CacheStep env loud strict s (pushSequenceEvent player data returnable s)
  | queue (s : Cache) (player : Object) (listed : Listed s player) (allowed : loud) :
      CacheStep env loud strict s (addPlayerToFinalizingQueue player s)
  | select (s : Cache) (player : Object) (avatarId : UInt64) (avatarName : List UInt16)
      (lastChannelId : UInt8) (listed : Listed s player)
      (chosen : strict → Chosen s player avatarId) :
      CacheStep env loud strict s (selectAvatar player avatarId avatarName lastChannelId s)
  | enter (s : Cache) (player : Object) (listed : Listed s player)
      (free : strict → Alone s player) : CacheStep env loud strict s (enter player s)

abbrev Does (env : Env) (loud strict : Prop) : Cache → Cache → Prop :=
  Relation.ReflTransGen (CacheStep env loud strict)

theorem listed_update (s : Cache) (player other : Object)
    (change : CachePlayerContext → CachePlayerContext)
    (same : (change (s.contexts player)).sessionId = (s.contexts player).sessionId) :
    Listed (s.update player change) other ↔ Listed s other := by
  rw [Listed,update_field CachePlayerContext.sessionId s player other change same]
  rfl

section
variable (env : Env) (loud strict : Prop)

theorem does_listed (s t : Cache) (player : Object) (does : Does env loud strict s t)
    (listed : Listed s player) : Listed t player := by
  induction does with
  | refl => exact listed
  | tail _ step ih =>
    cases step with
    | work worker =>
      rw [work]
      split
      · exact ih
      · exact ih
    | change other change _ kept => exact (listed_update _ other player change kept.sessionId).mpr ih
    | move other =>
      apply (listed_update _ other player _ _).mpr ih
      rfl
    | queue other =>
      exact (listed_update _ other player (fun context => {context with finalizing := true}) rfl).mpr ih
    | select other =>
      apply (listed_update _ other player _ _).mpr ih
      rfl
    | enter other =>
      exact (listed_update _ other player (fun context => {context with
        avatarContext := {context.avatarContext with enterRegion := true}}) rfl).mpr ih
    | _ => exact ih

variable (player : Object) (s : Cache) (listed : Listed s player)
include listed

theorem expect_does (event : PlayerEvent) (next : Cache → Cache)
    (allowed : event = .avatarSelectAck → loud)
    (continues : ∀ t, Listed t player → Does env loud strict t (next t)) :
    Does env loud strict s (expect event player next s) := by
  rw [expect]
  split
  next state reached =>
    have moved : Does env loud strict s (s.update player fun context => {context with state := state}) :=
      .single (.move s player event state listed allowed reached)
    exact moved.trans (continues _ (does_listed env loud strict s _ player moved listed))
  · exact .refl

theorem attempt_does (message : Message) (next : Cache → Cache)
    (continues : ∀ t, Listed t player → Does env loud strict t (next t)) :
    Does env loud strict s (attempt env message next s) := by
  have sent : CacheStep env loud strict s
      {s with log := .sent message (env.net s.log.length) :: s.log} := .call s _ rfl
  rw [attempt]
  split
  · exact .head sent (continues _ listed)
  · exact .single sent

theorem allocateEvent_does (failed next : Cache → Cache)
    (fails : ∀ t, Listed t player → Does env loud strict t (failed t))
    (continues : ∀ t, Listed t player → Does env loud strict t (next t)) :
    Does env loud strict s (allocateEvent env failed next s) := by
  have allocated : CacheStep env loud strict s
      {s with log := .allocated (env.memory s.log.length) :: s.log} := .call s _ rfl
  rw [allocateEvent]
  split
  · exact .head allocated (continues _ listed)
  · exact .head allocated (fails _ listed)

theorem sendClient_does (packet : Packet) (next : Cache → Cache)
    (continues : ∀ t, Listed t player → Does env loud strict t (next t)) :
    Does env loud strict s (sendClient env player packet next s) := by
  refine attempt_does env loud strict player s listed _ _ fun t listed => ?_
  refine .head (.save t (some packet)) ?_
  exact attempt_does env loud strict player {t with delay := some packet} listed _ _ continues

theorem sendClient_last (packet : Packet) : Does env loud strict s (sendClient env player packet id s) :=
  sendClient_does env loud strict player s listed packet id fun _ _ => .refl

theorem push_does (data : EventData) (returnable : Bool) (allowed : decides data = true → loud) :
    Does env loud strict s (pushSequenceEvent player data returnable s) :=
  .single (.push s player data returnable listed allowed)

theorem shutdownPlayer_does (allowed : loud) : Does env loud strict s (shutdownPlayer env player s) := by
  rw [shutdownPlayer]
  split
  · exact .refl
  · rw [shutdown]
    split
    · refine allocateEvent_does env loud strict player s listed _ _ (fun _ _ => .refl) fun t listed => ?_
      exact push_does env loud strict player t listed _ true fun _ => allowed
    · exact .single (.queue s player listed allowed)

theorem onAvatarLogoutReq_does (allowed : loud) :
    Does env loud strict s (onAvatarLogoutReq env player s) := by
  refine allocateEvent_does env loud strict player s listed _ _ (fun t listed => ?_) fun t listed => ?_
  · exact shutdownPlayer_does env loud strict player t listed allowed
  · exact push_does env loud strict player t listed _ true fun _ => allowed

theorem onLogoutReq_does (allowed : loud) : Does env loud strict s (onLogoutReq env player s) := by
  refine expect_does env loud strict player s listed _ _ (by simp) fun t listed => ?_
  split
  · have left := onAvatarLogoutReq_does env loud strict player t listed allowed
    have still := does_listed env loud strict t _ player left listed
    exact left.trans (shutdownPlayer_does env loud strict player _ still allowed)
  · exact shutdownPlayer_does env loud strict player t listed allowed

theorem onRegionEnterReq_does (serverId : UInt8) (avatarName : List UInt16) :
    Does env loud strict s (onRegionEnterReq env player serverId avatarName s) := by
  refine expect_does env loud strict player s listed _ _ (by simp) fun t listed => ?_
  refine allocateEvent_does env loud strict player t listed _ _ (fun _ _ => .refl) fun u listed => ?_
  have recorded : Does env loud strict u
      (u.update player fun context => {context with regionServerId := serverId}) :=
    .single (.change u player _ listed ⟨rfl,rfl,rfl,rfl,id⟩)
  have still := does_listed env loud strict u _ player recorded listed
  exact recorded.trans (push_does env loud strict player _ still _ true (by simp [decides,awaits]))

theorem onAvatarListReq_does : Does env loud strict s (onAvatarListReq env player s) := by
  refine expect_does env loud strict player s listed _ _ (by simp) fun t listed => ?_
  refine allocateEvent_does env loud strict player t listed _ _ (fun u listed => ?_) fun u listed => ?_
  · exact sendClient_last env loud strict player u listed _
  · exact push_does env loud strict player u listed _ true (by simp [decides,awaits])

theorem onAvatarCreateReq_does (avatarName : List UInt16) :
    Does env loud strict s (onAvatarCreateReq env player avatarName s) := by
  refine allocateEvent_does env loud strict player s listed _ _ (fun t listed => ?_) fun t listed => ?_
  · exact sendClient_last env loud strict player t listed _
  · exact push_does env loud strict player t listed _ true (by simp [decides,awaits])

theorem onAvatarSelectReq_does (avatarName : List UInt16) (allowed : loud) :
    Does env loud strict s (onAvatarSelectReq env player avatarName s) := by
  refine expect_does env loud strict player s listed _ _ (by simp) fun t listed => ?_
  split
  · refine allocateEvent_does env loud strict player t listed _ _ (fun u listed => ?_) fun u listed => ?_
    · exact sendClient_last env loud strict player u listed _
    · exact push_does env loud strict player u listed _ true fun _ => allowed
  · exact .refl

theorem onSaveDataReq_does (sendNtf : Bool) :
    Does env loud strict s (onSaveDataReq env player sendNtf s) := by
  refine allocateEvent_does env loud strict player s listed _ _ (fun _ _ => .refl) fun t listed => ?_
  have pushed := push_does env loud strict player t listed
    (.avatarSaveData (t.contexts player).avatarContext.avatarName
      (t.contexts player).avatarContext.lastChannelId) sendNtf (by simp [decides,awaits])
  have still := does_listed env loud strict t _ player pushed listed
  exact pushed.tail (.change _ player _ still ⟨rfl,rfl,rfl,rfl,id⟩)

theorem saveAvatars_does (ret : Int32) (arrayAvatar : List Avatar) :
    Does env loud strict s (saveAvatars player ret arrayAvatar s) := by
  rw [saveAvatars]
  split
  · exact .tail (.single (.change s player _ listed ⟨rfl,rfl,rfl,rfl,id⟩)) (.array _ _)
  · exact .refl

theorem onPlayerEventGetAvatarListResult_does (ret : Int32) (arrayAvatar : List Avatar) :
    Does env loud strict s (onPlayerEventGetAvatarListResult env player ret arrayAvatar s) := by
  refine expect_does env loud strict player s listed _ _ (by simp) fun t listed => ?_
  have saved := saveAvatars_does env loud strict player t listed ret arrayAvatar
  have still := does_listed env loud strict t _ player saved listed
  dsimp only
  split
  · exact saved
  · exact saved.trans (sendClient_last env loud strict player _ still _)

theorem onPlayerEventAvatarCreateResult_does (ret : Int32) (avatar : Avatar) :
    Does env loud strict s (onPlayerEventAvatarCreateResult env player ret avatar s) := by
  rw [onPlayerEventAvatarCreateResult]
  split
  · exact sendClient_last env loud strict player s listed _
  · split
    · exact .refl
    · split
      · exact .refl
      · have added : Does env loud strict s
            {s.update player fun context => {context with avatarCount := context.avatarCount + 1} with
              arrayAvatar := Function.update s.arrayAvatar player (avatars player s ++ [avatar])} :=
          .tail (.single (.change s player _ listed ⟨rfl,rfl,rfl,rfl,id⟩)) (.array _ _)
        have still := does_listed env loud strict s _ player added listed
        exact added.trans (sendClient_last env loud strict player _ still _)

theorem acknowledgeSelect_does (packet : Packet) (allowed : loud) :
    Does env loud strict s (acknowledgeSelect env player packet s) := by
  refine sendClient_does env loud strict player s listed _ _ fun t listed => ?_
  split
  next state reached => exact .single (.move t player _ state listed (fun _ => allowed) reached)
  · exact shutdownPlayer_does env loud strict player t listed allowed

theorem onPlayerEventAvatarSelectResult_does (ret : Int32) (avatarId : UInt64)
    (avatarName : List UInt16) (lastChannelId : UInt8) (allowed : loud)
    (chosen : strict → ret = 0 → Chosen s player avatarId) :
    Does env loud strict s
      (onPlayerEventAvatarSelectResult env player ret avatarId avatarName lastChannelId s) := by
  rw [onPlayerEventAvatarSelectResult]
  split
  · exact acknowledgeSelect_does env loud strict player s listed _ allowed
  next success =>
    have selected : Does env loud strict s (selectAvatar player avatarId avatarName lastChannelId s) :=
      .single (.select s player avatarId avatarName lastChannelId listed fun guard =>
        chosen guard (by simpa using success))
    have still := does_listed env loud strict s _ player selected listed
    dsimp only
    split
    · exact selected
    · exact selected.trans (acknowledgeSelect_does env loud strict player _ still _ allowed)

theorem onPlayerEventAvatarEnterRegionResult_does (ret : Int32)
    (free : strict → ret = 0 → Alone s player) :
    Does env loud strict s (onPlayerEventAvatarEnterRegionResult env player ret s) := by
  have enters : Does env loud strict s
      (if ret = 0 then setEnterRegion player true (addPlayerContextByAvatarId player s) else s) := by
    split
    next success => exact .single (.enter s player listed fun guard => free guard success)
    · exact .refl
  have still := does_listed env loud strict s _ player enters listed
  rw [onPlayerEventAvatarEnterRegionResult]
  refine enters.trans (attempt_does env loud strict player _ still _ _ fun t listed => ?_)
  exact expect_does env loud strict player t listed _ _ (by simp) fun _ _ => .refl

theorem onPlayerEventResult_does (event : PlayerDBEvent)
    (allowed : decides event.data = true → loud)
    (fits : strict → Fits s player event) :
    Does env loud strict s (onPlayerEventResult env player event s) := by
  obtain ⟨sessionId,ret,data⟩ := event
  cases data with
  | getAvatarList accountName arrayAvatar =>
    exact onPlayerEventGetAvatarListResult_does env loud strict player s listed ret arrayAvatar
  | avatarCreate accountName avatar =>
    exact onPlayerEventAvatarCreateResult_does env loud strict player s listed ret avatar
  | avatarSelectData avatarId avatarName lastChannelId =>
    exact onPlayerEventAvatarSelectResult_does env loud strict player s listed ret avatarId avatarName
      lastChannelId (allowed rfl) fits
  | avatarEnterRegion avatarId avatarName =>
    exact onPlayerEventAvatarEnterRegionResult_does env loud strict player s listed ret fits
  | avatarSaveData => exact .refl
  | avatarLogout =>
    exact .single (.change s player (fun context => {context with
      avatarContext := {context.avatarContext with enterRegion := false}}) listed
      ⟨rfl,rfl,rfl,rfl,fun entered => by cases entered⟩)
  | avatarFinalize => exact .single (.queue s player listed (allowed rfl))

theorem onPacketReceived_does (packet : ClientPacket)
    (allowed : ∀ avatarName, packet = .avatarSelectReq avatarName → loud) :
    Does env loud strict s (onPacketReceived env player packet s) := by
  cases packet with
  | avatarListReq => exact onAvatarListReq_does env loud strict player s listed
  | avatarCreateReq avatarName =>
    rw [onPacketReceived]
    split
    · exact onAvatarCreateReq_does env loud strict player s listed _
    · exact .refl
  | avatarSelectReq avatarName =>
    rw [onPacketReceived]
    split
    · exact onAvatarSelectReq_does env loud strict player s listed _ (allowed avatarName rfl)
    · exact .refl
  | other => exact .refl

end

section
variable (env : Env) (loud strict : Prop)

theorem saveDataToDB_does (s : Cache) (keyed : Keyed s) :
    Does env loud strict s (saveDataToDB env s) := by
  have each (players : List Object) (t : Cache) (listed : ∀ player ∈ players, Listed t player) :
      Does env loud strict t (players.foldl (fun s player =>
        if (s.contexts player).finalizing || s.currTime < (s.contexts player).nextSaveDataTime then s
        else onSaveDataReq env player false s) t) := by
    induction players generalizing t with
    | nil => exact .refl
    | cons player players ih =>
      obtain ⟨first,rest⟩ := List.forall_mem_cons.mp listed
      rw [List.foldl_cons]
      split
      · exact ih t rest
      · have saved := onSaveDataReq_does env loud strict player t first false
        refine saved.trans (ih _ fun other member => ?_)
        exact does_listed env loud strict t _ other saved (rest other member)
  refine each _ s fun player member => ?_
  obtain ⟨sessionId,found⟩ := (mem_values _ player).mp member
  rw [Listed,keyed sessionId player found]
  exact found

theorem whileRunning_does (handle : Cache → Cache) (s : Cache)
    (does : Does env loud strict s (handle s)) : Does env loud strict s (whileRunning handle s) := by
  rw [whileRunning]
  split
  · exact does
  · exact .refl

theorem forSession_some (sessionId : UInt32) (handle : Object → Cache → Cache) (s : Cache) (player : Object)
    (found : find sessionId s.playerContextBySessionId = some player) :
    forSession sessionId handle s = handle player s := by
  rw [forSession,found]

theorem forSession_none (sessionId : UInt32) (handle : Object → Cache → Cache) (s : Cache)
    (unfound : find sessionId s.playerContextBySessionId = none) : forSession sessionId handle s = s := by
  rw [forSession,unfound]

theorem forSession_found (sessionId : UInt32) (handle : Object → Cache → Cache) (s : Cache)
    (keyed : Keyed s)
    (does : ∀ player, find sessionId s.playerContextBySessionId = some player → Listed s player →
      Does env loud strict s (handle player s)) :
    Does env loud strict s (forSession sessionId handle s) := by
  rw [forSession]
  split
  next player found =>
    apply does player found
    rw [Listed,keyed sessionId player found]
    exact found
  · exact .refl

theorem forSession_does (sessionId : UInt32) (handle : Object → Cache → Cache) (s : Cache)
    (keyed : Keyed s)
    (does : ∀ player, Listed s player → Does env loud strict s (handle player s)) :
    Does env loud strict s (forSession sessionId handle s) :=
  forSession_found env loud strict sessionId handle s keyed fun player _ => does player

/-- The actions that log in no player and delete none, and handle no result. -/
def plainAction : Action → Bool
  | .onLoginReq _ _ | .result | .drain => false
  | _ => true

def loudAction : Action → Bool
  | .onLogoutReq _ | .packetForward _ (.avatarSelectReq _) => true
  | _ => false

theorem step_does (s : Cache) (action : Action) (plain : plainAction action = true) (keyed : Keyed s)
    (allowed : loudAction action = true → loud) : Does env loud strict s (step env s action) := by
  cases action with
  | onLoginReq => cases plain
  | result => cases plain
  | drain => cases plain
  | shutdown =>
    apply whileRunning_does
    exact .single (.stop s)
  | onLogoutReq sessionId =>
    exact whileRunning_does env loud strict _ s (forSession_does env loud strict sessionId _ s keyed
      fun player listed => onLogoutReq_does env loud strict player s listed (allowed rfl))
  | onRegionEnterReq sessionId serverId avatarName =>
    exact whileRunning_does env loud strict _ s (forSession_does env loud strict sessionId _ s keyed
      fun player listed => onRegionEnterReq_does env loud strict player s listed serverId avatarName)
  | packetForward sessionId packet =>
    refine whileRunning_does env loud strict _ s (forSession_does env loud strict sessionId _ s keyed
      fun player listed => onPacketReceived_does env loud strict player s listed packet ?_)
    rintro avatarName rfl
    exact allowed rfl
  | saveData => exact whileRunning_does env loud strict _ s (saveDataToDB_does env loud strict s keyed)
  | tick currTime => exact .single (.clock s currTime)
  | work worker => exact .single (.work s worker)

end

def loggedIn (sessionId : UInt32) (accountName : List UInt16) (context : CachePlayerContext) :
    CachePlayerContext :=
  {context with state := .onLoginReq, accountName := accountName, sessionId := sessionId}

def enrolled (sessionId : UInt32) (accountName : List UInt16) (player : Object) (pool : Pool)
    (s : Cache) : Cache :=
  Cache.update {s with
    playerContextPool := pool
    playerContextBySessionId := insert sessionId player s.playerContextBySessionId
    logins := Function.update s.logins player s.loginCount
    loginCount := s.loginCount + 1} player (loggedIn sessionId accountName)

theorem enrolled_same (sessionId : UInt32) (accountName : List UInt16) (player : Object) (pool : Pool)
    (s : Cache) : (enrolled sessionId accountName player pool s).contexts player =
      loggedIn sessionId accountName (s.contexts player) := update_same ..

theorem enrolled_other (sessionId : UInt32) (accountName : List UInt16) (player other : Object)
    (pool : Pool) (s : Cache) (different : other ≠ player) :
    (enrolled sessionId accountName player pool s).contexts other = s.contexts other :=
  update_other _ player other _ different

theorem onLoginReq_cases (env : Env) (s : Cache) (sessionId : UInt32) (accountName : List UInt16)
    (unused : ∀ player pool, s.playerContextPool.allocate = (some player,pool) →
      (s.contexts player).state = .none) :
    step env s (.onLoginReq sessionId accountName) = s ∨
      ∃ player pool, s.shutdownStatus = .notShutdown ∧
        s.playerContextPool.allocate = (some player,pool) ∧
        step env s (.onLoginReq sessionId accountName) =
          enrolled sessionId accountName player pool s := by
  rw [step,whileRunning]
  split
  next running =>
    rw [onCommandOnLoginReq]
    split
    · exact .inl rfl
    next player pool taken =>
      refine .inr ⟨player,pool,running,taken,?_⟩
      have reached : transition (s.contexts player).state .onLoginReq = some .onLoginReq := by
        rw [unused player pool taken]
        rfl
      rw [onLoginReq,expect,reached]
      simp [Cache.update,enrolled,loggedIn]
  · exact .inl rfl

def deleted (player : Object) (s : Cache) : Cache := {deletePlayer player s with finalizingQueue := []}

theorem deleted_same (player : Object) (s : Cache) : (deleted player s).contexts player = .clear :=
  Function.update_self ..

theorem deleted_other (player other : Object) (s : Cache) (different : other ≠ player) :
    (deleted player s).contexts other = s.contexts other := Function.update_of_ne different ..

theorem checkShutdown_status (s : Cache) :
    ∃ status, checkShutdown s = {s with shutdownStatus := status} := by
  rw [checkShutdown]
  split
  · exact ⟨_,rfl⟩
  · exact ⟨s.shutdownStatus,rfl⟩

theorem drain_cases (s : Cache) (single : s.finalizingQueue.length ≤ 1) :
    ∃ status, s.finalizingQueue = [] ∧ drain s = {s with shutdownStatus := status} ∨
      ∃ player, s.finalizingQueue = [player] ∧
        drain s = {deleted player s with shutdownStatus := status} := by
  match queue : s.finalizingQueue with
  | [] =>
    have same : {s with finalizingQueue := []} = s := by rw [← queue]
    obtain ⟨status,result⟩ := checkShutdown_status s
    refine ⟨status,.inl ⟨rfl,?_⟩⟩
    rw [drain,queue,drainBack,same,result,queue]
  | [player] =>
    obtain ⟨status,result⟩ := checkShutdown_status (deleted player s)
    refine ⟨status,.inr ⟨player,rfl,?_⟩⟩
    rw [drain,queue,drainBack_singleton,← result]
    rfl
  | first :: second :: rest =>
    rw [queue,List.length_cons,List.length_cons] at single
    omega

end Fantuan.CacheServer.PlayerSteps
