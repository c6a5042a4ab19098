import Mathlib.Logic.Relation
import Fantuan.CacheServer.Commands

/-! What the handlers of the cache do to its events: they only push new ones. Which events a handler
pushes is a parameter.
-/
namespace Fantuan.CacheServer.EventPushes
open Lib.Table Tool.ObjectPool CacheDBEvent ServerLoop Player Commands

/-- Anything beside the events, or the push of an event of the kind. -/
inductive PushStep (kind : PlayerDBEvent → Prop) : Cache → Cache → Prop
  | other (s t : Cache) (pool : t.dbConnPool = s.dbConnPool) (events : t.dbEvents = s.dbEvents) :
      PushStep kind s t
  | push (s : Cache) (player : Object) (data : EventData) (returnable : Bool)
      (allowed : kind ⟨(s.contexts player).sessionId,0,data⟩) :
      PushStep kind s (pushSequenceEvent player data returnable s)

abbrev Pushes (kind : PlayerDBEvent → Prop) : Cache → Cache → Prop :=
  Relation.ReflTransGen (PushStep kind)

/-- What is pushed without a request for the list, an avatar or a region. -/
structure Allows (kind : PlayerDBEvent → Prop) : Prop where
  create : ∀ sessionId accountName avatarName, kind ⟨sessionId,0,.avatarCreate accountName ⟨0,avatarName⟩⟩
  save : ∀ sessionId avatarName lastChannelId, kind ⟨sessionId,0,.avatarSaveData avatarName lastChannelId⟩
  logout : ∀ sessionId avatarId, kind ⟨sessionId,0,.avatarLogout avatarId⟩
  finalize : ∀ sessionId, kind ⟨sessionId,0,.avatarFinalize⟩

section
variable (kind : PlayerDBEvent → Prop) (env : Env) (player : Object) (s : Cache)

theorem same_pushes (t : Cache) (pool : t.dbConnPool = s.dbConnPool) (events : t.dbEvents = s.dbEvents) :
    Pushes kind s t :=
  .single (.other s t pool events)

theorem nothing_pushes (t : Cache) : Pushes kind t (id t) := .refl

theorem push_pushes (data : EventData) (returnable : Bool)
    (allowed : kind ⟨(s.contexts player).sessionId,0,data⟩) :
    Pushes kind s (pushSequenceEvent player data returnable s) :=
  .single (.push s player data returnable allowed)

theorem expect_pushes (event : PlayerEvent) (next : Cache → Cache)
    (continues : ∀ t, (t.contexts player).sessionId = (s.contexts player).sessionId → Pushes kind t (next t)) :
    Pushes kind s (expect event player next s) := by
  rw [expect]
  split
  next state _ =>
    have moved : Pushes kind s (s.update player fun context => {context with state := state}) :=
      same_pushes kind s _ rfl rfl
    refine moved.trans (continues _ ?_)
    rw [update_same]
  · exact .refl

theorem attempt_pushes (message : Message) (next : Cache → Cache) (continues : ∀ t, Pushes kind t (next t)) :
    Pushes kind s (attempt env message next s) := by
  have said (success : Bool) : Pushes kind s {s with log := .sent message success :: s.log} :=
    same_pushes kind s _ rfl rfl
  rw [attempt]
  split
  · exact (said _).trans (continues _)
  · exact said _

theorem allocateEvent_pushes (failed next : Cache → Cache) (fails : ∀ t, Pushes kind t (failed t))
    (continues : ∀ t, t.contexts = s.contexts → Pushes kind t (next t)) :
    Pushes kind s (allocateEvent env failed next s) := by
  have allocated (success : Bool) : Pushes kind s {s with log := .allocated success :: s.log} :=
    same_pushes kind s _ rfl rfl
  rw [allocateEvent]
  split
  · exact (allocated _).trans (continues _ rfl)
  · exact (allocated _).trans (fails _)

theorem sendClient_pushes (packet : Packet) (next : Cache → Cache) (continues : ∀ t, Pushes kind t (next t)) :
    Pushes kind s (sendClient env player packet next s) := by
  apply attempt_pushes
  intro t
  have saved : Pushes kind t {t with delay := some packet} := same_pushes kind t _ rfl rfl
  exact saved.trans (attempt_pushes kind env _ _ next continues)

section
variable (allows : Allows kind)
include allows

theorem shutdownPlayer_pushes : Pushes kind s (shutdownPlayer env player s) := by
  rw [shutdownPlayer]
  split
  · exact .refl
  · rw [shutdown]
    split
    · exact allocateEvent_pushes kind env s _ _ (nothing_pushes kind) fun t _ =>
        push_pushes kind player t _ _ (allows.finalize _)
    · exact same_pushes kind s _ rfl rfl

theorem onAvatarLogoutReq_pushes : Pushes kind s (onAvatarLogoutReq env player s) :=
  allocateEvent_pushes kind env s _ _ (fun t => shutdownPlayer_pushes kind env player t allows) fun t _ =>
    push_pushes kind player t _ _ (allows.logout _ _)

theorem onLogoutReq_pushes : Pushes kind s (onLogoutReq env player s) := by
  apply expect_pushes
  intro t _
  split
  · exact (onAvatarLogoutReq_pushes kind env player t allows).trans
      (shutdownPlayer_pushes kind env player _ allows)
  · exact shutdownPlayer_pushes kind env player t allows

theorem onAvatarCreateReq_pushes (avatarName : List UInt16) :
    Pushes kind s (onAvatarCreateReq env player avatarName s) :=
  allocateEvent_pushes kind env s _ _
    (fun t => sendClient_pushes kind env player t _ id (nothing_pushes kind))
    fun t _ => push_pushes kind player t _ _ (allows.create _ _ _)

theorem onSaveDataReq_pushes (sendNtf : Bool) : Pushes kind s (onSaveDataReq env player sendNtf s) := by
  apply allocateEvent_pushes kind env s _ _ (nothing_pushes kind)
  intro t _
  have pushed := push_pushes kind player t _ sendNtf (allows.save (t.contexts player).sessionId
    (t.contexts player).avatarContext.avatarName (t.contexts player).avatarContext.lastChannelId)
  exact pushed.trans (same_pushes kind _ _ rfl rfl)

theorem saveDataToDB_pushes : Pushes kind s (saveDataToDB env s) := by
  rw [saveDataToDB]
  induction values s.playerContextBySessionId generalizing s with
  | nil => exact .refl
  | cons player players ih =>
    rw [List.foldl_cons]
    split
    · exact ih s
    · exact (onSaveDataReq_pushes kind env player s allows false).trans (ih _)

theorem acknowledgeSelect_pushes (packet : Packet) : Pushes kind s (acknowledgeSelect env player packet s) := by
  apply sendClient_pushes
  intro t
  split
  · exact same_pushes kind t _ rfl rfl
  · exact shutdownPlayer_pushes kind env player t allows

theorem onPlayerEventAvatarSelectResult_pushes (ret : Int32) (avatarId : UInt64) (avatarName : List UInt16)
    (lastChannelId : UInt8) :
    Pushes kind s (onPlayerEventAvatarSelectResult env player ret avatarId avatarName lastChannelId s) := by
  rw [onPlayerEventAvatarSelectResult]
  split
  · exact acknowledgeSelect_pushes kind env player s allows _
  · have selected : Pushes kind s (selectAvatar player avatarId avatarName lastChannelId s) :=
      same_pushes kind s _ rfl rfl
    dsimp only
    split
    · exact selected
    · exact selected.trans (acknowledgeSelect_pushes kind env player _ allows _)

end

theorem onPlayerEventGetAvatarListResult_pushes (ret : Int32) (arrayAvatar : List Avatar) :
    Pushes kind s (onPlayerEventGetAvatarListResult env player ret arrayAvatar s) := by
  apply expect_pushes
  intro t _
  have saved : Pushes kind t (saveAvatars player ret arrayAvatar t) := by
    rw [saveAvatars]
    split
    · exact same_pushes kind t _ rfl rfl
    · exact .refl
  dsimp only
  split
  · exact saved
  · exact saved.trans (sendClient_pushes kind env player _ _ id (nothing_pushes kind))

theorem onPlayerEventAvatarCreateResult_pushes (ret : Int32) (avatar : Avatar) :
    Pushes kind s (onPlayerEventAvatarCreateResult env player ret avatar s) := by
  rw [onPlayerEventAvatarCreateResult]
  split
  · exact sendClient_pushes kind env player s _ id (nothing_pushes kind)
  · split
    · exact .refl
    · split
      · exact .refl
      · have added : Pushes kind s {s.update player fun context =>
            {context with avatarCount := context.avatarCount + 1} with
          arrayAvatar := Function.update s.arrayAvatar player (avatars player s ++ [avatar])} :=
          same_pushes kind s _ rfl rfl
        exact added.trans (sendClient_pushes kind env player _ _ id (nothing_pushes kind))

theorem onPlayerEventAvatarEnterRegionResult_pushes (ret : Int32) :
    Pushes kind s (onPlayerEventAvatarEnterRegionResult env player ret s) := by
  have entered : Pushes kind s
      (if ret = 0 then setEnterRegion player true (addPlayerContextByAvatarId player s) else s) := by
    split
    · exact same_pushes kind s _ rfl rfl
    · exact .refl
  rw [onPlayerEventAvatarEnterRegionResult]
  refine entered.trans (attempt_pushes kind env _ _ _ ?_)
  intro t
  exact expect_pushes kind player t _ id fun u _ => nothing_pushes kind u

theorem onPlayerEventResult_pushes (allows : Allows kind) (event : PlayerDBEvent) :
    Pushes kind s (onPlayerEventResult env player event s) := by
  obtain ⟨sessionId,ret,data⟩ := event
  cases data with
  | getAvatarList => exact onPlayerEventGetAvatarListResult_pushes kind env player s ret _
  | avatarCreate => exact onPlayerEventAvatarCreateResult_pushes kind env player s ret _
  | avatarSelectData => exact onPlayerEventAvatarSelectResult_pushes kind env player s allows ret _ _ _
  | avatarEnterRegion => exact onPlayerEventAvatarEnterRegionResult_pushes kind env player s ret
  | avatarSaveData => exact .refl
  | avatarLogout => exact same_pushes kind s _ rfl rfl
  | avatarFinalize => exact same_pushes kind s _ rfl rfl

theorem onAvatarListReq_pushes
    (allowed : ∀ accountName, kind ⟨(s.contexts player).sessionId,0,.getAvatarList accountName []⟩) :
    Pushes kind s (onAvatarListReq env player s) := by
  apply expect_pushes
  intro t own
  refine allocateEvent_pushes kind env t _ _ ?_ ?_
  · exact fun u => sendClient_pushes kind env player u _ id (nothing_pushes kind)
  · intro u same
    exact push_pushes kind player u _ _ (by rw [same,own]; exact allowed _)

theorem onAvatarSelectReq_pushes (avatarName : List UInt16)
    (allowed : ∀ avatarId, kind ⟨(s.contexts player).sessionId,0,.avatarSelectData avatarId avatarName 0⟩) :
    Pushes kind s (onAvatarSelectReq env player avatarName s) := by
  apply expect_pushes
  intro t own
  split
  · refine allocateEvent_pushes kind env t _ _ ?_ ?_
    · exact fun u => sendClient_pushes kind env player u _ id (nothing_pushes kind)
    · intro u same
      exact push_pushes kind player u _ _ (by rw [same,own]; exact allowed _)
  · exact .refl

theorem onRegionEnterReq_pushes (serverId : UInt8) (avatarName : List UInt16)
    (allowed : ∀ avatarId, kind ⟨(s.contexts player).sessionId,0,.avatarEnterRegion avatarId avatarName⟩) :
    Pushes kind s (onRegionEnterReq env player serverId avatarName s) := by
  apply expect_pushes
  intro t own
  refine allocateEvent_pushes kind env t _ _ (nothing_pushes kind) ?_
  intro u same
  have served : Pushes kind u (u.update player fun context => {context with regionServerId := serverId}) :=
    same_pushes kind u _ rfl rfl
  refine served.trans (push_pushes kind player _ _ _ ?_)
  rw [update_same,same,own]
  exact allowed _

theorem forSession_pushes (sessionId : UInt32) (handle : Object → Cache → Cache)
    (pushes : ∀ player, find sessionId s.playerContextBySessionId = some player →
      Pushes kind s (handle player s)) :
    Pushes kind s (forSession sessionId handle s) := by
  rw [forSession]
  split
  next player found => exact pushes player found
  · exact .refl

theorem whileRunning_pushes (handle : Cache → Cache) (pushes : Pushes kind s (handle s)) :
    Pushes kind s (whileRunning handle s) := by
  rw [whileRunning]
  split
  · exact pushes
  · exact .refl

end

end Fantuan.CacheServer.EventPushes
