import Mathlib.Logic.Relation
import Fantuan.RegionServer.Commands

/-! What a command can do to the players of a region: every handler is a chain of these steps,
except where a player is allocated or deleted.
-/
namespace Fantuan.RegionServer.PlayerSteps
open Lib.Table ServerBase.ServerCommon Tool.ObjectPool Tool.StateMachine ServerLoop Player Commands

/-- The answer to RegionLeaveReq, for which the master waits, and the report of a failure, which
would end that too. -/
def isAnswer : Message → Bool
  | .onRegionLeaveReq _ _ | .onRegionPlayerFailReq _ _ => true
  | _ => false

structure Kept (old new : RegionPlayerContext) : Prop where
  sessionId : new.sessionId = old.sessionId
  avatarId : new.avatarId = old.avatarId
  finalizing : new.finalizing = old.finalizing
  used : old.state ≠ .none ∧ new.state ≠ .none

inductive PlayerStep : Region → Region → Prop
  | say (s : Region) (event : Event) (silent : isAnswer event.message = false) :
      PlayerStep s {s with log := event :: s.log}
  | save (s : Region) (delay : Option Packet) : PlayerStep s {s with delay := delay}
  | mark (s : Region) (undefined : Bool) : PlayerStep s {s with undefined := undefined}
  | meet (s : Region) (avatars : Object → Option UInt16) : PlayerStep s {s with avatars := avatars}
  | clock (s : Region) (currTime : UInt32) : PlayerStep s {s with currTime := currTime}
  | stop (s : Region) : PlayerStep s {s with shutdownStatus := .startShutdown}
  | change (s : Region) (player : Object) (change : RegionPlayerContext → RegionPlayerContext)
      (kept : Kept (s.contexts player) (change (s.contexts player))) :
      PlayerStep s (s.update player change)
  | queue (s : Region) (player : Object) (active : (s.contexts player).finalizing = false)
      (used : (s.contexts player).state ≠ .none) :
      PlayerStep s (addPlayerToFinalizingQueue player s)

abbrev Does : Region → Region → Prop := Relation.ReflTransGen PlayerStep

theorem plain_transition (state next : PlayerState) (event : PlayerEvent)
    (plain : event ≠ .onRegionAllocReq) (reached : transition state event = some next) :
    state ≠ .none ∧ next ≠ .none := by
  have rows : ∀ row ∈ initStateMachine state, row.1 ≠ .onRegionAllocReq →
      state ≠ .none ∧ row.2 ≠ .none := by
    cases state <;> decide
  exact rows _ (outputState_mem initStateMachine state next event reached) plain

theorem setState_does (s : Region) (player : Object) (event : PlayerEvent) (next : PlayerState)
    (plain : event ≠ .onRegionAllocReq) (reached : reaches event player s = some next) :
    Does s (setState player next s) :=
  .single (.change s player _ ⟨rfl,rfl,rfl,plain_transition _ next event plain reached⟩)

theorem stateTransition_does (s : Region) (player : Object) (event : PlayerEvent)
    (plain : event ≠ .onRegionAllocReq) : Does s (stateTransition event player s) := by
  rw [stateTransition]
  split
  next next reached => exact setState_does s player event next plain reached
  · exact .refl

theorem shutdownPlayer_does (player : Object) (s : Region) : Does s (shutdownPlayer player s) := by
  rw [shutdownPlayer]
  split
  · exact .refl
  next active =>
    split
    next deletes =>
      refine .single (.queue s player (by simpa using active) fun none => ?_)
      rw [none] at deletes
      cases deletes
    · exact .refl

/-- No step makes a player unused. -/
theorem does_used (player : Object) (s t : Region) (does : Does s t) (used : (s.contexts player).state ≠ .none) :
    (t.contexts player).state ≠ .none := by
  induction does with
  | refl => exact used
  | tail _ step ih =>
    cases step with
    | change other change kept =>
      by_cases same : player = other
      · subst same
        rw [update_same]
        exact kept.used.2
      · rw [update_other _ other player change same]
        exact ih
    | queue other =>
      change ((Region.update _ other fun context => {context with finalizing := true}).contexts
        player).state ≠ _
      by_cases same : player = other
      · subst same
        rw [update_same]
        exact ih
      · rw [update_other _ other player _ same]
        exact ih
    | _ => exact ih

section
variable (env : Env) (player : Object)

theorem expect_does (s : Region) (event : PlayerEvent) (next : Region → Region)
    (plain : event ≠ .onRegionAllocReq)
    (continues : ∀ t, (t.contexts player).state ≠ .none → Does t (next t)) :
    Does s (expect event player next s) := by
  rw [expect]
  split
  next state reached =>
    refine (setState_does s player event state plain reached).trans (continues _ ?_)
    rw [setState,update_same]
    exact (plain_transition _ state event plain reached).2
  · exact .refl

theorem send_does (s : Region) (message : Message) (silent : isAnswer message = false) :
    Does s (send env message s) :=
  .single (.say s ⟨message,sends env s⟩ silent)

theorem write_does (s : Region) (packet : Packet) : Does s (write env packet s) := by
  have said := send_does env s (.client packet) rfl
  rw [write]
  split
  · exact said.tail (.save _ _)
  · exact said

theorem attempt_does (s : Region) (message : Message) (next : Region → Region)
    (silent : isAnswer message = false) (continues : ∀ t, Does s t → Does t (next t)) :
    Does s (attempt env player message next s) := by
  have said := send_does env s message silent
  rw [attempt]
  split
  · exact said.trans (continues _ said)
  · exact said.trans (shutdownPlayer_does player _)

theorem attemptWrite_does (s : Region) (packet : Packet) (next : Region → Region)
    (continues : ∀ t, Does s t → Does t (next t)) : Does s (attemptWrite env player packet next s) := by
  have wrote := write_does env s packet
  rw [attemptWrite]
  split
  · exact wrote.trans (continues _ wrote)
  · exact wrote.trans (shutdownPlayer_does player _)

theorem attemptData_does (s : Region) (next : Region → Region)
    (continues : ∀ t, Does s t → Does t (next t)) : Does s (attemptData env player next s) :=
  attempt_does env player s _ next rfl continues

theorem withName_does (s : Region) (next : List UInt8 → Region → Region)
    (continues : ∀ name t, Does t (next name t)) : Does s (withName env player next s) := by
  rw [withName]
  split
  · exact continues _ s
  · exact .refl

theorem foldl_does {Item : Type} (handle : Region → Item → Region)
    (does : ∀ s item, Does s (handle s item)) (items : List Item) (s : Region) :
    Does s (items.foldl handle s) := by
  induction items generalizing s with
  | nil => exact .refl
  | cons item items ih => exact (does s item).trans (ih _)

theorem broadcastData_sent (s : Region) : ∃ new undefined,
    broadcastData env s = {s with log := new ++ s.log, undefined := undefined} ∧
      ∀ event ∈ new, ∃ gate ids, event.message = .broadcastData gate ids s.delay := by
  have all (ids : List UInt32) (gates : List Nat) (t : Region) : ∃ new,
      gates.foldl (fun t gate =>
        let there := (ids.filter fun id => (serverId id).toNat = gate).take broadcastSessionMax
        if there.isEmpty then t else send env (.broadcastData (UInt8.ofNat gate) there t.delay) t) t =
          {t with log := new ++ t.log} ∧
        ∀ event ∈ new, ∃ gate ids, event.message = .broadcastData gate ids t.delay := by
    induction gates generalizing t with
    | nil => exact ⟨[],rfl,fun _ none => absurd none List.not_mem_nil⟩
    | cons gate gates ih =>
      rw [List.foldl_cons]
      dsimp only
      split
      · exact ih t
      · obtain ⟨new,result,broadcast⟩ := ih (send env (.broadcastData (UInt8.ofNat gate)
          ((ids.filter fun id => (serverId id).toNat = gate).take broadcastSessionMax) t.delay) t)
        refine ⟨new ++ [⟨_,sends env t⟩],by rw [result,List.append_assoc]; rfl,?_⟩
        intro event member
        rcases List.mem_append.mp member with later | here
        · exact broadcast event later
        · exact ⟨_,_,congrArg Event.message (List.mem_singleton.mp here)⟩
  let ids := (values s.playerContextByAvatarId).map fun player => (s.contexts player).sessionId
  obtain ⟨new,result,broadcast⟩ := all ids (List.range serverCountMax) {s with
    undefined := s.undefined || ids.any fun id => serverCountMax ≤ (serverId id).toNat}
  exact ⟨new,_,result,broadcast⟩

theorem broadcastData_does (s : Region) : Does s (broadcastData env s) := by
  rw [broadcastData]
  refine .trans (.single (.mark s _)) (foldl_does _ (fun t gate => ?_) _ _)
  dsimp only
  split
  · exact .refl
  · exact send_does env t _ rfl

theorem onRegionReleaseReq_does (s : Region) : Does s (onRegionReleaseReq player s) := by
  rw [onRegionReleaseReq]
  split
  · exact .refl
  · exact expect_does player s _ _ (by decide) fun t _ => shutdownPlayer_does player t

theorem onRegionEnterReq_does (s : Region) : Does s (onRegionEnterReq env player s) := by
  have enters (t : Region) : Does t (attempt env player (.onRegionEnterReq (t.contexts player).sessionId
      env.config.serverId (t.contexts player).avatarName) (stateTransition .regionEnterReq player) t) :=
    attempt_does env player t _ _ rfl fun u _ => stateTransition_does u player _ (by decide)
  rw [onRegionEnterReq]
  split
  · exact .refl
  · refine expect_does player s _ _ (by decide) fun t _ => ?_
    dsimp only
    split
    · exact enters t
    · split
      · exact .trans (.single (.meet t _)) (enters _)
      · exact shutdownPlayer_does player t

theorem onRegionEnterAck_does (s : Region) : Does s (onRegionEnterAck env player s) := by
  rw [onRegionEnterAck]
  split
  · exact .refl
  · refine expect_does player s _ _ (by decide) fun t _ => ?_
    refine attempt_does env player t _ _ rfl fun u _ => ?_
    refine attemptWrite_does env player u _ _ fun v _ => ?_
    exact attemptData_does env player v _ fun w _ => stateTransition_does w player _ (by decide)

theorem broadcastAvatarLeaveNtf_does (s : Region) : Does s (broadcastAvatarLeaveNtf env player s) :=
  attemptWrite_does env player s _ _ fun t _ => broadcastData_does env t

theorem onRegionLeaveReq_does (s : Region) : Does s (onRegionLeaveReq env player s) := by
  rw [onRegionLeaveReq]
  split
  · exact .refl
  · refine expect_does player s _ _ (by decide) fun t _ => ?_
    exact (shutdownPlayer_does player t).trans (broadcastAvatarLeaveNtf_does env player _)

theorem sendInitialAvatarData_does (s : Region) : Does s (sendInitialAvatarData env player s) := by
  refine withName_does env player s _ fun name t => ?_
  refine attemptWrite_does env player t _ _ fun u _ => ?_
  exact attemptData_does env player u _ fun v _ => stateTransition_does v player _ (by decide)

theorem initialMapEnter_does (s : Region) (used : (s.contexts player).state ≠ .none) :
    Does s (initialMapEnter env player s) := by
  rw [initialMapEnter]
  split
  · exact .single (.mark s true)
  · dsimp only
    split
    · exact .tail (.single (.meet s _)) (.change _ player _ ⟨rfl,rfl,rfl,used,used⟩)
    · exact .trans (.single (.meet s _)) (shutdownPlayer_does player _)

theorem broadcastAvatarEnterNtf_does (s : Region) : Does s (broadcastAvatarEnterNtf env player s) := by
  refine withName_does env player s _ fun name t => ?_
  exact attemptWrite_does env player t _ _ fun u _ => broadcastData_does env u

theorem sendAvatarEnterNtf_does (other : Object) (s : Region) :
    Does s (sendAvatarEnterNtf env player other s) := by
  refine withName_does env other s _ fun name t => ?_
  exact attemptWrite_does env player t _ _ fun u _ => attemptData_does env player u _ fun _ _ => .refl

theorem sendRegionAvatars_does (s : Region) : Does s (sendRegionAvatars env player s) := by
  refine foldl_does _ (fun t other => ?_) _ s
  split
  · exact .refl
  · exact sendAvatarEnterNtf_does env player other t

theorem onClientTimeReq_does (clientTime : UInt32) (s : Region) :
    Does s (onClientTimeReq env player clientTime s) := by
  rw [onClientTimeReq]
  split
  · exact .refl
  · refine expect_does player s _ _ (by decide) fun t used => ?_
    refine attemptWrite_does env player t _ _ fun u wrote => ?_
    refine attemptData_does env player u _ fun v sent => ?_
    have timed := stateTransition_does v player .serverTime2Ntf (by decide)
    have listed := timed.trans (sendInitialAvatarData_does env player _)
    have still := does_used player t _ ((wrote.trans sent).trans listed) used
    have placed := listed.trans (initialMapEnter_does env player _ still)
    exact (placed.trans (broadcastAvatarEnterNtf_does env player _)).trans
      (sendRegionAvatars_does env player _)

theorem onRegionChatReq_does (message : List UInt8) (s : Region) :
    Does s (onRegionChatReq env player message s) := by
  refine withName_does env player s _ fun name t => ?_
  exact attemptWrite_does env player t _ _ fun u _ => broadcastData_does env u

theorem onPacketReceived_does (packet : ClientPacket) (s : Region) :
    Does s (onPacketReceived env player packet s) := by
  cases packet with
  | clientTimeReq clientTime => exact onClientTimeReq_does env player clientTime s
  | regionChatReq message => exact onRegionChatReq_does env player message s
  | other => exact .refl

theorem onCommandOnRegionEnterAck_does (result : Int32) (s : Region) :
    Does s (onCommandOnRegionEnterAck env player result s) := by
  rw [onCommandOnRegionEnterAck]
  split
  · exact shutdownPlayer_does player s
  · exact onRegionEnterAck_does env player s

end

theorem whileRunning_does (handle : Region → Region) (s : Region) (does : Does s (handle s)) :
    Does s (whileRunning handle s) := by
  rw [whileRunning]
  split
  · exact does
  · exact .refl

theorem forSession_does (sessionId : UInt32) (handle : Object → Region → Region) (s : Region)
    (does : ∀ player t, Does t (handle player t)) : Does s (forSession sessionId handle s) := by
  rw [forSession]
  split
  · exact .refl
  · have read (undefined : Bool) : Does s {s with undefined := undefined} := .single (.mark s undefined)
    dsimp only
    split
    · exact (read _).trans (does _ _)
    · exact read _

/-- The actions that neither allocate a player nor delete one. -/
def plainAction : Action → Bool
  | .onRegionAllocReq _ _ _ | .pass => false
  | _ => true

theorem step_does (env : Env) (s : Region) (action : Action) (plain : plainAction action = true) :
    Does s (step env s action) := by
  cases action with
  | onRegionAllocReq => cases plain
  | pass => cases plain
  | shutdown =>
    apply whileRunning_does
    exact .single (.stop s)
  | onRegionReleaseReq sessionId =>
    exact whileRunning_does _ s (forSession_does sessionId _ s onRegionReleaseReq_does)
  | onRegionEnterReq sessionId =>
    exact whileRunning_does _ s (forSession_does sessionId _ s (onRegionEnterReq_does env))
  | onRegionEnterAck sessionId result =>
    exact whileRunning_does _ s (forSession_does sessionId _ s fun player =>
      onCommandOnRegionEnterAck_does env player result)
  | onRegionLeaveReq sessionId =>
    exact whileRunning_does _ s (forSession_does sessionId _ s (onRegionLeaveReq_does env))
  | packetForward sessionId packet =>
    exact whileRunning_does _ s (forSession_does sessionId _ s fun player =>
      onPacketReceived_does env player packet)
  | shutdownPlayerReq player => exact shutdownPlayer_does player s
  | tick currTime => exact .single (.clock s currTime)

def allocated (env : Env) (sessionId : UInt32) (avatarId : UInt64) (avatarName : WString)
    (context : RegionPlayerContext) : RegionPlayerContext :=
  {context with
    state := .onRegionAllocReq
    sessionId := sessionId
    avatarId := avatarId
    avatarName := avatarName
    gateServer := if env.hasPeerServer (serverId sessionId) then some (serverId sessionId) else none}

theorem onRegionAllocReq_unused (env : Env) (player : Object) (sessionId : UInt32)
    (avatarId : UInt64) (avatarName : WString) (s : Region)
    (unused : (s.contexts player).state = .none) :
    Does (s.update player (allocated env sessionId avatarId avatarName))
      (onRegionAllocReq env player sessionId avatarId avatarName s) := by
  have reached : reaches .onRegionAllocReq player s = some .onRegionAllocReq := by
    rw [reaches,unused]
    rfl
  have named : (setState player .onRegionAllocReq s).update player (fun context => {context with
        sessionId := sessionId
        avatarId := avatarId
        avatarName := avatarName
        gateServer := if env.hasPeerServer (serverId sessionId) then some (serverId sessionId)
          else none}) = s.update player (allocated env sessionId avatarId avatarName) := by
    simp [setState,Region.update,allocated]
  rw [onRegionAllocReq,expect,reached]
  dsimp only
  rw [named]
  exact attempt_does env player _ _ _ rfl fun t _ => stateTransition_does t player _ (by decide)

theorem onRegionAllocReq_used (env : Env) (player : Object) (sessionId : UInt32)
    (avatarId : UInt64) (avatarName : WString) (s : Region)
    (used : (s.contexts player).state ≠ .none) :
    onRegionAllocReq env player sessionId avatarId avatarName s = s := by
  have unreached : reaches .onRegionAllocReq player s = none := by
    rw [reaches]
    revert used
    generalize (s.contexts player).state = state
    cases state <;> decide
  rw [onRegionAllocReq,expect,unreached]

def enrolled (sessionId : UInt32) (avatarId : UInt64) (player : Object) (pool : Pool) (s : Region) :
    Region :=
  (pushPlayerToGateServerContext sessionId player {s with
    playerContextPool := pool
    playerCount := s.playerCount + 1
    playerContextByAvatarId := insert avatarId player s.playerContextByAvatarId}).2

theorem alloc_cases (env : Env) (sessionId : UInt32) (avatarId : UInt64) (avatarName : WString)
    (s : Region) :
    step env s (.onRegionAllocReq sessionId avatarId avatarName) = s ∨
      ∃ player pool, s.shutdownStatus = .notShutdown ∧ validSession sessionId s = true ∧
        s.playerContextPool.allocate = (some player,pool) ∧
        step env s (.onRegionAllocReq sessionId avatarId avatarName) =
          onRegionAllocReq env player sessionId avatarId avatarName
            (enrolled sessionId avatarId player pool s) := by
  rw [step,whileRunning]
  split
  next running =>
    rw [onCommandOnRegionAllocReq]
    split
    · exact .inl rfl
    next valid =>
      split
      · exact .inl rfl
      next player pool taken => exact .inr ⟨player,pool,running,by simpa using valid,taken,rfl⟩
  · exact .inl rfl

end Fantuan.RegionServer.PlayerSteps
