import Fantuan.RegionServer.PlayerSteps

/-! The players in the finalizing queue of a region, and the commands that are still handled for them. Each handler
looks at m_bFinalizing first but those of OnRegionAllocReq and of a chat.
-/
namespace Fantuan.RegionServer.FinalizedPlayers
open Lib.Table Lib.Run Lib.Drain ServerBase.ServerCommon Tool.ObjectPool Tool.StateMachine ServerLoop Player Commands
  PlayerSteps

def found (sessionId : UInt32) (s : Region) : Option Object :=
  if serverCountMax ≤ (serverId sessionId).toNat ∨ s.gateSessionIndexMax < sessionIndex sessionId then none
  else slotOf sessionId s.toLoop

def sessionOf : Action → Option UInt32
  | .onRegionReleaseReq sessionId | .onRegionEnterReq sessionId | .onRegionEnterAck sessionId _
  | .onRegionLeaveReq sessionId | .packetForward sessionId _ => some sessionId
  | _ => none

def target (s : Region) : Action → Option Object
  | .shutdownPlayerReq player => some player
  | .onRegionAllocReq sessionId _ _ =>
    if s.shutdownStatus = .notShutdown ∧ validSession sessionId s = true then s.playerContextPool.allocate.1 else none
  | action => if s.shutdownStatus = .notShutdown then (sessionOf action).bind fun id => found id s else none

/-- The player is as it was, is not queued again, and no stub is called for it. -/
structure Frame (player : Object) (s t : Region) : Prop where
  context : t.contexts player = s.contexts player
  avatar : t.avatars player = s.avatars player
  queue : t.finalizingQueue = s.finalizingQueue
  silent : t.log = s.log

def Framed (env : Env) (s : Region) (action : Action) : Prop :=
  ∀ player, target s action = some player → (s.contexts player).finalizing = true → Frame player s (step env s action)

/-- The chat of a player in the queue is from one whose name cannot be converted. -/
def Spared (env : Env) (s : Region) (action : Action) : Prop :=
  ∀ player, target s action = some player → (s.contexts player).finalizing = true →
    match action with
    | .packetForward _ (.regionChatReq _) => env.wchar2Char (s.contexts player).avatarName = none
    | _ => True

/-- A player in the queue has been in use, so that it is not taken for a new one. -/
def Queued (s : Loop) : Prop :=
  ∀ player, (s.contexts player).finalizing = true → (s.contexts player).state ≠ .none

section
variable (env : Env) (player : Object) (s : Region)

theorem frame_refl : Frame player s s := ⟨rfl,rfl,rfl,rfl⟩

theorem shutdownPlayer_closed (closed : (s.contexts player).finalizing = true) : shutdownPlayer player s = s := by
  rw [shutdownPlayer,if_pos closed]

theorem broadcastData_log : s.log.length ≤ (broadcastData env s).log.length := by
  obtain ⟨new,_,result,-⟩ := broadcastData_sent env s
  rw [result,List.length_append]
  exact Nat.le_add_left _ _

theorem onRegionChatReq_log (message : List UInt8) (name : List UInt8)
    (named : env.wchar2Char (s.contexts player).avatarName = some name) :
    s.log.length < (onRegionChatReq env player message s).log.length := by
  have written (packet : Packet) : (write env packet s).log.length = s.log.length + 1 := by
    rw [write]
    split <;> rfl
  rw [onRegionChatReq,withName,named]
  dsimp only
  rw [attemptWrite]
  split
  · have more := broadcastData_log env (write env (.regionChatNtf (s.contexts player).avatarId message) s)
    rw [written] at more
    exact more
  · rw [shutdownPlayer]
    split
    · rw [written]
      exact Nat.lt_succ_self _
    · split
      · exact Nat.lt_of_lt_of_eq (Nat.lt_succ_self _) (written _).symm
      · rw [written]
        exact Nat.lt_succ_self _

theorem onRegionChatReq_frame (message : List UInt8) :
    Frame player s (onRegionChatReq env player message s) ↔ env.wchar2Char (s.contexts player).avatarName = none := by
  cases named : env.wchar2Char (s.contexts player).avatarName with
  | none =>
    refine iff_of_true ?_ rfl
    rw [onRegionChatReq,withName,named]
    exact frame_refl player s
  | some name =>
    refine iff_of_false (fun frame => ?_) (Option.some_ne_none _)
    have more := onRegionChatReq_log env player s message name named
    rw [frame.silent] at more
    exact absurd more (Nat.lt_irrefl _)

theorem forSession_frame (sessionId : UInt32) (handle : Object → Region → Region) (spared : Prop)
    (here : found sessionId s = some player)
    (frame : ∀ t : Region, t.contexts = s.contexts → (Frame player t (handle player t) ↔ spared)) :
    Frame player s (forSession sessionId handle s) ↔ spared := by
  rw [found] at here
  split at here
  · cases here
  next valid =>
    let read : Region := {s with
      undefined := s.undefined || (s.gateServerContext (serverId sessionId)).isSome &&
        sessionIndex sessionId = s.gateSessionIndexMax}
    rw [forSession,if_neg valid,here,← frame read rfl]
    exact ⟨fun frame => ⟨frame.context,frame.avatar,frame.queue,frame.silent⟩,
      fun frame => ⟨frame.context,frame.avatar,frame.queue,frame.silent⟩⟩

theorem forSession_closed (sessionId : UInt32) (handle : Object → Region → Region)
    (here : found sessionId s = some player) (closed : (s.contexts player).finalizing = true)
    (still : ∀ t : Region, (t.contexts player).finalizing = true → handle player t = t) :
    Frame player s (forSession sessionId handle s) := by
  refine (forSession_frame player s sessionId handle True here fun t same => ?_).mpr trivial
  rw [still t (by rw [same]; exact closed)]
  exact iff_true_intro (frame_refl player t)

end

section
variable (env : Env) (s : Region)

theorem target_session (action : Action) (sessionId : UInt32) (player : Object)
    (asked : sessionOf action = some sessionId) (here : target s action = some player) :
    s.shutdownStatus = .notShutdown ∧ found sessionId s = some player := by
  have shape : target s action =
      if s.shutdownStatus = .notShutdown then (sessionOf action).bind fun id => found id s else none := by
    cases action with
    | shutdownPlayerReq | onRegionAllocReq => cases asked
    | _ => rfl
  rw [shape,asked] at here
  split at here
  next running => exact ⟨running,here⟩
  · cases here

theorem alloc_frame (sessionId : UInt32) (avatarId : UInt64) (avatarName : WString) (player : Object)
    (here : target s (.onRegionAllocReq sessionId avatarId avatarName) = some player)
    (used : (s.contexts player).state ≠ .none) :
    Frame player s (step env s (.onRegionAllocReq sessionId avatarId avatarName)) := by
  rw [target] at here
  split at here
  next valid =>
    obtain ⟨running,inside⟩ := valid
    rcases taken : s.playerContextPool.allocate with ⟨object,pool⟩
    rw [taken] at here
    dsimp only at here
    subst here
    have stepped : step env s (.onRegionAllocReq sessionId avatarId avatarName) =
        onRegionAllocReq env player sessionId avatarId avatarName (enrolled sessionId avatarId player pool s) := by
      rw [step,whileRunning,if_pos running,onCommandOnRegionAllocReq,inside,taken]
      rfl
    rw [stepped,onRegionAllocReq_used env player sessionId avatarId avatarName (enrolled sessionId avatarId player pool s)
      used]
    exact ⟨rfl,rfl,rfl,rfl⟩
  · cases here

theorem closed_frame (action : Action) (sessionId : UInt32) (handle : Object → Region → Region) (player : Object)
    (asked : sessionOf action = some sessionId) (here : target s action = some player)
    (closed : (s.contexts player).finalizing = true)
    (stepped : step env s action = whileRunning (forSession sessionId handle) s)
    (still : ∀ t : Region, (t.contexts player).finalizing = true → handle player t = t) :
    Frame player s (step env s action) := by
  obtain ⟨running,inside⟩ := target_session s action sessionId player asked here
  rw [stepped,whileRunning,if_pos running]
  exact forSession_closed player s sessionId handle inside closed still

theorem framed_iff (action : Action) (queued : Queued s.toLoop) : Framed env s action ↔ Spared env s action := by
  refine forall_congr' fun player => imp_congr_right fun here => imp_congr_right fun closed => ?_
  cases action with
  | shutdown | tick | pass =>
    refine iff_of_true ?_ trivial
    rw [target] at here
    · split at here <;> cases here
    · intro other same
      cases same
    · intro sessionId avatarId avatarName same
      cases same
  | onRegionAllocReq sessionId avatarId avatarName =>
    exact iff_of_true (alloc_frame env s sessionId avatarId avatarName player here (queued player closed)) trivial
  | onRegionReleaseReq sessionId =>
    refine iff_of_true (closed_frame env s _ sessionId onRegionReleaseReq player rfl here closed rfl ?_) trivial
    intro t finalizing
    rw [onRegionReleaseReq,if_pos finalizing]
  | onRegionEnterReq sessionId =>
    refine iff_of_true (closed_frame env s _ sessionId (onRegionEnterReq env) player rfl here closed rfl ?_) trivial
    intro t finalizing
    rw [onRegionEnterReq,if_pos finalizing]
  | onRegionEnterAck sessionId result =>
    refine iff_of_true (closed_frame env s _ sessionId (fun player => onCommandOnRegionEnterAck env player result) player
      rfl here closed rfl ?_) trivial
    intro t finalizing
    rw [onCommandOnRegionEnterAck,shutdownPlayer_closed player t finalizing,onRegionEnterAck,if_pos finalizing,ite_self]
  | onRegionLeaveReq sessionId =>
    refine iff_of_true (closed_frame env s _ sessionId (onRegionLeaveReq env) player rfl here closed rfl ?_) trivial
    intro t finalizing
    rw [onRegionLeaveReq,if_pos finalizing]
  | packetForward sessionId packet =>
    cases packet with
    | clientTimeReq clientTime =>
      refine iff_of_true (closed_frame env s _ sessionId (fun player => onClientTimeReq env player clientTime) player rfl
        here closed rfl ?_) trivial
      intro t finalizing
      rw [onClientTimeReq,if_pos finalizing]
    | regionChatReq message =>
      obtain ⟨running,inside⟩ := target_session s (.packetForward sessionId (.regionChatReq message)) sessionId player rfl
        here
      rw [step,whileRunning,if_pos running]
      refine forSession_frame player s sessionId _ _ inside fun t same => ?_
      rw [← same]
      exact onRegionChatReq_frame env player t message
    | other =>
      exact iff_of_true (closed_frame env s _ sessionId (fun _ t => t) player rfl here closed rfl fun _ _ => rfl) trivial
  | shutdownPlayerReq other =>
    obtain rfl := Option.some.inj here
    rw [step,shutdownPlayer_closed other s closed]
    exact iff_of_true (frame_refl other s) trivial

end

theorem does_queued (s t : Region) (does : Does s t) (queued : Queued s.toLoop) : Queued t.toLoop := by
  induction does with
  | refl => exact queued
  | tail _ step ih =>
    cases step with
    | change other change kept =>
      intro player closed
      by_cases same : player = other
      · subst same
        rw [update_same] at closed ⊢
        exact kept.used.2
      · rw [update_other _ other player change same] at closed ⊢
        exact ih player closed
    | queue other active used =>
      intro player closed
      change ((Region.update _ other fun context => {context with finalizing := true}).contexts player).state ≠ _
      change ((Region.update _ other fun context => {context with finalizing := true}).contexts player).finalizing = _
        at closed
      by_cases same : player = other
      · subst same
        rw [update_same]
        exact used
      · rw [update_other _ other player _ same] at closed ⊢
        exact ih player closed
    | _ => exact ih

theorem deletePlayer_queued (player : Object) (s : Loop) (queued : Queued s) : Queued (deletePlayer player s) := by
  intro other closed
  have contexts : (deletePlayer player s).contexts = Function.update s.contexts player .clear := by
    rw [deletePlayer,eraseAvatar]
    split
    · split <;> rfl
    · rfl
  rw [contexts] at closed ⊢
  by_cases same : other = player
  · subst same
    rw [Function.update_self] at closed
    cases closed
  · rw [Function.update_of_ne same] at closed ⊢
    exact queued other closed

theorem step_queued (env : Env) (s : Region) (action : Action) (queued : Queued s.toLoop) :
    Queued (step env s action).toLoop := by
  by_cases plain : plainAction action = true
  · exact does_queued _ _ (step_does env s action plain) queued
  · cases action with
    | onRegionAllocReq sessionId avatarId avatarName =>
      rcases alloc_cases env sessionId avatarId avatarName s with same | ⟨player,pool,-,-,-,stepped⟩
      · rw [same]
        exact queued
      · rw [stepped]
        have kept : Queued (enrolled sessionId avatarId player pool s).toLoop := queued
        by_cases unused : (s.contexts player).state = .none
        · refine does_queued _ _ (onRegionAllocReq_unused env player sessionId avatarId avatarName _ unused) ?_
          intro other closed
          by_cases same : other = player
          · subst same
            rw [update_same]
            intro none
            cases none
          · rw [update_other _ player other _ same] at closed ⊢
            exact kept other closed
        · rw [onRegionAllocReq_used env player sessionId avatarId avatarName
            (enrolled sessionId avatarId player pool s) unused]
          exact kept
    | pass => exact drainBack_invariant deletePlayer Queued _ (fun player _ s => deletePlayer_queued player s) _ queued
    | _ => exact absurd rfl plain

theorem init_queued (config : Config) : Queued (init config).toLoop := by
  intro player closed
  cases closed

/-- In a region a player in the queue is left alone exactly in the runs in which none of them chats. -/
theorem region_framed_iff (env : Env) (actions : List Action) :
    Guarded (step env) (Framed env) (init env.config) actions ↔
      Guarded (step env) (Spared env) (init env.config) actions :=
  guarded_congr (step env) (Spared env) (Framed env) (fun s => Queued s.toLoop)
    (fun s action queued _ => step_queued env s action queued) (fun s action queued => framed_iff env s action queued)
    _ actions (init_queued env.config)

end Fantuan.RegionServer.FinalizedPlayers
