import Fantuan.RegionServer.Indexes

/-! The answer to RegionLeaveReq, for which a player waits on the master before it is logged
out. The region has no call of the stub: in no run is an answer sent. Besides, a player in a
state without a row for the request is not even queued, as one that has got its initial data.
-/
namespace Fantuan.RegionServer.LeaveAnswers
open Lib.Table Lib.Run ServerBase.ServerCommon Tool.ObjectPool ServerLoop Player Commands
  PlayerSteps Indexes

def answers (sessionId : UInt32) (log : List Event) : Nat :=
  log.countP fun event => match event.message with
    | .onRegionLeaveReq id _ => id = sessionId
    | _ => false

/-- The request queues the player, or leaves it in the queue, and is answered once. -/
structure Left (env : Env) (s : Region) (sessionId : UInt32) (player : Object) : Prop where
  queued : (step env s (.onRegionLeaveReq sessionId)).finalizingQueue.count player = 1
  answered : answers sessionId (step env s (.onRegionLeaveReq sessionId)).log =
    answers sessionId s.log + 1

def Silent (s : Region) : Prop := ∀ event ∈ s.log, isAnswer event.message = false

theorem does_silent (s t : Region) (does : Does s t) (silent : Silent s) : Silent t := by
  induction does with
  | refl => exact silent
  | tail _ step ih =>
    cases step with
    | say event quiet =>
      intro other member
      rcases List.mem_cons.mp member with rfl | before
      · exact quiet
      · exact ih other before
    | _ => exact ih

theorem onRegionAllocReq_silent (env : Env) (player : Object) (sessionId : UInt32)
    (avatarId : UInt64) (avatarName : WString) (s : Region) (silent : Silent s) :
    Silent (onRegionAllocReq env player sessionId avatarId avatarName s) := by
  by_cases unused : (s.contexts player).state = .none
  · exact does_silent _ _
      (onRegionAllocReq_unused env player sessionId avatarId avatarName s unused) silent
  · rw [onRegionAllocReq_used env player sessionId avatarId avatarName s unused]
    exact silent

theorem step_silent (env : Env) (s : Region) (action : Action) (silent : Silent s) :
    Silent (step env s action) := by
  by_cases plain : plainAction action = true
  · exact does_silent _ _ (step_does env s action plain) silent
  · cases action with
    | onRegionAllocReq sessionId avatarId avatarName =>
      rcases alloc_cases env sessionId avatarId avatarName s with same | ⟨player,pool,-,-,-,result⟩
      · rw [same]
        exact silent
      · rw [result]
        exact onRegionAllocReq_silent env player sessionId avatarId avatarName _ silent
    | pass => exact silent
    | _ => exact absurd rfl plain

theorem run_silent (env : Env) (actions : List Action) :
    Silent (run (step env) (init env.config) actions) :=
  run_invariant (step env) (fun _ _ => True) Silent
    (fun s action silent _ => step_silent env s action silent) _ actions
    (guarded_true (step env) _ actions) (by simp [Silent,init])

theorem silent_answers (s : Region) (sessionId : UInt32) (silent : Silent s) :
    answers sessionId s.log = 0 := by
  rw [answers,List.countP_eq_zero]
  intro event member
  have quiet := silent event member
  split
  next message => simp [message,isAnswer] at quiet
  · decide

/-- No request is answered, in whatever state the player is. -/
theorem regionLeaveReq_unanswered (env : Env) (actions : List Action) (sessionId : UInt32)
    (player : Object) : ¬ Left env (run (step env) (init env.config) actions) sessionId player := by
  intro left
  have silent := run_silent env actions
  have answered := left.answered
  rw [silent_answers _ sessionId (step_silent env _ _ silent)] at answered
  omega

/-- The player has got its initial data, and leaves. -/
theorem regionLeaveReq_initial :
    slotOf firstSession (run (step sampleEnv) (init sampleEnv.config) entered).toLoop = some 0 ∧
      ¬ Left sampleEnv (run (step sampleEnv) (init sampleEnv.config) entered) firstSession 0 := by
  refine ⟨by decide +kernel,fun left => ?_⟩
  have answered := left.answered
  revert answered
  decide +kernel

theorem shutdownPlayer_finalizing (player : Object) (s : Region)
    (used : (s.contexts player).state ≠ .none) :
    ((shutdownPlayer player s).contexts player).finalizing = true := by
  have deletes : needDelete (s.contexts player).state = true := by
    revert used
    generalize (s.contexts player).state = state
    cases state <;> decide
  rw [shutdownPlayer,if_pos deletes]
  split
  next finalizing => exact finalizing
  · simp [addPlayerToFinalizingQueue]

end Fantuan.RegionServer.LeaveAnswers
