import Fantuan.CacheServer.Frames
import Fantuan.CacheServer.Indexes
import Fantuan.RegionServer.Indexes

/-! The shutdown of the region loop and of the cache loop, for which Shutdown waits. The one never says
that it is ready, the other says so at the end of its next pass, whoever is still logged in.
-/
namespace Fantuan.LoopShutdowns
open Lib.Run Lib.Drain Tool.ObjectPool ServerBase.ServerCommon

section
variable {State Action : Type} (step : State → Action → State) (status : State → ShutdownStatus)

/-- The loop becomes ready by some of the actions that are still to come. -/
def Ends (later : Action → Prop) (s : State) : Prop :=
  ∃ actions, (∀ action ∈ actions, later action) ∧ status (run step s actions) = .readyForShutdown

/-- COMMAND_SHUTDOWN ends, and the loop becomes ready only when everything is settled. -/
def Promised (shutdown later : Action → Prop) (Settled : State → Prop) (s : State) (action : Action) : Prop :=
  (shutdown action → Ends step status later (step s action)) ∧
    (status s ≠ .readyForShutdown → status (step s action) = .readyForShutdown → Settled (step s action))

end

section
open RegionServer.ServerLoop RegionServer.Player RegionServer.Commands RegionServer.PlayerSteps
  RegionServer.Indexes

/-- No region player is live; a region pushes no DB events. -/
def RegionPromised (env : Env) : Region → Action → Prop :=
  Promised (step env) (fun s => s.shutdownStatus) (fun action => action = .shutdown)
    (fun action => action = .pass) fun s => ∀ player, ¬ Live s player

theorem does_unready (s t : Region) (does : Does s t) (unready : s.shutdownStatus ≠ .readyForShutdown) :
    t.shutdownStatus ≠ .readyForShutdown := by
  induction does with
  | refl => exact unready
  | tail _ step ih =>
    cases step with
    | stop =>
      intro ready
      cases ready
    | _ => exact ih

theorem step_unready (env : Env) (s : Region) (action : Action)
    (unready : s.shutdownStatus ≠ .readyForShutdown) :
    (step env s action).shutdownStatus ≠ .readyForShutdown := by
  cases action with
  | onRegionAllocReq sessionId avatarId avatarName =>
    obtain same | ⟨player,pool,-,-,-,result⟩ := alloc_cases env sessionId avatarId avatarName s
    · rw [same]
      exact unready
    · rw [result]
      have counted : (enrolled sessionId avatarId player pool s).shutdownStatus ≠ .readyForShutdown := unready
      by_cases unused : ((enrolled sessionId avatarId player pool s).contexts player).state = .none
      · exact does_unready _ _ (onRegionAllocReq_unused env player sessionId avatarId avatarName _ unused)
          counted
      · rw [onRegionAllocReq_used env player sessionId avatarId avatarName _ unused]
        exact counted
  | pass => exact unready
  | shutdown => exact does_unready _ _ (step_does env s .shutdown rfl) unready
  | onRegionReleaseReq => exact does_unready _ _ (step_does env s _ rfl) unready
  | onRegionEnterReq => exact does_unready _ _ (step_does env s _ rfl) unready
  | onRegionEnterAck => exact does_unready _ _ (step_does env s _ rfl) unready
  | onRegionLeaveReq => exact does_unready _ _ (step_does env s _ rfl) unready
  | packetForward => exact does_unready _ _ (step_does env s _ rfl) unready
  | shutdownPlayerReq => exact does_unready _ _ (step_does env s _ rfl) unready
  | tick => exact unready

theorem run_unready (env : Env) (s : Region) (actions : List Action)
    (unready : s.shutdownStatus ≠ .readyForShutdown) :
    (run (step env) s actions).shutdownStatus ≠ .readyForShutdown :=
  run_invariant (step env) (fun _ _ => True) (fun s => s.shutdownStatus ≠ .readyForShutdown)
    (fun s action unready _ => step_unready env s action unready) s actions
    (guarded_true (step env) s actions) unready

theorem step_regionPromised (env : Env) (s : Region) (action : Action)
    (unready : s.shutdownStatus ≠ .readyForShutdown) : RegionPromised env s action ↔ action ≠ .shutdown := by
  constructor
  · rintro ⟨ends,-⟩ shut
    obtain ⟨actions,-,ready⟩ := ends shut
    exact run_unready env _ actions (step_unready env s action unready) ready
  · intro other
    refine ⟨fun shut => absurd shut other,fun _ ready => ?_⟩
    exact absurd ready (step_unready env s action unready)

end

section
open CacheServer.Player CacheServer.Commands CacheServer.Sessions CacheServer.Frames

/-- Every event that has been pushed has been fired. -/
def AllFired (s : Cache) : Prop :=
  ∀ event, event < s.dbConnPool.pushed → (s.dbConnPool.events event).fired = true

def isLater : Action → Bool
  | .work _ | .result | .drain => true
  | _ => false

def CachePromised (env : Env) : Cache → Action → Prop :=
  Promised (step env) (fun s => s.shutdownStatus) (fun action => action = .shutdown)
    (fun action => isLater action = true) fun s => (∀ player, ¬ Live s player) ∧ AllFired s

/-- The pass after COMMAND_SHUTDOWN finds no player but the one it deletes, and no event to fire. -/
def Quiet (s : Cache) : Action → Prop
  | .drain => s.shutdownStatus = .startShutdown →
    (∀ player, player < s.playerContextPool.created → Live s player →
      s.finalizingQueue.getLast? = some player) ∧ AllFired s
  | _ => True

instance (s : Cache) : Decidable (AllFired s) :=
  inferInstanceAs (Decidable (∀ event, event < _ → _))

instance (s : Cache) : DecidablePred (Quiet s)
  | .drain => inferInstanceAs (Decidable (_ →
      (∀ player, player < _ → Live s player → s.finalizingQueue.getLast? = some player) ∧ AllFired s))
  | .shutdown | .onLoginReq _ _ | .onLogoutReq _ | .onRegionEnterReq _ _ _ | .packetForward _ _ | .saveData
  | .tick _ | .work _ | .result => inferInstanceAs (Decidable True)

theorem deletePlayer_live (player other : Object) (s : Cache) :
    Live (deletePlayer player s) other ↔ Live s other ∧ other ≠ player := by
  change other < s.playerContextPool.created ∧ other ∉ s.playerContextPool.objectList ++ [player] ↔
    (other < s.playerContextPool.created ∧ other ∉ s.playerContextPool.objectList) ∧ other ≠ player
  rw [List.mem_append,List.mem_singleton,not_or,and_assoc]

theorem repeated_live (player other : Object) (n : Nat) (s : Cache) :
    Live (repeated (deletePlayer player) (n + 1) s) other ↔ Live s other ∧ other ≠ player := by
  induction n generalizing s with
  | zero => exact deletePlayer_live player other s
  | succ n ih =>
    rw [repeated,ih,deletePlayer_live,and_assoc,and_self_iff]

theorem drainBack_live (queue : List Object) (other : Object) (s : Cache) :
    Live (drainBack deletePlayer queue s) other ↔ Live s other ∧ queue.getLast? ≠ some other := by
  cases queue with
  | nil => simp [drainBack]
  | cons first rest =>
    have nonempty : first :: rest ≠ [] := List.cons_ne_nil first rest
    rw [drainBack_last deletePlayer _ nonempty,List.length_cons,repeated_live,
      List.getLast?_eq_some_getLast nonempty,ne_eq,ne_eq,Option.some_inj,eq_comm]

theorem drain_status (s : Cache) : (drain s).shutdownStatus =
    if s.shutdownStatus = .startShutdown then .readyForShutdown else s.shutdownStatus := by
  obtain ⟨status,-⟩ := drainBack_rest s.finalizingQueue s
  rw [drain,checkShutdown]
  dsimp only
  rw [status]
  split
  · rfl
  · rfl

theorem drain_settled (s : Cache) :
    ((∀ player, ¬ Live (drain s) player) ∧ AllFired (drain s)) ↔
      (∀ player, player < s.playerContextPool.created → Live s player →
        s.finalizingQueue.getLast? = some player) ∧ AllFired s := by
  have live (player : Object) : Live (drain s) player ↔ Live s player ∧ s.finalizingQueue.getLast? ≠ some player := by
    rw [← drainBack_live,drain,checkShutdown]
    split <;> rfl
  rw [AllFired,drain_pool s]
  apply and_congr_left'
  constructor
  · intro gone player _ alive
    by_contra away
    exact gone player ((live player).mpr ⟨alive,away⟩)
  · intro last player alive
    obtain ⟨before,away⟩ := (live player).mp alive
    exact away (last player before.1 before)

theorem shutdown_ends (env : Env) (s : Cache) :
    Ends (step env) (fun s => s.shutdownStatus) (fun action => isLater action = true) (step env s .shutdown) := by
  refine ⟨[.drain],by simp [isLater],?_⟩
  change (drain (step env s .shutdown)).shutdownStatus = .readyForShutdown
  rw [drain_status,step,whileRunning]
  split
  · rfl
  next running =>
    cases status : s.shutdownStatus with
    | notShutdown => exact absurd status running
    | startShutdown => rfl
    | readyForShutdown => rfl

theorem step_cachePromised (env : Env) (s : Cache) (action : Action) :
    CachePromised env s action ↔ Quiet s action := by
  have others (kept : action ≠ .shutdown) (loops : action ≠ .drain) : CachePromised env s action :=
    ⟨fun shut => absurd shut kept,fun unready ready =>
      absurd ((step_status env s action kept loops).symm.trans ready) unready⟩
  cases action with
  | drain =>
    constructor
    · rintro ⟨-,settled⟩ started
      refine (drain_settled s).mp (settled (by simp [started]) ?_)
      change (drain s).shutdownStatus = _
      rw [drain_status,if_pos started]
    · intro quiet
      refine ⟨by simp,fun unready ready => (drain_settled s).mpr (quiet ?_)⟩
      change (drain s).shutdownStatus = _ at ready
      rw [drain_status] at ready
      split at ready
      next started => exact started
      · exact absurd ready unready
  | shutdown =>
    refine iff_of_true ⟨fun _ => shutdown_ends env s,fun unready ready => ?_⟩ trivial
    change (whileRunning _ s).shutdownStatus = _ at ready
    rw [whileRunning] at ready
    split at ready
    · cases ready
    · exact absurd ready unready
  | onLoginReq => exact iff_of_true (others (by simp) (by simp)) trivial
  | onLogoutReq => exact iff_of_true (others (by simp) (by simp)) trivial
  | onRegionEnterReq => exact iff_of_true (others (by simp) (by simp)) trivial
  | packetForward => exact iff_of_true (others (by simp) (by simp)) trivial
  | saveData => exact iff_of_true (others (by simp) (by simp)) trivial
  | tick => exact iff_of_true (others (by simp) (by simp)) trivial
  | work => exact iff_of_true (others (by simp) (by simp)) trivial
  | result => exact iff_of_true (others (by simp) (by simp)) trivial

end

/-- In a run of a region the shutdown is as promised exactly if COMMAND_SHUTDOWN is never processed, in
a run of the cache exactly if the pass after it finds no player but the one it deletes and no event
that has not been fired. -/
theorem shutdowns_promised (region : RegionServer.Player.Env)
    (regionActions : List RegionServer.Commands.Action) (cache : CacheServer.Player.Env)
    (cacheActions : List CacheServer.Commands.Action) :
    (Guarded (RegionServer.Commands.step region) (RegionPromised region)
        (RegionServer.Commands.init region.config) regionActions ↔
      ∀ action ∈ regionActions, action ≠ .shutdown) ∧
    (Guarded (CacheServer.Commands.step cache) (CachePromised cache)
        (CacheServer.Commands.init cache.config) cacheActions ↔
      Guarded (CacheServer.Commands.step cache) Quiet (CacheServer.Commands.init cache.config) cacheActions) := by
  constructor
  · rw [← guarded_forall (RegionServer.Commands.step region) _ (RegionServer.Commands.init region.config)]
    exact guarded_iff _ (fun _ _ => True) _ _ (fun s => s.shutdownStatus ≠ .readyForShutdown)
      (fun s action unready _ => step_unready region s action unready)
      (fun s action unready _ => step_regionPromised region s action unready) _ _ (guarded_true _ _ _) (by
        intro ready
        cases ready)
  · exact guarded_iff _ (fun _ _ => True) _ _ (fun _ => True) (fun _ _ _ _ => trivial)
      (fun s action _ _ => step_cachePromised cache s action) _ _ (guarded_true _ _ _) trivial

/-- A region is shut down, and the cache while a player is logged in whose event has not been fired. -/
theorem shutdowns_unpromised :
    ¬ Guarded (RegionServer.Commands.step RegionServer.Commands.sampleEnv)
        (RegionPromised RegionServer.Commands.sampleEnv)
        (RegionServer.Commands.init RegionServer.Commands.sampleEnv.config) [.shutdown] ∧
    ¬ Guarded (CacheServer.Commands.step CacheServer.Commands.sampleEnv)
        (CachePromised CacheServer.Commands.sampleEnv)
        (CacheServer.Commands.init CacheServer.Commands.sampleEnv.config)
        [.onLoginReq CacheServer.Commands.firstSession [97],
          .packetForward CacheServer.Commands.firstSession .avatarListReq,.shutdown,.drain] := by
  constructor
  · rintro ⟨promised,-⟩
    exact (step_regionPromised _ _ _ (by simp [RegionServer.Commands.init])).mp promised rfl
  · rintro ⟨-,-,-,promised,-⟩
    have quiet := (step_cachePromised _ _ _).mp promised
    revert quiet
    decide +kernel

end Fantuan.LoopShutdowns
