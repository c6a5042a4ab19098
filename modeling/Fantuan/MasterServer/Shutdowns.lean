import Fantuan.Lib.Run
import Fantuan.MasterServer.Frames

/-! The shutdown of the loop. COMMAND_SHUTDOWN shuts every player down, and the loop handles no
command any more: who is told to leave his region first is never deleted.
-/
namespace Fantuan.MasterServer.Shutdowns
open Lib.Table Lib.Index Lib.Run Lib.Drain ServerBase.ServerCommon Tool.ObjectPool PlayerFsm
open Context ServerLoop Player Commands PlayerSteps Handlers Deletion Indexes Frames

/-- The loop still processes a message that changes the player. -/
def Awaits (env : Env) (player : Object) (s : Loop) : Prop :=
  ∃ command, (onCommand env command s).contexts player ≠ s.contexts player

/-- After COMMAND_SHUTDOWN and a pass every player who was in the map is deleted from the queue or
waits for a message, and the loop can still become ready. -/
def Progresses (env : Env) (s : Loop) : Prop :=
  let t := step env s (.command .shutdown)
  let u := step env t .pass
  (∀ player ∈ values s.playerContextBySessionId,
    player ∈ t.finalizingQueue ∧ .deleted player ∈ u.log.take (u.log.length - t.log.length) ∨
      Awaits env player u) ∧
    ∃ actions, (run (step env) u actions).shutdownStatus = .readyForShutdown

/-- ShutdownPlayer asks the player's region to let him leave. -/
def leaves (env : Env) (s : Loop) (player : Object) : Bool :=
  !(s.contexts player).finalizing && (shutdownNeeds (s.contexts player).state).regionLeave && sends env s

/-- There is no session, or at most one player, and he is not asked to leave a region first. -/
def Few (env : Env) (s : Loop) : Prop :=
  values s.playerContextBySessionId = [] ∨
    (values s.playerContextByName).length ≤ 1 ∧
      ∀ player ∈ values s.playerContextByName, leaves env s player = false

instance (env : Env) (s : Loop) : Decidable (Few env s) :=
  inferInstanceAs (Decidable (_ ∨ _ ≤ 1 ∧ ∀ player ∈ _, _ = false))

section
variable (env : Env) (player : Object)

omit env in
theorem queue_finalizing (s : Loop) :
    ((addPlayerToFinalizingQueue player s).contexts player).finalizing = true := by
  simp only [addPlayerToFinalizingQueue,update_same]

theorem shutdownPlayer_queues (s : Loop) (running : s.shutdownStatus ≠ .readyForShutdown)
    (stays : leaves env s player = false) :
    ((shutdownPlayer env player s).contexts player).finalizing = true := by
  cases active : (s.contexts player).finalizing with
  | true =>
    rw [shutdownPlayer,if_pos active]
    exact active
  | false =>
    cases asks : (shutdownNeeds (s.contexts player).state).regionLeave with
    | false => exact shutdownPlayer_finalizing env player s running asks
    | true =>
      have unsent : sends env s = false := by
        rw [leaves,active,asks] at stays
        simpa using stays
      have kept : (shutdownNeeds (s.contexts player).state).regionRelease = false := by
        have rows : ∀ state, (shutdownNeeds state).regionLeave = true →
            (shutdownNeeds state).regionRelease = false := by
          intro state leaves
          cases state <;> first | rfl | cases leaves
        exact rows _ asks
      have begun : (begin player s).log = s.log := by
        rw [begin,stateTransition]
        split
        · split <;> rfl
        · rfl
      rw [shutdownPlayer_running env player s active running]
      dsimp only
      rw [if_pos asks,kept]
      have failed : sends env (releaseRegion env false player (begin player s)) = false := by
        rw [releaseRegion,if_neg Bool.false_ne_true,sends,begun]
        exact unsent
      rw [failed,if_neg Bool.false_ne_true,finishShutdown]
      exact queue_finalizing player _

theorem stopped_awaits (s : Loop) (stopped : s.shutdownStatus ≠ .notShutdown) : ¬ Awaits env player s := by
  rintro ⟨command,changed⟩
  apply changed
  rw [onCommand.eq_def,if_pos stopped]

theorem empty_erase (key : UInt32) (table : Map UInt32 Object) (empty : table = ∅) :
    erase key table = ∅ := by
  rw [empty]
  rfl

/-- What the first of several deletions of a player leaves to the others. -/
def Emptied (earlier : List Event) (s : Loop) : Prop :=
  s.playerContextBySessionId = ∅ ∧ .deleted player :: earlier <:+ s.log

theorem deletePlayer_emptied (earlier : List Event) (s : Loop) (emptied : Emptied player earlier s) :
    Emptied player earlier (deletePlayer player s) := by
  obtain ⟨empty,logged⟩ := emptied
  have deleted := deletePlayer_deleted player s
  refine ⟨?_,?_⟩
  · rw [deleted.bySessionId]
    exact empty_erase _ _ empty
  · rw [deleted.log]
    exact logged.trans (List.suffix_cons _ _)

/-- The only player in use is deleted, however often he is queued. -/
theorem deleteFinalizing_emptied (s : Loop) (listed : Listed s) (queued : player ∈ s.finalizingQueue)
    (only : ∀ other, Live s other → other = player) : Emptied player s.log (deleteFinalizing s) := by
  have some : s.finalizingQueue ≠ [] := List.ne_nil_of_mem queued
  have last : s.finalizingQueue.getLast some = player :=
    only _ (listed.queued _ (List.getLast_mem some)).1
  have first : Emptied player s.log (deletePlayer player s) := by
    have deleted := deletePlayer_deleted player s
    refine ⟨?_,by rw [deleted.log]⟩
    rw [deleted.bySessionId]
    apply empty_of_find
    intro key
    rw [find_erase]
    split
    · rfl
    next away =>
      apply Option.eq_none_iff_forall_ne_some.mpr
      intro other found
      obtain ⟨alive,keys⟩ := listed.sessions key other found
      obtain rfl := only other alive
      exact away keys.symm
  obtain ⟨rounds,length⟩ := Nat.exists_eq_succ_of_ne_zero (by simpa using some : s.finalizingQueue.length ≠ 0)
  have drained : Emptied player s.log (drainBack deletePlayer s.finalizingQueue s) := by
    rw [drainBack_last deletePlayer s.finalizingQueue some,last,length,repeated]
    exact repeated_invariant _ _ (fun t => deletePlayer_emptied player s.log t) rounds _ first
  exact drained

theorem drained_empty (s : Loop) (empty : s.playerContextBySessionId = ∅) :
    (deleteFinalizing s).playerContextBySessionId = ∅ := by
  have drained := drainBack_invariant deletePlayer (fun t : Loop => t.playerContextBySessionId = ∅)
    s.finalizingQueue (fun other _ t empty => by
      rw [(deletePlayer_deleted other t).bySessionId]
      exact empty_erase _ _ empty) s empty
  exact drained

theorem drained_status (s : Loop) : (deleteFinalizing s).shutdownStatus = s.shutdownStatus := by
  have drained := drainBack_invariant deletePlayer (fun t : Loop => t.shutdownStatus = s.shutdownStatus)
    s.finalizingQueue (fun other _ t same => by
      rw [(deletePlayer_deleted other t).status]
      exact same) s rfl
  exact drained

theorem loopPass_ready (s : Loop) (started : s.shutdownStatus = .startShutdown)
    (empty : (deleteFinalizing s).playerContextBySessionId = ∅) :
    (loopPass s).shutdownStatus = .readyForShutdown := by
  have status := drained_status s
  rw [started] at status
  rw [loopPass,if_pos ⟨status,empty⟩]

theorem loopPass_stopped (s : Loop) (stopped : s.shutdownStatus ≠ .notShutdown) :
    (loopPass s).shutdownStatus ≠ .notShutdown := by
  rw [loopPass]
  split
  · simp
  · rw [drained_status]
    exact stopped

theorem loopPass_log (s : Loop) : (loopPass s).log = (deleteFinalizing s).log := by
  rw [loopPass]
  split <;> rfl

theorem shutdowns_frames (players : List Object) (s : Loop) (running : s.shutdownStatus ≠ .readyForShutdown) :
    let t := players.foldl (fun s player => shutdownPlayer env player s) s
    t.shutdownStatus = s.shutdownStatus ∧ t.playerContextBySessionId = s.playerContextBySessionId ∧
      t.playerContextPool = s.playerContextPool := by
  induction players generalizing s with
  | nil => exact ⟨rfl,rfl,rfl⟩
  | cons other players ih =>
    have frame := shutdownPlayer_frame env other s running
    obtain ⟨status,sessions,pool⟩ := ih (shutdownPlayer env other s) (by rw [frame.status]; exact running)
    exact ⟨status.trans frame.status,sessions.trans frame.bySessionId,pool.trans frame.pool⟩

theorem shutdown_progresses (s : Loop) (opened : s.shutdownStatus = .notShutdown) (listed : Listed s)
    (few : Few env s) : Progresses env s := by
  let started : Loop := {s with shutdownStatus := .startShutdown}
  have running : started.shutdownStatus ≠ .readyForShutdown := by simp [started]
  have commanded : step env s (.command .shutdown) = onCommandShutdown env s := by
    change onCommand env .shutdown s = onCommandShutdown env s
    rw [onCommand.eq_def,if_neg (not_not.mpr opened)]
  obtain ⟨status,sessions,pool⟩ := shutdowns_frames env (values s.playerContextByName) started running
  have nextListed : Listed (onCommandShutdown env s) :=
    shutdowns_listed env _ _ running (named_live s listed) (started_listed s listed)
  rw [Progresses,commanded]
  change (∀ player ∈ _, player ∈ _ ∧ .deleted player ∈ (loopPass (onCommandShutdown env s)).log.take _ ∨ _) ∧ _
  change (onCommandShutdown env s).shutdownStatus = .startShutdown at status
  change (onCommandShutdown env s).playerContextBySessionId = _ at sessions
  change (onCommandShutdown env s).playerContextPool = _ at pool
  generalize same : onCommandShutdown env s = t at *
  have inUse : ∀ other ∈ values s.playerContextBySessionId, other ∈ values s.playerContextByName := by
    intro other member
    obtain ⟨key,found⟩ := (mem_values _ _).mp member
    exact (mem_values _ _).mpr ⟨_,indexes_found listed.names other (listed.sessions key other found).1⟩
  have nobody (none : values s.playerContextBySessionId = []) :
      (loopPass t).shutdownStatus = .readyForShutdown := by
    refine loopPass_ready t status (drained_empty t ?_)
    rw [sessions]
    apply empty_of_find
    intro key
    apply Option.eq_none_iff_forall_ne_some.mpr
    intro other found
    have member : other ∈ values s.playerContextBySessionId := (mem_values _ _).mpr ⟨key,found⟩
    rw [none] at member
    cases member
  rcases few with none | ⟨one,stays⟩
  · refine ⟨fun player member => ?_,[],nobody none⟩
    rw [none] at member
    cases member
  · cases names : values s.playerContextByName with
    | nil =>
      rw [names] at inUse
      have none : values s.playerContextBySessionId = [] :=
        List.eq_nil_iff_forall_not_mem.mpr fun other member => (List.not_mem_nil (inUse other member))
      refine ⟨fun player member => ?_,[],nobody none⟩
      rw [none] at member
      cases member
    | cons player more =>
      cases more with
      | cons _ _ => simp [names] at one
      | nil =>
          have only : ∀ other, Live t other → other = player := by
            intro other alive
            have before : Live s other := (live_same s t pool other).mp alive
            have member : other ∈ values s.playerContextByName :=
              (mem_values _ _).mpr ⟨_,indexes_found listed.names other before⟩
            rw [names] at member
            exact List.mem_singleton.mp member
          have shut : t = shutdownPlayer env player started := by
            rw [← same,onCommandShutdown,names]
            rfl
          have queued : player ∈ t.finalizingQueue := by
            apply nextListed.retired
            rw [shut]
            apply shutdownPlayer_queues env player started running
            exact stays player (by rw [names]; exact List.mem_singleton_self player)
          obtain ⟨empty,before,logged⟩ := deleteFinalizing_emptied player t nextListed queued only
          refine ⟨fun other member => .inl ?_,[],loopPass_ready t status empty⟩
          have own := inUse other member
          rw [names] at own
          obtain rfl := List.mem_singleton.mp own
          refine ⟨queued,?_⟩
          have whole : (loopPass t).log = (before ++ [Event.deleted other]) ++ t.log := by
            rw [loopPass_log,← logged,List.append_assoc]
            rfl
          change .deleted other ∈ (loopPass t).log.take ((loopPass t).log.length - t.log.length)
          rw [whole,List.length_append,Nat.add_sub_cancel,List.take_left]
          simp

end

/-- In every run with at most one player to delete at a pass, a shutdown makes progress from every
state with at most one player who is not asked to leave a region. -/
theorem run_progresses (env : Env) (actions : List Action)
    (short : Guarded (step env) Short (.init env.config) actions)
    (opened : (run (step env) (.init env.config) actions).shutdownStatus = .notShutdown)
    (few : Few env (run (step env) (.init env.config) actions)) :
    Progresses env (run (step env) (.init env.config) actions) := by
  have listed := run_invariant (step env) Short Listed (step_listed env) _ actions short
    (init_listed env.config)
  exact shutdown_progresses env _ opened listed few

theorem run_progresses_gate :
    Progresses (sampleEnv fun _ => true)
      (run (step (sampleEnv fun _ => true)) (.init (sampleEnv fun _ => true).config) enterGate) :=
  run_progresses (sampleEnv fun _ => true) enterGate (by decide +kernel) rfl (by decide +kernel)

/-- A player in a region is asked to leave it, and nobody hears the answer. -/
theorem run_progresses_region :
    ¬ Progresses (sampleEnv fun _ => true)
      (run (step (sampleEnv fun _ => true)) (.init (sampleEnv fun _ => true).config) enterRegion) := by
  generalize reached : run (step (sampleEnv fun _ => true)) (.init (sampleEnv fun _ => true).config)
    enterRegion = s
  have member : 0 ∈ values s.playerContextBySessionId := by
    rw [← reached]
    decide +kernel
  have unqueued : 0 ∉ (step (sampleEnv fun _ => true) s (.command .shutdown)).finalizingQueue := by
    rw [← reached]
    decide +kernel
  have started : (step (sampleEnv fun _ => true) s (.command .shutdown)).shutdownStatus ≠ .notShutdown := by
    rw [← reached]
    decide +kernel
  rintro ⟨each,-⟩
  rcases each 0 member with deleted | awaits
  · exact unqueued deleted.1
  · exact stopped_awaits _ 0 _ (loopPass_stopped _ started) awaits

end Fantuan.MasterServer.Shutdowns
