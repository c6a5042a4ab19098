import Fantuan.GateServer.Disconnects
import Fantuan.GateServer.SessionFrames

/-! The shutdown of the gate. It walks the map of the base class, which the commands of the gate never
fill, and the next pass reports that the gate is ready.
-/
namespace Fantuan.GateServer.Shutdowns
open Lib.Table Lib.Drain Lib.Run ServerBase.ServerCommon Tool.ObjectPool Tool.StateMachine ServerLoop Session
  Commands SessionSteps SessionFrames

def Live (s : Gate) (session : Object) : Prop := (s.sessions session).state ≠ .none

/-- The states of a session whose connection has been told. -/
def isTold : SessionState → Bool
  | .disconnect | .onMasterDisconnect => true
  | _ => false

/-- The session owns a connection that has not been told to disconnect. -/
structure Untold (s : Gate) (session : Object) (connection : Nat) : Prop where
  own : (s.sessions session).connection = some connection
  live : (s.connections connection).live = true
  client : (s.connections connection).client = some session
  still : isTold (s.sessions session).state = false

/-- What a shutdown in s is to do: it tells the connections, closes the sessions without one, and the gate
is not ready while a session is in use. -/
structure ShutsDown (env : Env) (s : Gate) : Prop where
  told : ∀ session connection, Untold s session connection →
    ∃ events, (step env s .shutdown).log = events ++ s.log ∧ .asyncDisconnect connection ∈ events
  closed : ∀ session, Live s session → (s.sessions session).connection = none →
    ((step env s .shutdown).sessions session).finalizing = true
  ready : ∀ later, (run (step env) (step env s .shutdown) later).shutdownStatus = .readyForShutdown →
    ∀ session, ¬ Live (run (step env) (step env s .shutdown) later) session

/-- There is nothing to do but to clear one session, which is closed already. -/
structure Idle (s : Gate) : Prop where
  told : ∀ session connection, ¬ Untold s session connection
  closed : ∀ session, Live s session → (s.sessions session).connection = none →
    (s.sessions session).finalizing = true
  last : ∀ session, Live s session → s.finalizingQueue.getLast? = some session

section
variable (env : Env) (s : Gate)

theorem step_sessionMap (action : Action) (empty : s.sessionMap = ∅) : (step env s action).sessionMap = ∅ := by
  cases action with
  | tick => exact empty
  | _ => exact (step_steady env s _ (by simp)).2 empty

theorem run_sessionMap (actions : List Action) : (run (step env) (init env.config) actions).sessionMap = ∅ :=
  run_invariant (step env) (fun _ _ => True) (fun s => s.sessionMap = ∅)
    (fun s action empty _ => step_sessionMap env s action empty) _ actions (guarded_true (step env) _ actions) rfl

theorem shutdown_empty (empty : s.sessionMap = ∅) :
    step env s .shutdown = {s with shutdownStatus := .startShutdown} := by
  rw [step,onCommandShutdown,empty]
  rfl

/-- What the end of a connection and the master's disconnect do once the shutdown has started: no session
comes into use, and only sessions in use are queued. -/
structure Leaves (s t : Gate) : Prop where
  status : t.shutdownStatus = s.shutdownStatus
  used : ∀ session, Live t session → Live s session
  queue : ∃ pushed, t.finalizingQueue = s.finalizingQueue ++ pushed ∧ ∀ session ∈ pushed, Live s session

theorem leaves_same (t : Gate) (status : t.shutdownStatus = s.shutdownStatus) (sessions : t.sessions = s.sessions)
    (queue : t.finalizingQueue = s.finalizingQueue) : Leaves s t := by
  refine ⟨status,fun session => ?_,[],?_,by simp⟩
  · rw [Live,Live,sessions]
    exact id
  · rw [queue,List.append_nil]

theorem leaves_refl : Leaves s s := leaves_same s s rfl rfl rfl

theorem leaves_trans (t u : Gate) (first : Leaves s t) (second : Leaves t u) : Leaves s u := by
  obtain ⟨early,before,kept⟩ := first.queue
  obtain ⟨late,after,still⟩ := second.queue
  refine ⟨second.status.trans first.status,fun session live => first.used session (second.used session live),
    early ++ late,?_,fun session member => ?_⟩
  · rw [after,before,List.append_assoc]
  · rcases List.mem_append.mp member with old | new
    · exact kept session old
    · exact first.used session (still session new)

theorem note_leaves (event : Event) : Leaves s (s.note event) := leaves_same s _ rfl rfl rfl

theorem update_leaves (session : Object) (change : GateSession → GateSession)
    (used : (change (s.sessions session)).state ≠ .none → Live s session) : Leaves s (s.update session change) := by
  refine ⟨rfl,fun other live => ?_,[],(List.append_nil _).symm,by simp⟩
  by_cases same : other = session
  · rw [Live,same,update_same] at live
    rw [same]
    exact used live
  · rw [Live,update_other s session other change same] at live
    exact live

theorem stateTransition_leaves (event : SessionEvent) (session : Object) (plain : plainEvent event = true) :
    Leaves s (stateTransition event session s) := by
  cases reached : reaches event session s with
  | none =>
    rw [stateTransition_none s session event reached]
    exact leaves_refl s
  | some next =>
    rw [stateTransition_reached s session event next reached]
    exact update_leaves s session _ fun _ => (plain_transition _ next event plain reached).used.1

theorem asyncDisconnect_leaves (connection : Option Nat) : Leaves s (asyncDisconnect connection s) := by
  cases connection with
  | none => exact leaves_same s _ rfl rfl rfl
  | some connection => exact note_leaves s _

theorem pushFinalizing_leaves (session : Object) (live : Live s session) : Leaves s (pushFinalizing session s) := by
  have closed := update_leaves s session (fun data => {data with finalizing := true}) fun _ => live
  refine ⟨rfl,closed.used,[session],rfl,fun other member => ?_⟩
  rw [List.mem_singleton.mp member]
  exact live

theorem closeSession_leaves (session : Object) (isByMaster : Bool) (live : Live s session) :
    Leaves s (closeSession env session isByMaster s) := by
  rw [closeSession]
  split
  · exact leaves_refl s
  · split
    · exact asyncDisconnect_leaves s _
    · split
      · exact leaves_trans s _ _ (note_leaves s _) (pushFinalizing_leaves _ session live)
      · exact pushFinalizing_leaves s session live

theorem closeConnection_leaves (session : Object) (live : Live s session) :
    Leaves s (closeConnection session s) := by
  rw [closeConnection]
  split
  · exact leaves_trans s _ _ (note_leaves s _) (update_leaves _ session _ fun _ => live)
  · exact leaves_refl s

theorem onDisconnect_leaves (session : Object) : Leaves s (onDisconnect env session s) := by
  rw [onDisconnect]
  split
  · exact leaves_refl s
  next next reached =>
    obtain ⟨used,-,-⟩ := plain_transition _ next .onDisconnect rfl reached
    have moved : Leaves s (setState session next s) := update_leaves s session _ fun _ => used.1
    have state : ((closeConnection session (setState session next s)).sessions session).state = next := by
      rw [closeConnection_state,setState,update_same]
    have closed := leaves_trans s _ _ moved (closeConnection_leaves (setState session next s) session (by
      rw [Live,setState,update_same]
      exact used.2))
    dsimp only
    generalize closeConnection session (setState session next s) = t at closed state ⊢
    have live : Live t session := by
      rw [Live,state]
      exact used.2
    have sent := leaves_trans s _ _ closed (note_leaves t (.sent (sessionDisconnect session t) (sends env t)))
    split
    · split
      · exact leaves_trans s _ _ closed (closeSession_leaves env t session false live)
      · split
        · refine leaves_trans s _ _ (leaves_trans s _ _ sent
            (stateTransition_leaves _ .sessionDisconnectReq session rfl)) (closeSession_leaves env _ session false ?_)
          rw [Live,stateTransition_reached _ session .sessionDisconnectReq .onDisconnect (by
            change transition (t.sessions session).state _ = _
            rw [state]
            rfl),setState,update_same]
          exact SessionState.noConfusion
        · exact sent
    · split
      · exact leaves_trans s _ _ sent (closeSession_leaves env _ session false live)
      · exact sent
    · exact closed

theorem onMasterDisconnect_leaves (session : Object) : Leaves s (onMasterDisconnect session s) := by
  have moved := stateTransition_leaves s .onMasterDisconnect session rfl
  rw [onMasterDisconnect]
  split
  · exact leaves_refl s
  · dsimp only
    split
    · exact leaves_trans s _ _ moved (asyncDisconnect_leaves _ _)
    · exact moved

/-- A shutdown has started, and a session that is in use is the next one to be cleared. -/
structure Calm (s : Gate) : Prop where
  stopped : s.shutdownStatus ≠ .notShutdown
  empty : s.sessionMap = ∅
  last : ∀ session, Live s session →
    s.shutdownStatus = .startShutdown ∧ s.finalizingQueue.getLast? = some session

theorem leaves_calm (t : Gate) (leaves : Leaves s t) (empty : t.sessionMap = ∅) (calm : Calm s) : Calm t := by
  refine ⟨by rw [leaves.status]; exact calm.stopped,empty,fun session live => ?_⟩
  obtain ⟨starting,last⟩ := calm.last session (leaves.used session live)
  obtain ⟨pushed,queue,used⟩ := leaves.queue
  refine ⟨leaves.status.trans starting,?_⟩
  rw [queue]
  cases ends : pushed.getLast? with
  | none =>
    rw [List.getLast?_eq_none_iff.mp ends,List.append_nil]
    exact last
  | some other =>
    have same := (calm.last other (used other (List.mem_of_getLast? ends))).2
    rw [List.getLast?_append,ends,Option.some_or]
    exact same.symm.trans last

theorem pass_other (session : Object) (other : s.finalizingQueue.getLast? ≠ some session) :
    (step env s .pass).sessions session = s.sessions session := by
  have drained : (drainBack clearSession s.finalizingQueue s.toLoop).sessions session = s.sessions session := by
    cases queue : s.finalizingQueue with
    | nil => rfl
    | cons first rest =>
      rw [drainBack_last clearSession _ (List.cons_ne_nil first rest)]
      refine repeated_invariant _ (fun loop : Loop => loop.sessions session = s.sessions session) ?_ _ _ rfl
      intro loop before
      have different : session ≠ (first :: rest).getLast (List.cons_ne_nil first rest) := by
        intro same
        rw [queue,List.getLast?_eq_getLast_of_ne_nil (List.cons_ne_nil first rest),← same] at other
        exact other rfl
      exact (Function.update_of_ne different ..).trans before
  change (loopPass s.toLoop).sessions session = _
  rw [loopPass]
  split <;> exact drained

theorem pass_last (session : Object) (last : s.finalizingQueue.getLast? = some session) :
    ¬ Live (step env s .pass) session := by
  have cleared (loop : Loop) : ((clearSession session loop).sessions session).state = .none := by
    dsimp only [clearSession]
    rw [Function.update_self]
    rfl
  have drained : ((drainBack clearSession s.finalizingQueue s.toLoop).sessions session).state = .none := by
    cases queue : s.finalizingQueue with
    | nil =>
      rw [queue] at last
      cases last
    | cons first rest =>
      rw [queue,List.getLast?_eq_getLast_of_ne_nil (List.cons_ne_nil first rest)] at last
      rw [drainBack_last clearSession _ (List.cons_ne_nil first rest),Option.some.inj last]
      exact repeated_invariant _ (fun loop : Loop => (loop.sessions session).state = .none) (fun loop _ => cleared loop)
        rest.length _ (cleared s.toLoop)
  rw [Live,not_not]
  change ((loopPass s.toLoop).sessions session).state = _
  rw [loopPass]
  split <;> exact drained

theorem pass_calm (calm : Calm s) : Calm (step env s .pass) ∧ ∀ session, ¬ Live (step env s .pass) session := by
  have none (session : Object) : ¬ Live (step env s .pass) session := by
    by_cases last : s.finalizingQueue.getLast? = some session
    · exact pass_last env s session last
    · rw [Live,pass_other env s session last]
      exact fun live => last (calm.last session live).2
  refine ⟨⟨?_,step_sessionMap env s .pass calm.empty,fun session live => absurd live (none session)⟩,none⟩
  change (loopPass s.toLoop).shutdownStatus ≠ _
  have kept : (drainBack clearSession s.finalizingQueue s.toLoop).shutdownStatus = s.shutdownStatus :=
    drainBack_invariant clearSession (fun loop => loop.shutdownStatus = s.shutdownStatus) s.finalizingQueue
      (fun _ _ _ before => before) s.toLoop rfl
  rw [loopPass]
  split
  · exact ShutdownStatus.noConfusion
  · change (drainBack clearSession s.finalizingQueue s.toLoop).shutdownStatus ≠ _
    rw [kept]
    exact calm.stopped

theorem whileRunning_calm (handle : Gate → Gate) (calm : Calm s) : whileRunning handle s = s :=
  if_neg calm.stopped

theorem step_calm (action : Action) (calm : Calm s) : Calm (step env s action) := by
  have empty := step_sessionMap env s action calm.empty
  cases action with
  | onConnect connection =>
    rw [step] at empty ⊢
    split
    · exact calm
    · have accepted : Calm (accept connection s) := ⟨calm.stopped,calm.empty,calm.last⟩
      rw [whileRunning_calm _ _ accepted]
      exact accepted
  | onData connection login packets =>
    rw [step,whileRunning_calm s _ calm,ite_self]
    exact calm
  | onDisconnect connection =>
    have leaves : Leaves s (step env s (.onDisconnect connection)) := by
      rw [step]
      split
      · have hung : Leaves s (hangUp connection s) := leaves_same s _ rfl rfl rfl
        rw [onCommandOnDisconnect]
        split
        next session _ =>
          have unmapped : Leaves (hangUp connection s) (unmapSession session (hangUp connection s)) :=
            leaves_same _ _ rfl rfl rfl
          exact leaves_trans s _ _ (leaves_trans s _ _ hung unmapped) (onDisconnect_leaves env _ session)
        · exact hung
      · exact leaves_refl s
    exact leaves_calm s _ leaves empty calm
  | disconnect sessionId =>
    have leaves : Leaves s (step env s (.disconnect sessionId)) := by
      rw [step,forSession]
      split
      next session _ => exact onMasterDisconnect_leaves s session
      · exact leaves_same s _ rfl rfl rfl
    exact leaves_calm s _ leaves empty calm
  | shutdown =>
    rw [shutdown_empty env s calm.empty]
    exact ⟨ShutdownStatus.noConfusion,calm.empty,fun session live => ⟨rfl,(calm.last session live).2⟩⟩
  | gateAllocReq => rwa [step,whileRunning_calm s _ calm]
  | gateReleaseReq => rwa [step,whileRunning_calm s _ calm]
  | regionBindReq => rwa [step,whileRunning_calm s _ calm]
  | checkSessionState => rwa [step,whileRunning_calm s _ calm]
  | reportState => rwa [step,whileRunning_calm s _ calm]
  | tick => exact ⟨calm.stopped,calm.empty,calm.last⟩
  | pass => exact (pass_calm env s calm).1

theorem run_calm (later : List Action) (calm : Calm s) : Calm (run (step env) s later) :=
  run_invariant (step env) (fun _ _ => True) Calm (fun s action calm _ => step_calm env s action calm) s later
    (guarded_true (step env) s later) calm

/-- A shutdown of a gate with an empty map does what it is to do just where nothing is left to do. -/
theorem shutsDown_idle (empty : s.sessionMap = ∅) : ShutsDown env s ↔ Idle s := by
  have step_shutdown := shutdown_empty env s empty
  constructor
  · rintro ⟨told,closed,ready⟩
    rw [step_shutdown] at told closed ready
    refine ⟨fun session connection untold => ?_,closed,fun session live => ?_⟩
    · obtain ⟨events,log,listed⟩ := told session connection untold
      have none : events = [] := List.self_eq_append_left.mp log
      rw [none] at listed
      cases listed
    · by_contra other
      have reported : (run (step env) {s with shutdownStatus := .startShutdown} [.pass]).shutdownStatus =
          .readyForShutdown := by
        change (loopPass {s.toLoop with shutdownStatus := .startShutdown}).shutdownStatus = _
        have kept : (drainBack clearSession s.finalizingQueue
            {s.toLoop with shutdownStatus := .startShutdown}).shutdownStatus = .startShutdown :=
          drainBack_invariant clearSession (fun loop => loop.shutdownStatus = .startShutdown) s.finalizingQueue
            (fun _ _ _ before => before) _ rfl
        rw [loopPass]
        exact congrArg Loop.shutdownStatus (if_pos kept)
      refine ready [.pass] reported session ?_
      change Live (step env {s with shutdownStatus := .startShutdown} .pass) session
      rw [Live,pass_other env {s with shutdownStatus := .startShutdown} session other]
      exact live
  · rintro ⟨told,closed,last⟩
    refine ⟨fun session connection untold => absurd untold (told session connection),?_,?_⟩
    · rw [step_shutdown]
      exact closed
    · rw [step_shutdown]
      intro later reported session live
      have calm : Calm {s with shutdownStatus := .startShutdown} :=
        ⟨ShutdownStatus.noConfusion,empty,fun session live => ⟨rfl,last session live⟩⟩
      have starting := ((run_calm env _ later calm).last session live).1
      rw [reported] at starting
      cases starting

end

/-- In every state of every run a shutdown tells the connections, closes the other sessions and lets the gate
be ready only without a session, if and only if there is nothing to do for it. -/
theorem shutdown_closes_iff (env : Env) (actions : List Action) :
    ShutsDown env (run (step env) (init env.config) actions) ↔ Idle (run (step env) (init env.config) actions) :=
  shutsDown_idle env _ (run_sessionMap env actions)

/-- A client that has just connected is not told, and the gate is ready while it is there. -/
theorem shutdown_closes_client :
    let s := run (step sampleEnv) (init sampleEnv.config) [.onConnect 1]
    ¬ ShutsDown sampleEnv s ∧
      (run (step sampleEnv) s [.shutdown,.pass]).shutdownStatus = .readyForShutdown ∧
      (run (step sampleEnv) s [.shutdown,.pass]).log = [] ∧ Live (run (step sampleEnv) s [.shutdown,.pass]) 0 := by
  intro s
  refine ⟨fun shuts => ?_,by decide +kernel,by decide +kernel,?_⟩
  · have idle := (shutsDown_idle sampleEnv s (run_sessionMap sampleEnv [.onConnect 1])).mp shuts
    exact idle.told 0 1 ⟨by decide +kernel,by decide +kernel,by decide +kernel,by decide +kernel⟩
  · rw [Live]
    decide +kernel

end Fantuan.GateServer.Shutdowns
