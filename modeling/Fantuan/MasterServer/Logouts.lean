import Fantuan.Lib.Run
import Fantuan.MasterServer.CacheLogins
import Fantuan.MasterServer.Deletion

/-! Logging players out of the cache. ShutdownPlayer logs a player out before it queues
him, except while it waits for a region: a second shutdown in that wait loses the logout.
-/
namespace Fantuan.MasterServer.Logouts
open Lib.Table Lib.Run Lib.Drain StarNet.Packet ServerBase.ServerCommon Tool.ObjectPool PlayerFsm
open Context ServerLoop Player Commands PlayerSteps Handlers CacheLogins Deletion

/-- A shutdown of the player does not interrupt a wait. -/
def calm (s : Loop) (player : Object) : Bool :=
  (s.contexts player).finalizing || !waiting (s.contexts player).state

/-- A packet that reaches no handler with a state check. -/
def harmless : Packet → Bool
  | .channelLeaveReq | .other => true
  | _ => false

/-- A second shutdown of the same context finds it finalizing. -/
def ShutTwice (s : Loop) (first second : Object) : Prop :=
  first = second → (s.contexts first).finalizing = true ∨
    (shutdownNeeds (s.contexts first).state).regionLeave = false

instance (s : Loop) : DecidableRel (ShutTwice s) := fun first second =>
  inferInstanceAs (Decidable (first = second → _ ∨ _))

def undisturbedCommand (env : Env) (s : Loop) : Command → Bool
  | .shutdown => (values s.playerContextByName).all (calm s) &&
      decide ((values s.playerContextByName).Pairwise (ShutTwice s))
  | .onLoginReq _ accountName =>
    !s.loginServerContext.isConnected || match find accountName s.playerContextByName with
      | some player => calm s player
      | none => s.playerContextPool.allocate.1.all (calm s)
  | .gateAllocAck _ loginSessionId accountName _ =>
    (find accountName s.playerContextByName).all fun player =>
      (s.contexts player).sessionId != loginSessionId || calm s player
  | .onGateLoginReq sessionId => (find sessionId s.playerContextBySessionId).all (calm s)
  | .onRegionAllocAck sessionId _ _ => (find sessionId s.playerContextBySessionId).all (calm s)
  | .onSessionDisconnect sessionId => (find sessionId s.playerContextBySessionId).all (calm s)
  | .packetForward sessionId typeId data =>
    (find sessionId s.playerContextBySessionId).all fun player =>
      harmless (env.onPacketReceived typeId data) || calm s player
  | _ => true

/-- No command but the region's own answer reaches a player whom ShutdownPlayer has told
to wait for the region. -/
def Undisturbed (env : Env) (s : Loop) : Action → Prop
  | .command command => s.shutdownStatus = .notShutdown → undisturbedCommand env s command = true
  | .pass => True

instance (env : Env) (s : Loop) : DecidablePred (Undisturbed env s)
  | .command _ => inferInstanceAs (Decidable (_ → _))
  | .pass => inferInstanceAs (Decidable True)

section
variable (env : Env) (guarded : Prop)

theorem calm_open (s : Loop) (player : Object) (running : s.shutdownStatus ≠ .readyForShutdown)
    (calms : guarded → calm s player = true) : Open guarded player s := by
  refine ⟨fun guard => ?_,running⟩
  have free := calms guard
  rw [calm,Bool.or_eq_true,Bool.not_eq_true'] at free
  exact free

theorem forSession_ledger (s : Loop) (sessionId : UInt32) (handle : Object → Loop → Loop)
    (ledger : Ledger guarded s)
    (does : ∀ player, find sessionId s.playerContextBySessionId = some player →
      Does env guarded player s (handle player s)) :
    Ledger guarded (forSession sessionId handle s) := by
  rw [forSession]
  split
  next player found => exact does_ledger env guarded player s _ (does player found) ledger
  next => exact ledger

theorem shutdowns_ledger (players : List Object) (s : Loop)
    (running : s.shutdownStatus ≠ .readyForShutdown)
    (calms : guarded → (∀ player ∈ players, calm s player = true) ∧ players.Pairwise (ShutTwice s))
    (ledger : Ledger guarded s) :
    Ledger guarded (players.foldl (fun s player => shutdownPlayer env player s) s) := by
  induction players generalizing s with
  | nil => exact ledger
  | cons player players ih =>
    have opened := calm_open guarded s player running fun guard =>
      (calms guard).1 player List.mem_cons_self
    have does := shutdownPlayer_does env guarded player s opened
    have later := does_contexts env guarded player s _ does
    have closed : player ∈ players → (∀ other ∈ players, ShutTwice s player other) →
        ((shutdownPlayer env player s).contexts player).finalizing = true := by
      intro member twice
      rcases twice player member rfl with finalizing | stays
      · rw [shutdownPlayer,if_pos finalizing]
        exact finalizing
      · exact shutdownPlayer_finalizing env player s running stays
    rw [List.foldl_cons]
    apply ih _ _ _ (does_ledger env guarded player s _ does ledger)
    · rw [does_status env guarded player s _ does]
      exact running
    · intro guard
      obtain ⟨calms,twice⟩ := calms guard
      obtain ⟨first,rest⟩ := List.pairwise_cons.mp twice
      constructor
      · intro other member
        by_cases same : other = player
        · subst same
          rw [calm,closed member first]
          rfl
        · rw [calm,later other same]
          exact calms other (List.mem_cons_of_mem player member)
      · refine List.Pairwise.imp_of_mem ?_ rest
        intro one two oneMember _ before same
        by_cases hit : one = player
        · subst hit
          exact .inl (closed oneMember first)
        · rw [later one hit]
          exact before same

theorem onCommandShutdown_ledger (s : Loop)
    (calms : guarded → undisturbedCommand env s .shutdown = true) (ledger : Ledger guarded s) :
    Ledger guarded (onCommandShutdown env s) := by
  have started : Ledger guarded {s with shutdownStatus := .startShutdown} :=
    ledger_same guarded s _ rfl rfl rfl ledger
  rw [onCommandShutdown]
  apply shutdowns_ledger env guarded _ _ (by simp) _ started
  intro guard
  have both := calms guard
  rw [undisturbedCommand,Bool.and_eq_true,List.all_eq_true,decide_eq_true_eq] at both
  exact both

theorem send_ledger (s : Loop) (message : Message) (silent : ∀ success, quiet message success = true)
    (ledger : Ledger guarded s) : Ledger guarded (send env none message s) := by
  obtain ⟨books,queued,history⟩ := ledger
  refine ⟨fun player => ?_,queued,fun guard => ?_⟩
  · exact book_log guarded player _ s.log _
      (unchanged_quiet player none message _ s.log (silent _)) (books player)
  · exact loggedOut_cons _ s.log (by simp) (history guard)

theorem onCommandOnLoginReq_ledger (s : Loop) (sessionId : UInt32) (accountName : WString)
    (running : s.shutdownStatus ≠ .readyForShutdown)
    (calms : guarded → undisturbedCommand env s (.onLoginReq sessionId accountName) = true)
    (ledger : Ledger guarded s) :
    Ledger guarded (onCommandOnLoginReq env sessionId accountName s) := by
  rw [onCommandOnLoginReq]
  cases connected : s.loginServerContext.isConnected with
  | false => exact send_ledger env guarded s _ (fun _ => rfl) ledger
  | true =>
    simp only [undisturbedCommand,connected,Bool.not_true,Bool.false_or] at calms
    rw [Bool.not_true,if_neg Bool.false_ne_true]
    cases found : find accountName s.playerContextByName with
    | some player =>
      rw [found] at calms
      have told := send_ledger env guarded s (.onLoginFailedAck sessionId 2) (fun _ => rfl) ledger
      have opened := calm_open guarded (send env none (.onLoginFailedAck sessionId 2) s) player
        running calms
      exact does_ledger env guarded player _ _ (shutdownPlayer_does env guarded player _ opened) told
    | none =>
      rw [found] at calms
      cases allocated : s.playerContextPool.allocate with
      | mk taken pool =>
        rw [allocated] at calms
        cases taken with
        | none => exact send_ledger env guarded s _ (fun _ => rfl) ledger
        | some player =>
          dsimp only
          generalize placed : ({s with
            playerContextPool := pool
            playerContextByName := insert accountName player s.playerContextByName
            playerContextBySessionId := insert sessionId player s.playerContextBySessionId
            loginServerContext := {s.loginServerContext with
              players := insert sessionId player s.loginServerContext.players}
            log := .allocated player :: s.log} : Loop) = t
          have contexts : t.contexts = s.contexts := by rw [← placed]
          have log : t.log = .allocated player :: s.log := by rw [← placed]
          have queue : t.finalizingQueue = s.finalizingQueue := by rw [← placed]
          have status : t.shutdownStatus ≠ .readyForShutdown := by rw [← placed]; exact running
          have counted : Ledger guarded t := by
            obtain ⟨books,queued,history⟩ := ledger
            refine ⟨fun other => ?_,?_,fun guard => ?_⟩
            · rw [contexts,log]
              exact book_log guarded other _ s.log _
                (unchanged_cons other _ s.log (by simp) rfl rfl (by simp)) (books other)
            · rw [contexts,queue]
              exact queued
            · rw [log]
              exact loggedOut_cons _ s.log (by simp) (history guard)
          by_cases fresh : (t.contexts player).state = .none
          · have does := onLoginReq_does env guarded player t sessionId accountName fresh status
            refine does_ledger env guarded player _ _ does (ledger_fresh guarded player t _ ?_ rfl rfl
              ?_ (by rw [fresh]; rfl) ?_ counted)
            · intro other different
              rw [named,update_other _ _ _ _ different,setState,update_other _ _ _ _ different]
            · simp only [named,setState,update_same]
            · simp only [named,setState,update_same]
              rfl
          · rw [onLoginReq_busy env player t sessionId accountName fresh]
            have opened := calm_open guarded t player status fun guard => by
              have free := calms guard
              rw [calm,contexts]
              exact free
            exact does_ledger env guarded player t _ (shutdownPlayer_does env guarded player t opened)
              counted

theorem gateAllocAck_ledger (s : Loop) (player : Object) (gate : UInt8) (gateSessionId : UInt32)
    (opened : Open guarded player s) (ledger : Ledger guarded s) :
    Ledger guarded (gateAllocAck env player gate gateSessionId s) := by
  rcases gateAllocAck_does env guarded player s gate gateSessionId opened with
    does | ⟨-,t,does,context,switched⟩
  · exact does_ledger env guarded player s _ does ledger
  · rw [switched]
    let acked := setState player .gateAllocNtf t
    have ackedContext : acked.contexts player = {t.contexts player with state := .gateAllocNtf} :=
      update_same ..
    have frame := switch_frame player acked (s.contexts player).sessionId gateSessionId
    refine ledger_fresh guarded player t _ (fun other different => ?_) frame.log frame.queue ?_ ?_ ?_
      (does_ledger env guarded player s t does ledger)
    · rw [frame.others other different]
      exact update_other t player other _ different
    · rcases frame.own with own | own <;> rw [own,ackedContext]
    · rw [context]
      rfl
    · rcases frame.own with own | own <;> rw [own,ackedContext] <;> rfl

theorem onCommandGateAllocAck_ledger (s : Loop) (gate : UInt8) (loginSessionId : UInt32)
    (accountName : WString) (gateSessionId : UInt32) (running : s.shutdownStatus ≠ .readyForShutdown)
    (calms : guarded → undisturbedCommand env s
      (.gateAllocAck gate loginSessionId accountName gateSessionId) = true)
    (ledger : Ledger guarded s) :
    Ledger guarded (onCommandGateAllocAck env gate loginSessionId accountName gateSessionId s) := by
  rw [onCommandGateAllocAck]
  split
  next player found =>
    split
    next same =>
      have free : guarded → calm s player = true := by
        intro guard
        simpa [undisturbedCommand,found,same] using calms guard
      exact gateAllocAck_ledger env guarded s player gate gateSessionId
        (calm_open guarded s player running free) ledger
    next => exact ledger
  next => exact ledger

theorem onCommandPacketForward_ledger (s : Loop) (sessionId : UInt32) (typeId : UInt16)
    (data : List UInt8) (running : s.shutdownStatus ≠ .readyForShutdown)
    (calms : guarded → undisturbedCommand env s (.packetForward sessionId typeId data) = true)
    (ledger : Ledger guarded s) :
    Ledger guarded (onCommandPacketForward env sessionId typeId data s) := by
  apply forSession_ledger env guarded s sessionId _ ledger
  intro player found
  have delayed : Does env guarded player s (delaySendData typeId data s) :=
    .single (.note s (.received typeId data) (s.undefined || maxInputBuffer < data.length))
  refine delayed.trans ?_
  have free : guarded → harmless (env.onPacketReceived typeId data) = true ∨ calm s player = true := by
    intro guard
    simpa [undisturbedCommand,found] using calms guard
  cases quiets : harmless (env.onPacketReceived typeId data) with
  | true =>
    cases packet : env.onPacketReceived typeId data with
    | channelLeaveReq => exact .refl
    | other => exact .refl
    | _ => simp [packet,harmless] at quiets
  | false =>
    have opened := calm_open guarded s player running fun guard =>
      (free guard).resolve_left (by rw [quiets]; exact Bool.false_ne_true)
    exact handlePacket_does env guarded player (delaySendData typeId data s) _
      ⟨opened.settled,opened.running⟩

theorem onCommand_ledger (s : Loop) (command : Command)
    (calms : guarded → Undisturbed env s (.command command)) (ledger : Ledger guarded s) :
    Ledger guarded (onCommand env command s) := by
  unfold onCommand
  split
  · exact ledger
  next open_ =>
    have open_ : s.shutdownStatus = .notShutdown := by simpa using open_
    have running : s.shutdownStatus ≠ .readyForShutdown := by rw [open_]; simp
    have free : guarded → undisturbedCommand env s command = true := fun guard => calms guard open_
    cases command with
    | shutdown => exact onCommandShutdown_ledger env guarded s free ledger
    | onLoginReport => exact ledger_same guarded s _ rfl rfl rfl ledger
    | onGateReport serverId sessionCount =>
      dsimp only [onCommandOnGateReport]
      split <;> exact ledger_same guarded s _ rfl rfl rfl ledger
    | onLoginReq sessionId accountName =>
      exact onCommandOnLoginReq_ledger env guarded s sessionId accountName running free ledger
    | gateAllocAck gate loginSessionId accountName gateSessionId =>
      exact onCommandGateAllocAck_ledger env guarded s gate loginSessionId accountName gateSessionId
        running free ledger
    | onGateLoginReq sessionId =>
      apply forSession_ledger env guarded s sessionId _ ledger
      intro player found
      exact onGateLoginReq_does env guarded player s (calm_open guarded s player running fun guard => by
        simpa [undisturbedCommand,found] using free guard)
    | onRegionAllocAck sessionId region result =>
      apply forSession_ledger env guarded s sessionId _ ledger
      intro player found
      exact onRegionAllocAck_does env guarded player s region result
        (calm_open guarded s player running fun guard => by
          simpa [undisturbedCommand,found] using free guard)
    | onRegionLeaveReq sessionId =>
      apply forSession_ledger env guarded s sessionId _ ledger
      intro player _
      exact onRegionLeaveReq_does env guarded player s running
    | onRegionPlayerFailReq sessionId =>
      apply forSession_ledger env guarded s sessionId _ ledger
      intro player _
      exact onRegionPlayerFailReq_does env guarded player s
    | onSessionDisconnect sessionId =>
      apply forSession_ledger env guarded s sessionId _ ledger
      intro player found
      exact shutdownPlayer_does env guarded player s (calm_open guarded s player running fun guard => by
        simpa [undisturbedCommand,found] using free guard)
    | packetForward sessionId typeId data =>
      exact onCommandPacketForward_ledger env guarded s sessionId typeId data running free ledger
    | other => exact ledger

/-- While a queue is drained, its last context stays settled. -/
structure Draining (player : Object) (s : Loop) : Prop where
  books : ∀ other, Book guarded other (s.contexts other) s.log
  history : guarded → LoggedOut s.log
  settled : guarded → Settled player s.log

theorem deletePlayer_draining (s : Loop) (player : Object) (drains : Draining guarded player s) :
    Draining guarded player (deletePlayer player s) := by
  obtain ⟨books,history,settled⟩ := drains
  have deleted := deletePlayer_deleted player s
  refine ⟨fun other => ?_,fun guard => ?_,fun _ => .inl ?_⟩
  · rw [deleted.log,deleted.contexts]
    by_cases same : other = player
    · rw [same,Function.update_self]
      exact book_deleted guarded player s.log
    · rw [Function.update_of_ne same]
      exact book_log guarded other _ s.log _ (unchanged_deleted other player s.log same) (books other)
  · rw [deleted.log]
    refine loggedOut_cons _ s.log (fun other same => ?_) (history guard)
    obtain rfl := Event.deleted.inj same
    exact settled guard
  · rw [deleted.log,logins,lifetime]
    simp

theorem loopPass_ledger (s : Loop) (ledger : Ledger guarded s) : Ledger guarded (loopPass s) := by
  have drained : Ledger guarded (deleteFinalizing s) := by
    rw [deleteFinalizing]
    by_cases empty : s.finalizingQueue = []
    · rw [empty]
      exact ⟨ledger.books,by simp,ledger.history⟩
    · rw [drainBack_last deletePlayer s.finalizingQueue empty]
      let player := s.finalizingQueue.getLast empty
      have finalizing := ledger.queued player (List.getLast_mem empty)
      have start : Draining guarded player s :=
        ⟨ledger.books,ledger.history,fun guard => (ledger.books player).paid guard finalizing⟩
      have last := repeated_invariant (deletePlayer player) (Draining guarded player)
        (fun s => deletePlayer_draining guarded s player) s.finalizingQueue.length s start
      exact ⟨last.books,by simp,last.history⟩
  rw [loopPass]
  split
  · exact ledger_same guarded (deleteFinalizing s) _ rfl rfl rfl drained
  · exact drained

theorem step_ledger (s : Loop) (action : Action) (ledger : Ledger guarded s)
    (calms : guarded → Undisturbed env s action) : Ledger guarded (step env s action) := by
  cases action with
  | command command => exact onCommand_ledger env guarded s command calms ledger
  | pass => exact loopPass_ledger guarded s ledger

theorem init_ledger (config : MasterServerConfig) : Ledger guarded (.init config) := by
  have core := (init_unused config).core
  refine ⟨fun player => ?_,?_,fun _ => ?_⟩
  · rw [core.contexts,core.log]
    exact ⟨fun _ => ⟨rfl,rfl⟩,fun still => (by cases still),fun _ _ => .inl ⟨rfl,rfl⟩,
      fun _ still => (by cases still)⟩
  · rw [core.queue]
    simp [Loop.new]
  · rw [core.log]
    intro player past suffix
    simp [Loop.new] at suffix

end

/-- A player who was logged in to the cache is logged out exactly once before his context
is deleted, in every run in which nothing disturbs a wait for a region. -/
theorem run_loggedOut (env : Env) (actions : List Action)
    (undisturbed : Guarded (step env) (Undisturbed env) (.init env.config) actions) :
    LoggedOut (run (step env) (.init env.config) actions).log := by
  have ledger := run_invariant (step env) (Undisturbed env) (Ledger True)
    (fun s action ledger calms => step_ledger env True s action ledger fun _ => calms)
    (.init env.config) actions undisturbed (init_ledger True env.config)
  exact ledger.history trivial

theorem run_loggedOut_disconnect :
    let run := run (step (sampleEnv fun _ => true)) (.init (sampleEnv fun _ => true).config)
      (enterGate ++ [.command (.onSessionDisconnect gateSession),.pass])
    .deleted 0 ∈ run.log ∧ LoggedOut run.log :=
  ⟨by decide +kernel,run_loggedOut (sampleEnv fun _ => true) _ (by decide +kernel)⟩

/-- The second disconnect finds the player waiting for the region and queues him without
a logout. -/
theorem run_loggedOut_twice :
    ¬ LoggedOut (run (step (sampleEnv fun _ => true)) (.init (sampleEnv fun _ => true).config)
      (enterRegion ++ [.command (.onSessionDisconnect gateSession),
        .command (.onSessionDisconnect gateSession),.pass])).log := by
  generalize same : (run (step (sampleEnv fun _ => true)) (.init (sampleEnv fun _ => true).config)
      (enterRegion ++ [.command (.onSessionDisconnect gateSession),
        .command (.onSessionDisconnect gateSession),.pass])).log = log
  have deleted : .deleted 0 :: log.tail <:+ log := by
    rw [← same]
    decide +kernel
  have entered : logins 0 log.tail = [gateSession] := by
    rw [← same]
    decide +kernel
  have stayed : logouts 0 log.tail = [] := by
    rw [← same]
    decide +kernel
  intro fair
  rcases fair 0 log.tail deleted with none | ⟨sessionId,-,left⟩
  · rw [entered] at none
    cases none
  · rw [stayed] at left
    cases left

end Fantuan.MasterServer.Logouts
