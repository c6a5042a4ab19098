import Fantuan.Lib.Run
import Fantuan.MasterServer.Logouts

/-! The answer of the region to RegionLeaveReq. OnRegionLeaveReq leaves the waiting state,
but goes on only for the states of a channel leave, not for those of a finalizing player.
-/
namespace Fantuan.MasterServer.RegionAnswer
open Lib.Table Lib.Run ServerBase.ServerCommon Tool.ObjectPool PlayerFsm Context ServerLoop Player Commands
open PlayerSteps Handlers CacheLogins Logouts

/-- What the answer should bring about for a waiting player. -/
structure Answered (player : Object) (old new : Loop) : Prop where
  out : waiting (new.contexts player).state = false
  finalized : (old.contexts player).state = .finalizing_regionLeaveAck →
    (logouts player new.log).length = 1 ∧ queueings player new.log = 1
  returned : (old.contexts player).state = .onChannelLeave_regionLeaveAck →
    (new.contexts player).state = .channelListNtf

/-- Neither ChannelLeaveAck nor the SendData after it fails. -/
def Acknowledged (env : Env) (s : Loop) : Prop :=
  env.net s.log.length = true ∧ env.net (s.log.length + 1) = true

instance (env : Env) (s : Loop) : Decidable (Acknowledged env s) :=
  inferInstanceAs (Decidable (_ ∧ _))

section
variable (env : Env) (player : Object)

theorem sendIf_unchanged (s : Loop) (need : Bool) (message : Message)
    (silent : ∀ success, quiet message success = true) :
    Unchanged player s.log (sendIf env need player message s).log := by
  cases need with
  | false => exact unchanged_refl player s.log
  | true => exact unchanged_quiet player (some player) message _ s.log (silent _)

theorem finishShutdown_counts (s : Loop) (needs : ShutdownNeeds)
    (running : s.shutdownStatus ≠ .readyForShutdown) (leaves : needs.cacheDisconnect = true) :
    let t := finishShutdown env needs player s
    (logouts player t.log).length = (logouts player s.log).length + 1 ∧
      queueings player t.log = queueings player s.log + 1 ∧
      (t.contexts player).state = (s.contexts player).state := by
  have ready : isReadyForShutdown s = false := by simpa [isReadyForShutdown] using running
  let context := s.contexts player
  let failed := sendIf env needs.loginFailedAck player (.onLoginFailedAck context.sessionId 3) s
  let released := sendIf env needs.gateRelease player
    (.gateReleaseReq context.gateServerId context.sessionId context.accountName) failed
  let left := sendIf env needs.gateDisconnect player
    (.disconnect context.gateServerId context.sessionId) released
  have same : Unchanged player s.log left.log := by
    have first := sendIf_unchanged env player s needs.loginFailedAck
      (.onLoginFailedAck context.sessionId 3) fun _ => rfl
    have second := sendIf_unchanged env player failed needs.gateRelease
      (.gateReleaseReq context.gateServerId context.sessionId context.accountName) fun _ => rfl
    have third := sendIf_unchanged env player released needs.gateDisconnect
      (.disconnect context.gateServerId context.sessionId) fun _ => rfl
    exact unchanged_trans player _ _ _ (unchanged_trans player _ _ _ first second) third
  have contexts : left.contexts = s.contexts := by
    simp only [left,released,failed,sendIf_contexts]
  have finished : finishShutdown env needs player s = addPlayerToFinalizingQueue player
      (send env (some player) (.cacheOnLogoutReq context.sessionId) left) := by
    simp only [finishShutdown,ready,leaves,Bool.not_false,Bool.and_true]
    rfl
  rw [finished]
  refine ⟨?_,?_,?_⟩
  · change (logouts player (.queued player :: .sent (some player) (.cacheOnLogoutReq context.sessionId)
      (env.net left.log.length) :: left.log)).length = _
    rw [logouts_cons player _ _ (by simp),logouts_cons player _ _ (by simp),same.logouts]
    simp [logout]
  · change queueings player (.queued player :: .sent (some player) (.cacheOnLogoutReq context.sessionId)
      (env.net left.log.length) :: left.log) = _
    rw [queueings_cons player _ _ (by simp),queueings_cons player _ _ (by simp),same.queueings]
    simp
  · change ((left.update player fun context => {context with finalizing := true}).contexts player).state = _
    rw [update_same,contexts]

theorem shutdownPlayer_counts (s : Loop) (active : (s.contexts player).finalizing = false)
    (running : s.shutdownStatus ≠ .readyForShutdown)
    (left : (s.contexts player).state = .finalizing_onRegionLeaveReq ∨
      (s.contexts player).state = .onChannelLeave_onRegionLeaveReq) :
    let t := shutdownPlayer env player s
    (logouts player t.log).length = (logouts player s.log).length + 1 ∧
      queueings player t.log = queueings player s.log + 1 ∧
      (t.contexts player).state = (s.contexts player).state := by
  have needs : shutdownNeeds (s.contexts player).state = {gateDisconnect := true, cacheDisconnect := true} := by
    rcases left with state | state <;> rw [state] <;> rfl
  have begun : begin player s = s := by
    rcases left with state | state <;> rw [begin,state,if_neg (by simp)]
  rw [shutdownPlayer_running env player s active running,needs,begun]
  exact finishShutdown_counts env player s _ running rfl

theorem shutdownPlayer_state (s : Loop) (running : s.shutdownStatus ≠ .readyForShutdown)
    (left : (s.contexts player).state = .finalizing_onRegionLeaveReq ∨
      (s.contexts player).state = .onChannelLeave_onRegionLeaveReq) :
    ((shutdownPlayer env player s).contexts player).state = (s.contexts player).state := by
  cases finalizing : (s.contexts player).finalizing with
  | true => rw [shutdownPlayer,if_pos finalizing]
  | false => exact (shutdownPlayer_counts env player s finalizing running left).2.2

/-- The state in which OnRegionLeaveReq starts to send. -/
def answered (player : Object) (next : PlayerState) (s : Loop) : Loop :=
  deletePlayerFromRegionServerContext player (setState player next s)

theorem answered_context (s : Loop) (next : PlayerState) :
    (answered player next s).contexts player = {s.contexts player with state := next} :=
  update_same s player fun context => {context with state := next}

theorem onRegionLeaveReq_acknowledged (s : Loop) (next : PlayerState)
    (reached : reaches .onRegionLeaveReq player s = some next) (acked : Acknowledged env s) :
    ∃ t, t.contexts player = {s.contexts player with state := next} ∧
      Unchanged player s.log t.log ∧
      onRegionLeaveReq env player s = match next with
        | .onChannelLeave_onRegionLeaveReq =>
          stateTransition .channelListNtf player (sendChannelList env player t).2
        | .onChannelLeave_regionLeaveAck =>
          attempt env player (fun s => .cacheOnLogoutReq (s.contexts player).sessionId)
            (fun s => shutdownPlayer env player (stateTransition .logout player s)) t
        | _ => t := by
  let left := answered player next s
  let written := write env player .channelLeaveAck left
  let sent := send env (some player) (toClient player written) written
  have writes : sends env left = true := acked.1
  have length : written.log.length = s.log.length + 1 := by
    simp only [written,write]
    split <;> rfl
  have forwards : sends env written = true := by
    rw [sends,length]
    exact acked.2
  have writtenLog : written.log = .sent (some player) (.client .channelLeaveAck) true :: s.log := by
    simp only [written,write,writes,if_true]
    rw [← writes]
    rfl
  have context : sent.contexts player = {s.contexts player with state := next} :=
    (congrFun (write_contexts env player left .channelLeaveAck) player).trans
      (answered_context player s next)
  have quiets : Unchanged player s.log sent.log := by
    have first : Unchanged player s.log written.log := by
      rw [writtenLog]
      exact unchanged_quiet player _ _ true s.log rfl
    exact unchanged_trans player _ _ _ first (unchanged_quiet player _ _ _ written.log rfl)
  refine ⟨sent,context,quiets,?_⟩
  rw [onRegionLeaveReq]
  rw [reached,if_neg (by simp),stateTransition_reached player s _ next reached]
  change (if sends env left then attempt env player (toClient player) _ written
    else shutdownPlayer env player written) = _
  rw [if_pos writes,attempt,if_pos forwards]
  change (match (sent.contexts player).state with
    | .onChannelLeave_onRegionLeaveReq => _
    | .onChannelLeave_regionLeaveAck => _
    | _ => sent) = _
  rw [context]

theorem onRegionLeaveReq_failed (s : Loop) (next : PlayerState)
    (reached : reaches .onRegionLeaveReq player s = some next) (failed : ¬ Acknowledged env s) :
    ∃ t, t.contexts player = {s.contexts player with state := next} ∧
      Unchanged player s.log t.log ∧ t.shutdownStatus = s.shutdownStatus ∧
      onRegionLeaveReq env player s = shutdownPlayer env player t := by
  let left := answered player next s
  let written := write env player .channelLeaveAck left
  let sent := send env (some player) (toClient player written) written
  have length : written.log.length = s.log.length + 1 := by
    simp only [written,write]
    split <;> rfl
  have context : written.contexts player = {s.contexts player with state := next} :=
    (congrFun (write_contexts env player left .channelLeaveAck) player).trans
      (answered_context player s next)
  have status : written.shutdownStatus = s.shutdownStatus := write_status env player left _
  have quiets : Unchanged player s.log written.log := by
    have one : written.log = .sent (some player) (.client .channelLeaveAck)
        (env.net s.log.length) :: s.log := by
      simp only [written,write]
      split <;> rfl
    rw [one]
    exact unchanged_quiet player _ _ _ s.log rfl
  have start : onRegionLeaveReq env player s =
      if sends env left then attempt env player (toClient player) (fun s =>
        match (s.contexts player).state with
        | .onChannelLeave_onRegionLeaveReq =>
          stateTransition .channelListNtf player (sendChannelList env player s).2
        | .onChannelLeave_regionLeaveAck =>
          attempt env player (fun s => .cacheOnLogoutReq (s.contexts player).sessionId)
            (fun s => shutdownPlayer env player (stateTransition .logout player s)) s
        | _ => s) written
      else shutdownPlayer env player written := by
    rw [onRegionLeaveReq]
    rw [reached,if_neg (by simp),stateTransition_reached player s _ next reached]
    rfl
  by_cases writes : sends env left = true
  · have blocked : sends env written = false := by
      rw [sends,length]
      by_contra other
      exact failed ⟨writes,by simpa using other⟩
    refine ⟨sent,context,?_,status,?_⟩
    · exact unchanged_trans player _ _ _ quiets (unchanged_quiet player _ _ _ written.log rfl)
    · rw [start,if_pos writes,attempt,if_neg (by rw [blocked]; exact Bool.false_ne_true)]
  · exact ⟨written,context,quiets,status,by rw [start,if_neg writes]⟩

end

/-- For a finalizing player: a failing send, unless he was queued before; then he must
have been logged out. For a channel leave: both sends. -/
def AnswerWorks (env : Env) (player : Object) (s : Loop) : Prop :=
  s.shutdownStatus = .notShutdown ∧
    if (s.contexts player).state = .finalizing_regionLeaveAck then
      if (s.contexts player).finalizing = true then (logouts player s.log).length = 1
      else ¬ Acknowledged env s
    else Acknowledged env s

instance (env : Env) (player : Object) (s : Loop) : Decidable (AnswerWorks env player s) :=
  inferInstanceAs (Decidable (_ ∧ ite _ (ite _ _ _) _))

section
variable (env : Env) (player : Object)

theorem finalizing_answered_iff (s : Loop) (book : Book False player (s.contexts player) s.log)
    (running : s.shutdownStatus ≠ .readyForShutdown)
    (state : (s.contexts player).state = .finalizing_regionLeaveAck) :
    Answered player s (onRegionLeaveReq env player s) ↔
      if (s.contexts player).finalizing = true then (logouts player s.log).length = 1
      else ¬ Acknowledged env s := by
  have reached : reaches .onRegionLeaveReq player s = some .finalizing_onRegionLeaveReq := by
    rw [reaches,state]
    rfl
  have other : (s.contexts player).state ≠ .onChannelLeave_regionLeaveAck := by
    rw [state]
    simp
  have counted (t : Loop) (here : (t.contexts player).state = .finalizing_onRegionLeaveReq) :
      Answered player s t ↔ (logouts player t.log).length = 1 ∧ queueings player t.log = 1 := by
    constructor
    · intro answered
      exact answered.finalized state
    · intro counts
      exact ⟨by rw [here]; rfl,fun _ => counts,fun wrong => absurd wrong other⟩
  by_cases acked : Acknowledged env s
  · obtain ⟨t,context,same,result⟩ := onRegionLeaveReq_acknowledged env player s _ reached acked
    have whole : onRegionLeaveReq env player s = t := result
    rw [whole,counted t (by rw [context]),same.logouts,same.queueings]
    cases finalizing : (s.contexts player).finalizing with
    | true => simp [(book.retired finalizing).1]
    | false => simp [(book.active finalizing).1,acked]
  · obtain ⟨t,context,same,status,result⟩ := onRegionLeaveReq_failed env player s _ reached acked
    rw [result]
    cases finalizing : (s.contexts player).finalizing with
    | true =>
      have still : (t.contexts player).finalizing = true := by rw [context]; exact finalizing
      rw [shutdownPlayer,if_pos still,counted t (by rw [context]),same.logouts,same.queueings]
      simp [(book.retired finalizing).1]
    | false =>
      have still : (t.contexts player).finalizing = false := by rw [context]; exact finalizing
      obtain ⟨outs,queues,here⟩ := shutdownPlayer_counts env player t still
        (by rw [status]; exact running) (by simp [context])
      rw [context] at here
      rw [counted _ here,outs,queues,same.logouts,same.queueings]
      simp [book.active finalizing,acked]

theorem channelLeave_answered_iff (s : Loop) (running : s.shutdownStatus ≠ .readyForShutdown)
    (state : (s.contexts player).state = .onChannelLeave_regionLeaveAck) :
    Answered player s (onRegionLeaveReq env player s) ↔ Acknowledged env s := by
  have reached : reaches .onRegionLeaveReq player s = some .onChannelLeave_onRegionLeaveReq := by
    rw [reaches,state]
    rfl
  have other : (s.contexts player).state ≠ .finalizing_regionLeaveAck := by
    rw [state]
    simp
  by_cases acked : Acknowledged env s
  · obtain ⟨t,context,-,result⟩ := onRegionLeaveReq_acknowledged env player s _ reached acked
    have listed : ((sendChannelList env player t).2.contexts player).state =
        .onChannelLeave_onRegionLeaveReq := by
      rw [sendChannelList_contexts,context]
    have next : reaches .channelListNtf player (sendChannelList env player t).2 =
        some .channelListNtf := by
      rw [reaches,listed]
      rfl
    have here : ((onRegionLeaveReq env player s).contexts player).state = .channelListNtf := by
      rw [result]
      dsimp only
      rw [stateTransition_reached player _ _ _ next,setState,update_same]
    exact ⟨fun _ => acked,fun _ => ⟨by rw [here]; rfl,fun wrong => absurd wrong other,fun _ => here⟩⟩
  · obtain ⟨t,context,-,status,result⟩ := onRegionLeaveReq_failed env player s _ reached acked
    refine ⟨fun answered => absurd (answered.returned state) ?_,fun both => absurd both acked⟩
    have stays := shutdownPlayer_state env player t (by rw [status]; exact running)
      (by simp [context])
    rw [result,stays,context]
    simp

end

/-- In every reachable state, the region's answer takes a waiting player where he should
go exactly when `AnswerWorks`. -/
theorem onRegionLeaveReq_answered_iff (env : Env) (actions : List Action) (sessionId : UInt32)
    (player : Object) (found : find sessionId
      (run (step env) (.init env.config) actions).playerContextBySessionId = some player)
    (waits : waiting ((run (step env) (.init env.config) actions).contexts player).state = true) :
    Answered player (run (step env) (.init env.config) actions)
        (step env (run (step env) (.init env.config) actions) (.command (.onRegionLeaveReq sessionId))) ↔
      AnswerWorks env player (run (step env) (.init env.config) actions) := by
  have ledger : Ledger False (run (step env) (.init env.config) actions) :=
    run_invariant (step env) (fun _ _ => True) (Ledger False)
      (fun s action ledger _ => step_ledger env False s action ledger False.elim)
      (.init env.config) actions (guarded_true _ _ _) (init_ledger False env.config)
  generalize run (step env) (.init env.config) actions = s at *
  have book := ledger.books player
  by_cases open_ : s.shutdownStatus = .notShutdown
  case neg =>
    have stuck : step env s (.command (.onRegionLeaveReq sessionId)) = s := by
      simp only [step,onCommand]
      rw [if_pos open_]
    rw [stuck,AnswerWorks]
    constructor
    · intro answered
      have out := answered.out
      rw [waits] at out
      cases out
    · intro works
      exact absurd works.1 open_
  have running : s.shutdownStatus ≠ .readyForShutdown := by rw [open_]; simp
  have handled : step env s (.command (.onRegionLeaveReq sessionId)) = onRegionLeaveReq env player s := by
    simp only [step,onCommand]
    rw [if_neg (by simpa using open_),forSession,found]
  rw [handled,AnswerWorks]
  by_cases state : (s.contexts player).state = .finalizing_regionLeaveAck
  · rw [finalizing_answered_iff env player s book running state,if_pos state]
    exact ⟨fun works => ⟨open_,works⟩,And.right⟩
  · have leave : (s.contexts player).state = .onChannelLeave_regionLeaveAck := by
      cases here : (s.contexts player).state <;> simp_all [waiting]
    rw [channelLeave_answered_iff env player s running leave,if_neg state]
    exact ⟨fun works => ⟨open_,works⟩,And.right⟩

/-- The ChannelLeaveAck of a disconnected player fails: he is logged out and queued. -/
theorem onRegionLeaveReq_answered_failing :
    let env := sampleEnv fun n => n ≠ 16
    let s := run (step env) (.init env.config)
      (enterRegion ++ [.command (.onSessionDisconnect gateSession)])
    Answered 0 s (step env s (.command (.onRegionLeaveReq gateSession))) :=
  (onRegionLeaveReq_answered_iff (sampleEnv fun n => n ≠ 16) _ gateSession 0 (by decide +kernel)
    (by decide +kernel)).mpr (by decide +kernel)

/-- When all sends succeed the player stays, neither logged out nor queued. -/
theorem onRegionLeaveReq_answered_stuck :
    let env := sampleEnv fun _ => true
    let s := run (step env) (.init env.config)
      (enterRegion ++ [.command (.onSessionDisconnect gateSession)])
    ¬ Answered 0 s (step env s (.command (.onRegionLeaveReq gateSession))) := by
  intro env s answered
  have state : (s.contexts 0).state = .finalizing_regionLeaveAck := by decide +kernel
  have none : queueings 0 (step env s (.command (.onRegionLeaveReq gateSession))).log = 0 := by
    decide +kernel
  have one := (answered.finalized state).2
  rw [none] at one
  cases one

end Fantuan.MasterServer.RegionAnswer
