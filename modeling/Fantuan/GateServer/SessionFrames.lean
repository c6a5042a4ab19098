import Fantuan.GateServer.Indexes

/-! What the commands of the gate leave of a session, unless they allocate, bind or clear it: its id
and its region, and the times of one that has just been connected.
-/
namespace Fantuan.GateServer.SessionFrames
open Lib.Table Lib.Drain ServerBase.ServerCommon Tool.ObjectPool Tool.StateMachine ServerLoop Session
  Commands SessionSteps

/-- The states before an account has logged in on the session. -/
def isEarly : SessionState → Bool
  | .none | .onConnection | .onGateAllocReq | .gateAllocAck => true
  | _ => false

structure Frame (old new : GateSession) : Prop where
  sessionId : new.sessionId = old.sessionId
  regionServer : new.regionServer = old.regionServer
  early : isEarly new.state = true → isEarly old.state = true
  connecting : new.state = .onConnection → old.state = .onConnection ∧
    new.connectionTime = old.connectionTime ∧ new.connection = old.connection

structure Frames (s t : Gate) : Prop where
  clock : t.currTime = s.currTime
  sessionMap : s.sessionMap = ∅ → t.sessionMap = ∅
  data : ∀ session, Frame (s.sessions session) (t.sessions session)

theorem frame_refl (data : GateSession) : Frame data data := ⟨rfl,rfl,id,fun state => ⟨state,rfl,rfl⟩⟩

theorem frame_trans (one two three : GateSession) (first : Frame one two) (second : Frame two three) :
    Frame one three := by
  refine ⟨second.sessionId.trans first.sessionId,second.regionServer.trans first.regionServer,
    fun early => first.early (second.early early),fun connecting => ?_⟩
  obtain ⟨before,time,connection⟩ := second.connecting connecting
  obtain ⟨state,kept,own⟩ := first.connecting before
  exact ⟨state,time.trans kept,connection.trans own⟩

theorem frame_left (old new : GateSession) (sessionId : new.sessionId = old.sessionId)
    (regionServer : new.regionServer = old.regionServer)
    (early : isEarly new.state = true → isEarly old.state = true) (left : new.state ≠ .onConnection) :
    Frame old new := ⟨sessionId,regionServer,early,fun connecting => absurd connecting left⟩

theorem early_transition (state next : SessionState) (event : SessionEvent) (plain : plainEvent event = true)
    (reached : transition state event = some next) :
    (isEarly next = true → isEarly state = true) ∧ (next = .onConnection → state = .onConnection) := by
  have rows : ∀ row ∈ initStateMachine state, plainEvent row.1 = true →
      (isEarly row.2 = true → isEarly state = true) ∧ (row.2 = .onConnection → state = .onConnection) := by
    cases state <;> decide
  exact rows _ (outputState_mem initStateMachine state next event reached) plain

section
variable (env : Env) (s : Gate)

theorem frames_same (t : Gate) (clock : t.currTime = s.currTime) (sessionMap : t.sessionMap = s.sessionMap)
    (sessions : t.sessions = s.sessions) : Frames s t := by
  refine ⟨clock,fun empty => sessionMap.trans empty,fun session => ?_⟩
  rw [sessions]
  exact frame_refl _

theorem frames_refl : Frames s s := frames_same s s rfl rfl rfl

theorem frames_trans (t u : Gate) (first : Frames s t) (second : Frames t u) : Frames s u :=
  ⟨second.clock.trans first.clock,fun empty => second.sessionMap (first.sessionMap empty),
    fun session => frame_trans _ _ _ (first.data session) (second.data session)⟩

theorem update_frames (session : Object) (change : GateSession → GateSession)
    (frame : Frame (s.sessions session) (change (s.sessions session))) : Frames s (s.update session change) := by
  refine ⟨rfl,id,fun other => ?_⟩
  by_cases same : other = session
  · rw [same,update_same]
    exact frame
  · rw [update_other s session other change same]
    exact frame_refl _

theorem note_frames (event : Event) : Frames s (s.note event) := frames_same s _ rfl rfl rfl

theorem setState_frames (event : SessionEvent) (session : Object) (next : SessionState)
    (plain : plainEvent event = true) (reached : reaches event session s = some next) :
    Frames s (setState session next s) := by
  obtain ⟨early,connecting⟩ := early_transition _ next event plain reached
  exact update_frames s session _ ⟨rfl,rfl,early,fun state => ⟨connecting state,rfl,rfl⟩⟩

theorem stateTransition_frames (event : SessionEvent) (session : Object) (plain : plainEvent event = true) :
    Frames s (stateTransition event session s) := by
  cases reached : reaches event session s with
  | none =>
    rw [stateTransition_none s session event reached]
    exact frames_refl s
  | some next =>
    rw [stateTransition_reached s session event next reached]
    exact setState_frames s event session next plain reached

theorem asyncDisconnect_frames (connection : Option Nat) : Frames s (asyncDisconnect connection s) := by
  cases connection with
  | none => exact frames_same s _ rfl rfl rfl
  | some connection => exact note_frames s _

theorem pushFinalizing_frames (session : Object) : Frames s (pushFinalizing session s) := by
  have closed := update_frames s session (fun data => {data with finalizing := true})
    ⟨rfl,rfl,id,fun state => ⟨state,rfl,rfl⟩⟩
  exact frames_trans s _ _ closed (frames_same _ _ rfl rfl rfl)

theorem closeSession_frames (session : Object) (isByMaster : Bool) :
    Frames s (closeSession env session isByMaster s) := by
  rw [closeSession]
  split
  · exact frames_refl s
  · split
    · exact asyncDisconnect_frames s _
    · split
      · exact frames_trans s _ _ (note_frames s _) (pushFinalizing_frames _ session)
      · exact pushFinalizing_frames s session

theorem closeConnection_frames (session : Object) (left : (s.sessions session).state ≠ .onConnection) :
    Frames s (closeConnection session s) := by
  rw [closeConnection]
  split
  · exact frames_trans s _ _ (note_frames s _)
      (update_frames _ session _ (frame_left _ _ rfl rfl id left))
  · exact frames_refl s

theorem onDisconnect_frames (session : Object) : Frames s (onDisconnect env session s) := by
  rw [onDisconnect]
  split
  · exact frames_refl s
  next next reached =>
    have left : next ≠ .onConnection := by
      have rows : ∀ row ∈ initStateMachine (s.sessions session).state, row.1 = .onDisconnect →
          row.2 ≠ .onConnection := by
        cases (s.sessions session).state <;> decide
      exact rows _ (outputState_mem initStateMachine _ next _ reached) rfl
    have moved := setState_frames s .onDisconnect session next rfl reached
    have closed := frames_trans s _ _ moved (closeConnection_frames (setState session next s) session (by
      rw [setState,update_same]
      exact left))
    dsimp only
    generalize closeConnection session (setState session next s) = t at closed ⊢
    have sent := frames_trans s _ _ closed (note_frames t (.sent (sessionDisconnect session t) (sends env t)))
    split
    · split
      · exact frames_trans s _ _ closed (closeSession_frames env t session false)
      · split
        · exact frames_trans s _ _ (frames_trans s _ _ sent (stateTransition_frames _ .sessionDisconnectReq session rfl))
            (closeSession_frames env _ session false)
        · exact sent
    · split
      · exact frames_trans s _ _ sent (closeSession_frames env _ session false)
      · exact sent
    · exact closed

theorem disconnect_frames (session : Object) : Frames s (disconnect env session s) := by
  rw [disconnect]
  split
  · exact frames_refl s
  · split
    · exact frames_refl s
    next next reached =>
      have moved := setState_frames s .disconnect session next rfl reached
      dsimp only
      split
      · exact frames_trans s _ _ moved (asyncDisconnect_frames _ _)
      · exact frames_trans s _ _ moved (onDisconnect_frames env _ session)

theorem onGateReleaseReq_frames (session : Object) : Frames s (onGateReleaseReq env session s) := by
  rw [onGateReleaseReq]
  split
  · exact frames_refl s
  · exact frames_trans s _ _ (stateTransition_frames s .gateReleaseReq session rfl)
      (closeSession_frames env _ session true)

theorem onMasterDisconnect_frames (session : Object) : Frames s (onMasterDisconnect session s) := by
  have moved := stateTransition_frames s .onMasterDisconnect session rfl
  rw [onMasterDisconnect]
  split
  · exact frames_refl s
  · dsimp only
    split
    · exact frames_trans s _ _ moved (asyncDisconnect_frames _ _)
    · exact moved

theorem clone_frames (session temp : Object) (left : (s.sessions session).state ≠ .onConnection) :
    Frames s (clone session temp s) := by
  rw [clone]
  split
  · exact frames_refl s
  · have cloned := update_frames s session (fun data => {data with
      connectionTime := (s.sessions temp).connectionTime
      loggedInTime := (s.sessions temp).loggedInTime
      connection := (s.sessions temp).connection
      accountName := (s.sessions temp).accountName}) (frame_left _ _ rfl rfl id left)
    dsimp only
    split
    · exact frames_trans s _ _ cloned (frames_same _ _ rfl rfl rfl)
    · exact frames_trans s _ _ cloned (frames_same _ _ rfl rfl rfl)

theorem onSessionTransfered_frames (session : Object) : Frames s (onSessionTransfered env session s) := by
  have moved := stateTransition_frames s .transfered session rfl
  rw [onSessionTransfered]
  dsimp only
  split
  · have sent := frames_trans s _ _ moved (note_frames _ (.sent (.onGateLoginReq
      ((stateTransition .transfered session s).sessions session).sessionId
      ((stateTransition .transfered session s).sessions session).accountName)
      (sends env (stateTransition .transfered session s))))
    split
    · exact frames_trans s _ _ sent (stateTransition_frames _ .gateLoginReq session rfl)
    · exact frames_trans s _ _ sent (disconnect_frames env _ session)
  · exact moved

theorem transferSession_frames (tempSessionId : UInt32) (accountName : WString) :
    Frames s (transferSession env tempSessionId accountName s).2 := by
  rw [transferSession]
  split
  · exact frames_refl s
  next session _ =>
    dsimp only
    split
    · exact frames_refl s
    next waits =>
      have left : (s.sessions session).state ≠ .onConnection := by
        intro connecting
        rw [connecting] at waits
        exact waits ⟨SessionState.noConfusion,SessionState.noConfusion⟩
      split
      next temp _ =>
        exact frames_trans s _ _ (clone_frames s session temp left) (onSessionTransfered_frames env _ session)
      · have marked : Frames s {s with undefined := true} := frames_same s _ rfl rfl rfl
        exact frames_trans s _ _ marked (onSessionTransfered_frames env _ session)

theorem loggedInNtf_frames (temp : Object) : Frames s (loggedInNtf env temp s).2 := by
  have transfer := transferSession_frames env s (s.sessions temp).sessionId (s.sessions temp).accountName
  rw [loggedInNtf]
  dsimp only
  split
  · exact frames_refl s
  · split
    next failed result =>
      rw [result] at transfer
      exact frames_trans s _ _ transfer (disconnect_frames env failed temp)
    next transfered result =>
      rw [result] at transfer
      have moved := frames_trans s _ _ transfer (stateTransition_frames transfered .loggedIn temp rfl)
      split
      · exact frames_trans s _ _ moved (closeSession_frames env _ temp false)
      · exact moved

theorem handleLoginPacket_frames (session : Object) (login : Login) :
    Frames s (handleLoginPacket env session login s) := by
  have named (accountName : WString) : Frames s (setAccountName session accountName s) :=
    update_frames s session _ ⟨rfl,rfl,id,fun state => ⟨state,rfl,rfl⟩⟩
  cases login with
  | waiting => exact frames_refl s
  | refused accountName => exact frames_trans s _ _ (named accountName) (disconnect_frames env _ session)
  | token accountName =>
    have done := frames_trans s _ _ (named accountName) (loggedInNtf_frames env _ session)
    rw [handleLoginPacket]
    split
    next loggedIn result =>
      rw [result] at done
      exact done
    next failed result =>
      rw [result] at done
      exact frames_trans s _ _ done (disconnect_frames env failed session)

theorem handlePacket_frames (session : Object) : Frames s (handlePacket env session s) := by
  have sent := note_frames s (.sent (.packetForward (s.sessions session).sessionId) (sends env s))
  rw [handlePacket]
  split
  · exact sent
  · exact frames_trans s _ _ sent (disconnect_frames env _ session)

theorem onData_frames (session : Object) (login : Login) (packets : Nat) :
    Frames s (onData env session login packets s) := by
  rw [onData]
  split
  · exact frames_refl s
  · split
    · exact handleLoginPacket_frames env s session login
    · refine repeated_invariant (handlePacket env session) (Frames s) ?_ packets s (frames_refl s)
      exact fun t reach => frames_trans s _ _ reach (handlePacket_frames env t session)

theorem visits_frames (visit : Gate → Object → Gate) (frames : ∀ t session, Frames t (visit t session))
    (sessions : List Object) : Frames s (sessions.foldl visit s) := by
  induction sessions generalizing s with
  | nil => exact frames_refl s
  | cons session sessions ih => exact frames_trans s _ _ (frames s session) (ih _)

theorem checkSession_frames (session : Object) : Frames s (checkSession env s session) := by
  rw [checkSession]
  split
  · exact disconnect_frames env s session
  · exact frames_refl s

theorem whileRunning_frames (handle : Gate → Gate) (frames : Frames s (handle s)) :
    Frames s (whileRunning handle s) := by
  rw [whileRunning]
  split
  · exact frames
  · exact frames_refl s

theorem forSession_frames (sessionId : UInt32) (handle : Object → Gate → Gate)
    (frames : ∀ session, Frames s (handle session s)) : Frames s (forSession sessionId handle s) := by
  rw [forSession]
  split
  next session _ => exact frames session
  · exact frames_same s _ rfl rfl rfl

theorem unmapSession_frames (session : Object) : Frames s (unmapSession session s) := by
  refine ⟨rfl,fun empty => ?_,fun _ => frame_refl _⟩
  change erase _ s.sessionMap = ∅
  rw [empty]
  rfl

/-- The actions that allocate, bind or clear no session and leave the clock alone. -/
def plainAction : Action → Bool
  | .onConnect _ | .gateAllocReq _ _ | .regionBindReq _ _ | .tick _ | .pass => false
  | _ => true

theorem step_frames (action : Action) (plain : plainAction action = true) : Frames s (step env s action) := by
  cases action with
  | onConnect => cases plain
  | gateAllocReq => cases plain
  | regionBindReq => cases plain
  | tick => cases plain
  | pass => cases plain
  | onData connection login packets =>
    rw [step]
    split
    · refine whileRunning_frames s _ ?_
      rw [onCommandOnData]
      split
      · split
        · exact frames_refl s
        · exact onData_frames env s _ login packets
      · exact frames_refl s
    · exact frames_refl s
  | onDisconnect connection =>
    rw [step]
    split
    · have hung : Frames s (hangUp connection s) := frames_same s _ rfl rfl rfl
      rw [onCommandOnDisconnect]
      split
      next session _ =>
        exact frames_trans s _ _ (frames_trans s _ _ hung (unmapSession_frames _ session))
          (onDisconnect_frames env _ session)
      · exact hung
    · exact frames_refl s
  | disconnect sessionId => exact forSession_frames s sessionId _ (onMasterDisconnect_frames s)
  | shutdown =>
    have begun : Frames s {s with shutdownStatus := .startShutdown} := frames_same s _ rfl rfl rfl
    refine frames_trans s _ _ begun (visits_frames _ _ (fun t session => ?_) _)
    split
    · exact disconnect_frames env t session
    · exact closeSession_frames env t session false
  | gateReleaseReq loginSessionId accountName =>
    refine whileRunning_frames s _ ?_
    rw [onCommandGateReleaseReq]
    split
    next session _ => exact onGateReleaseReq_frames env s session
    · exact frames_refl s
  | checkSessionState => exact whileRunning_frames s _ (visits_frames s _ (checkSession_frames env) _)
  | reportState => exact whileRunning_frames s _ (note_frames s _)

end

/-- A use of a session begins, by a connection or for an account. -/
structure Begun (currTime : UInt32) (old new : GateSession) : Prop where
  free : old.state = .none
  regionServer : new.regionServer = old.regionServer
  early : isEarly new.state = true
  connecting : new.state = .onConnection → new.connectionTime = currTime ∧ new.connection.isSome = true

inductive Becomes (env : Env) (s : Gate) (action : Action) (session : Object) (new : GateSession) : Prop
  | kept (frame : Frame (s.sessions session) new)
  | cleared (state : new.state = .none) (regionServer : new.regionServer = .none)
  | begun (begun : Begun s.currTime (s.sessions session) new)
  | bound (sessionId : UInt32) (regionServerId : UInt8) (same : action = .regionBindReq sessionId regionServerId)
      (running : s.shutdownStatus = .notShutdown) (found : getSession sessionId s = some session)
      (active : (s.sessions session).finalizing = false)
      (data : new = {s.sessions session with
        regionServer := if env.hasPeerServer regionServerId then some regionServerId else .none})

section
variable (env : Env) (s : Gate) (session : Object)

theorem becomes_same (action : Action) (new : GateSession) (same : new = s.sessions session) :
    Becomes env s action session new := by
  rw [same]
  exact .kept (frame_refl _)

theorem onConnection_begins (owner : Object) (connection : Nat) :
    Frame (s.sessions session) ((onConnection owner connection s).sessions session) ∨
      Begun s.currTime (s.sessions session) ((onConnection owner connection s).sessions session) := by
  by_cases same : session = owner
  · rw [same]
    by_cases free : (s.sessions owner).state = .none
    · rw [onConnection_unused owner connection s free,update_same]
      exact .inr ⟨free,rfl,rfl,fun _ => ⟨rfl,rfl⟩⟩
    · rw [onConnection,if_neg fun reached => free (Indexes.fresh_none s owner _ _ rfl reached),update_same]
      exact .inl ⟨rfl,rfl,id,fun state => ⟨state,rfl,rfl⟩⟩
  · have kept : (onConnection owner connection s).sessions session = s.sessions session := by
      rw [onConnection,update_other _ owner session _ same]
      split
      · exact Function.update_of_ne same ..
      · rfl
    rw [kept]
    exact .inl (frame_refl _)

theorem onGateAllocReq_begins (owner : Object) (loginSessionId : UInt32) (accountName : WString) :
    Frame (s.sessions session) ((onGateAllocReq env owner loginSessionId accountName s).sessions session) ∨
      Begun s.currTime (s.sessions session)
        ((onGateAllocReq env owner loginSessionId accountName s).sessions session) := by
  by_cases free : (s.sessions owner).state = .none
  · rw [onGateAllocReq_unused env owner loginSessionId accountName s free]
    dsimp only
    by_cases same : session = owner
    · rw [same]
      refine .inr ?_
      split
      · rw [setState,update_same]
        change Begun _ _ {(Gate.update s owner (allocated loginSessionId accountName)).sessions owner with
          state := .gateAllocAck}
        rw [update_same]
        exact ⟨free,rfl,rfl,SessionState.noConfusion⟩
      · change Begun _ _ ((Gate.update s owner (allocated loginSessionId accountName)).sessions owner)
        rw [update_same]
        exact ⟨free,rfl,rfl,SessionState.noConfusion⟩
    · have first : (s.update owner (allocated loginSessionId accountName)).sessions session =
          s.sessions session := update_other s owner session _ same
      refine .inl ?_
      split
      · rw [setState,update_other _ owner session _ same]
        change Frame _ ((s.update owner (allocated loginSessionId accountName)).sessions session)
        rw [first]
        exact frame_refl _
      · change Frame _ ((s.update owner (allocated loginSessionId accountName)).sessions session)
        rw [first]
        exact frame_refl _
  · rw [onGateAllocReq,if_neg fun reached => free (Indexes.fresh_none s owner _ _ rfl reached)]
    exact .inl (frame_refl _)

theorem becomes_begins (action : Action) (new : GateSession)
    (begins : Frame (s.sessions session) new ∨ Begun s.currTime (s.sessions session) new) :
    Becomes env s action session new := begins.elim .kept .begun

theorem onConnect_becomes (connection : Nat) :
    Becomes env s (.onConnect connection) session ((step env s (.onConnect connection)).sessions session) := by
  rw [step]
  split
  · exact becomes_same env s session _ _ rfl
  · rw [whileRunning]
    split
    · rw [onCommandOnConnect]
      split
      · exact becomes_same env s session _ _ rfl
      · split
        · exact becomes_same env s session _ _ rfl
        next owner pool _ =>
          exact becomes_begins env s session _ _ (onConnection_begins
            {accept connection s with sessionPool := pool} session owner connection)
    · exact becomes_same env s session _ _ rfl

theorem gateAllocReq_becomes (loginSessionId : UInt32) (accountName : WString) :
    Becomes env s (.gateAllocReq loginSessionId accountName) session
      ((step env s (.gateAllocReq loginSessionId accountName)).sessions session) := by
  rw [step,whileRunning]
  split
  · rw [onCommandGateAllocReq]
    split
    · exact becomes_same env s session _ _ rfl
    · split
      · exact becomes_same env s session _ _ rfl
      · split
        · exact becomes_same env s session _ _ rfl
        next owner pool _ =>
          exact becomes_begins env s session _ _ (onGateAllocReq_begins env
            {s.note (.gateAllocReq loginSessionId accountName) with
              sessionPool := pool
              sessionCount := s.sessionCount + 1
              sessionMapByName := insert accountName owner s.sessionMapByName}
            session owner loginSessionId accountName)
  · exact becomes_same env s session _ _ rfl

theorem regionBindReq_becomes (sessionId : UInt32) (regionServerId : UInt8) :
    Becomes env s (.regionBindReq sessionId regionServerId) session
      ((step env s (.regionBindReq sessionId regionServerId)).sessions session) := by
  rw [step,whileRunning]
  split
  next running =>
    rw [forSession]
    split
    next owner found =>
      rw [onRegionBindReq]
      split
      · exact becomes_same env s session _ _ rfl
      next active =>
        by_cases same : session = owner
        · rw [same,update_same]
          exact .bound sessionId regionServerId rfl running found (Bool.eq_false_of_not_eq_true active) rfl
        · exact becomes_same env s session _ _ (update_other s owner session _ same)
    · exact becomes_same env s session _ _ rfl
  · exact becomes_same env s session _ _ rfl

theorem pass_becomes : Becomes env s .pass session ((step env s .pass).sessions session) := by
  have drained : (drainBack clearSession s.finalizingQueue s.toLoop).sessions session = s.sessions session ∨
      ((drainBack clearSession s.finalizingQueue s.toLoop).sessions session).state = .none ∧
        ((drainBack clearSession s.finalizingQueue s.toLoop).sessions session).regionServer = .none := by
    refine drainBack_invariant clearSession (fun loop => loop.sessions session = s.sessions session ∨
      (loop.sessions session).state = .none ∧ (loop.sessions session).regionServer = .none)
      s.finalizingQueue ?_ s.toLoop (.inl rfl)
    intro owner _ loop before
    dsimp only [clearSession]
    by_cases same : session = owner
    · rw [same,Function.update_self]
      exact .inr ⟨rfl,rfl⟩
    · rw [Function.update_of_ne same]
      exact before
  have result : (step env s .pass).sessions session =
      (drainBack clearSession s.finalizingQueue s.toLoop).sessions session := by
    change (loopPass s.toLoop).sessions session = _
    rw [loopPass]
    split <;> rfl
  rw [result]
  rcases drained with same | ⟨state,regionServer⟩
  · exact becomes_same env s session _ _ same
  · exact .cleared state regionServer

theorem step_becomes (action : Action) :
    Becomes env s action session ((step env s action).sessions session) := by
  by_cases plain : plainAction action = true
  · exact .kept ((step_frames env s action plain).data session)
  · cases action with
    | onConnect connection => exact onConnect_becomes env s session connection
    | gateAllocReq loginSessionId accountName => exact gateAllocReq_becomes env s session loginSessionId accountName
    | regionBindReq sessionId regionServerId => exact regionBindReq_becomes env s session sessionId regionServerId
    | tick => exact becomes_same env s session _ _ rfl
    | pass => exact pass_becomes env s session
    | _ => exact absurd rfl plain

theorem pass_sessionMap (empty : s.sessionMap = ∅) : (step env s .pass).sessionMap = ∅ := by
  have drained : (drainBack clearSession s.finalizingQueue s.toLoop).sessionMap = ∅ := by
    refine drainBack_invariant clearSession (fun loop => loop.sessionMap = ∅) s.finalizingQueue ?_ s.toLoop empty
    intro session _ loop before
    change erase _ loop.sessionMap = ∅
    rw [before]
    rfl
  change (loopPass s.toLoop).sessionMap = ∅
  rw [loopPass]
  split <;> exact drained

theorem step_steady (action : Action) (still : ∀ currTime, action ≠ .tick currTime) :
    (step env s action).currTime = s.currTime ∧ (s.sessionMap = ∅ → (step env s action).sessionMap = ∅) := by
  by_cases plain : plainAction action = true
  · have frames := step_frames env s action plain
    exact ⟨frames.clock,frames.sessionMap⟩
  · cases action with
    | onConnect connection =>
      rw [step]
      split
      · exact ⟨rfl,id⟩
      · rw [whileRunning]
        split
        · rw [onCommandOnConnect]
          split
          · exact ⟨rfl,id⟩
          · split
            · exact ⟨rfl,id⟩
            · rw [onConnection]
              split <;> exact ⟨rfl,id⟩
        · exact ⟨rfl,id⟩
    | gateAllocReq loginSessionId accountName =>
      rw [step,whileRunning]
      split
      · rw [onCommandGateAllocReq]
        split
        · exact ⟨rfl,id⟩
        · split
          · exact ⟨rfl,id⟩
          · split
            · exact ⟨rfl,id⟩
            · rw [onGateAllocReq]
              split
              · dsimp only
                split
                · rw [stateTransition]
                  split <;> exact ⟨rfl,id⟩
                · exact ⟨rfl,id⟩
              · exact ⟨rfl,id⟩
      · exact ⟨rfl,id⟩
    | regionBindReq sessionId regionServerId =>
      rw [step,whileRunning]
      split
      · rw [forSession]
        split
        · rw [onRegionBindReq]
          split <;> exact ⟨rfl,id⟩
        · exact ⟨rfl,id⟩
      · exact ⟨rfl,id⟩
    | tick currTime => exact absurd rfl (still currTime)
    | pass => exact ⟨rfl,pass_sessionMap env s⟩
    | _ => exact absurd rfl plain

end

end Fantuan.GateServer.SessionFrames
