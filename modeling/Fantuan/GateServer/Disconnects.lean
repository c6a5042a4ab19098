import Fantuan.GateServer.SessionCounts

/-! The end of a client's connection. The session that the connection belongs to closes it and
is queued, in whatever state it is, unless a pass has cleared the session before: by a release
of a session that the master has disconnected, or by clearing another one in its place.
-/
namespace Fantuan.GateServer.Disconnects
open Lib.Table Lib.Drain Lib.Run ServerBase.ServerCommon Tool.ObjectPool ServerLoop Session Commands
  SessionSteps Indexes SessionCounts

def Connected (s : Gate) (session : Object) : Prop :=
  match (s.sessions session).connection with
  | some connection =>
    (s.connections connection).live = true ∧ (s.connections connection).client = some session
  | none => False

instance (s : Gate) (session : Object) : Decidable (Connected s session) := by
  rw [Connected]
  split <;> infer_instance

/-- A pass finds at most one session to clear, and none whose connection is still there. -/
def Detached (s : Gate) : Action → Prop
  | .pass => s.finalizingQueue.length ≤ 1 ∧ ∀ session ∈ s.finalizingQueue, ¬ Connected s session
  | _ => True

instance (s : Gate) : DecidablePred (Detached s)
  | .pass => inferInstanceAs (Decidable (_ ∧ _))
  | .onConnect _ | .onData _ _ _ | .onDisconnect _ | .disconnect _ | .shutdown | .gateAllocReq _ _
  | .gateReleaseReq _ _ | .regionBindReq _ _ | .checkSessionState | .reportState | .tick _ =>
    inferInstanceAs (Decidable True)

/-- The end of the connection closes it once and has the session queued once, until the next
pass gives it back. -/
structure Handled (env : Env) (s : Gate) (connection : Nat) (session : Object) : Prop where
  closed : (step env s (.onDisconnect connection)).log.count (.close connection) =
    s.log.count (.close connection) + 1
  queued : (step env s (.onDisconnect connection)).finalizingQueue.count session = 1
  returned : ∀ later, .pass ∉ later →
    (run (step env) (step env s (.onDisconnect connection)) later).finalizingQueue.length ≤ 1 →
    session ∈ (step env (run (step env) (step env s (.onDisconnect connection)) later)
      .pass).sessionPool.objectList

def isOpen : SessionState → Bool
  | .onConnection | .disconnect | .gateLoginReq | .onMasterDisconnect => true
  | _ => false

/-- A session stays on hold only once the shutdown has started. -/
structure Linked (s : Gate) : Prop where
  clients : ∀ connection session, (s.connections connection).live = true →
    (s.connections connection).client = some session →
    (s.sessions session).connection = some connection ∧ isOpen (s.sessions session).state = true
  held : ∀ session, (s.sessions session).state = .holdConnection → s.shutdownStatus ≠ .notShutdown

/-- No connection will report its end to the session. -/
def Unowned (s : Gate) (session : Object) : Prop :=
  ∀ connection, (s.connections connection).live = true →
    (s.connections connection).client ≠ some session

theorem linked_same (s t : Gate) (linked : Linked s) (connections : t.connections = s.connections)
    (sessions : ∀ session, (t.sessions session).connection = (s.sessions session).connection ∧
      (t.sessions session).state = (s.sessions session).state)
    (status : s.shutdownStatus ≠ .notShutdown → t.shutdownStatus ≠ .notShutdown) : Linked t := by
  refine ⟨?_,?_⟩
  · intro connection session live client
    rw [connections] at live client
    rw [(sessions session).1,(sessions session).2]
    exact linked.clients connection session live client
  · intro session hold
    rw [(sessions session).2] at hold
    exact status (linked.held session hold)

theorem update_linked (s : Gate) (session : Object) (change : GateSession → GateSession)
    (linked : Linked s)
    (clients : ∀ connection, (s.connections connection).live = true →
      (s.connections connection).client = some session →
      (change (s.sessions session)).connection = some connection ∧
        isOpen (change (s.sessions session)).state = true)
    (held : (change (s.sessions session)).state = .holdConnection →
      s.shutdownStatus ≠ .notShutdown) : Linked (s.update session change) := by
  refine ⟨?_,?_⟩
  · intro connection other live client
    by_cases same : other = session
    · subst same
      rw [update_same]
      exact clients connection live client
    · rw [update_other s session other change same]
      exact linked.clients connection other live client
  · intro other hold
    by_cases same : other = session
    · subst same
      rw [update_same] at hold
      exact held hold
    · rw [update_other s session other change same] at hold
      exact linked.held other hold

theorem pushFinalizing_linked (session : Object) (s : Gate) (linked : Linked s) :
    Linked (pushFinalizing session s) := by
  have marked : Linked (s.update session fun data => {data with finalizing := true}) :=
    update_linked s session _ linked (fun connection => linked.clients connection session)
      (linked.held session)
  exact linked_same _ _ marked rfl (fun _ => ⟨rfl,rfl⟩) id

theorem note_linked (s : Gate) (event : Event) (linked : Linked s) : Linked (s.note event) :=
  linked_same s _ linked rfl (fun _ => ⟨rfl,rfl⟩) id

theorem asyncDisconnect_linked (connection : Option Nat) (s : Gate) (linked : Linked s) :
    Linked (asyncDisconnect connection s) := by
  cases connection with
  | none => exact linked_same s _ linked rfl (fun _ => ⟨rfl,rfl⟩) id
  | some connection => exact note_linked s _ linked

theorem closeSession_linked (env : Env) (session : Object) (isByMaster : Bool) (s : Gate)
    (linked : Linked s) : Linked (closeSession env session isByMaster s) := by
  rw [closeSession]
  split
  · exact linked
  · split
    · exact asyncDisconnect_linked _ s linked
    · split
      · exact pushFinalizing_linked session _ (note_linked s _ linked)
      · exact pushFinalizing_linked session s linked

theorem setState_linked (session : Object) (next : SessionState) (s : Gate) (linked : Linked s)
    (isNext : isOpen next = true) : Linked (setState session next s) := by
  refine update_linked s session _ linked ?_ ?_
  · exact fun connection live client => ⟨(linked.clients connection session live client).1,isNext⟩
  · rintro rfl
    cases isNext

theorem onDisconnect_reached (state next : SessionState)
    (reached : transition state .onDisconnect = some next) :
    next = .onDisconnect ∨ next = .holdConnection := by
  have rows : ∀ row ∈ initStateMachine state, row.1 = .onDisconnect →
      row.2 = .onDisconnect ∨ row.2 = .holdConnection := by
    cases state <;> decide
  exact rows _ (Tool.StateMachine.outputState_mem initStateMachine state next _ reached) rfl

theorem disconnect_reached (state next : SessionState) (reached : transition state .disconnect = some next) :
    next = .disconnect := by
  have rows : ∀ row ∈ initStateMachine state, row.1 = .disconnect → row.2 = .disconnect := by
    cases state <;> decide
  exact rows _ (Tool.StateMachine.outputState_mem initStateMachine state next _ reached) rfl

structure Ended (session : Object) (final : SessionState) (s t : Gate) : Prop where
  sessions : t.sessions = (s.update session fun data => {data with
    state := final, connection := none}).sessions
  connections : t.connections = s.connections
  status : t.shutdownStatus = s.shutdownStatus
  queue : t.finalizingQueue = s.finalizingQueue
  closes : ∀ connection, t.log.count (.close connection) = s.log.count (.close connection) +
    if (s.sessions session).connection = some connection then 1 else 0

theorem closed_ended (session : Object) (s : Gate) (final : SessionState) :
    Ended session final s (closeConnection session (setState session final s)) := by
  have same : ((setState session final s).sessions session).connection =
      (s.sessions session).connection := by
    rw [setState,update_same]
  rw [closeConnection,same]
  cases has : (s.sessions session).connection with
  | none =>
    refine ⟨?_,rfl,rfl,rfl,fun connection => ?_⟩
    · change Function.update s.sessions session _ = Function.update s.sessions session _
      rw [← has]
    · rw [has]
      simp [setState,Gate.update]
  | some own =>
    refine ⟨?_,rfl,rfl,rfl,fun connection => ?_⟩
    · simp [setState,Gate.update,Gate.note]
    · rw [has]
      change (Event.close own :: s.log).count _ = _
      rw [List.count_cons]
      simp

theorem ended_sent (env : Env) (message : Message) (session : Object) (final : SessionState)
    (s t : Gate) (ended : Ended session final s t) : Ended session final s (send env message t) := by
  refine {ended with closes := fun connection => ?_}
  rw [← ended.closes connection]
  change (Event.sent message _ :: t.log).count _ = _
  rw [List.count_cons_of_ne (by simp)]

theorem ended_moved (session : Object) (final next : SessionState) (s t : Gate)
    (ended : Ended session final s t) : Ended session next s (setState session next t) := by
  refine {ended with sessions := ?_}
  simp [setState,Gate.update,ended.sessions]

theorem closeSession_ended (env : Env) (session : Object) (final : SessionState) (s t : Gate)
    (ended : Ended session final s t) (ending : final = .onDisconnect ∨ final = .holdConnection) :
    closeSession env session false t =
      if (s.sessions session).finalizing then t else pushFinalizing session t := by
  have data : t.sessions session = {s.sessions session with state := final, connection := none} := by
    rw [ended.sessions,update_same]
  rw [closeSession,data]
  rcases ending with rfl | rfl <;> simp [needDisconnect]

theorem onDisconnect_ended (env : Env) (sends : ∀ n, env.net n = true) (session : Object) (s : Gate)
    (next : SessionState) (reached : reaches .onDisconnect session s = some next) :
    ∃ final t, (final = .onDisconnect ∨ final = .holdConnection ∧ s.shutdownStatus = .startShutdown) ∧
      Ended session final s t ∧ onDisconnect env session s =
        if (s.sessions session).finalizing then t else pushFinalizing session t := by
  let closed := closeConnection session (setState session next s)
  let sent := send env (sessionDisconnect session closed) closed
  have ended : Ended session next s closed := closed_ended session s next
  have said : Ended session next s sent := ended_sent env _ session next s closed ended
  have reported : Session.sends env closed = true := sends _
  rw [onDisconnect,reached]
  rcases onDisconnect_reached _ next reached with rfl | rfl
  · refine ⟨.onDisconnect,sent,.inl rfl,said,?_⟩
    rw [← closeSession_ended env session _ s sent said (.inl rfl)]
    exact if_pos reported
  · by_cases stopped : s.shutdownStatus = .startShutdown
    · refine ⟨.holdConnection,closed,.inr ⟨rfl,stopped⟩,ended,?_⟩
      rw [← closeSession_ended env session _ s closed ended (.inr rfl)]
      exact if_pos (ended.status.trans stopped)
    · let released := setState session .onDisconnect sent
      have moved : stateTransition .sessionDisconnectReq session sent = released := by
        apply stateTransition_reached
        rw [reaches,said.sessions,update_same]
        rfl
      have done : Ended session .onDisconnect s released := ended_moved session _ _ s sent said
      refine ⟨.onDisconnect,released,.inl rfl,done,?_⟩
      rw [← closeSession_ended env session _ s released done (.inl rfl),← moved]
      exact (if_neg (ended.status ▸ stopped)).trans (if_pos reported)

theorem onDisconnect_linked (env : Env) (sends : ∀ n, env.net n = true) (session : Object) (s : Gate)
    (linked : Linked s) (unowned : Unowned s session) : Linked (onDisconnect env session s) := by
  cases reached : reaches .onDisconnect session s with
  | none =>
    rw [onDisconnect,reached]
    exact linked
  | some next =>
    obtain ⟨final,t,ending,ended,result⟩ := onDisconnect_ended env sends session s next reached
    have moved : Linked (s.update session fun data => {data with
        state := final, connection := none}) := by
      refine update_linked s session _ linked ?_ ?_
      · exact fun connection live client => absurd client (unowned connection live)
      · rintro rfl
        rcases ending with other | ⟨-,stopped⟩
        · cases other
        · rw [stopped]
          decide
    have kept : Linked t := by
      refine linked_same _ t moved ended.connections (fun other => ?_) (fun stopped => ?_)
      · rw [ended.sessions]
        exact ⟨rfl,rfl⟩
      · rw [ended.status]
        exact stopped
    rw [result]
    split
    · exact kept
    · exact pushFinalizing_linked session t kept

theorem disconnect_linked (env : Env) (sends : ∀ n, env.net n = true) (session : Object) (s : Gate)
    (linked : Linked s) : Linked (disconnect env session s) := by
  rw [disconnect]
  split
  · exact linked
  · split
    · exact linked
    next next reached =>
      obtain rfl := disconnect_reached _ next reached
      have moved := setState_linked session .disconnect s linked rfl
      dsimp only
      split
      · exact asyncDisconnect_linked _ _ moved
      next bare =>
        refine onDisconnect_linked env sends session _ moved ?_
        intro connection live client
        have owned := (linked.clients connection session live client).1
        rw [bare] at owned
        cases owned

theorem onGateReleaseReq_linked (env : Env) (session : Object) (s : Gate) (linked : Linked s) :
    Linked (onGateReleaseReq env session s) := by
  have rows : reaches .gateReleaseReq session s = none := by
    rw [reaches]
    generalize (s.sessions session).state = state
    cases state <;> rfl
  rw [onGateReleaseReq,stateTransition_none s session _ rows]
  split
  · exact linked
  · exact closeSession_linked env session true s linked

theorem onMasterDisconnect_linked (session : Object) (s : Gate) (linked : Linked s) :
    Linked (onMasterDisconnect session s) := by
  rw [onMasterDisconnect]
  split
  · exact linked
  · dsimp only
    split
    next reached =>
      rw [stateTransition_reached s session _ _ reached]
      exact asyncDisconnect_linked _ _ (setState_linked session _ s linked rfl)
    next other =>
      have rows : reaches .onMasterDisconnect session s = none := by
        revert other
        rw [reaches]
        generalize (s.sessions session).state = state
        cases state <;> decide
      rw [stateTransition_none s session _ rows]
      exact linked

theorem onRegionBindReq_linked (env : Env) (session : Object) (regionServerId : UInt8) (s : Gate)
    (linked : Linked s) : Linked (onRegionBindReq env session regionServerId s) := by
  rw [onRegionBindReq]
  split
  · exact linked
  · exact update_linked s session _ linked (fun connection => linked.clients connection session)
      (linked.held session)

theorem handlePacket_linked (env : Env) (sends : ∀ n, env.net n = true) (session : Object) (s : Gate)
    (linked : Linked s) : Linked (handlePacket env session s) := by
  have said := note_linked s (.sent (.packetForward (s.sessions session).sessionId) (Session.sends env s))
    linked
  rw [handlePacket]
  split
  · exact said
  · exact disconnect_linked env sends session _ said

theorem given_linked (s t : Gate) (session : Object) (connection : Nat) (linked : Linked s)
    (closed : isOpen (s.sessions session).state = false)
    (client : (t.connections connection).client = some session)
    (connections : ∀ other, other ≠ connection → t.connections other = s.connections other)
    (given : (t.sessions session).connection = some connection ∧
      isOpen (t.sessions session).state = true)
    (sessions : ∀ other, other ≠ session → t.sessions other = s.sessions other)
    (status : t.shutdownStatus = s.shutdownStatus) : Linked t := by
  refine ⟨?_,?_⟩
  · intro other owner live found
    by_cases same : other = connection
    · subst same
      obtain rfl : session = owner := Option.some.inj (client.symm.trans found)
      exact given
    · rw [connections other same] at live found
      have before := linked.clients other owner live found
      have different : owner ≠ session := by
        rintro rfl
        rw [closed] at before
        cases before.2
      rw [sessions owner different]
      exact before
  · intro owner hold
    rw [status]
    by_cases same : owner = session
    · subst same
      rw [hold] at given
      cases given.2
    · rw [sessions owner same] at hold
      exact linked.held owner hold

def cloned (source data : GateSession) : GateSession :=
  {data with
    connectionTime := source.connectionTime
    loggedInTime := source.loggedInTime
    connection := source.connection
    accountName := source.accountName}

theorem clone_given (session temp : Object) (connection : Nat) (s : Gate)
    (account : (s.sessions session).tempSession = false)
    (temporary : (s.sessions temp).tempSession = true)
    (has : (s.sessions temp).connection = some connection) :
    clone session temp s =
      setClient session connection (s.update session (cloned (s.sessions temp))) := by
  have allowed : ¬ ((s.sessions session).tempSession = true ∨ (s.sessions temp).tempSession = false) := by
    simp [account,temporary]
  rw [clone,if_neg allowed]
  change (match (s.sessions temp).connection with
    | some connection => setClient session connection (s.update session (cloned (s.sessions temp)))
    | none => {s.update session (cloned (s.sessions temp)) with undefined := true}) = _
  rw [has]

theorem onSessionTransfered_login (env : Env) (sends : ∀ n, env.net n = true) (session : Object)
    (s : Gate) (waiting : (s.sessions session).state = .gateAllocAck) :
    ∃ event, onSessionTransfered env session s =
      setState session .gateLoginReq ((setState session .loggedIn s).note event) := by
  have reached : reaches .transfered session s = some .loggedIn := by
    rw [reaches,waiting]
    rfl
  let moved := setState session .loggedIn s
  let message := Message.onGateLoginReq (moved.sessions session).sessionId (moved.sessions session).accountName
  have logged : reaches .gateLoginReq session (send env message moved) = some .gateLoginReq := by
    change transition (moved.sessions session).state _ = _
    have state : (moved.sessions session).state = .loggedIn := by
      simp [moved,setState]
    rw [state]
    rfl
  refine ⟨.sent message (Session.sends env moved),?_⟩
  rw [onSessionTransfered,if_pos reached,stateTransition_reached s session _ _ reached]
  change (if Session.sends env moved then
    stateTransition .gateLoginReq session (send env message moved) else _) = _
  have sent : Session.sends env moved = true := sends _
  rw [if_pos sent,stateTransition_reached _ session _ _ logged]
  rfl

section
variable (env : Env) (sends : ∀ n, env.net n = true) (connection : Nat) (temp : Object) (s : Gate)
  (sound : Sound env.config s) (linked : Linked s) (running : s.shutdownStatus = .notShutdown)
  (live : (s.connections connection).live = true) (client : (s.connections connection).client = some temp)
  (connecting : (s.sessions temp).state = .onConnection)
include sends sound linked running live client connecting

theorem transferSession_linked :
    let result := transferSession env (s.sessions temp).sessionId (s.sessions temp).accountName s
    Linked result.2 ∧ (result.1 = true → Unowned result.2 temp) := by
  have own : getSession (s.sessions temp).sessionId s = some temp :=
    client_own env.config s sound.indexed temp (sound.indexed.clients connection temp client)
  have has := (linked.clients connection temp live client).1
  rw [transferSession]
  split
  · exact ⟨linked,fun failed => by cases failed⟩
  next session named =>
    dsimp only
    split
    · exact ⟨linked,fun failed => by cases failed⟩
    next waiting =>
      have state : (s.sessions session).state = .gateAllocAck := by
        by_contra other
        have hold : (s.sessions session).state = .holdConnection := by
          by_contra neither
          exact waiting ⟨other,neither⟩
        exact linked.held session hold running
      have different : temp ≠ session := by
        rintro rfl
        rw [connecting] at state
        cases state
      have account := (sound.listed _ session named).1
      have temporary := sound.indexed.connecting temp connecting
      let given := setClient session connection (s.update session (cloned (s.sessions temp)))
      have still : (given.sessions session).state = .gateAllocAck := by
        change ((s.update session _).sessions session).state = _
        rw [update_same]
        exact state
      obtain ⟨event,result⟩ := onSessionTransfered_login env sends session given still
      rw [own]
      dsimp only
      rw [clone_given session temp connection s account temporary has,result]
      let t := setState session .gateLoginReq ((setState session .loggedIn given).note event)
      have here : t.sessions session = {cloned (s.sessions temp) (s.sessions session) with
          state := .gateLoginReq} := by
        simp [t,given,setState,Gate.update,Gate.note,setClient]
      have there (other : Object) (unlike : other ≠ session) : t.sessions other = s.sessions other := by
        simp [t,given,setState,Gate.update,Gate.note,setClient,unlike]
      have taken : (t.connections connection).client = some session := by
        simp [t,given,setState,Gate.update,Gate.note,setClient]
      have kept (other : Nat) (unlike : other ≠ connection) : t.connections other = s.connections other :=
        Function.update_of_ne unlike ..
      have after : Linked t := by
        refine given_linked s t session connection linked (by rw [state]; rfl) taken kept ?_ there rfl
        rw [here]
        exact ⟨has,rfl⟩
      refine ⟨after,fun _ other alive found => ?_⟩
      have found' : (t.connections other).client = some temp := found
      have same := (after.clients other temp alive found').1
      rw [there temp different,has] at same
      obtain rfl := Option.some.inj same
      exact different (Option.some.inj (found'.symm.trans taken))

theorem loggedInNtf_linked : Linked (loggedInNtf env temp s).2 := by
  have transfer := transferSession_linked env sends connection temp s sound linked running live client
    connecting
  rw [loggedInNtf]
  dsimp only at transfer ⊢
  split
  · exact linked
  · split
    next failed result =>
      rw [result] at transfer
      exact disconnect_linked env sends temp failed transfer.1
    next transfered result =>
      rw [result] at transfer
      obtain ⟨moved,free⟩ := transfer
      have unowned := free rfl
      split
      next reached =>
        rw [stateTransition_reached transfered temp _ _ reached]
        refine closeSession_linked env temp false _ (update_linked _ temp _ moved ?_ ?_)
        · exact fun other alive found => absurd found (unowned other alive)
        · exact fun hold => by cases hold
      next other =>
        have rows : reaches .loggedIn temp transfered = none := by
          revert other
          rw [reaches]
          generalize (transfered.sessions temp).state = state
          cases state <;> decide
        rw [stateTransition_none transfered temp _ rows]
        exact moved

end

theorem handleLoginPacket_linked (env : Env) (sends : ∀ n, env.net n = true) (connection : Nat)
    (session : Object) (login : Login) (s : Gate) (sound : Sound env.config s) (linked : Linked s)
    (running : s.shutdownStatus = .notShutdown) (live : (s.connections connection).live = true)
    (client : (s.connections connection).client = some session)
    (connecting : (s.sessions session).state = .onConnection) :
    Linked (handleLoginPacket env session login s) := by
  have named (accountName : WString) : Linked (setAccountName session accountName s) :=
    update_linked s session _ linked (fun connection => linked.clients connection session)
      (linked.held session)
  cases login with
  | waiting => exact linked
  | refused accountName => exact disconnect_linked env sends session _ (named accountName)
  | token accountName =>
    have changed : Sound env.config (setAccountName session accountName s) :=
      sessionStep_sound env.config _ _ (.change s session _ rfl
        ⟨rfl,rfl,.rfl,id,.inr (.inl connecting)⟩) sound
    have still : ((setAccountName session accountName s).sessions session).state = .onConnection := by
      rw [setAccountName,update_same]
      exact connecting
    have done := loggedInNtf_linked env sends connection session _ changed (named accountName) running
      live client still
    rw [handleLoginPacket]
    split
    next loggedIn result =>
      rw [result] at done
      exact done
    next failed result =>
      rw [result] at done
      exact disconnect_linked env sends session failed done

theorem onData_linked (env : Env) (sends : ∀ n, env.net n = true) (connection : Nat)
    (session : Object) (login : Login) (packets : Nat) (s : Gate) (sound : Sound env.config s)
    (linked : Linked s) (running : s.shutdownStatus = .notShutdown)
    (live : (s.connections connection).live = true)
    (client : (s.connections connection).client = some session) :
    Linked (onData env session login packets s) := by
  rw [onData]
  split
  · exact linked
  · split
    next connecting =>
      exact handleLoginPacket_linked env sends connection session login s sound linked running live
        client connecting
    · exact repeated_invariant (handlePacket env session) Linked
        (fun t => handlePacket_linked env sends session t) packets s linked

theorem whileRunning_linked (handle : Gate → Gate) (s : Gate) (linked : Linked s)
    (handled : s.shutdownStatus = .notShutdown → Linked (handle s)) :
    Linked (whileRunning handle s) := by
  rw [whileRunning]
  split
  next running => exact handled running
  · exact linked

theorem forSession_linked (sessionId : UInt32) (handle : Object → Gate → Gate) (s : Gate)
    (linked : Linked s) (handled : ∀ session, Linked (handle session s)) :
    Linked (forSession sessionId handle s) := by
  rw [forSession]
  split
  · exact handled _
  · exact linked_same s _ linked rfl (fun _ => ⟨rfl,rfl⟩) id

theorem checkSessionState_linked (env : Env) (sends : ∀ n, env.net n = true) (s : Gate)
    (linked : Linked s) : Linked (checkSessionState env s) := by
  rw [checkSessionState]
  generalize List.range (sessionMax env.config).toNat = sessions
  induction sessions generalizing s with
  | nil => exact linked
  | cons session sessions ih =>
    apply ih
    rw [checkSession]
    split
    · exact disconnect_linked env sends session s linked
    · exact linked

theorem line_linked (s : Gate) (connection : Nat) (line : Connection) (linked : Linked s)
    (free : line.live = true → line.client = none) :
    Linked {s with connections := Function.update s.connections connection line} := by
  refine ⟨?_,linked.held⟩
  intro other session live client
  change (Function.update s.connections connection line other).live = true at live
  change (Function.update s.connections connection line other).client = some session at client
  by_cases same : other = connection
  · subst same
    rw [Function.update_self] at live client
    rw [free live] at client
    cases client
  · rw [Function.update_of_ne same] at live client
    exact linked.clients other session live client

theorem onCommandOnConnect_linked (config : Config) (connection : Nat) (s : Gate)
    (sound : Sound config s) (linked : Linked s) : Linked (onCommandOnConnect config connection s) := by
  rw [onCommandOnConnect]
  split
  · exact asyncDisconnect_linked _ s linked
  · rcases allocate_cases config s sound.indexed with none | ⟨session,rest,list,free,taken⟩
    · rw [none]
      exact asyncDisconnect_linked _ s linked
    · obtain ⟨unused,-,-,-⟩ := taken_held config s (take rest s) session rest sound list free rfl
      rw [taken]
      have result := onConnection_unused session connection (take rest s) unused
      change Linked {onConnection session connection (take rest s) with tempSessionCount := _}
      refine linked_same (onConnection session connection (take rest s)) _ ?_ rfl (fun _ => ⟨rfl,rfl⟩) id
      rw [result]
      refine given_linked s _ session connection linked (by rw [unused]; rfl) ?_ ?_ ?_ ?_ rfl
      · simp [Gate.update,setClient]
      · exact fun other unlike => Function.update_of_ne unlike ..
      · rw [update_same]
        exact ⟨rfl,rfl⟩
      · exact fun other unlike => update_other _ session other _ unlike

theorem onGateAllocReq_linked (env : Env) (loginSessionId : UInt32) (accountName : WString)
    (session : Object) (s : Gate) (unused : (s.sessions session).state = .none) (linked : Linked s) :
    Linked (onGateAllocReq env session loginSessionId accountName s) := by
  have unowned : Unowned s session := by
    intro connection live client
    have owned := (linked.clients connection session live client).2
    rw [unused] at owned
    cases owned
  have said : Linked ((s.update session (allocated loginSessionId accountName)).note
      (.sent (.gateAllocAck env.config.serverId loginSessionId accountName
        (nextSequence (s.sessions session).sessionId)) (Session.sends env s))) := by
    refine note_linked _ _ (update_linked s session _ linked ?_ ?_)
    · exact fun other alive found => absurd found (unowned other alive)
    · exact fun hold => by cases hold
  rw [onGateAllocReq_unused env session loginSessionId accountName s unused]
  dsimp only
  split
  · refine update_linked _ session _ said ?_ ?_
    · exact fun other alive found => absurd found (unowned other alive)
    · exact fun hold => by cases hold
  · exact said

theorem pass_linked (env : Env) (s : Gate) (linked : Linked s) (detached : Detached s .pass) :
    Linked (step env s .pass) := by
  obtain ⟨single,apart⟩ := detached
  have drained : Linked {s with toLoop := clearFinalizing s.toLoop} := by
    cases queue : s.finalizingQueue with
    | nil =>
      refine linked_same s _ linked rfl (fun session => ?_) ?_ <;>
        · rw [clearFinalizing,queue,drainBack]
          simp
    | cons session rest =>
      obtain rfl : rest = [] := by
        rw [queue,List.length_cons] at single
        exact List.length_eq_zero_iff.mp (by omega)
      have blank := update_linked s session GateSession.clear linked ?_ (fun hold => by cases hold)
      · refine linked_same _ _ blank rfl (fun other => ?_) ?_ <;>
          rw [clearFinalizing,queue,drainBack_singleton]
        · exact ⟨rfl,rfl⟩
        · exact id
      · intro connection live client
        have own := (linked.clients connection session live client).1
        refine absurd ?_ (apart session (by rw [queue]; exact List.mem_singleton_self session))
        rw [Connected,own]
        exact ⟨live,client⟩
  rw [step,loopPass]
  split
  · exact linked_same _ _ drained rfl (fun _ => ⟨rfl,rfl⟩) fun _ status => by cases status
  · exact drained

theorem hangUp_linked (connection : Nat) (s : Gate) (linked : Linked s) :
    Linked (hangUp connection s) :=
  line_linked s connection _ linked fun live => by cases live

theorem hangUp_unowned (connection : Nat) (session : Object) (s : Gate) (linked : Linked s)
    (live : (s.connections connection).live = true)
    (client : (s.connections connection).client = some session) :
    Unowned (hangUp connection s) session := by
  have own := (linked.clients connection session live client).1
  intro other alive found
  change (Function.update s.connections connection _ other).live = true at alive
  change (Function.update s.connections connection _ other).client = some session at found
  by_cases same : other = connection
  · subst same
    rw [Function.update_self] at alive
    cases alive
  · rw [Function.update_of_ne same] at alive found
    rw [(linked.clients other session alive found).1] at own
    exact same (Option.some.inj own)

theorem step_linked (env : Env) (sends : ∀ n, env.net n = true) (s : Gate) (action : Action)
    (sound : Sound env.config s) (linked : Linked s) (detached : Detached s action) :
    Linked (step env s action) := by
  cases action with
  | onConnect connection =>
    rw [step]
    split
    · exact linked
    · have accepted : Linked (accept connection s) := line_linked s connection _ linked fun _ => rfl
      have still : Sound env.config (accept connection s) :=
        sessionStep_sound env.config _ _ (.line s connection _ (.inr rfl)) sound
      exact whileRunning_linked _ _ accepted fun _ =>
        onCommandOnConnect_linked env.config connection _ still accepted
  | onData connection login packets =>
    rw [step]
    split
    next live =>
      refine whileRunning_linked _ s linked fun running => ?_
      rw [onCommandOnData]
      split
      next session client =>
        split
        · exact linked
        · exact onData_linked env sends connection session login packets s sound linked running live client
      · exact linked
    · exact linked
  | onDisconnect connection =>
    rw [step]
    split
    next live =>
      have hung := hangUp_linked connection s linked
      rw [onCommandOnDisconnect]
      split
      next session client =>
        refine onDisconnect_linked env sends session _ ?_ ?_
        · exact linked_same _ _ hung rfl (fun _ => ⟨rfl,rfl⟩) id
        · have found : (s.connections connection).client = some session := by
            simpa [hangUp] using client
          exact hangUp_unowned connection session s linked live found
      · exact hung
    · exact linked
  | disconnect sessionId =>
    exact forSession_linked sessionId _ s linked fun session => onMasterDisconnect_linked session s linked
  | shutdown =>
    have unmapped : values s.sessionMap = [] := by
      rw [sound.indexed.unmapped]
      rfl
    rw [step,onCommandShutdown,unmapped]
    exact linked_same s _ linked rfl (fun _ => ⟨rfl,rfl⟩) fun _ status => by cases status
  | gateAllocReq loginSessionId accountName =>
    have asks := gateAllocReq_asks env loginSessionId accountName s sound.indexed
    have asked := note_linked s (.gateAllocReq loginSessionId accountName) linked
    generalize step env s (.gateAllocReq loginSessionId accountName) = t at asks ⊢
    cases asks with
    | stopped => exact linked
    | duplicate => exact asked
    | full => exact note_linked _ _ asked
    | crash => exact linked_same _ _ asked rfl (fun _ => ⟨rfl,rfl⟩) id
    | allocated session rest running fresh room list free =>
      obtain ⟨unused,-,-,-⟩ := taken_held env.config s (take rest s) session rest sound list free rfl
      refine onGateAllocReq_linked env loginSessionId accountName session _ unused ?_
      exact linked_same _ _ asked rfl (fun _ => ⟨rfl,rfl⟩) id
  | gateReleaseReq loginSessionId accountName =>
    refine whileRunning_linked _ s linked fun _ => ?_
    rw [onCommandGateReleaseReq]
    split
    · exact onGateReleaseReq_linked env _ s linked
    · exact linked
  | regionBindReq sessionId regionServerId =>
    refine whileRunning_linked _ s linked fun _ => ?_
    exact forSession_linked sessionId _ s linked fun session =>
      onRegionBindReq_linked env session regionServerId s linked
  | checkSessionState =>
    exact whileRunning_linked _ s linked fun _ => checkSessionState_linked env sends s linked
  | reportState => exact whileRunning_linked _ s linked fun _ => note_linked s _ linked
  | tick currTime => exact linked_same s _ linked rfl (fun _ => ⟨rfl,rfl⟩) id
  | pass => exact pass_linked env s linked detached

theorem init_linked (config : Config) : Linked (init config) where
  clients := fun _ _ live => by cases live
  held := fun _ hold => by cases hold

theorem detached_single (s : Gate) (action : Action) (detached : Detached s action) :
    SinglePass s action := by
  cases action with
  | pass => exact detached.1
  | _ => trivial

theorem run_linked (env : Env) (sends : ∀ n, env.net n = true) (actions : List Action)
    (guarded : Guarded (step env) Detached (init env.config) actions) :
    Sound env.config (run (step env) (init env.config) actions) ∧
      Linked (run (step env) (init env.config) actions) :=
  run_invariant (step env) Detached (fun s => Sound env.config s ∧ Linked s)
    (fun s action ⟨sound,linked⟩ detached =>
      ⟨step_sound env s action sound (detached_single s action detached),
        step_linked env sends s action sound linked detached⟩)
    _ actions guarded ⟨init_sound env.config,init_linked env.config⟩

theorem does_queued (s t : Gate) (does : Does s t) (session : Object)
    (queued : session ∈ s.finalizingQueue) : session ∈ t.finalizingQueue := by
  induction does with
  | refl => exact queued
  | tail _ step ih =>
    cases step with
    | queue => exact List.mem_append_left _ ih
    | _ => exact ih

theorem onConnection_queue (session : Object) (connection : Nat) (s : Gate) :
    (onConnection session connection s).finalizingQueue = s.finalizingQueue := by
  rw [onConnection]
  split <;> rfl

theorem onGateAllocReq_queue (env : Env) (session : Object) (loginSessionId : UInt32)
    (accountName : WString) (s : Gate) :
    (onGateAllocReq env session loginSessionId accountName s).finalizingQueue = s.finalizingQueue := by
  rw [onGateAllocReq]
  dsimp only
  split
  · split
    · rw [stateTransition]
      split <;> rfl
    · rfl
  · rfl

theorem step_queued (env : Env) (s : Gate) (action : Action) (session : Object)
    (indexed : Indexed env.config s) (still : action ≠ .pass)
    (queued : session ∈ s.finalizingQueue) : session ∈ (step env s action).finalizingQueue := by
  by_cases plain : plainAction action = true
  · exact does_queued s _ (step_does env s action indexed plain) session queued
  · cases action with
    | onConnect connection =>
      rcases onConnect_cases env connection s indexed with does | ⟨given,rest,-,-,-,-,result⟩
      · exact does_queued s _ does session queued
      · rw [result]
        change session ∈ (onConnection given connection _).finalizingQueue
        rw [onConnection_queue]
        exact queued
    | gateAllocReq loginSessionId accountName =>
      have asks := gateAllocReq_asks env loginSessionId accountName s indexed
      generalize step env s (.gateAllocReq loginSessionId accountName) = t at asks ⊢
      cases asks with
      | allocated =>
        rw [onGateAllocReq_queue]
        exact queued
      | _ => exact queued
    | pass => exact absurd rfl still
    | _ => exact absurd rfl plain

theorem run_queued (env : Env) (s : Gate) (later : List Action) (session : Object)
    (indexed : Indexed env.config s) (still : .pass ∉ later)
    (queued : session ∈ s.finalizingQueue) :
    session ∈ (run (step env) s later).finalizingQueue := by
  induction later generalizing s with
  | nil => exact queued
  | cons action later ih =>
    rw [List.mem_cons,not_or] at still
    exact ih _ (step_indexed env s action indexed) still.2
      (step_queued env s action session indexed (Ne.symm still.1) queued)

theorem pass_returned (env : Env) (s : Gate) (session : Object)
    (queued : session ∈ s.finalizingQueue) (single : s.finalizingQueue.length ≤ 1) :
    session ∈ (step env s .pass).sessionPool.objectList := by
  have drained : session ∈ (clearFinalizing s.toLoop).sessionPool.objectList := by
    obtain ⟨other,queue⟩ := List.length_eq_one_iff.mp
      (le_antisymm single (List.length_pos_of_mem queued))
    rw [queue] at queued
    obtain rfl := List.mem_singleton.mp queued
    rw [clearFinalizing,queue,drainBack_singleton]
    exact List.mem_append_right _ (List.mem_singleton_self session)
  rw [step,loopPass]
  split <;> exact drained

theorem linked_handled (env : Env) (sends : ∀ n, env.net n = true) (s : Gate) (connection : Nat)
    (session : Object) (sound : Sound env.config s) (linked : Linked s)
    (live : (s.connections connection).live = true)
    (client : (s.connections connection).client = some session) :
    Handled env s connection session := by
  obtain ⟨own,still⟩ := linked.clients connection session live client
  let hung := unmapSession session (hangUp connection s)
  have result : step env s (.onDisconnect connection) = onDisconnect env session hung := by
    have found : ((hangUp connection s).connections connection).client = some session := by
      simpa [hangUp] using client
    rw [step,if_pos live,onCommandOnDisconnect,found]
  obtain ⟨next,reached⟩ : ∃ next, reaches .onDisconnect session hung = some next := by
    change ∃ next, transition (s.sessions session).state .onDisconnect = some next
    rw [← Option.isSome_iff_exists]
    revert still
    generalize (s.sessions session).state = state
    cases state <;> decide
  obtain ⟨final,t,-,ended,ends⟩ := onDisconnect_ended env sends session hung next reached
  have closes := ended.closes connection
  have has : (hung.sessions session).connection = some connection := own
  rw [if_pos has] at closes
  have queued : (step env s (.onDisconnect connection)).finalizingQueue.count session = 1 := by
    have queue : t.finalizingQueue = s.finalizingQueue := ended.queue
    rw [result,ends]
    split
    next finalizing =>
      rw [queue]
      exact List.count_eq_one_of_mem sound.distinct ((sound.queued session).mpr finalizing)
    next active =>
      have absent : session ∉ s.finalizingQueue := by
        rw [sound.queued]
        exact active
      change (t.finalizingQueue ++ [session]).count session = 1
      rw [queue,List.count_append,List.count_eq_zero_of_not_mem absent,List.count_singleton_self]
  refine ⟨?_,queued,?_⟩
  · rw [result,ends]
    split <;> exact closes
  · intro later still single
    have indexed := step_indexed env s (.onDisconnect connection) sound.indexed
    have here : session ∈ (step env s (.onDisconnect connection)).finalizingQueue :=
      List.count_pos_iff.mp (by omega)
    exact pass_returned env _ session (run_queued env _ later session indexed still here) single

/-- Where every pass clears at most one session, and one that has no connection any more, the end
of every connection is handled. -/
theorem onDisconnect_handled (env : Env) (sends : ∀ n, env.net n = true) (actions : List Action)
    (guarded : Guarded (step env) Detached (init env.config) actions) (connection : Nat)
    (session : Object) :
    let s := run (step env) (init env.config) actions
    (s.connections connection).live = true → (s.connections connection).client = some session →
      Handled env s connection session := by
  obtain ⟨sound,linked⟩ := run_linked env sends actions guarded
  exact linked_handled env sends _ connection session sound linked

/-- A client has logged in with account 97, whose session is the second one. -/
def login : List Action := [.onConnect 1,.gateAllocReq 10 [97],.onData 1 (.token [97]) 0,.pass]

theorem onDisconnect_handled_login :
    Handled sampleEnv (run (step sampleEnv) (init sampleEnv.config) login) 1 1 :=
  onDisconnect_handled sampleEnv (fun _ => rfl) login (by decide +kernel) 1 1 (by decide +kernel)
    (by decide +kernel)

/-- The master disconnects and releases the account, and a second client comes and goes before
the pass, which clears the session of that client twice. -/
theorem onDisconnect_unhandled :
    let s := run (step sampleEnv) (init sampleEnv.config) (login ++
      [.disconnect 16777473,.gateReleaseReq 10 [97],.onConnect 2,.onDisconnect 2,.pass])
    s.connections 1 = ⟨true,some 1⟩ ∧ (s.sessions 1).connection = some 1 ∧
      ¬ Handled sampleEnv s 1 1 := by
  refine ⟨by decide +kernel,by decide +kernel,fun handled => ?_⟩
  have queued := handled.queued
  revert queued
  decide +kernel

end Fantuan.GateServer.Disconnects
