import Mathlib.Logic.Relation
import Fantuan.GateServer.Commands

/-! What a command can do to the sessions that are in use: every handler is a chain of these
steps, except where a session is allocated or cleared.
-/
namespace Fantuan.GateServer.SessionSteps
open Lib.Table Lib.Drain ServerBase.ServerCommon Tool.ObjectPool Tool.StateMachine ServerLoop Session
  Commands

/-- Neither a request to allocate a session nor an answer to one. -/
def quiet : Event → Bool
  | .gateAllocReq _ _ => false
  | .sent (.gateAllocAck ..) success => !success
  | _ => true

def Named (session : Object) (names : Map WString Object) : Prop :=
  ∃ accountName, find accountName names = some session

/-- A change of a session that stays what it is: a temporary session may take the name of a
token, and another one only a name under which it is found. -/
structure Kept (names : Map WString Object) (session : Object) (old new : GateSession) : Prop where
  sessionId : new.sessionId = old.sessionId
  tempSession : new.tempSession = old.tempSession
  used : new.state = .none ↔ old.state = .none
  connecting : new.state = .onConnection → old.state = .onConnection
  accountName : new.accountName = old.accountName ∨ old.state = .onConnection ∨
    find new.accountName names = some session

inductive SessionStep : Gate → Gate → Prop
  | note (s : Gate) (event : Event) (silent : quiet event = true) : SessionStep s (s.note event)
  | mark (s : Gate) (undefined : Bool) : SessionStep s {s with undefined := undefined}
  | clock (s : Gate) (currTime : UInt32) : SessionStep s {s with currTime := currTime}
  | stop (s : Gate) : SessionStep s {s with shutdownStatus := .startShutdown}
  | line (s : Gate) (connection : Nat) (state : Connection)
      (kept : state.client = (s.connections connection).client ∨ state.client = none) :
      SessionStep s {s with connections := Function.update s.connections connection state}
  | give (s : Gate) (session : Object) (connection : Nat) (named : Named session s.sessionMapByName) :
      SessionStep s (setClient session connection s)
  | unmap (s : Gate) (session : Object) : SessionStep s (unmapSession session s)
  | change (s : Gate) (session : Object) (change : GateSession → GateSession)
      (still : (change (s.sessions session)).finalizing = (s.sessions session).finalizing)
      (kept : Kept s.sessionMapByName session (s.sessions session) (change (s.sessions session))) :
      SessionStep s (s.update session change)
  | queue (s : Gate) (session : Object) (active : (s.sessions session).finalizing = false)
      (held : (s.sessions session).state ≠ .none ∨ Named session s.sessionMapByName) :
      SessionStep s (pushFinalizing session s)

abbrev Does : Gate → Gate → Prop := Relation.ReflTransGen SessionStep

def plainEvent : SessionEvent → Bool
  | .onConnection | .onGateAllocReq => false
  | _ => true

structure Plain (state next : SessionState) : Prop where
  used : state ≠ .none ∧ next ≠ .none
  connecting : next = .onConnection → state = .onConnection
  allocated : next ≠ .onGateAllocReq

theorem plain_transition (state next : SessionState) (event : SessionEvent)
    (plain : plainEvent event = true) (reached : transition state event = some next) :
    Plain state next := by
  have rows : ∀ row ∈ initStateMachine state, plainEvent row.1 = true →
      (state ≠ .none ∧ row.2 ≠ .none) ∧ (row.2 = .onConnection → state = .onConnection) ∧
        row.2 ≠ .onGateAllocReq := by
    cases state <;> decide
  obtain ⟨used,connecting,allocated⟩ :=
    rows _ (outputState_mem initStateMachine state next event reached) plain
  exact ⟨used,connecting,allocated⟩

theorem stateTransition_reached (s : Gate) (session : Object) (event : SessionEvent)
    (next : SessionState) (reached : reaches event session s = some next) :
    stateTransition event session s = setState session next s := by
  rw [stateTransition,reached]

theorem stateTransition_none (s : Gate) (session : Object) (event : SessionEvent)
    (unreached : reaches event session s = none) : stateTransition event session s = s := by
  rw [stateTransition,unreached]

theorem setState_does (s : Gate) (session : Object) (event : SessionEvent) (next : SessionState)
    (plain : plainEvent event = true) (reached : reaches event session s = some next) :
    Does s (setState session next s) := by
  have moves := plain_transition _ next event plain reached
  refine .single (.change s session _ rfl ⟨rfl,rfl,?_,moves.connecting,.inl rfl⟩)
  simp [moves.used]

theorem transition_does (s : Gate) (session : Object) (event : SessionEvent)
    (plain : plainEvent event = true) : Does s (stateTransition event session s) := by
  cases reached : reaches event session s with
  | none => rw [stateTransition_none s session event reached]
  | some next =>
    rw [stateTransition_reached s session event next reached]
    exact setState_does s session event next plain reached

theorem asyncDisconnect_does (s : Gate) (connection : Option Nat) :
    Does s (asyncDisconnect connection s) := by
  cases connection with
  | none => exact .single (.mark s true)
  | some connection => exact .single (.note s _ rfl)

theorem closeConnection_does (s : Gate) (session : Object) : Does s (closeConnection session s) := by
  rw [closeConnection]
  split
  · exact .tail (.single (.note s _ rfl)) (.change _ session _ rfl ⟨rfl,rfl,.rfl,id,.inl rfl⟩)
  · exact .refl

theorem closeConnection_state (s : Gate) (session : Object) :
    ((closeConnection session s).sessions session).state = (s.sessions session).state := by
  rw [closeConnection]
  split
  · rw [update_same]
    rfl
  · rfl

/-- CloseSession sends an ack only in a state in which no other path calls it. -/
theorem closeSession_does (env : Env) (session : Object) (isByMaster : Bool) (s : Gate)
    (held : (s.sessions session).state ≠ .none ∨ Named session s.sessionMapByName)
    (silent : isByMaster = true ∨ (s.sessions session).state ≠ .onGateAllocReq) :
    Does s (closeSession env session isByMaster s) := by
  have mute : ¬ ((s.sessions session).state = .onGateAllocReq ∧ isByMaster = false ∧
      s.shutdownStatus ≠ .startShutdown) := by
    rintro ⟨asked,own,-⟩
    rcases silent with master | other
    · rw [own] at master
      cases master
    · exact other asked
  rw [closeSession,if_neg mute]
  split
  · exact .refl
  next active =>
    split
    · exact asyncDisconnect_does s _
    · exact .single (.queue s session (by simpa using active) held)

theorem onDisconnect_does (env : Env) (session : Object) (s : Gate) :
    Does s (onDisconnect env session s) := by
  rw [onDisconnect]
  split
  · exact .refl
  next next reached =>
    let closed := closeConnection session (setState session next s)
    have reach : Does s closed :=
      (setState_does s session .onDisconnect next rfl reached).trans (closeConnection_does _ session)
    have state : (closed.sessions session).state = next := by
      rw [closeConnection_state,setState,update_same]
    have said : Does s (send env (sessionDisconnect session closed) closed) :=
      reach.tail (.note closed _ rfl)
    dsimp only
    split
    · split
      · refine reach.trans (closeSession_does env session false closed (.inl ?_) (.inr ?_)) <;>
          simp [state]
      · split
        · let sent := send env (sessionDisconnect session closed) closed
          have held : reaches .sessionDisconnectReq session sent = some .onDisconnect := by
            change transition (closed.sessions session).state _ = _
            rw [state]
            rfl
          have moved : ((stateTransition .sessionDisconnectReq session sent).sessions session).state =
              .onDisconnect := by
            rw [stateTransition_reached sent session _ _ held,setState,update_same]
          refine (said.trans (transition_does sent session .sessionDisconnectReq rfl)).trans
            (closeSession_does env session false _ (.inl ?_) (.inr ?_)) <;> simp [sent,moved]
        · exact said
    · split
      · refine said.trans (closeSession_does env session false _ (.inl ?_) (.inr ?_)) <;>
          · change (closed.sessions session).state ≠ _
            simp [state]
      · exact said
    · exact reach

theorem disconnect_does (env : Env) (session : Object) (s : Gate) :
    Does s (disconnect env session s) := by
  rw [disconnect]
  split
  · exact .refl
  · split
    · exact .refl
    next next reached =>
      have moved := setState_does s session .disconnect next rfl reached
      dsimp only
      split
      · exact moved.trans (asyncDisconnect_does _ _)
      · exact moved.trans (onDisconnect_does env session _)

theorem onGateReleaseReq_does (env : Env) (session : Object) (s : Gate)
    (named : Named session s.sessionMapByName) : Does s (onGateReleaseReq env session s) := by
  rw [onGateReleaseReq]
  split
  · exact .refl
  · have moved := transition_does s session .gateReleaseReq rfl
    refine moved.trans (closeSession_does env session true _ (.inr ?_) (.inl rfl))
    rw [stateTransition]
    split <;> exact named

theorem onRegionBindReq_does (env : Env) (session : Object) (regionServerId : UInt8) (s : Gate) :
    Does s (onRegionBindReq env session regionServerId s) := by
  rw [onRegionBindReq]
  split
  · exact .refl
  · exact .single (.change s session _ rfl ⟨rfl,rfl,.rfl,id,.inl rfl⟩)

theorem onMasterDisconnect_does (session : Object) (s : Gate) :
    Does s (onMasterDisconnect session s) := by
  have moved := transition_does s session .onMasterDisconnect rfl
  rw [onMasterDisconnect]
  split
  · exact .refl
  · dsimp only
    split
    · exact moved.trans (asyncDisconnect_does _ _)
    · exact moved

theorem clone_does (session temp : Object) (s : Gate)
    (named : find (s.sessions temp).accountName s.sessionMapByName = some session) :
    Does s (clone session temp s) := by
  rw [clone]
  split
  · exact .refl
  · let cloned := s.update session fun data => {data with
      connectionTime := (s.sessions temp).connectionTime
      loggedInTime := (s.sessions temp).loggedInTime
      connection := (s.sessions temp).connection
      accountName := (s.sessions temp).accountName}
    have changed : Does s cloned :=
      .single (.change s session _ rfl ⟨rfl,rfl,.rfl,id,.inr (.inr named)⟩)
    dsimp only
    split
    · exact changed.tail (.give cloned session _ ⟨_,named⟩)
    · exact changed.tail (.mark cloned true)

theorem onSessionTransfered_does (env : Env) (session : Object) (s : Gate) :
    Does s (onSessionTransfered env session s) := by
  have moved := transition_does s session .transfered rfl
  rw [onSessionTransfered]
  dsimp only
  split
  · split
    · exact (moved.tail (.note _ _ rfl)).trans (transition_does _ session .gateLoginReq rfl)
    · exact (moved.tail (.note _ _ rfl)).trans (disconnect_does env session _)
  · exact moved

/-- The session that a temporary session finds under its own id is itself. -/
def Own (session : Object) (s : Gate) : Prop :=
  getSession (s.sessions session).sessionId s = some session

theorem own_iff (session : Object) (s : Gate) : Own session s ↔
    session < s.sessionPool.maxSize ∧ (sessionIndex (s.sessions session).sessionId).toNat = session := by
  rw [Own,getSession]
  constructor
  · intro own
    simp only [Option.ite_none_right_eq_some,Option.some.injEq] at own
    obtain ⟨⟨inside,-⟩,index⟩ := own
    exact ⟨by rwa [index] at inside,index⟩
  · rintro ⟨inside,index⟩
    rw [index,if_pos ⟨inside,rfl⟩]

theorem transferSession_does (env : Env) (temp : Object) (s : Gate) (own : Own temp s) :
    Does s (transferSession env (s.sessions temp).sessionId (s.sessions temp).accountName s).2 := by
  rw [transferSession]
  split
  · exact .refl
  next session named =>
    dsimp only
    split
    · exact .refl
    · rw [own]
      exact (clone_does session temp s named).trans (onSessionTransfered_does env session _)

theorem loggedInNtf_does (env : Env) (temp : Object) (s : Gate) (own : Own temp s) :
    Does s (loggedInNtf env temp s).2 := by
  have transfer := transferSession_does env temp s own
  rw [loggedInNtf]
  dsimp only
  split
  · exact .refl
  · split
    next failed result =>
      rw [result] at transfer
      exact transfer.trans (disconnect_does env temp failed)
    next transfered result =>
      rw [result] at transfer
      have moved := transfer.trans (transition_does transfered temp .loggedIn rfl)
      split
      next reached =>
        have state : ((stateTransition .loggedIn temp transfered).sessions temp).state = .transfered := by
          rw [stateTransition_reached transfered temp _ _ reached,setState,update_same]
        refine moved.trans (closeSession_does env temp false _ (.inl ?_) (.inr ?_)) <;> simp [state]
      · exact moved

theorem handleLoginPacket_does (env : Env) (session : Object) (login : Login) (s : Gate)
    (own : Own session s) (connecting : (s.sessions session).state = .onConnection) :
    Does s (handleLoginPacket env session login s) := by
  have named (accountName : WString) : Does s (setAccountName session accountName s) :=
    .single (.change s session _ rfl ⟨rfl,rfl,.rfl,id,.inr (.inl connecting)⟩)
  cases login with
  | waiting => exact .refl
  | refused accountName => exact (named accountName).trans (disconnect_does env session _)
  | token accountName =>
    have still : Own session (setAccountName session accountName s) := by
      rw [own_iff] at own ⊢
      rw [setAccountName,update_same]
      exact own
    have done := (named accountName).trans (loggedInNtf_does env session _ still)
    rw [handleLoginPacket]
    split
    next loggedIn result =>
      rw [result] at done
      exact done
    next failed result =>
      rw [result] at done
      exact done.trans (disconnect_does env session failed)

theorem handlePacket_does (env : Env) (session : Object) (s : Gate) :
    Does s (handlePacket env session s) := by
  have said : Does s (send env (.packetForward (s.sessions session).sessionId) s) :=
    .single (.note s _ rfl)
  rw [handlePacket]
  split
  · exact said
  · exact said.trans (disconnect_does env session _)

theorem onData_does (env : Env) (session : Object) (login : Login) (packets : Nat) (s : Gate)
    (own : Own session s) : Does s (onData env session login packets s) := by
  rw [onData]
  split
  · exact .refl
  · split
    next connecting => exact handleLoginPacket_does env session login s own connecting
    · refine repeated_invariant (handlePacket env session) (Does s) ?_ packets s .refl
      intro t reach
      exact reach.trans (handlePacket_does env session t)

theorem foldl_does {Item : Type} (handle : Gate → Item → Gate)
    (does : ∀ s item, Does s (handle s item)) (items : List Item) (s : Gate) :
    Does s (items.foldl handle s) := by
  induction items generalizing s with
  | nil => exact .refl
  | cons item items ih => exact (does s item).trans (ih _)

theorem checkSessionState_does (env : Env) (s : Gate) : Does s (checkSessionState env s) := by
  apply foldl_does
  intro t session
  rw [checkSession]
  split
  · exact disconnect_does env session t
  · exact .refl

def allocated (loginSessionId : UInt32) (accountName : WString) (data : GateSession) : GateSession :=
  {data with
    state := .onGateAllocReq
    sessionId := nextSequence data.sessionId
    accountName := accountName
    loginSessionId := loginSessionId
    tempSession := false}

theorem onGateAllocReq_unused (env : Env) (session : Object) (loginSessionId : UInt32)
    (accountName : WString) (s : Gate) (unused : (s.sessions session).state = .none) :
    onGateAllocReq env session loginSessionId accountName s =
      let said := (s.update session (allocated loginSessionId accountName)).note
        (.sent (.gateAllocAck env.config.serverId loginSessionId accountName
          (nextSequence (s.sessions session).sessionId)) (sends env s))
      if sends env s then setState session .gateAllocAck said else said := by
  have reached : reaches .onGateAllocReq session s = some .onGateAllocReq := by
    rw [reaches,unused]
    rfl
  let named := s.update session (allocated loginSessionId accountName)
  have data : named.sessions session = allocated loginSessionId accountName (s.sessions session) :=
    update_same ..
  have said : send env (allocAck env (named.sessions session)) named =
      named.note (.sent (.gateAllocAck env.config.serverId loginSessionId accountName
        (nextSequence (s.sessions session).sessionId)) (sends env s)) := by
    rw [data]
    rfl
  have acked : reaches .gateAllocAck session (send env (allocAck env (named.sessions session)) named) =
      some .gateAllocAck := by
    change transition (named.sessions session).state _ = _
    rw [data]
    rfl
  rw [onGateAllocReq,if_pos reached]
  change (if sends env s = true then
    stateTransition .gateAllocAck session (send env (allocAck env (named.sessions session)) named)
    else send env (allocAck env (named.sessions session)) named) = _
  rw [stateTransition_reached _ session _ _ acked,said]

def connected (connection : Nat) (currTime : UInt32) (data : GateSession) : GateSession :=
  {data with
    sessionId := nextSequence data.sessionId
    connection := some connection
    state := .onConnection
    connectionTime := currTime
    tempSession := true}

theorem onConnection_unused (session : Object) (connection : Nat) (s : Gate)
    (unused : (s.sessions session).state = .none) :
    onConnection session connection s =
      (setClient session connection s).update session (connected connection s.currTime) := by
  have reached : reaches .onConnection session s = some .onConnection := by
    rw [reaches,unused]
    rfl
  rw [onConnection,if_pos reached]
  simp [setClient,Gate.update,connected]

end Fantuan.GateServer.SessionSteps
