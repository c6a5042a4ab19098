import Mathlib.Logic.Relation
import Fantuan.ServerBase.SessionSteps

/-! What a command of the login server or of the chat server can do to its sessions, to the log and to
the time. Every command is a chain of these steps, but for one that begins a connection and for a tick.
-/
namespace Fantuan.ServerBase.SessionEffects
open Lib.Table ServerCommon Tool.ObjectPool Tool.StateMachine Sessions SessionServerLoop SessionSteps

/-- The master is told that a session has lost its connection. -/
def informs : Event → Bool
  | .sent (.onSessionDisconnect _) _ => true
  | _ => false

inductive SessionStep (env : Env) : Loop → Loop → Prop
  -- the pool, the map, the connections and the flags of the loop
  | beside (s t : Loop) (sessions : t.sessions = s.sessions) (log : t.log = s.log)
      (clock : t.currTime = s.currTime) : SessionStep env s t
  | note (s : Loop) (event : Event) (quiet : informs event = false) : SessionStep env s (s.note event)
  | name (s : Loop) (session : Object) (accountName : WString) :
      SessionStep env s (s.update session fun data => {data with accountName := accountName})
  | advance (s : Loop) (session : Object) (event : SessionEvent) (next : SessionState)
      (plain : event ≠ .onConnection ∧ event ≠ .loggedIn) (reached : reaches env event session s = some next) :
      SessionStep env s (setState session next s)
  | login (s : Loop) (session : Object) (connecting : (s.sessions session).state = .onConnection) :
      SessionStep env s
        (s.update session fun data => {data with state := .loggedIn, loggedInTime := s.currTime})
  | unbind (s : Loop) (session : Object) :
      SessionStep env s (s.update session fun data => {data with connection := none})
  | free (s : Loop) (session : Object) :
      SessionStep env s (s.update session fun data =>
        {data with sessionId := nextSequence data.sessionId}.clear env.config.kind)

abbrev Does (env : Env) : Loop → Loop → Prop := Relation.ReflTransGen (SessionStep env)

section
variable (env : Env) (s : Loop)

theorem beside_does (t : Loop) (sessions : t.sessions = s.sessions) (log : t.log = s.log)
    (clock : t.currTime = s.currTime) : Does env s t := .single (.beside s t sessions log clock)

theorem note_does (event : Event) (quiet : informs event = false) : Does env s (s.note event) :=
  .single (.note s event quiet)

theorem stateTransition_does (event : SessionEvent) (session : Object)
    (plain : event ≠ .onConnection ∧ event ≠ .loggedIn) : Does env s (stateTransition env event session s) := by
  cases reached : reaches env event session s with
  | none => rw [stateTransition,reached]
  | some next =>
    rw [stateTransition,reached]
    exact .single (.advance s session event next plain reached)

theorem disconnect_transition (kind : Kind) (state : SessionState) :
    transition kind state .onDisconnect = some .onDisconnect ∨
      transition kind state .onDisconnect = none ∧ state ≠ .onLoginReq := by
  cases kind <;> cases state <;> decide

/-- Once the base class is done the state is never that of a pending request. -/
theorem endConnection_state (session : Object) :
    ((endConnection env session s).sessions session).state ≠ .onLoginReq := by
  rcases disconnect_transition env.config.kind (s.sessions session).state with ends | ⟨stays,other⟩
  · have reached : reaches env .onDisconnect session s = some .onDisconnect := ends
    rw [endConnection,if_pos reached,update_same]
    exact SessionState.noConfusion
  · have unreached : reaches env .onDisconnect session s = none := stays
    rw [endConnection,unreached,if_neg (by simp),stateTransition,unreached]
    exact other

theorem onDisconnect_ends (session : Object) : onDisconnect env session s = endConnection env session s := by
  rw [onDisconnect]
  split
  · rfl
  · exact if_neg fun pending => endConnection_state env s session pending.1

theorem closeConnection_does (session : Object) : Does env s (closeConnection session s) := by
  rw [closeConnection]
  split
  next connection _ => exact (note_does env s (.close connection) rfl).tail (.unbind _ session)
  · exact .refl

theorem onDisconnect_does (session : Object) : Does env s (onDisconnect env session s) := by
  rw [onDisconnect_ends,endConnection]
  split
  next reached =>
    have moved : Does env s (setState session .onDisconnect s) :=
      .single (.advance s session .onDisconnect .onDisconnect (by decide) reached)
    exact (moved.trans (closeConnection_does env _ session)).tail (.free _ session)
  · exact stateTransition_does env s .onDisconnect session (by decide)

theorem disconnect_does (session : Object) : Does env s (disconnect env session s) := by
  rw [disconnect]
  split
  · exact note_does env s _ rfl
  · exact onDisconnect_does env s session

theorem sendData_does (session : Object) : Does env s (sendData env session s) := by
  rw [sendData]
  split
  · split
    · exact note_does env s _ rfl
    · exact beside_does env s _ rfl rfl rfl
  · exact note_does env s _ rfl

theorem login_transition (kind : Kind) (state : SessionState) :
    transition kind state .loggedIn = none ∨
      state = .onConnection ∧ transition kind state .loggedIn = some .loggedIn := by
  cases kind <;> cases state <;> decide

theorem loggedInNtf_does (session : Object) : Does env s (loggedInNtf env session s).2 := by
  rw [loggedInNtf,stateTransition]
  rcases login_transition env.config.kind (s.sessions session).state with stays | ⟨connecting,moves⟩
  · have unreached : reaches env .loggedIn session s = none := stays
    rw [unreached,if_neg (by simp)]
  · have reached : reaches env .loggedIn session s = some .loggedIn := moves
    have both : (setState session .loggedIn s).update session (fun data => {data with loggedInTime := s.currTime}) =
        s.update session fun data => {data with state := .loggedIn, loggedInTime := s.currTime} := by
      simp only [setState,Loop.update,Function.update_self,Function.update_idem]
    rw [reached,if_pos rfl]
    change Does env s
      ((setState session .loggedIn s).update session fun data => {data with loggedInTime := s.currTime})
    rw [both]
    exact .single (.login s session connecting)

theorem handleLoginPacket_does (session : Object) (login : Login) :
    Does env s (handleLoginPacket env session login s) := by
  have names (accountName : WString) :
      Does env s (s.update session fun data => {data with accountName := accountName}) :=
    .single (.name s session accountName)
  cases login with
  | waiting => exact .refl
  | refused accountName => exact (names accountName).trans (disconnect_does env _ session)
  | token accountName =>
    have named := names accountName
    rw [handleLoginPacket]
    generalize (s.update session fun data => {data with accountName := accountName}) = t at *
    have logged := named.trans (loggedInNtf_does env t session)
    split
    · exact (named.trans (note_does env t .noBuffer rfl)).trans (disconnect_does env _ session)
    · cases result : loggedInNtf env session t with
      | mk success u =>
        rw [result] at logged
        cases success with
        | false => exact logged.trans (disconnect_does env u session)
        | true =>
          split
          next wrong => cases wrong
          next done _ =>
            obtain rfl := (Prod.mk.inj done).2
            exact logged
          next done _ =>
            obtain rfl := (Prod.mk.inj done).2
            split
            · exact logged.trans (note_does env u _ rfl)
            · exact logged.trans (beside_does env u _ rfl rfl rfl)

theorem onVersionReq_does (session : Object) (version : UInt32) :
    Does env s (onVersionReq env session version s) := by
  have moved := stateTransition_does env s .onVersionReq session (by decide)
  have told := moved.trans (sendData_does env _ session)
  rw [onVersionReq]
  dsimp only
  generalize sendData env session (stateTransition env .onVersionReq session s) = t at told ⊢
  split
  · exact moved.trans (disconnect_does env _ session)
  · split
    · exact told.trans (disconnect_does env t session)
    · have sent := told.trans (note_does env t (.sent (.onLoginReq (t.sessions session).sessionId
        (t.sessions session).accountName) (sends env t)) rfl)
      split
      · exact sent.trans (stateTransition_does env _ .onLoginReq session (by decide))
      · exact sent.trans (disconnect_does env _ session)

theorem visits_does {Entry : Type} (visit : Loop → Entry → Loop) (does : ∀ t entry, Does env t (visit t entry))
    (entries : List Entry) : Does env s (entries.foldl visit s) := by
  induction entries generalizing s with
  | nil => exact .refl
  | cons entry entries ih => exact (does s entry).trans (ih _)

theorem handlePacket_does (session : Object) (packet : Packet) :
    Does env s (handlePacket env session s packet) := by
  rw [handlePacket.eq_def]
  split
  · exact onVersionReq_does env s session _
  · exact .refl

theorem onData_does (session : Object) (login : Login) (packets : List Packet) :
    Does env s (onData env session login packets s) := by
  rw [onData]
  split
  · exact .refl
  · split
    · exact handleLoginPacket_does env s session login
    · exact visits_does env s _ (fun t packet => handlePacket_does env t session packet) packets

theorem onLoginFailedAck_does (session : Object) : Does env s (onLoginFailedAck env session s) := by
  have moved := stateTransition_does env s .onLoginFailedAck session (by decide)
  rw [onLoginFailedAck]
  split
  · exact moved.trans (disconnect_does env _ session)
  · exact (moved.trans (sendData_does env _ session)).trans (disconnect_does env _ session)

theorem forSession_does (sessionId : UInt32) (handle : Object → Loop → Loop)
    (does : ∀ session, Does env s (handle session s)) : Does env s (forSession env.config sessionId handle s) := by
  rw [forSession]
  split
  next session _ => exact does session
  · exact beside_does env s _ rfl rfl rfl

theorem checkSession_does (session : Object) : Does env s (checkSession env s session) := by
  have both (late : Bool) : Does env s (if late = true then disconnect env session s else s) := by
    split
    · exact disconnect_does env s session
    · exact .refl
  exact both _

theorem whileRunning_does (handle : Loop → Loop) (does : Does env s (handle s)) :
    Does env s (whileRunning handle s) := by
  rw [whileRunning]
  split
  · exact does
  · exact .refl

theorem onCommandOnDisconnect_does (connection : Nat) : Does env s (onCommandOnDisconnect env connection s) := by
  rw [onCommandOnDisconnect]
  split
  next session _ =>
    have cleared : Does env s (clearSession session s) := beside_does env s _ rfl rfl rfl
    exact (cleared.trans (onDisconnect_does env _ session)).trans (beside_does env _ _ rfl rfl rfl)
  · exact .refl

theorem step_does (action : Action) (plain : ∀ connection, action ≠ .onConnect connection)
    (still : ∀ currTime, action ≠ .tick currTime) : Does env s (step env s action) := by
  cases action with
  | onConnect connection => exact absurd rfl (plain connection)
  | tick currTime => exact absurd rfl (still currTime)
  | onData connection login packets =>
    rw [step]
    split
    · refine whileRunning_does env s _ ?_
      rw [onCommandOnData]
      split
      next session _ => exact onData_does env s session login packets
      · exact note_does env s _ rfl
    · exact .refl
  | onDisconnect connection =>
    rw [step]
    split
    · have hung : Does env s (hangUp connection s) := beside_does env s _ rfl rfl rfl
      exact hung.trans (onCommandOnDisconnect_does env _ connection)
    · exact .refl
  | disconnect sessionId => exact forSession_does env s sessionId _ (disconnect_does env s)
  | sendData sessionId =>
    exact whileRunning_does env s _ (forSession_does env s sessionId _ (sendData_does env s))
  | broadcastData sessionIds =>
    refine whileRunning_does env s _ (visits_does env s _ (fun t sessionId => ?_) sessionIds)
    exact forSession_does env t sessionId _ (sendData_does env t)
  | packetForward sessionId =>
    rw [step]
    split
    · exact whileRunning_does env s _ (forSession_does env s sessionId _ (sendData_does env s))
    · exact .refl
  | onLoginFailedAck sessionId =>
    rw [step]
    split
    · exact whileRunning_does env s _ (forSession_does env s sessionId _ (onLoginFailedAck_does env s))
    · exact .refl
  | clearSession session =>
    rw [step]
    split
    · exact beside_does env s _ rfl rfl rfl
    · exact .refl
  | shutdown =>
    have begun : Does env s {s with shutdownStatus := .startShutdown} := beside_does env s _ rfl rfl rfl
    exact begun.trans (visits_does env _ _ (fun t session => disconnect_does env t session) _)
  | checkSessionState => exact whileRunning_does env s _ (visits_does env s _ (checkSession_does env) _)
  | reportState =>
    refine whileRunning_does env s _ ?_
    rw [reportState]
    split
    · exact note_does env s _ rfl
    · exact .refl
  | pass =>
    rw [step,loopPass]
    split
    · exact beside_does env s _ rfl rfl rfl
    · exact .refl

end

end Fantuan.ServerBase.SessionEffects
