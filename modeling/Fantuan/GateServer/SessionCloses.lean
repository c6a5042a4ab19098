import Fantuan.GateServer.Disconnects

/-! The connections that a gate closes. Only the command that reports the end of a connection
closes one: the connection of the session that is its client.
-/
namespace Fantuan.GateServer.SessionCloses
open Lib.Table Lib.Drain Lib.Run ServerBase.ServerCommon Tool.ObjectPool ServerLoop Session Commands
  SessionSteps Indexes Disconnects

def Still (s t : Gate) : Prop :=
  ∀ connection, t.log.count (.close connection) = s.log.count (.close connection)

section
variable (env : Env) (session : Object) (s : Gate)

theorem still_refl : Still s s := fun _ => rfl

theorem still_trans (t u : Gate) (first : Still s t) (second : Still t u) : Still s u :=
  fun connection => (second connection).trans (first connection)

theorem note_still (event : Event) (other : ∀ connection, event ≠ .close connection) :
    Still s (s.note event) :=
  fun connection => List.count_cons_of_ne (other connection)

theorem send_still (message : Message) : Still s (send env message s) := note_still s _ (by simp)

theorem asyncDisconnect_still (connection : Option Nat) : Still s (asyncDisconnect connection s) := by
  cases connection with
  | none => exact still_refl s
  | some connection => exact note_still s _ (by simp)

theorem stateTransition_still (event : SessionEvent) : Still s (stateTransition event session s) := by
  rw [stateTransition]
  split
  · exact still_refl s
  · exact still_refl s

theorem closeSession_still (isByMaster : Bool) : Still s (closeSession env session isByMaster s) := by
  rw [closeSession]
  split
  · exact still_refl s
  · split
    · exact asyncDisconnect_still s _
    · split
      · exact send_still env s _
      · exact still_refl s

theorem onDisconnect_closes (connection : Nat) :
    (onDisconnect env session s).log.count (.close connection) = s.log.count (.close connection) +
      if (reaches .onDisconnect session s).isSome ∧ (s.sessions session).connection = some connection then 1
      else 0 := by
  cases reached : reaches .onDisconnect session s with
  | none =>
    rw [onDisconnect,reached]
    simp
  | some next =>
    let closed := closeConnection session (setState session next s)
    suffices Still closed (onDisconnect env session s) by
      rw [this connection,(closed_ended session s next).closes connection]
      simp
    rw [onDisconnect,reached]
    dsimp only
    split
    · split
      · exact closeSession_still env session closed false
      · split
        · exact still_trans closed _ _ (still_trans closed _ _ (send_still env closed _)
            (stateTransition_still session _ _)) (closeSession_still env session _ false)
        · exact send_still env closed _
    · split
      · exact still_trans closed _ _ (send_still env closed _) (closeSession_still env session _ false)
      · exact send_still env closed _
    · exact still_refl closed

theorem disconnect_still : Still s (disconnect env session s) := by
  rw [disconnect]
  split
  · exact still_refl s
  · split
    · exact still_refl s
    next next reached =>
      dsimp only
      cases has : (s.sessions session).connection with
      | some connection => exact asyncDisconnect_still _ _
      | none =>
        intro connection
        have bare : ((setState session next s).sessions session).connection = none := by
          rw [setState,update_same]
          exact has
        rw [onDisconnect_closes,bare]
        simp [setState,Gate.update]

theorem onGateReleaseReq_still : Still s (onGateReleaseReq env session s) := by
  rw [onGateReleaseReq]
  split
  · exact still_refl s
  · exact still_trans s _ _ (stateTransition_still session s _) (closeSession_still env session _ true)

theorem onRegionBindReq_still (regionServerId : UInt8) :
    Still s (onRegionBindReq env session regionServerId s) := by
  rw [onRegionBindReq]
  split
  · exact still_refl s
  · exact still_refl s

theorem onMasterDisconnect_still : Still s (onMasterDisconnect session s) := by
  have moved := stateTransition_still session s .onMasterDisconnect
  rw [onMasterDisconnect]
  split
  · exact still_refl s
  · dsimp only
    split
    · exact still_trans s _ _ moved (asyncDisconnect_still _ _)
    · exact moved

theorem clone_still (temp : Object) : Still s (clone session temp s) := by
  rw [clone]
  split
  · exact still_refl s
  · dsimp only
    split
    · exact still_refl s
    · exact still_refl s

theorem onSessionTransfered_still : Still s (onSessionTransfered env session s) := by
  have moved := stateTransition_still session s .transfered
  rw [onSessionTransfered]
  dsimp only
  split
  · have sent := still_trans s _ _ moved (send_still env _ (.onGateLoginReq
      ((stateTransition .transfered session s).sessions session).sessionId
      ((stateTransition .transfered session s).sessions session).accountName))
    split
    · exact still_trans s _ _ sent (stateTransition_still session _ .gateLoginReq)
    · exact still_trans s _ _ sent (disconnect_still env session _)
  · exact moved

theorem transferSession_still (tempSessionId : UInt32) (accountName : WString) :
    Still s (transferSession env tempSessionId accountName s).2 := by
  rw [transferSession]
  split
  · exact still_refl s
  · dsimp only
    split
    · exact still_refl s
    · split
      · exact still_trans s _ _ (clone_still _ s _) (onSessionTransfered_still env _ _)
      · exact onSessionTransfered_still env _ {s with undefined := true}

theorem loggedInNtf_still : Still s (loggedInNtf env session s).2 := by
  have transfer := transferSession_still env s (s.sessions session).sessionId (s.sessions session).accountName
  rw [loggedInNtf]
  dsimp only
  split
  · exact still_refl s
  · split
    next failed result =>
      rw [result] at transfer
      exact still_trans s _ _ transfer (disconnect_still env session failed)
    next transfered result =>
      rw [result] at transfer
      have moved := still_trans s _ _ transfer (stateTransition_still session transfered .loggedIn)
      split
      · exact still_trans s _ _ moved (closeSession_still env session _ false)
      · exact moved

theorem handleLoginPacket_still (login : Login) : Still s (handleLoginPacket env session login s) := by
  cases login with
  | waiting => exact still_refl s
  | refused accountName => exact disconnect_still env session (setAccountName session accountName s)
  | token accountName =>
    have done := loggedInNtf_still env session (setAccountName session accountName s)
    rw [handleLoginPacket]
    split
    next loggedIn result =>
      rw [result] at done
      exact done
    next failed result =>
      rw [result] at done
      exact still_trans s _ _ done (disconnect_still env session failed)

theorem onData_still (login : Login) (packets : Nat) : Still s (onData env session login packets s) := by
  rw [onData]
  split
  · exact still_refl s
  · split
    · exact handleLoginPacket_still env session s login
    · refine repeated_invariant (handlePacket env session) (Still s) (fun t still => ?_) packets s (still_refl s)
      have sent := still_trans s t _ still (send_still env t (.packetForward (t.sessions session).sessionId))
      rw [handlePacket]
      split
      · exact sent
      · exact still_trans s _ _ sent (disconnect_still env session _)

theorem onConnection_still (connection : Nat) : Still s (onConnection session connection s) := by
  rw [onConnection]
  split
  · exact still_refl s
  · exact still_refl s

theorem onGateAllocReq_still (loginSessionId : UInt32) (accountName : WString) :
    Still s (onGateAllocReq env session loginSessionId accountName s) := by
  rw [onGateAllocReq]
  dsimp only
  split
  · split
    · exact still_trans s _ _ (send_still env (s.update session _) _) (stateTransition_still session _ _)
    · exact send_still env (s.update session _) _
  · exact still_refl s

theorem visits_still (visit : Gate → Object → Gate) (still : ∀ t other, Still t (visit t other))
    (sessions : List Object) : Still s (sessions.foldl visit s) := by
  induction sessions generalizing s with
  | nil => exact still_refl s
  | cons first rest ih => exact still_trans s _ _ (still s first) (ih _)

theorem checkSession_still : Still s (checkSession env s session) := by
  rw [checkSession]
  split
  · exact disconnect_still env session s
  · exact still_refl s

theorem whileRunning_still (handle : Gate → Gate) (still : Still s (handle s)) :
    Still s (whileRunning handle s) := by
  rw [whileRunning]
  split
  · exact still
  · exact still_refl s

theorem forSession_still (sessionId : UInt32) (handle : Object → Gate → Gate)
    (still : ∀ session, Still s (handle session s)) : Still s (forSession sessionId handle s) := by
  rw [forSession]
  split
  · exact still _
  · exact still_refl s

end

def goesOn : Action → Bool
  | .onDisconnect _ => false
  | _ => true

theorem step_still (env : Env) (s : Gate) (action : Action) (on : goesOn action = true) :
    Still s (step env s action) := by
  cases action with
  | onDisconnect => cases on
  | onConnect connection =>
    rw [step]
    split
    · exact still_refl s
    · refine whileRunning_still (accept connection s) _ ?_
      rw [onCommandOnConnect]
      split
      · exact asyncDisconnect_still _ _
      · split
        · exact asyncDisconnect_still _ _
        next session pool _ =>
          exact onConnection_still session {accept connection s with sessionPool := pool} connection
  | onData connection login packets =>
    rw [step]
    split
    · refine whileRunning_still s _ ?_
      rw [onCommandOnData]
      split
      next session _ =>
        split
        · exact still_refl s
        · exact onData_still env session s login packets
      · exact still_refl s
    · exact still_refl s
  | disconnect sessionId => exact forSession_still s sessionId _ fun session => onMasterDisconnect_still session s
  | shutdown =>
    refine visits_still {s with shutdownStatus := .startShutdown} _ (fun t session => ?_) _
    split
    · exact disconnect_still env session t
    · exact closeSession_still env session t false
  | gateAllocReq loginSessionId accountName =>
    refine whileRunning_still s _ ?_
    have asked := note_still s (.gateAllocReq loginSessionId accountName) (by simp)
    rw [onCommandGateAllocReq]
    split
    · exact asked
    · split
      · exact still_trans s _ _ asked (send_still env _ _)
      · split
        · exact asked
        · exact still_trans s _ _ asked (onGateAllocReq_still env _ {s.note _ with
            sessionPool := _, sessionCount := _, sessionMapByName := _} _ _)
  | gateReleaseReq loginSessionId accountName =>
    refine whileRunning_still s _ ?_
    rw [onCommandGateReleaseReq]
    split
    next session _ => exact onGateReleaseReq_still env session s
    · exact still_refl s
  | regionBindReq sessionId regionServerId =>
    refine whileRunning_still s _ (forSession_still s sessionId _ fun session => ?_)
    exact onRegionBindReq_still env session s regionServerId
  | checkSessionState =>
    refine whileRunning_still s _ (visits_still s _ (fun t session => ?_) _)
    exact checkSession_still env session t
  | reportState => exact whileRunning_still s _ (send_still env s _)
  | tick => exact still_refl s
  | pass =>
    rw [step,loopPass]
    split
    · exact still_refl s
    · exact still_refl s

/-- The client of the connection is a session that still has it and can be told of its end. -/
def Owned (s : Gate) (connection : Nat) : Prop :=
  ∃ session, (s.connections connection).client = some session ∧
    (s.sessions session).connection = some connection ∧ (reaches .onDisconnect session s).isSome = true

def reported (s : Gate) : Action → List Nat
  | .onDisconnect connection => if (s.connections connection).live then [connection] else []
  | _ => []

def ClosesOnce (env : Env) (s : Gate) (action : Action) : Prop :=
  ∀ connection, (step env s action).log.count (.close connection) =
    s.log.count (.close connection) + (reported s action).count connection

theorem onDisconnect_closesOnce (env : Env) (s : Gate) (connection : Nat) :
    ClosesOnce env s (.onDisconnect connection) ↔
      ∀ other ∈ reported s (.onDisconnect connection), Owned s other := by
  cases live : (s.connections connection).live with
  | false =>
    rw [ClosesOnce,reported,step,live]
    simp
  | true =>
    have found : ((hangUp connection s).connections connection).client = (s.connections connection).client := by
      simp [hangUp]
    rw [ClosesOnce,reported,if_pos live,List.forall_mem_singleton,step,if_pos live,onCommandOnDisconnect,found,
      Owned]
    cases client : (s.connections connection).client with
    | none =>
      refine iff_of_false (fun closes => ?_) (by simp)
      have here := closes connection
      rw [List.count_singleton_self] at here
      change s.log.count _ = _ at here
      omega
    | some session =>
      have closes := onDisconnect_closes env session (unmapSession session (hangUp connection s))
      change ∀ other, (onDisconnect env session (unmapSession session (hangUp connection s))).log.count _ =
        s.log.count _ + if (reaches .onDisconnect session s).isSome ∧
          (s.sessions session).connection = some other then 1 else 0 at closes
      dsimp only
      simp only [closes,Nat.add_left_cancel_iff,Option.some.injEq,exists_eq_left']
      constructor
      · intro once
        have here := once connection
        rw [List.count_singleton_self] at here
        by_contra lost
        rw [if_neg (fun both => lost ⟨both.2,both.1⟩)] at here
        cases here
      · rintro ⟨own,reached⟩ other
        rw [own,List.count_singleton]
        simp [reached]

theorem step_closesOnce (env : Env) (s : Gate) (action : Action) :
    ClosesOnce env s action ↔ ∀ connection ∈ reported s action, Owned s connection := by
  by_cases on : goesOn action = true
  · have none : reported s action = [] := by
      cases action with
      | onDisconnect => cases on
      | _ => rfl
    rw [ClosesOnce,none]
    exact iff_of_true (step_still env s action on) (by simp)
  · cases action with
    | onDisconnect connection => exact onDisconnect_closesOnce env s connection
    | _ => exact absurd rfl on

theorem run_owned (env : Env) (sends : ∀ n, env.net n = true) (actions : List Action)
    (guarded : Guarded (step env) Detached (init env.config) actions) (connection : Nat) :
    let s := run (step env) (init env.config) actions
    (s.connections connection).live = true →
      (Owned s connection ↔ (s.connections connection).client ≠ none) := by
  intro s live
  obtain ⟨-,linked⟩ := run_linked env sends actions guarded
  constructor
  · rintro ⟨session,client,-⟩ none
    rw [none] at client
    cases client
  · intro client
    obtain ⟨session,client⟩ := Option.ne_none_iff_exists'.mp client
    obtain ⟨own,still⟩ := linked.clients connection session live client
    refine ⟨session,client,own,?_⟩
    rw [reaches]
    revert still
    generalize (s.sessions session).state = state
    cases state <;> decide

end Fantuan.GateServer.SessionCloses
