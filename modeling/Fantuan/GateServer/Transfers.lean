import Fantuan.GateServer.Disconnects

/-! The hand-over of a client's connection to the session of its account. TransferSession tells nothing
of Clone and OnSessionTransfered, and LoggedInNtf reports a success whatever became of them.
-/
namespace Fantuan.GateServer.Transfers
open Lib.Table Lib.Drain Lib.Run ServerBase.ServerCommon Tool.ObjectPool ServerLoop Session Commands
  SessionSteps Indexes Disconnects

/-- The connection has gone from the temporary session to the session of the account. The m_pConnection that the
temporary session keeps is left aside. -/
structure Moves (temp session : Object) (connection : Nat) (s t : Gate) : Prop where
  before : (s.connections connection).client = some temp
  state : (t.sessions session).state = .gateLoginReq
  given : (t.sessions session).connection = some connection
  client : (t.connections connection).client = some session
  alone : ∀ other, other ≠ session → (t.sessions other).connection = some connection → other = temp
  released : temp ∈ t.finalizingQueue ∧ (t.sessions temp).state = .transfered

/-- No session's connection, name or state has changed, but for the states that may. -/
def Unchanged (free : Object → Prop) (s t : Gate) : Prop :=
  ∀ session, (t.sessions session).connection = (s.sessions session).connection ∧
    (t.sessions session).accountName = (s.sessions session).accountName ∧
    (¬ free session → (t.sessions session).state = (s.sessions session).state)

/-- The token's login moves the connection, or reports a failure that changes nothing else. -/
def Settles (free : Object → Prop) (temp : Object) (accountName : WString) (s : Gate)
    (result : Bool × Gate) : Prop :=
  result.1 = true ∧ (∃ session connection, find accountName s.sessionMapByName = some session ∧
      (s.sessions temp).connection = some connection ∧ Moves temp session connection s result.2) ∨
    result.1 = false ∧ Unchanged free s result.2

/-- The session takes no token: LoggedInNtf turns it down. -/
def Idle (temp : Object) (s : Gate) : Prop :=
  (s.sessions temp).finalizing = true ∨ (s.sessions temp).state ≠ .onConnection

/-- The account's session waits for its client and is not temporary, no third session has the
connection left from before, and the send of OnGateLoginReq succeeds. -/
def Transferable (env : Env) (temp : Object) (accountName : WString) (s : Gate) : Prop :=
  ∃ session connection, find accountName s.sessionMapByName = some session ∧
    (s.sessions session).state = .gateAllocAck ∧ (s.sessions session).tempSession = false ∧
    (s.sessions temp).connection = some connection ∧ (s.connections connection).client = some temp ∧
    (∀ other, other ≠ session → (s.sessions other).connection = some connection → other = temp) ∧
    sends env s = true

/-- There is no session of the account that waits or is on hold. -/
def Refusable (accountName : WString) (s : Gate) : Prop :=
  ∀ session, find accountName s.sessionMapByName = some session →
    (s.sessions session).state ≠ .gateAllocAck ∧ (s.sessions session).state ≠ .holdConnection

/-- Only the one session has changed, and neither its connection nor its name. -/
structure Alters (session : Object) (s t : Gate) : Prop where
  others : ∀ other, other ≠ session → t.sessions other = s.sessions other
  connection : (t.sessions session).connection = (s.sessions session).connection
  accountName : (t.sessions session).accountName = (s.sessions session).accountName

section
variable (env : Env) (session : Object)

theorem alters_refl (s : Gate) : Alters session s s := ⟨fun _ _ => rfl,rfl,rfl⟩

theorem alters_trans (s t u : Gate) (first : Alters session s t) (second : Alters session t u) :
    Alters session s u :=
  ⟨fun other different => (second.others other different).trans (first.others other different),
    second.connection.trans first.connection,second.accountName.trans first.accountName⟩

theorem alters_same (s t : Gate) (same : t.sessions = s.sessions) : Alters session s t := by
  refine ⟨fun other _ => ?_,?_,?_⟩ <;> rw [same]

theorem alters_update (s : Gate) (change : GateSession → GateSession)
    (connection : (change (s.sessions session)).connection = (s.sessions session).connection)
    (accountName : (change (s.sessions session)).accountName = (s.sessions session).accountName) :
    Alters session s (s.update session change) := by
  refine ⟨fun other different => update_other s session other change different,?_,?_⟩
  · rw [update_same]
    exact connection
  · rw [update_same]
    exact accountName

theorem setState_alters (s : Gate) (next : SessionState) : Alters session s (setState session next s) :=
  alters_update session s _ rfl rfl

theorem stateTransition_alters (s : Gate) (event : SessionEvent) :
    Alters session s (stateTransition event session s) := by
  rw [stateTransition]
  split
  · exact setState_alters session s _
  · exact alters_refl session s

theorem pushFinalizing_alters (s : Gate) : Alters session s (pushFinalizing session s) :=
  alters_trans session s _ _ (alters_update session s (fun data => {data with finalizing := true}) rfl rfl)
    (alters_same session _ _ rfl)

theorem asyncDisconnect_alters (s : Gate) (connection : Option Nat) :
    Alters session s (asyncDisconnect connection s) := by
  cases connection with
  | none => exact alters_same session s _ rfl
  | some connection => exact alters_same session s _ rfl

theorem closeSession_alters (isByMaster : Bool) (s : Gate) :
    Alters session s (closeSession env session isByMaster s) := by
  rw [closeSession]
  split
  · exact alters_refl session s
  · split
    · exact asyncDisconnect_alters session s _
    · split
      · let sent := send env (allocAck env (s.sessions session)) s
        exact alters_trans session s sent _ (alters_same session s sent rfl) (pushFinalizing_alters session sent)
      · exact pushFinalizing_alters session s

theorem onDisconnect_alters (s : Gate) (none : (s.sessions session).connection = none) :
    Alters session s (onDisconnect env session s) := by
  rw [onDisconnect]
  split
  · exact alters_refl session s
  next next reached =>
    have moved := setState_alters session s next
    have still : closeConnection session (setState session next s) = setState session next s := by
      rw [closeConnection,moved.connection,none]
    rw [still]
    have sent (u : Gate) (message : Message) (far : Alters session s u) : Alters session s (send env message u) :=
      alters_trans session s _ _ far (alters_same session u _ rfl)
    have closes (u : Gate) (far : Alters session s u) : Alters session s (closeSession env session false u) :=
      alters_trans session s _ _ far (closeSession_alters env session false u)
    dsimp only
    split
    · split
      · exact closes _ moved
      · split
        · exact closes _ (alters_trans session s _ _ (sent _ _ moved) (stateTransition_alters session _ _))
        · exact sent _ _ moved
    · split
      · exact closes _ (sent _ _ moved)
      · exact sent _ _ moved
    · exact moved

theorem disconnect_alters (s : Gate) : Alters session s (disconnect env session s) := by
  rw [disconnect]
  split
  · exact alters_refl session s
  · split
    · exact alters_refl session s
    next next reached =>
      have moved := setState_alters session s next
      dsimp only
      split
      · exact alters_trans session s _ _ moved (asyncDisconnect_alters session _ _)
      next none =>
        refine alters_trans session s _ _ moved (onDisconnect_alters env session _ ?_)
        rw [moved.connection]
        exact none

theorem does_connecting (s t : Gate) (does : Does s t) (after : (t.sessions session).state = .onConnection) :
    (s.sessions session).state = .onConnection := by
  induction does with
  | refl => exact after
  | tail _ step ih =>
    apply ih
    cases step with
    | change other change still kept =>
      by_cases same : session = other
      · subst same
        rw [update_same] at after
        exact kept.connecting after
      · rwa [update_other _ other session change same] at after
    | queue other =>
      change ((Gate.update _ other fun data => {data with finalizing := true}).sessions session).state = _ at after
      by_cases same : session = other
      · subst same
        rwa [update_same] at after
      · rwa [update_other _ other session _ same] at after
    | _ => exact after

theorem disconnect_leaves (s : Gate) (active : (s.sessions session).finalizing = false)
    (connecting : (s.sessions session).state = .onConnection) :
    ((disconnect env session s).sessions session).state ≠ .onConnection := by
  have reached : reaches .disconnect session s = some .disconnect := by rw [reaches,connecting]; rfl
  have moved : ((setState session .disconnect s).sessions session).state = .disconnect := by
    rw [setState,update_same]
  intro after
  rw [disconnect,active,reached] at after
  simp only [Bool.false_eq_true,if_false] at after
  have before : ((setState session .disconnect s).sessions session).state = .onConnection := by
    split at after
    · exact does_connecting session _ _ (asyncDisconnect_does _ _) after
    · exact does_connecting session _ _ (onDisconnect_does env session _) after
  rw [moved] at before
  cases before

theorem closed_temp (temp : Object) (s : Gate) (active : (s.sessions temp).finalizing = false)
    (connecting : (s.sessions temp).state = .onConnection) :
    let t := closeSession env temp false (stateTransition .loggedIn temp s)
    reaches .loggedIn temp s = some .transfered ∧ temp ∈ t.finalizingQueue ∧
      (t.sessions temp).state = .transfered ∧ t.connections = s.connections ∧ Alters temp s t := by
  have reached : reaches .loggedIn temp s = some .transfered := by rw [reaches,connecting]; rfl
  have here : ((setState temp .transfered s).sessions temp) = {s.sessions temp with state := .transfered} := by
    rw [setState,update_same]
  have pushed : closeSession env temp false (stateTransition .loggedIn temp s) =
      pushFinalizing temp (setState temp .transfered s) := by
    rw [stateTransition_reached s temp _ _ reached,closeSession,here]
    simp [active,needDisconnect]
  dsimp only
  rw [pushed]
  refine ⟨reached,?_,?_,rfl,?_⟩
  · exact List.mem_append_right _ (List.mem_singleton_self temp)
  · change ((Gate.update _ temp fun data => {data with finalizing := true}).sessions temp).state = _
    rw [update_same,here]
  · exact alters_trans temp s _ _ (setState_alters temp s _) (pushFinalizing_alters temp _)

theorem onSessionTransfered_waiting (s : Gate) (waiting : (s.sessions session).state = .gateAllocAck) :
    let t := onSessionTransfered env session s
    t.connections = s.connections ∧ Alters session s t ∧
      (t.sessions session).state = if sends env s then .gateLoginReq else .loggedIn := by
  have reached : reaches .transfered session s = some .loggedIn := by rw [reaches,waiting]; rfl
  have state : ((setState session .loggedIn s).sessions session).state = .loggedIn := by
    rw [setState,update_same]
  have moved := setState_alters session s .loggedIn
  rw [onSessionTransfered,if_pos reached,stateTransition_reached s session _ _ reached]
  let message := Message.onGateLoginReq ((setState session .loggedIn s).sessions session).sessionId
    ((setState session .loggedIn s).sessions session).accountName
  let sent := send env message (setState session .loggedIn s)
  have told : Alters session s sent := alters_trans session s _ _ moved (alters_same session _ _ rfl)
  change let t := if sends env s then stateTransition .gateLoginReq session sent else disconnect env session sent
    t.connections = s.connections ∧ Alters session s t ∧ (t.sessions session).state = _
  dsimp only
  split
  · have logged : reaches .gateLoginReq session sent = some .gateLoginReq := by
      change transition ((setState session .loggedIn s).sessions session).state _ = _
      rw [state]
      rfl
    rw [stateTransition_reached sent session _ _ logged]
    refine ⟨rfl,alters_trans session s _ _ told (setState_alters session sent _),?_⟩
    rw [setState,update_same]
  · have stuck : disconnect env session sent = sent := by
      have none : reaches .disconnect session sent = none := by
        change transition ((setState session .loggedIn s).sessions session).state _ = _
        rw [state]
        rfl
      rw [disconnect,none]
      split <;> rfl
    rw [stuck]
    exact ⟨rfl,told,state⟩

/-- A temporary session that takes a token: its id leads to it. -/
structure Taking (temp : Object) (s : Gate) : Prop where
  active : (s.sessions temp).finalizing = false
  connecting : (s.sessions temp).state = .onConnection
  own : getSession (s.sessions temp).sessionId s = some temp
  temporary : (s.sessions temp).tempSession = true

section
variable (temp : Object) (s : Gate)

theorem clone_others (other : Object) (different : other ≠ session) :
    (clone session temp s).sessions other = s.sessions other := by
  have still := update_other s session other (cloned (s.sessions temp)) different
  rw [clone]
  split
  · rfl
  · dsimp only
    split
    · exact still
    · exact still

theorem clone_log : (clone session temp s).log = s.log := by
  rw [clone]
  split
  · rfl
  · dsimp only
    split <;> rfl

theorem clone_state : ((clone session temp s).sessions session).state = (s.sessions session).state := by
  have still : ((s.update session (cloned (s.sessions temp))).sessions session).state =
      (s.sessions session).state := by
    rw [update_same]
    rfl
  rw [clone]
  split
  · rfl
  · dsimp only
    split
    · exact still
    · exact still

/-- A session that waits for its client or is on hold has its hand-over reported as a success. -/
theorem loggedInNtf_found (taking : Taking temp s)
    (found : find (s.sessions temp).accountName s.sessionMapByName = some session)
    (ready : (s.sessions session).state = .gateAllocAck ∨ (s.sessions session).state = .holdConnection) :
    let given := onSessionTransfered env session (clone session temp s)
    let t := closeSession env temp false (stateTransition .loggedIn temp given)
    loggedInNtf env temp s = (true,t) ∧ session ≠ temp ∧ temp ∈ t.finalizingQueue ∧
      (t.sessions temp).state = .transfered ∧ t.connections = given.connections ∧ Alters temp given t ∧
      ∀ other, other ≠ session → given.sessions other = s.sessions other := by
  have different : session ≠ temp := by
    rintro rfl
    rw [taking.connecting] at ready
    rcases ready with wrong | wrong <;> cases wrong
  have transfered : transferSession env (s.sessions temp).sessionId (s.sessions temp).accountName s =
      (true,onSessionTransfered env session (clone session temp s)) := by
    rw [transferSession,found]
    dsimp only
    rw [if_neg (by rintro ⟨first,second⟩; exact ready.elim first second),taking.own]
  have others (other : Object) (unlike : other ≠ session) :
      (onSessionTransfered env session (clone session temp s)).sessions other = s.sessions other := by
    rw [← clone_others session temp s other unlike]
    rcases ready with waiting | hold
    · have state := (clone_state session temp s).trans waiting
      exact (onSessionTransfered_waiting env session _ state).2.1.others other unlike
    · have none : reaches .transfered session (clone session temp s) = none := by
        rw [reaches,clone_state,hold]
        rfl
      rw [onSessionTransfered,none,stateTransition_none _ _ _ none]
      rfl
  have here := others temp (Ne.symm different)
  obtain ⟨reached,queued,state,connections,alters⟩ := closed_temp env temp
    (onSessionTransfered env session (clone session temp s)) (by rw [here]; exact taking.active)
    (by rw [here]; exact taking.connecting)
  have start : reaches .loggedIn temp s = some .transfered := by rw [reaches,taking.connecting]; rfl
  refine ⟨?_,different,queued,state,connections,alters,others⟩
  rw [loggedInNtf,taking.active,start,transfered]
  simp only [Bool.false_eq_true,reduceCtorEq,or_self,if_false]
  rw [if_pos reached]

theorem loggedInNtf_refused (taking : Taking temp s) (refusable : Refusable (s.sessions temp).accountName s) :
    loggedInNtf env temp s = (false,disconnect env temp s) := by
  have refused : transferSession env (s.sessions temp).sessionId (s.sessions temp).accountName s = (false,s) := by
    rw [transferSession]
    split
    · rfl
    next session found =>
      dsimp only
      exact if_pos (refusable session found)
  have start : reaches .loggedIn temp s = some .transfered := by rw [reaches,taking.connecting]; rfl
  rw [loggedInNtf,taking.active,start,refused]
  simp

theorem moves_transferable (taking : Taking temp s)
    (found : find (s.sessions temp).accountName s.sessionMapByName = some session)
    (waiting : (s.sessions session).state = .gateAllocAck) :
    let t := (loggedInNtf env temp s).2
    (∃ connection, (s.sessions temp).connection = some connection ∧ Moves temp session connection s t) ↔
      (s.sessions session).tempSession = false ∧ (∃ connection, (s.sessions temp).connection = some connection ∧
        (s.connections connection).client = some temp ∧
        ∀ other, other ≠ session → (s.sessions other).connection = some connection → other = temp) ∧
      sends env s = true := by
  obtain ⟨result,different,queued,released,lines,alters,others⟩ :=
    loggedInNtf_found env session temp s taking found (.inl waiting)
  obtain ⟨still,waits,state⟩ := onSessionTransfered_waiting env session (clone session temp s)
    ((clone_state session temp s).trans waiting)
  have sent : sends env (clone session temp s) = sends env s := by rw [sends,clone_log,← sends]
  rw [sent] at state
  rw [result]
  dsimp only
  generalize onSessionTransfered env session (clone session temp s) = given at *
  generalize closeSession env temp false (stateTransition .loggedIn temp given) = t at *
  have connections : t.connections = (clone session temp s).connections := lines.trans still
  have account : t.sessions session = given.sessions session := alters.others session different
  have third (other : Object) (unlike : other ≠ session) :
      (t.sessions other).connection = (s.sessions other).connection := by
    rw [← others other unlike]
    by_cases same : other = temp
    · rw [same]
      exact alters.connection
    · rw [alters.others other same]
  constructor
  · rintro ⟨connection,has,moves⟩
    refine ⟨?_,⟨connection,has,moves.before,?_⟩,?_⟩
    · by_contra temporary
      have idle : clone session temp s = s := by
        rw [clone,if_pos (.inl (by simpa using temporary))]
      have client := moves.client
      rw [connections,idle,moves.before] at client
      exact different (Option.some.inj client).symm
    · intro other unlike holds
      apply moves.alone other unlike
      rw [third other unlike]
      exact holds
    · by_contra failed
      have reached := moves.state
      rw [account,state,if_neg failed] at reached
      cases reached
  · rintro ⟨lasting,⟨connection,has,before,alone⟩,success⟩
    have moved := clone_given session temp connection s lasting taking.temporary has
    refine ⟨connection,has,before,?_,?_,?_,?_,queued,released⟩
    · rw [account,state,if_pos success]
    · rw [account,waits.connection,moved]
      change ((s.update session (cloned (s.sessions temp))).sessions session).connection = _
      rw [update_same]
      exact has
    · rw [connections,moved]
      simp [setClient]
    · intro other unlike holds
      rw [third other unlike] at holds
      exact alone other unlike holds

theorem moves_held (taking : Taking temp s)
    (found : find (s.sessions temp).accountName s.sessionMapByName = some session)
    (hold : (s.sessions session).state = .holdConnection) (connection : Nat) :
    ¬ Moves temp session connection s (loggedInNtf env temp s).2 := by
  obtain ⟨result,different,-,-,-,alters,-⟩ := loggedInNtf_found env session temp s taking found (.inr hold)
  have none : reaches .transfered session (clone session temp s) = none := by
    rw [reaches,clone_state,hold]
    rfl
  have stuck : onSessionTransfered env session (clone session temp s) = clone session temp s := by
    rw [onSessionTransfered,none,stateTransition_none _ _ _ none]
    rfl
  intro moves
  have reached := moves.state
  rw [result] at reached
  rw [alters.others session different,stuck,clone_state,hold] at reached
  cases reached

end

/-- In what states a login moves the connection or reports a failure, with the state of the temporary
session counted as one of the states that may not change, and without. -/
theorem settles_iff (temp : Object) (s : Gate) (taking : ¬ Idle temp s → Taking temp s) :
    let accountName := (s.sessions temp).accountName
    let result := loggedInNtf env temp s
    (Settles (fun _ => False) temp accountName s result ↔
      Idle temp s ∨ Transferable env temp accountName s) ∧
    (Settles (· = temp) temp accountName s result ↔
      Idle temp s ∨ Transferable env temp accountName s ∨ Refusable accountName s) := by
  dsimp only
  by_cases idle : Idle temp s
  · have failed : loggedInNtf env temp s = (false,s) := by
      rw [loggedInNtf]
      apply if_pos
      rcases idle with final | elsewhere
      · exact .inl final
      · refine .inr ?_
        rw [reaches]
        generalize (s.sessions temp).state = state at elsewhere
        cases state <;> first | rfl | exact absurd rfl elsewhere
    have settled (free : Object → Prop) :
        Settles free temp (s.sessions temp).accountName s (loggedInNtf env temp s) := by
      rw [failed]
      exact .inr ⟨rfl,fun _ => ⟨rfl,rfl,fun _ => rfl⟩⟩
    exact ⟨⟨fun _ => .inl idle,fun _ => settled _⟩,⟨fun _ => .inl idle,fun _ => settled _⟩⟩
  have taken := taking idle
  by_cases refusable : Refusable (s.sessions temp).accountName s
  · have failed := loggedInNtf_refused env temp s taken refusable
    have elsewhere : ¬ Transferable env temp (s.sessions temp).accountName s := by
      rintro ⟨session,connection,found,waiting,-⟩
      exact (refusable session found).1 waiting
    rw [failed]
    refine ⟨⟨?_,?_⟩,⟨fun _ => .inr (.inr refusable),fun _ => .inr ⟨rfl,?_⟩⟩⟩
    · rintro (⟨success,-⟩ | ⟨-,unchanged⟩)
      · cases success
      · have state := (unchanged temp).2.2 not_false
        exact absurd (state.trans taken.connecting) (disconnect_leaves env temp s taken.active taken.connecting)
    · rintro (wrong | wrong)
      · exact absurd wrong idle
      · exact absurd wrong elsewhere
    · have alters := disconnect_alters env temp s
      intro other
      by_cases same : other = temp
      · subst same
        exact ⟨alters.connection,alters.accountName,fun free => absurd rfl free⟩
      · rw [alters.others other same]
        exact ⟨rfl,rfl,fun _ => rfl⟩
  · obtain ⟨session,found,ready⟩ : ∃ session, find (s.sessions temp).accountName s.sessionMapByName =
        some session ∧ ((s.sessions session).state = .gateAllocAck ∨
          (s.sessions session).state = .holdConnection) := by
      rw [Refusable] at refusable
      push Not at refusable
      obtain ⟨session,found,either⟩ := refusable
      refine ⟨session,found,?_⟩
      by_cases waiting : (s.sessions session).state = .gateAllocAck
      · exact .inl waiting
      · exact .inr (either waiting)
    have success : (loggedInNtf env temp s).1 = true := by
      rw [(loggedInNtf_found env session temp s taken found ready).1]
    have moved : (∃ session connection,
        find (s.sessions temp).accountName s.sessionMapByName = some session ∧
        (s.sessions temp).connection = some connection ∧
        Moves temp session connection s (loggedInNtf env temp s).2) ↔
        Transferable env temp (s.sessions temp).accountName s := by
      rcases ready with waiting | hold
      · have iff := moves_transferable env session temp s taken found waiting
        constructor
        · rintro ⟨other,connection,leads,has,moves⟩
          obtain rfl := Option.some.inj (found.symm.trans leads)
          obtain ⟨lasting,⟨line,leads,before,alone⟩,sent⟩ := iff.mp ⟨connection,has,moves⟩
          exact ⟨session,line,found,waiting,lasting,leads,before,alone,sent⟩
        · rintro ⟨other,connection,leads,-,lasting,has,before,alone,sent⟩
          obtain rfl := Option.some.inj (found.symm.trans leads)
          obtain ⟨line,leads,moves⟩ := iff.mpr ⟨lasting,⟨connection,has,before,alone⟩,sent⟩
          exact ⟨session,line,found,leads,moves⟩
      · constructor
        · rintro ⟨other,connection,leads,-,moves⟩
          obtain rfl := Option.some.inj (found.symm.trans leads)
          exact absurd moves (moves_held env session temp s taken found hold connection)
        · rintro ⟨other,connection,leads,waiting,-⟩
          obtain rfl := Option.some.inj (found.symm.trans leads)
          rw [hold] at waiting
          cases waiting
    have settled (free : Object → Prop) :
        Settles free temp (s.sessions temp).accountName s (loggedInNtf env temp s) ↔
          Transferable env temp (s.sessions temp).accountName s := by
      rw [Settles,success,moved]
      simp
    refine ⟨?_,?_⟩
    · rw [settled]
      exact ⟨.inr,fun either => either.resolve_left idle⟩
    · rw [settled]
      exact ⟨fun able => .inr (.inl able),fun either =>
        (either.resolve_left idle).resolve_right refusable⟩

end

/-- A login in a gate that has run moves the connection or reports a failure exactly where the session takes
no token or the account's session can take the connection, and, but for the state of the temporary session,
where there is no session of the account to take it. -/
theorem loggedInNtf_settles_iff (env : Env) (actions : List Action) (temp : Object) (accountName : WString) :
    let s := setAccountName temp accountName (run (step env) (init env.config) actions)
    (Settles (fun _ => False) temp accountName s (loggedInNtf env temp s) ↔
      Idle temp s ∨ Transferable env temp accountName s) ∧
    (Settles (· = temp) temp accountName s (loggedInNtf env temp s) ↔
      Idle temp s ∨ Transferable env temp accountName s ∨ Refusable accountName s) := by
  let before := run (step env) (init env.config) actions
  let s := setAccountName temp accountName before
  change (Settles _ temp accountName s _ ↔ _) ∧ (Settles _ temp accountName s _ ↔ _)
  have indexed : Indexed env.config before := run_indexed env actions
  have here : s.sessions temp = {before.sessions temp with accountName := accountName} :=
    update_same before temp _
  have settled := settles_iff env temp s (by
    intro active
    rw [Idle,here] at active
    push Not at active
    obtain ⟨final,connecting⟩ := active
    have inside := indexed.used temp (by rw [connecting]; simp)
    have own := client_own env.config before indexed temp inside
    rw [own_iff] at own
    refine ⟨?_,?_,?_,?_⟩
    · rw [here]
      exact (Bool.not_eq_true _).mp final
    · rw [here]
      exact connecting
    · change Own temp s
      rw [own_iff,here]
      exact own
    · rw [here]
      exact indexed.connecting temp connecting)
  have name : (s.sessions temp).accountName = accountName := by rw [here]
  rw [name] at settled
  exact settled

/-- The send of OnGateLoginReq fails: the login is a success for a session that stays LOGGEDIN. -/
theorem loggedInNtf_settles_unsent :
    let env : Env := {sampleEnv with net := fun n => n != 2}
    let s := setAccountName 0 [97] (run (step env) (init env.config) [.onConnect 1,.gateAllocReq 10 [97]])
    s.connections 1 = ⟨true,some 0⟩ ∧ (s.sessions 0).connection = some 1 ∧
      (loggedInNtf env 0 s).1 = true ∧ ((loggedInNtf env 0 s).2.sessions 1).state = .loggedIn ∧
      ∀ free, ¬ Settles free 0 [97] s (loggedInNtf env 0 s) := by
  intro env s
  have success : (loggedInNtf env 0 s).1 = true := by decide +kernel
  have state : ((loggedInNtf env 0 s).2.sessions 1).state = .loggedIn := by decide +kernel
  have found : find [97] s.sessionMapByName = some 1 := by decide +kernel
  refine ⟨by decide +kernel,by decide +kernel,success,state,?_⟩
  rintro free (⟨-,session,connection,leads,-,moves⟩ | ⟨failed,-⟩)
  · obtain rfl := Option.some.inj (found.symm.trans leads)
    have reached := moves.state
    rw [state] at reached
    cases reached
  · rw [success] at failed
    cases failed

end Fantuan.GateServer.Transfers
