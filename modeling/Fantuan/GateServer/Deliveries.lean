import Fantuan.GateServer.SessionFrames
import Fantuan.GateServer.Transfers

/-! The data that other servers send to a client. It names a session id, and leaves on whatever connection
the session with this id has: the one on which the token of its account came in, unless a pass has cleared a
session while a connection still belonged to it.
-/
namespace Fantuan.GateServer.Deliveries
open Lib.Table Lib.Drain Lib.Run ServerBase.ServerCommon Tool.ObjectPool Tool.StateMachine ServerLoop Session
  Commands SessionSteps Indexes SessionCounts Disconnects Transfers

/-- The connection on which the data for a session id leaves, a null pointer as none. A broadcast also asks
for a region. -/
def target (broadcast : Bool) (s : Gate) (sessionId : UInt32) : Option (UInt32 × Option Nat) :=
  match getSession sessionId s with
  | some session =>
    let data := s.sessions session
    if data.finalizing ∨ (broadcast ∧ data.regionServer = none) ∨ reaches .send session s = none then none
    else some (sessionId,data.connection)
  | none => none

/-- SendData and BroadcastData of another server. -/
inductive Data where
  | sendData (sessionId : UInt32)
  | broadcastData (sessionIds : List UInt32)

def deliveries (s : Gate) : Data → List (UInt32 × Option Nat)
  | .sendData sessionId => if s.shutdownStatus = .notShutdown then (target false s sessionId).toList else []
  | .broadcastData sessionIds =>
    if s.shutdownStatus = .notShutdown then sessionIds.filterMap (target true s) else []

/-- The session of the connection reads what comes in as a login. -/
def reads (connection : Nat) (s : Gate) : Bool :=
  match (s.connections connection).client with
  | some session =>
    (s.connections connection).live && s.shutdownStatus = .notShutdown &&
      !(s.sessions session).finalizing && (s.sessions session).state = .onConnection
  | none => false

/-- The tokens that were read on a connection since it was accepted. -/
def hear (s : Gate) (tokens : Nat → List WString) : Action → Nat → List WString
  | .onConnect connection =>
    if (s.connections connection).live then tokens else Function.update tokens connection []
  | .onData connection (.token accountName) _ =>
    if reads connection s then Function.update tokens connection (tokens connection ++ [accountName]) else tokens
  | _ => tokens

def watch (env : Env) (w : Gate × (Nat → List WString)) (action : Action) : Gate × (Nat → List WString) :=
  (step env w.1 action,hear w.1 w.2 action)

def tokens (env : Env) (actions : List Action) : Nat → List WString :=
  (run (watch env) (init env.config,fun _ => []) actions).2

/-- A pass finds at most one session to clear, and no connection whose client_ is still this session. -/
def Released (s : Gate) : Action → Prop
  | .pass => s.finalizingQueue.length ≤ 1 ∧ ∀ session ∈ s.finalizingQueue, Unowned s session
  | _ => True

theorem released_single (s : Gate) (action : Action) (released : Released s action) : SinglePass s action := by
  cases action with
  | pass => exact released.1
  | _ => trivial

/-- The states of a session before a client has come to it. -/
def isClientless : SessionState → Bool
  | .none | .onGateAllocReq | .gateAllocAck => true
  | _ => false

/-- The states of a session that reads from its connection or sends on it. -/
def isServing : SessionState → Bool
  | .onConnection | .gateLoginReq => true
  | _ => false

/-- The states of a session that has an acknowledged account. -/
def isAcked : SessionState → Bool
  | .gateAllocAck | .gateLoginReq => true
  | _ => false

def Acked (config : Config) (accountName : WString) (sessionId : UInt32) (log : List Event) : Prop :=
  ∃ loginSessionId, .sent (.gateAllocAck config.serverId loginSessionId accountName sessionId) true ∈ log

/-- A session that serves has a connection, which belongs to it. -/
def Served (s : Gate) (session : Object) : Prop :=
  isServing (s.sessions session).state = true → ∃ connection,
    (s.sessions session).connection = some connection ∧ (s.connections connection).live = true ∧
      (s.connections connection).client = some session

structure Told (config : Config) (tokens : Nat → List WString) (s : Gate) : Prop where
  clients : ∀ connection session, (s.connections connection).live = true →
    (s.connections connection).client = some session → isClientless (s.sessions session).state = false ∧
      ((s.sessions session).state = .holdConnection ∨ (s.sessions session).connection = some connection)
  silent : ∀ session connection, (s.sessions session).state = .onConnection →
    (s.sessions session).connection = some connection → tokens connection = []
  heard : ∀ session connection, (s.sessions session).state = .gateLoginReq →
    (s.sessions session).connection = some connection → tokens connection = [(s.sessions session).accountName]
  acked : ∀ session, isAcked (s.sessions session).state = true →
    Acked config (s.sessions session).accountName (s.sessions session).sessionId s.log

/-- What a handler leaves of a session that it neither allocates, clears nor gives a connection. -/
structure Steady (s : Gate) (session : Object) (new : GateSession) : Prop where
  sessionId : new.sessionId = (s.sessions session).sessionId
  clientless : isClientless new.state = isClientless (s.sessions session).state
  connection : new.connection = (s.sessions session).connection ∨ Unowned s session ∧ isServing new.state = false
  state : new.state = (s.sessions session).state ∨ isServing new.state = false ∧ isAcked new.state = false
  hold : (s.sessions session).state = .holdConnection → new.state = .holdConnection ∨ Unowned s session
  accountName : new.accountName = (s.sessions session).accountName ∨ isAcked new.state = false

structure Keeps (s t : Gate) : Prop where
  connections : t.connections = s.connections
  log : s.log ⊆ t.log
  data : ∀ session, Steady s session (t.sessions session)

theorem steady_same (s : Gate) (session : Object) (new : GateSession) (same : new = s.sessions session) :
    Steady s session new := by
  rw [same]
  exact ⟨rfl,rfl,.inl rfl,.inl rfl,.inl,.inl rfl⟩

theorem keeps_same (s t : Gate) (connections : t.connections = s.connections) (log : s.log ⊆ t.log)
    (sessions : t.sessions = s.sessions) : Keeps s t :=
  ⟨connections,log,fun session => steady_same s session _ (congrFun sessions session)⟩

theorem keeps_refl (s : Gate) : Keeps s s := keeps_same s s rfl (List.Subset.refl _) rfl

theorem unowned_congr (s t : Gate) (session : Object) (connections : t.connections = s.connections) :
    Unowned t session ↔ Unowned s session := by
  rw [Unowned,Unowned,connections]

theorem keeps_trans (s t u : Gate) (first : Keeps s t) (second : Keeps t u) : Keeps s u := by
  refine ⟨second.connections.trans first.connections,List.Subset.trans first.log second.log,fun session => ?_⟩
  have one := first.data session
  have two := second.data session
  have unowned := unowned_congr s t session first.connections
  refine ⟨two.sessionId.trans one.sessionId,two.clientless.trans one.clientless,?_,?_,?_,?_⟩
  · rcases two.connection with same | ⟨free,idle⟩
    · rw [same]
      rcases one.connection with still | ⟨free,idle⟩
      · exact .inl still
      · refine .inr ⟨free,?_⟩
        rcases two.state with state | ⟨changed,-⟩
        · rw [state]
          exact idle
        · exact changed
    · exact .inr ⟨unowned.mp free,idle⟩
  · rcases two.state with state | changed
    · rw [state]
      exact one.state
    · exact .inr changed
  · intro held
    rcases one.hold held with still | free
    · exact (two.hold still).imp_right unowned.mp
    · exact .inr free
  · rcases two.accountName with same | other
    · rw [same]
      rcases one.accountName with still | other
      · exact .inl still
      · refine .inr ?_
        rcases two.state with state | ⟨-,changed⟩
        · rw [state]
          exact other
        · exact changed
    · exact .inr other

theorem update_keeps (s : Gate) (session : Object) (change : GateSession → GateSession)
    (steady : Steady s session (change (s.sessions session))) : Keeps s (s.update session change) := by
  refine ⟨rfl,List.Subset.refl _,fun other => ?_⟩
  by_cases same : other = session
  · subst same
    rw [update_same]
    exact steady
  · exact steady_same s other _ (update_other s session other change same)

theorem note_keeps (s : Gate) (event : Event) : Keeps s (s.note event) :=
  keeps_same s _ rfl (List.subset_cons_self event s.log) rfl

/-- The events that lead neither out of a clientless state nor into a serving or acknowledged one. -/
def idleEvent : SessionEvent → Bool
  | .disconnect | .onDisconnect | .loggedIn | .gateReleaseReq | .onMasterDisconnect => true
  | _ => false

theorem setState_keeps (s : Gate) (event : SessionEvent) (session : Object) (next : SessionState)
    (idle : idleEvent event = true) (reached : reaches event session s = some next) :
    Keeps s (setState session next s) := by
  have rows : ∀ row ∈ initStateMachine (s.sessions session).state, idleEvent row.1 = true →
      isClientless row.2 = isClientless (s.sessions session).state ∧
        (isServing row.2 = false ∧ isAcked row.2 = false) ∧ (s.sessions session).state ≠ .holdConnection := by
    generalize (s.sessions session).state = state
    cases state <;> decide
  obtain ⟨clientless,changed,free⟩ :=
    rows _ (outputState_mem initStateMachine _ next event reached) idle
  exact update_keeps s session _ ⟨rfl,clientless,.inl rfl,.inr changed,fun held => absurd held free,.inl rfl⟩

theorem stateTransition_keeps (s : Gate) (event : SessionEvent) (session : Object)
    (idle : idleEvent event = true) : Keeps s (stateTransition event session s) := by
  cases reached : reaches event session s with
  | none =>
    rw [stateTransition_none s session event reached]
    exact keeps_refl s
  | some next =>
    rw [stateTransition_reached s session event next reached]
    exact setState_keeps s event session next idle reached

theorem asyncDisconnect_keeps (s : Gate) (connection : Option Nat) :
    Keeps s (asyncDisconnect connection s) := by
  cases connection with
  | none => exact keeps_same s _ rfl (List.Subset.refl _) rfl
  | some connection => exact note_keeps s _

theorem pushFinalizing_keeps (session : Object) (s : Gate) : Keeps s (pushFinalizing session s) := by
  have marked := update_keeps s session (fun data => {data with finalizing := true})
    ⟨rfl,rfl,.inl rfl,.inl rfl,.inl,.inl rfl⟩
  exact keeps_trans s _ _ marked (keeps_same _ _ rfl (List.Subset.refl _) rfl)

section
variable (env : Env) (session : Object) (s : Gate)

theorem closeSession_keeps (isByMaster : Bool) : Keeps s (closeSession env session isByMaster s) := by
  rw [closeSession]
  split
  · exact keeps_refl s
  · split
    · exact asyncDisconnect_keeps s _
    · split
      · exact keeps_trans s _ _ (note_keeps s _) (pushFinalizing_keeps session _)
      · exact pushFinalizing_keeps session s

theorem closeConnection_keeps
    (free : Unowned s session ∧ isServing (s.sessions session).state = false ∨
      (s.sessions session).connection = none) : Keeps s (closeConnection session s) := by
  rw [closeConnection]
  split
  next connection has =>
    rcases free with free | none
    · refine keeps_trans s _ _ (note_keeps s (.close connection)) (update_keeps _ session _ ?_)
      exact ⟨rfl,rfl,.inr free,.inl rfl,.inl,.inl rfl⟩
    · rw [none] at has
      cases has
  · exact keeps_refl s

/-- What relates the ends of each step of OnDisconnect relates those of the whole, once the session has changed its
state. -/
theorem onDisconnect_chain (related : Gate → Gate → Prop)
    (trans : ∀ s t u, related s t → related t u → related s u) (keeps : ∀ s t, related s t → Keeps s t)
    (silent : ∀ s t, Keeps s t → t.log = s.log → related s t)
    (closes : ∀ t, Unowned t session ∧ isServing (t.sessions session).state = false ∨
      (t.sessions session).connection = none → related t (closeConnection session t))
    (tells : ∀ t, isAcked (t.sessions session).state = false →
      related t (send env (sessionDisconnect session t) t))
    (shuts : ∀ t, related t (closeSession env session false t)) (next : SessionState)
    (reached : reaches .onDisconnect session s = some next)
    (free : Unowned s session ∨ (s.sessions session).state = .disconnect ∧
      (s.sessions session).connection = none) :
    related (setState session next s) (onDisconnect env session s) := by
  have idle : isServing next = false ∧ isAcked next = false := by
    rcases onDisconnect_reached _ next reached with rfl | rfl <;> exact ⟨rfl,rfl⟩
  have state : ((setState session next s).sessions session).state = next := by
    rw [setState,update_same]
  have apart : Unowned s session ∨ next = .onDisconnect := by
    refine free.imp_right fun waiting => ?_
    rw [reaches,waiting.1] at reached
    exact (Option.some.inj reached).symm
  have shut : related (setState session next s) (closeConnection session (setState session next s)) := by
    refine closes _ ?_
    rcases free with unowned | ⟨-,none⟩
    · exact .inl ⟨unowned,by rw [state]; exact idle.1⟩
    · refine .inr ?_
      rw [setState,update_same]
      exact none
  have final := (closeConnection_state (setState session next s) session).trans state
  rw [onDisconnect,reached]
  dsimp only
  generalize closeConnection session (setState session next s) = t at shut final ⊢
  have said := trans _ _ _ shut (tells t (by rw [final]; exact idle.2))
  split
  · split
    · exact trans _ _ _ shut (shuts t)
    · split
      · refine trans _ _ _ said (trans _ _ _ ?_ (shuts _))
        have held : reaches .sessionDisconnectReq session (send env (sessionDisconnect session t) t) =
            some .onDisconnect := by
          change transition (t.sessions session).state _ = _
          rw [final]
          rfl
        rw [stateTransition_reached _ session _ _ held]
        have unowned : Unowned t session := by
          rw [unowned_congr _ t session (keeps _ _ shut).connections]
          exact apart.resolve_right (by decide)
        refine silent _ _ (update_keeps _ session _
          ⟨rfl,?_,.inl rfl,.inr ⟨rfl,rfl⟩,fun _ => .inr unowned,.inl rfl⟩) rfl
        change isClientless .onDisconnect = isClientless (t.sessions session).state
        rw [final]
        rfl
      · exact said
  · split
    · exact trans _ _ _ said (shuts _)
    · exact said
  · exact shut

theorem onDisconnect_after (next : SessionState) (reached : reaches .onDisconnect session s = some next)
    (free : Unowned s session ∨ (s.sessions session).state = .disconnect ∧
      (s.sessions session).connection = none) :
    Keeps (setState session next s) (onDisconnect env session s) :=
  onDisconnect_chain env session s Keeps keeps_trans (fun _ _ keeps => keeps) (fun _ _ keeps _ => keeps)
    (closeConnection_keeps session) (fun t _ => note_keeps t _) (fun t => closeSession_keeps env session t false)
    next reached free

theorem onDisconnect_keeps
    (free : Unowned s session ∨ (s.sessions session).state = .disconnect ∧
      (s.sessions session).connection = none) : Keeps s (onDisconnect env session s) := by
  cases reached : reaches .onDisconnect session s with
  | none =>
    rw [onDisconnect,reached]
    exact keeps_refl s
  | some next =>
    exact keeps_trans s _ _ (setState_keeps s .onDisconnect session next rfl reached)
      (onDisconnect_after env session s next reached free)

theorem disconnect_keeps : Keeps s (disconnect env session s) := by
  rw [disconnect]
  split
  · exact keeps_refl s
  · split
    · exact keeps_refl s
    next next reached =>
      obtain rfl := disconnect_reached _ next reached
      have moved := setState_keeps s .disconnect session .disconnect rfl reached
      dsimp only
      split
      · exact keeps_trans s _ _ moved (asyncDisconnect_keeps _ _)
      next bare =>
        refine keeps_trans s _ _ moved (onDisconnect_keeps env session _ (.inr ?_))
        rw [setState,update_same]
        exact ⟨rfl,bare⟩

theorem onGateReleaseReq_keeps : Keeps s (onGateReleaseReq env session s) := by
  rw [onGateReleaseReq]
  split
  · exact keeps_refl s
  · exact keeps_trans s _ _ (stateTransition_keeps s .gateReleaseReq session rfl)
      (closeSession_keeps env session _ true)

theorem onMasterDisconnect_keeps : Keeps s (onMasterDisconnect session s) := by
  have moved := stateTransition_keeps s .onMasterDisconnect session rfl
  rw [onMasterDisconnect]
  split
  · exact keeps_refl s
  · dsimp only
    split
    · exact keeps_trans s _ _ moved (asyncDisconnect_keeps _ _)
    · exact moved

theorem onRegionBindReq_keeps (regionServerId : UInt8) :
    Keeps s (onRegionBindReq env session regionServerId s) := by
  rw [onRegionBindReq]
  split
  · exact keeps_refl s
  · exact update_keeps s session _ ⟨rfl,rfl,.inl rfl,.inl rfl,.inl,.inl rfl⟩

theorem handlePacket_keeps : Keeps s (handlePacket env session s) := by
  have said := note_keeps s (.sent (.packetForward (s.sessions session).sessionId) (sends env s))
  rw [handlePacket]
  split
  · exact said
  · exact keeps_trans s _ _ said (disconnect_keeps env session _)

theorem handlePackets_keeps (packets : Nat) : Keeps s (repeated (handlePacket env session) packets s) :=
  repeated_invariant (handlePacket env session) (Keeps s)
    (fun t before => keeps_trans s t _ before (handlePacket_keeps env session t)) packets s (keeps_refl s)

theorem setAccountName_keeps (accountName : WString) (connecting : (s.sessions session).state = .onConnection) :
    Keeps s (setAccountName session accountName s) := by
  refine update_keeps s session _ ⟨rfl,rfl,.inl rfl,.inl rfl,.inl,.inr ?_⟩
  change isAcked (s.sessions session).state = false
  rw [connecting]
  rfl

theorem checkSession_keeps : Keeps s (checkSession env s session) := by
  rw [checkSession]
  split
  · exact disconnect_keeps env session s
  · exact keeps_refl s

end

theorem checkSessionState_keeps (env : Env) (s : Gate) : Keeps s (checkSessionState env s) := by
  rw [checkSessionState]
  generalize List.range (sessionMax env.config).toNat = sessions
  induction sessions generalizing s with
  | nil => exact keeps_refl s
  | cons session sessions ih => exact keeps_trans s _ _ (checkSession_keeps env session s) (ih _)

theorem keeps_served (s t : Gate) (session : Object) (keeps : Keeps s t) (served : Served s session) :
    Served t session := by
  intro serving
  have steady := keeps.data session
  have state := steady.state.resolve_right (by rw [serving]; simp)
  rw [state] at serving
  have connection := steady.connection.resolve_right (by rw [state,serving]; simp)
  rw [connection,keeps.connections]
  exact served serving

section
variable (config : Config) (tokens : Nat → List WString)

theorem keeps_told (s t : Gate) (keeps : Keeps s t) (told : Told config tokens s) : Told config tokens t := by
  refine ⟨?_,?_,?_,?_⟩
  · intro connection session live client
    rw [keeps.connections] at live client
    have steady := keeps.data session
    obtain ⟨clientless,own⟩ := told.clients connection session live client
    have owned : ¬ Unowned s session := fun free => free connection live client
    refine ⟨steady.clientless.trans clientless,?_⟩
    rcases own with held | own
    · exact .inl ((steady.hold held).resolve_right owned)
    · refine .inr ?_
      rw [steady.connection.resolve_right fun free => owned free.1]
      exact own
  · intro session connection state own
    have steady := keeps.data session
    have same := steady.state.resolve_right (by rw [state]; simp [isServing])
    rw [steady.connection.resolve_right (by rw [state]; simp [isServing])] at own
    exact told.silent session connection (same.symm.trans state) own
  · intro session connection state own
    have steady := keeps.data session
    have same := steady.state.resolve_right (by rw [state]; simp [isServing])
    rw [steady.connection.resolve_right (by rw [state]; simp [isServing])] at own
    rw [steady.accountName.resolve_right (by rw [state]; simp [isAcked])]
    exact told.heard session connection (same.symm.trans state) own
  · intro session acked
    have steady := keeps.data session
    have same := steady.state.resolve_right (by rw [acked]; simp)
    rw [steady.accountName.resolve_right (by rw [acked]; simp),steady.sessionId]
    obtain ⟨loginSessionId,member⟩ := told.acked session (by rw [← same]; exact acked)
    exact ⟨loginSessionId,keeps.log member⟩

/-- A connection that is new, and a session that has not been used and serves it. -/
theorem accept_told (s : Gate) (connection : Nat) (told : Told config tokens s)
    (served : ∀ session, Served s session) (idle : (s.connections connection).live = false) :
    Told config (Function.update tokens connection []) (accept connection s) ∧
      ∀ session, Served (accept connection s) session := by
  have other (session : Object) (found : Nat) (serving : isServing (s.sessions session).state = true)
      (own : (s.sessions session).connection = some found) : found ≠ connection := by
    obtain ⟨owned,has,live,-⟩ := served session serving
    obtain rfl := Option.some.inj (own.symm.trans has)
    rintro rfl
    rw [idle] at live
    cases live
  have fresh : (accept connection s).connections connection = ⟨true,none⟩ := Function.update_self ..
  have kept (found : Nat) (unlike : found ≠ connection) :
      (accept connection s).connections found = s.connections found := Function.update_of_ne unlike ..
  refine ⟨⟨?_,?_,?_,told.acked⟩,fun session serving => ?_⟩
  · intro found session live client
    by_cases same : found = connection
    · rw [same,fresh] at client
      cases client
    · rw [kept found same] at live client
      exact told.clients found session live client
  · intro session found state own
    change (s.sessions session).state = .onConnection at state
    rw [Function.update_of_ne (other session found (by rw [state]; rfl) own)]
    exact told.silent session found state own
  · intro session found state own
    change (s.sessions session).state = .gateLoginReq at state
    rw [Function.update_of_ne (other session found (by rw [state]; rfl) own)]
    exact told.heard session found state own
  · obtain ⟨found,own,live,client⟩ := served session serving
    have still := kept found (other session found serving own)
    exact ⟨found,own,by rw [still]; exact live,by rw [still]; exact client⟩

theorem unused_unowned (s : Gate) (session : Object) (told : Told config tokens s)
    (clientless : isClientless (s.sessions session).state = true) : Unowned s session := by
  intro connection live client
  have wrong := (told.clients connection session live client).1
  rw [clientless] at wrong
  cases wrong

theorem onConnection_told (s : Gate) (session : Object) (connection : Nat) (told : Told config tokens s)
    (served : ∀ session, Served s session) (unused : (s.sessions session).state = .none)
    (fresh : s.connections connection = ⟨true,none⟩) (silent : tokens connection = []) :
    Told config tokens (onConnection session connection s) ∧
      ∀ other, Served (onConnection session connection s) other := by
  rw [onConnection_unused session connection s unused]
  let t := (setClient session connection s).update session (connected connection s.currTime)
  have here : t.sessions session = connected connection s.currTime (s.sessions session) := update_same ..
  have there (other : Object) (unlike : other ≠ session) : t.sessions other = s.sessions other :=
    update_other _ session other _ unlike
  have given : t.connections connection = ⟨true,some session⟩ := by
    change Function.update s.connections connection ⟨(s.connections connection).live,some session⟩ connection = _
    rw [Function.update_self,fresh]
  have kept (found : Nat) (unlike : found ≠ connection) : t.connections found = s.connections found :=
    Function.update_of_ne unlike ..
  have unowned := unused_unowned config tokens s session told (by rw [unused]; rfl)
  change Told config tokens t ∧ ∀ other, Served t other
  refine ⟨⟨?_,?_,?_,?_⟩,?_⟩
  · intro found other live client
    by_cases same : found = connection
    · subst same
      rw [given] at client
      obtain rfl := Option.some.inj client
      rw [here]
      exact ⟨rfl,.inr rfl⟩
    · rw [kept found same] at live client
      have unlike : other ≠ session := by
        rintro rfl
        exact unowned found live client
      rw [there other unlike]
      exact told.clients found other live client
  · intro other found state own
    by_cases same : other = session
    · subst same
      rw [here] at own
      obtain rfl := Option.some.inj own
      exact silent
    · rw [there other same] at state own
      exact told.silent other found state own
  · intro other found state own
    by_cases same : other = session
    · subst same
      rw [here] at state
      cases state
    · rw [there other same] at state own ⊢
      exact told.heard other found state own
  · intro other acked
    by_cases same : other = session
    · subst same
      rw [here] at acked
      cases acked
    · rw [there other same] at acked ⊢
      exact told.acked other acked
  · intro other serving
    by_cases same : other = session
    · subst same
      rw [here]
      exact ⟨connection,rfl,by rw [given],by rw [given]⟩
    · rw [there other same] at serving ⊢
      obtain ⟨found,own,live,client⟩ := served other serving
      have unlike : found ≠ connection := by
        rintro rfl
        rw [fresh] at client
        cases client
      exact ⟨found,own,by rw [kept found unlike]; exact live,by rw [kept found unlike]; exact client⟩

/-- A session that no connection belongs to is put to another use, of which no connection knows. -/
theorem renew_told (s t : Gate) (session : Object) (told : Told config tokens s)
    (served : ∀ other, Served s other) (unowned : Unowned s session)
    (connections : t.connections = s.connections) (log : s.log ⊆ t.log)
    (idle : isServing (t.sessions session).state = false)
    (acked : isAcked (t.sessions session).state = true →
      Acked config (t.sessions session).accountName (t.sessions session).sessionId t.log)
    (there : ∀ other, other ≠ session → t.sessions other = s.sessions other) :
    Told config tokens t ∧ ∀ other, Served t other := by
  have serves (other : Object) (serving : isServing (t.sessions other).state = true) : other ≠ session := by
    rintro rfl
    rw [idle] at serving
    cases serving
  refine ⟨⟨?_,?_,?_,?_⟩,?_⟩
  · intro connection other live client
    rw [connections] at live client
    have unlike : other ≠ session := by
      rintro rfl
      exact unowned connection live client
    rw [there other unlike]
    exact told.clients connection other live client
  · intro other connection state own
    have unlike := serves other (by rw [state]; rfl)
    rw [there other unlike] at state own
    exact told.silent other connection state own
  · intro other connection state own
    have unlike := serves other (by rw [state]; rfl)
    rw [there other unlike] at state own ⊢
    exact told.heard other connection state own
  · intro other isAcked
    by_cases same : other = session
    · rw [same] at isAcked ⊢
      exact acked isAcked
    · rw [there other same] at isAcked ⊢
      obtain ⟨loginSessionId,member⟩ := told.acked other isAcked
      exact ⟨loginSessionId,log member⟩
  · intro other serving
    have unlike := serves other serving
    rw [there other unlike] at serving ⊢
    rw [connections]
    exact served other serving

end

theorem onGateAllocReq_told (env : Env) (tokens : Nat → List WString) (s : Gate) (session : Object)
    (loginSessionId : UInt32) (accountName : WString) (told : Told env.config tokens s)
    (served : ∀ other, Served s other) (unused : (s.sessions session).state = .none) :
    Told env.config tokens (onGateAllocReq env session loginSessionId accountName s) ∧
      ∀ other, Served (onGateAllocReq env session loginSessionId accountName s) other := by
  have unowned := unused_unowned env.config tokens s session told (by rw [unused]; rfl)
  rw [onGateAllocReq_unused env session loginSessionId accountName s unused]
  dsimp only
  split
  next success =>
    refine renew_told env.config tokens s _ session told served unowned rfl (List.subset_cons_self _ _) ?_ ?_ ?_
    · rw [setState,update_same]
      rfl
    · intro _
      rw [setState,update_same]
      refine ⟨loginSessionId,?_⟩
      change _ ∈ _ :: s.log
      rw [success]
      have data : (s.update session (allocated loginSessionId accountName)).sessions session =
          allocated loginSessionId accountName (s.sessions session) := update_same ..
      change Event.sent (.gateAllocAck _ _
        ((s.update session (allocated loginSessionId accountName)).sessions session).accountName
        ((s.update session (allocated loginSessionId accountName)).sessions session).sessionId) true ∈ _
      rw [data]
      exact List.mem_cons_self
    · intro other unlike
      rw [setState,update_other _ session other _ unlike]
      exact update_other _ session other _ unlike
  next failed =>
    have here : (((s.update session (allocated loginSessionId accountName)).note
        (.sent (.gateAllocAck env.config.serverId loginSessionId accountName
          (nextSequence (s.sessions session).sessionId)) (sends env s))).sessions session).state =
        .onGateAllocReq := congrArg GateSession.state (update_same ..)
    refine renew_told env.config tokens s _ session told served unowned rfl (List.subset_cons_self _ _)
      (by rw [here]; rfl) ?_ fun other unlike => update_other _ session other _ unlike
    rw [here]
    exact fun wrong => by cases wrong

theorem hangUp_told (config : Config) (tokens : Nat → List WString) (s : Gate) (connection : Nat)
    (told : Told config tokens s) : Told config tokens (hangUp connection s) := by
  refine ⟨?_,told.silent,told.heard,told.acked⟩
  intro found session live client
  change (Function.update s.connections connection _ found).live = true at live
  change (Function.update s.connections connection _ found).client = some session at client
  by_cases same : found = connection
  · subst same
    rw [Function.update_self] at live
    cases live
  · rw [Function.update_of_ne same] at live client
    exact told.clients found session live client

theorem hangUp_served (s : Gate) (connection : Nat) (other : Object) (served : Served s other)
    (apart : (s.connections connection).client ≠ some other) : Served (hangUp connection s) other := by
  intro serving
  obtain ⟨found,own,live,client⟩ := served serving
  have unlike : found ≠ connection := by
    rintro rfl
    exact apart client
  have kept : (hangUp connection s).connections found = s.connections found := Function.update_of_ne unlike ..
  exact ⟨found,own,by rw [kept]; exact live,by rw [kept]; exact client⟩

theorem hangUp_unowned (config : Config) (tokens : Nat → List WString) (s : Gate) (session : Object)
    (connection : Nat) (told : Told config tokens s) (live : (s.connections connection).live = true)
    (owner : (s.connections connection).client = some session)
    (held : (s.sessions session).state ≠ .holdConnection) :
    Unowned (unmapSession session (hangUp connection s)) session := by
  have own := (told.clients connection session live owner).2.resolve_left held
  intro found alive belongs
  change (Function.update s.connections connection _ found).live = true at alive
  change (Function.update s.connections connection _ found).client = some session at belongs
  by_cases same : found = connection
  · subst same
    rw [Function.update_self] at alive
    cases alive
  · rw [Function.update_of_ne same] at alive belongs
    have other := (told.clients found session alive belongs).2.resolve_left held
    exact same (Option.some.inj (other.symm.trans own))

/-- The end of a connection: its session leaves the states in which it serves. -/
theorem onCommandOnDisconnect_told (env : Env) (tokens : Nat → List WString) (s : Gate) (connection : Nat)
    (told : Told env.config tokens s) (served : ∀ other, Served s other)
    (live : (s.connections connection).live = true) :
    Told env.config tokens (onCommandOnDisconnect env connection (hangUp connection s)) ∧
      ∀ other, Served (onCommandOnDisconnect env connection (hangUp connection s)) other := by
  have hung := hangUp_told env.config tokens s connection told
  rw [onCommandOnDisconnect]
  have client : ((hangUp connection s).connections connection).client = (s.connections connection).client := by
    simp [hangUp]
  rw [client]
  cases owner : (s.connections connection).client with
  | none =>
    refine ⟨hung,fun other => hangUp_served s connection other (served other) ?_⟩
    rw [owner]
    simp
  | some session =>
    let t := unmapSession session (hangUp connection s)
    have apart (other : Object) (unlike : other ≠ session) : Served t other := by
      refine hangUp_served s connection other (served other) ?_
      rw [owner]
      simpa using unlike.symm
    have still : Keeps (hangUp connection s) t := keeps_same _ _ rfl (List.Subset.refl _) rfl
    have unmapped := keeps_told env.config tokens _ t still hung
    change Told env.config tokens (onDisconnect env session t) ∧ ∀ other, Served (onDisconnect env session t) other
    cases reached : reaches .onDisconnect session t with
    | none =>
      have stays : onDisconnect env session t = t := by rw [onDisconnect,reached]
      rw [stays]
      refine ⟨unmapped,fun other => ?_⟩
      by_cases same : other = session
      · subst same
        intro serving
        exfalso
        revert serving reached
        rw [reaches]
        generalize (t.sessions other).state = state
        cases state <;> decide
      · exact apart other same
    | some next =>
      have unowned : Unowned t session := by
        refine hangUp_unowned env.config tokens s session connection told live owner fun held => ?_
        have here : (t.sessions session).state = .holdConnection := held
        rw [reaches,here] at reached
        cases reached
      have keeps := onDisconnect_keeps env session t (.inl unowned)
      refine ⟨keeps_told env.config tokens t _ keeps unmapped,fun other => ?_⟩
      by_cases same : other = session
      · subst same
        have after := (onDisconnect_after env other t next reached (.inl unowned)).data other
        have idle : isServing next = false := by
          rcases onDisconnect_reached _ next reached with rfl | rfl <;> rfl
        have quiet : isServing ((onDisconnect env other t).sessions other).state = false := by
          rcases after.state with state | ⟨changed,-⟩
          · rw [state,setState,update_same]
            exact idle
          · exact changed
        intro serving
        rw [quiet] at serving
        cases serving
      · exact keeps_served t _ other keeps (apart other same)

theorem single_cleared (s : Gate) (session : Object) (rest : List Object) (queue : s.finalizingQueue = session :: rest)
    (single : s.finalizingQueue.length ≤ 1) :
    rest = [] ∧ (clearFinalizing s.toLoop).sessions =
      Function.update s.sessions session (s.sessions session).clear := by
  rw [queue,List.length_cons] at single
  obtain rfl : rest = [] := List.length_eq_zero_iff.mp (by omega)
  refine ⟨rfl,?_⟩
  rw [clearFinalizing,queue,drainBack_singleton]
  rfl

theorem pass_told (env : Env) (tokens : Nat → List WString) (s : Gate) (told : Told env.config tokens s)
    (served : ∀ other, Served s other) (released : Released s .pass) :
    Told env.config tokens (step env s .pass) ∧ ∀ other, Served (step env s .pass) other := by
  obtain ⟨single,apart⟩ := released
  have drained : Told env.config tokens {s with toLoop := clearFinalizing s.toLoop} ∧
      ∀ other, Served {s with toLoop := clearFinalizing s.toLoop} other := by
    cases queue : s.finalizingQueue with
    | nil =>
      have same : (clearFinalizing s.toLoop).sessions = s.sessions := by
        rw [clearFinalizing,queue,drainBack]
      have keeps : Keeps s {s with toLoop := clearFinalizing s.toLoop} :=
        keeps_same s _ rfl (List.Subset.refl _) same
      exact ⟨keeps_told env.config tokens s _ keeps told,
        fun other => keeps_served s _ other keeps (served other)⟩
    | cons session rest =>
      obtain ⟨rfl,cleared⟩ := single_cleared s session rest queue single
      have here : (clearFinalizing s.toLoop).sessions session = (s.sessions session).clear := by
        rw [cleared,Function.update_self]
      have unowned := apart session (by rw [queue]; exact List.mem_singleton_self session)
      refine renew_told env.config tokens s _ session told served unowned rfl (List.Subset.refl _) ?_ ?_ ?_
      · exact congrArg (fun data : GateSession => isServing data.state) here
      · intro acked
        have none : ((clearFinalizing s.toLoop).sessions session).state = .none :=
          congrArg GateSession.state here
        change isAcked ((clearFinalizing s.toLoop).sessions session).state = true at acked
        rw [none] at acked
        cases acked
      · intro other unlike
        change (clearFinalizing s.toLoop).sessions other = _
        rw [cleared,Function.update_of_ne unlike]
  rw [step,loopPass]
  split
  · have keeps : Keeps {s with toLoop := clearFinalizing s.toLoop}
        {s with toLoop := {clearFinalizing s.toLoop with shutdownStatus := .readyForShutdown}} :=
      keeps_same _ _ rfl (List.Subset.refl _) rfl
    exact ⟨keeps_told env.config tokens _ _ keeps drained.1,
      fun other => keeps_served _ _ other keeps (drained.2 other)⟩
  · exact drained

theorem does_log (s t : Gate) (does : Does s t) : s.log ⊆ t.log := by
  induction does with
  | refl => exact List.Subset.refl _
  | tail _ step ih =>
    refine List.Subset.trans ih ?_
    cases step with
    | note event _ => exact List.subset_cons_self event _
    | _ => exact List.Subset.refl _

/-- What a token does that leads to the session of its account. -/
structure Moved (temp : Object) (connection : Nat) (accountName : WString) (s t : Gate)
    (session : Object) : Prop where
  different : session ≠ temp
  others : ∀ other, other ≠ session → other ≠ temp → t.sessions other = s.sessions other
  temp : (t.sessions temp).state = .transfered
  connections : t.connections = Function.update s.connections connection
    ⟨(s.connections connection).live,some session⟩
  given : (t.sessions session).connection = some connection
  name : (t.sessions session).accountName = accountName
  named : (s.sessions session).accountName = accountName
  state : (s.sessions session).state = .holdConnection ∧ (t.sessions session).state = .holdConnection ∨
    (s.sessions session).state = .gateAllocAck ∧
      ((t.sessions session).state = .gateLoginReq ∨ (t.sessions session).state = .loggedIn)

/-- What becomes of a session with a new connection. -/
theorem onSessionTransfered_takes (env : Env) (session : Object) (s : Gate)
    (ready : (s.sessions session).state = .gateAllocAck ∨ (s.sessions session).state = .holdConnection) :
    (onSessionTransfered env session s).connections = s.connections ∧
      Alters session s (onSessionTransfered env session s) ∧
      ((s.sessions session).state = .holdConnection ∧
          ((onSessionTransfered env session s).sessions session).state = .holdConnection ∨
        (s.sessions session).state = .gateAllocAck ∧
          (((onSessionTransfered env session s).sessions session).state = .gateLoginReq ∨
            ((onSessionTransfered env session s).sessions session).state = .loggedIn)) := by
  rcases ready with waiting | hold
  · obtain ⟨lines,changed,final⟩ := onSessionTransfered_waiting env session s waiting
    refine ⟨lines,changed,.inr ⟨waiting,?_⟩⟩
    rw [final]
    split
    · exact .inl rfl
    · exact .inr rfl
  · have none : reaches .transfered session s = none := by
      rw [reaches,hold]
      rfl
    have stays : onSessionTransfered env session s = s := by
      rw [onSessionTransfered,none,stateTransition_none _ _ _ none]
      rfl
    rw [stays]
    exact ⟨rfl,alters_refl session s,.inl ⟨hold,hold⟩⟩

section
variable (env : Env) (temp : Object) (connection : Nat) (accountName : WString) (s : Gate)

/-- The two ends of a login: the connection has moved, or the temporary session is disconnected. -/
theorem token_moves (sound : Sound env.config s) (active : (s.sessions temp).finalizing = false)
    (connecting : (s.sessions temp).state = .onConnection)
    (own : (s.sessions temp).connection = some connection) :
    let t := handleLoginPacket env temp (.token accountName) s
    (∃ session, Moved temp connection accountName s t session) ∨
      Keeps s t ∧ (t.sessions temp).state ≠ .onConnection := by
  let named := setAccountName temp accountName s
  have here : named.sessions temp = {s.sessions temp with accountName := accountName} := update_same s temp _
  have indexed : Indexed env.config named := sessionStep_indexed env.config _ _
    (.change s temp _ rfl ⟨rfl,rfl,.rfl,id,.inr (.inl connecting)⟩) sound.indexed
  have state : (named.sessions temp).state = .onConnection := by rw [here]; exact connecting
  have inside := indexed.used temp (by rw [state]; simp)
  have taking : Taking temp named :=
    ⟨by rw [here]; exact active,state,client_own env.config named indexed temp inside,
      indexed.connecting temp state⟩
  have name : (named.sessions temp).accountName = accountName := by rw [here]
  dsimp only
  by_cases refusable : Refusable accountName named
  · right
    have refused := loggedInNtf_refused env temp named taking (by rw [name]; exact refusable)
    have result : handleLoginPacket env temp (.token accountName) s =
        disconnect env temp (disconnect env temp named) := by
      rw [handleLoginPacket,refused]
    rw [result]
    have keeps := disconnect_keeps env temp named
    refine ⟨keeps_trans s _ _ (setAccountName_keeps temp s accountName connecting)
      (keeps_trans _ _ _ keeps (disconnect_keeps env temp _)),fun wrong => ?_⟩
    exact disconnect_leaves env temp named (by rw [here]; exact active) state
      (does_connecting temp _ _ (disconnect_does env temp _) wrong)
  · left
    rw [Refusable] at refusable
    push Not at refusable
    obtain ⟨session,found,waits⟩ := refusable
    have ready : (named.sessions session).state = .gateAllocAck ∨
        (named.sessions session).state = .holdConnection :=
      or_iff_not_imp_left.mpr waits
    obtain ⟨result,different,-,moved,connections,alters,others⟩ :=
      loggedInNtf_found env session temp named taking (by rw [name]; exact found) ready
    have there (other : Object) (unlike : other ≠ temp) : named.sessions other = s.sessions other :=
      update_other s temp other _ unlike
    obtain ⟨account,listed⟩ := sound.listed accountName session found
    have cloned := clone_given session temp connection named
      (by rw [there session different]; exact account) taking.temporary (by rw [here]; exact own)
    have same := alters.others session different
    let copy := clone session temp named
    have copied : copy = setClient session connection
        (named.update session (Disconnects.cloned (named.sessions temp))) := cloned
    obtain ⟨lines,changed,states⟩ :=
      onSessionTransfered_takes env session copy (by rw [clone_state session temp named]; exact ready)
    rw [clone_state session temp named] at states
    have data : copy.sessions session = Disconnects.cloned (named.sessions temp) (named.sessions session) := by
      rw [copied]
      exact update_same ..
    rw [handleLoginPacket,result]
    dsimp only
    refine ⟨session,different,?_,moved,?_,?_,?_,listed,?_⟩
    · intro other unlike apart
      rw [alters.others other apart,others other unlike,there other apart]
    · rw [connections]
      change (onSessionTransfered env session copy).connections = _
      rw [lines,copied]
      rfl
    · rw [same]
      change ((onSessionTransfered env session copy).sessions session).connection = _
      rw [changed.connection,data]
      change (named.sessions temp).connection = _
      rw [here]
      exact own
    · rw [same]
      change ((onSessionTransfered env session copy).sessions session).accountName = _
      rw [changed.accountName,data]
      exact name
    · rw [same,← there session different]
      exact states

section
variable {temp connection accountName s} {t : Gate} {session : Object}

theorem Moved.gives (moved : Moved temp connection accountName s t session)
    (live : (s.connections connection).live = true) : t.connections connection = ⟨true,some session⟩ := by
  rw [moved.connections,Function.update_self,live]

theorem Moved.kept (moved : Moved temp connection accountName s t session) (found : Nat)
    (unlike : found ≠ connection) : t.connections found = s.connections found := by
  rw [moved.connections,Function.update_of_ne unlike]

theorem Moved.serves (moved : Moved temp connection accountName s t session) (other : Object)
    (serving : isServing (t.sessions other).state = true) : other ≠ temp := by
  rintro rfl
  rw [moved.temp] at serving
  cases serving

theorem Moved.login (moved : Moved temp connection accountName s t session)
    (serving : isServing (t.sessions session).state = true) : (t.sessions session).state = .gateLoginReq := by
  rcases moved.state with ⟨-,hold⟩ | ⟨-,state | state⟩
  · rw [hold] at serving
    cases serving
  · exact state
  · rw [state] at serving
    cases serving

/-- What serves beside the account's session, serves another connection. -/
theorem Moved.apart (moved : Moved temp connection accountName s t session) (served : ∀ other, Served s other)
    (client : (s.connections connection).client = some temp) (other : Object) (found : Nat)
    (unlike : other ≠ session) (serving : isServing (t.sessions other).state = true)
    (has : (t.sessions other).connection = some found) :
    t.sessions other = s.sessions other ∧ found ≠ connection ∧ (s.connections found).live = true ∧
      (s.connections found).client = some other := by
  have different := moved.serves other serving
  have same := moved.others other unlike different
  rw [same] at serving has
  obtain ⟨owned,has',alive,belongs⟩ := served other serving
  obtain rfl := Option.some.inj (has.symm.trans has')
  refine ⟨same,?_,alive,belongs⟩
  rintro rfl
  exact different (Option.some.inj (belongs.symm.trans client))

theorem Moved.clients (moved : Moved temp connection accountName s t session) (heard : Nat → List WString)
    (told : Told env.config heard s) (live : (s.connections connection).live = true)
    (connecting : (s.sessions temp).state = .onConnection) (own : (s.sessions temp).connection = some connection)
    (found other : Nat) (alive : (t.connections found).live = true)
    (belongs : (t.connections found).client = some other) : isClientless (t.sessions other).state = false ∧
      ((t.sessions other).state = .holdConnection ∨ (t.sessions other).connection = some found) := by
  by_cases here : found = connection
  · subst here
    rw [moved.gives live] at belongs
    obtain rfl := Option.some.inj belongs
    refine ⟨?_,.inr moved.given⟩
    rcases moved.state with ⟨-,state⟩ | ⟨-,state | state⟩ <;> rw [state] <;> rfl
  · rw [moved.kept found here] at alive belongs
    obtain ⟨clientless,has⟩ := told.clients found other alive belongs
    by_cases same : other = session
    · subst same
      rcases moved.state with ⟨-,state⟩ | ⟨waited,-⟩
      · rw [state]
        exact ⟨rfl,.inl rfl⟩
      · rw [waited] at clientless
        cases clientless
    · by_cases temporary : other = temp
      · subst temporary
        rw [connecting,own] at has
        rcases has with hold | same
        · cases hold
        · exact absurd (Option.some.inj same).symm here
      · rw [moved.others other same temporary]
        exact ⟨clientless,has⟩

theorem Moved.acked (moved : Moved temp connection accountName s t session) (heard : Nat → List WString)
    (told : Told env.config heard s) (log : s.log ⊆ t.log)
    (sessionId : (t.sessions session).sessionId = (s.sessions session).sessionId) (other : Object)
    (acked : isAcked (t.sessions other).state = true) :
    Acked env.config (t.sessions other).accountName (t.sessions other).sessionId t.log := by
  have different : other ≠ temp := by
    rintro rfl
    rw [moved.temp] at acked
    cases acked
  by_cases here : other = session
  · subst here
    have waited : (s.sessions other).state = .gateAllocAck := by
      rcases moved.state with ⟨-,hold⟩ | ⟨waited,-⟩
      · rw [hold] at acked
        cases acked
      · exact waited
    obtain ⟨loginSessionId,member⟩ := told.acked other (by rw [waited]; rfl)
    rw [moved.name,sessionId]
    rw [moved.named] at member
    exact ⟨loginSessionId,log member⟩
  · rw [moved.others other here different] at acked ⊢
    obtain ⟨loginSessionId,member⟩ := told.acked other acked
    exact ⟨loginSessionId,log member⟩

end

theorem moved_told (t : Gate) (session : Object) (heard : Nat → List WString)
    (told : Told env.config heard s) (served : ∀ other, Served s other)
    (live : (s.connections connection).live = true)
    (client : (s.connections connection).client = some temp)
    (connecting : (s.sessions temp).state = .onConnection)
    (own : (s.sessions temp).connection = some connection)
    (moved : Moved temp connection accountName s t session) (log : s.log ⊆ t.log)
    (sessionId : (t.sessions session).sessionId = (s.sessions session).sessionId) :
    Told env.config (Function.update heard connection [accountName]) t ∧ ∀ other, Served t other := by
  have apart := moved.apart served client
  refine ⟨⟨moved.clients env heard told live connecting own,?_,?_,
    moved.acked env heard told log sessionId⟩,?_⟩
  · intro other found state has
    have unlike : other ≠ session := by
      rintro rfl
      rw [moved.login (by rw [state]; rfl)] at state
      cases state
    obtain ⟨same,different,-,-⟩ := apart other found unlike (by rw [state]; rfl) has
    rw [same] at state has
    rw [Function.update_of_ne different]
    exact told.silent other found state has
  · intro other found state has
    by_cases here : other = session
    · subst here
      rw [moved.given] at has
      obtain rfl := Option.some.inj has
      rw [Function.update_self,moved.name]
    · obtain ⟨same,different,-,-⟩ := apart other found here (by rw [state]; rfl) has
      rw [same] at state has ⊢
      rw [Function.update_of_ne different]
      exact told.heard other found state has
  · intro other serving
    by_cases here : other = session
    · subst here
      have gives := moved.gives live
      exact ⟨connection,moved.given,by rw [gives],by rw [gives]⟩
    · have same := moved.others other here (moved.serves other serving)
      obtain ⟨found,has,-,-⟩ := served other (by rw [← same]; exact serving)
      rw [← same] at has
      obtain ⟨-,different,alive,belongs⟩ := apart other found here serving has
      have kept := moved.kept found different
      exact ⟨found,has,by rw [kept]; exact alive,by rw [kept]; exact belongs⟩

/-- A session that has read a token without success serves its connection no more. -/
theorem refused_told (t : Gate) (heard : Nat → List WString) (told : Told env.config heard s)
    (served : ∀ other, Served s other) (client : (s.connections connection).client = some temp)
    (connecting : (s.sessions temp).state = .onConnection) (keeps : Keeps s t)
    (leaves : (t.sessions temp).state ≠ .onConnection) (account : List WString) :
    Told env.config (Function.update heard connection account) t ∧ ∀ other, Served t other := by
  have after := keeps_told env.config heard s t keeps told
  have serves (other : Object) : Served t other := keeps_served s t other keeps (served other)
  have idle : isServing (t.sessions temp).state = false := by
    rcases (keeps.data temp).state with same | ⟨changed,-⟩
    · rw [connecting] at same
      exact absurd same leaves
    · exact changed
  have apart (other : Object) (found : Nat) (serving : isServing (t.sessions other).state = true)
      (has : (t.sessions other).connection = some found) : found ≠ connection := by
    obtain ⟨owned,has',-,belongs⟩ := serves other serving
    obtain rfl := Option.some.inj (has.symm.trans has')
    rintro rfl
    rw [keeps.connections,client] at belongs
    rw [← Option.some.inj belongs,idle] at serving
    cases serving
  refine ⟨⟨after.clients,?_,?_,after.acked⟩,serves⟩
  · intro other found state has
    rw [Function.update_of_ne (apart other found (by rw [state]; rfl) has)]
    exact after.silent other found state has
  · intro other found state has
    rw [Function.update_of_ne (apart other found (by rw [state]; rfl) has)]
    exact after.heard other found state has

end

theorem keeps_both (config : Config) (heard : Nat → List WString) (s t : Gate) (keeps : Keeps s t)
    (told : Told config heard s) (served : ∀ other, Served s other) :
    Told config heard t ∧ ∀ other, Served t other :=
  ⟨keeps_told config heard s t keeps told,fun other => keeps_served s t other keeps (served other)⟩

section
variable (env : Env) (s : Gate) (heard : Nat → List WString)

theorem whileRunning_keeps (handle : Gate → Gate) (keeps : Keeps s (handle s)) : Keeps s (whileRunning handle s) := by
  rw [whileRunning]
  split
  · exact keeps
  · exact keeps_refl s

theorem forSession_keeps (sessionId : UInt32) (handle : Object → Gate → Gate)
    (keeps : ∀ session, Keeps s (handle session s)) : Keeps s (forSession sessionId handle s) := by
  rw [forSession]
  split
  · exact keeps _
  · exact keeps_same s _ rfl (List.Subset.refl _) rfl

theorem onConnect_told (connection : Nat) (sound : Sound env.config s) (told : Told env.config heard s)
    (served : ∀ other, Served s other) (idle : (s.connections connection).live = false) :
    Told env.config (Function.update heard connection []) (step env s (.onConnect connection)) ∧
      ∀ other, Served (step env s (.onConnect connection)) other := by
  obtain ⟨fresh,serves⟩ := accept_told env.config heard s connection told served idle
  have still : Sound env.config (accept connection s) :=
    sessionStep_sound env.config _ _ (.line s connection _ (.inr rfl)) sound
  have none : (accept connection s).connections connection = ⟨true,none⟩ := Function.update_self ..
  rw [step,if_neg (by rw [idle]; decide),whileRunning]
  split
  · rw [onCommandOnConnect]
    split
    · exact keeps_both _ _ _ _ (asyncDisconnect_keeps _ _) fresh serves
    · rcases allocate_cases env.config _ still.indexed with empty | ⟨session,rest,list,free,taken⟩
      · rw [empty]
        exact keeps_both _ _ _ _ (asyncDisconnect_keeps _ _) fresh serves
      · obtain ⟨unused,-,-,-⟩ :=
          taken_held env.config _ (take rest (accept connection s)) session rest still list free rfl
        rw [taken]
        obtain ⟨after,serving⟩ := onConnection_told env.config _ (take rest (accept connection s)) session
          connection {fresh with} serves unused none (Function.update_self ..)
        exact ⟨{after with},serving⟩
  · exact ⟨fresh,serves⟩

theorem onData_told (connection : Nat) (login : Login) (packets : Nat) (sound : Sound env.config s)
    (told : Told env.config heard s) (served : ∀ other, Served s other) :
    Told env.config (hear s heard (.onData connection login packets))
        (step env s (.onData connection login packets)) ∧
      ∀ other, Served (step env s (.onData connection login packets)) other := by
  by_cases reading : reads connection s = true
  · have open' := reading
    rw [reads] at reading
    cases client : (s.connections connection).client with
    | none =>
      rw [client] at reading
      cases reading
    | some temp =>
      rw [client] at reading
      simp only [Bool.and_eq_true,decide_eq_true_eq,Bool.not_eq_true'] at reading
      obtain ⟨⟨⟨live,running⟩,active⟩,connecting⟩ := reading
      have own : (s.sessions temp).connection = some connection := by
        refine (told.clients connection temp live client).2.resolve_left ?_
        rw [connecting]
        decide
      have silent := told.silent temp connection connecting own
      have result : step env s (.onData connection login packets) = handleLoginPacket env temp login s := by
        have reached : reaches .onData temp s = some (s.sessions temp).state := by
          rw [reaches,connecting]
          rfl
        rw [step,if_pos live,whileRunning,if_pos running,onCommandOnData,client]
        dsimp only
        rw [if_neg (by rw [active]; decide),onData,if_neg (by rw [reached]; simp),if_pos connecting]
      rw [result]
      cases login with
      | waiting => exact ⟨told,served⟩
      | refused accountName =>
        refine keeps_both _ _ s _ ?_ told served
        exact keeps_trans s _ _ (setAccountName_keeps temp s accountName connecting) (disconnect_keeps env temp _)
      | token accountName =>
        have hears : hear s heard (.onData connection (.token accountName) packets) =
            Function.update heard connection [accountName] := by
          rw [hear,if_pos open',silent]
          rfl
        rw [hears]
        rcases token_moves env temp connection accountName s sound active connecting own with
          ⟨session,moved⟩ | ⟨keeps,leaves⟩
        · have owned := client_own env.config s sound.indexed temp (sound.indexed.clients connection temp client)
          exact moved_told env temp connection accountName s _ session heard told served live client connecting own
            moved (does_log _ _ (handleLoginPacket_does env temp _ s owned connecting))
            ((SessionFrames.handleLoginPacket_frames env s temp _).data session).sessionId
        · exact refused_told env temp connection s _ heard told served client connecting keeps leaves _
  · have hears : hear s heard (.onData connection login packets) = heard := by
      cases login with
      | token accountName => exact if_neg reading
      | _ => rfl
    rw [hears]
    refine keeps_both _ _ s _ ?_ told served
    rw [step]
    split
    next live =>
      rw [whileRunning]
      split
      next running =>
        rw [onCommandOnData]
        split
        next session client =>
          split
          · exact keeps_refl s
          next active =>
            rw [onData]
            split
            · exact keeps_refl s
            · have other : (s.sessions session).state ≠ .onConnection := by
                intro connecting
                refine reading ?_
                rw [reads,client]
                simp [live,running,active,connecting]
              rw [if_neg other]
              exact handlePackets_keeps env session s packets
        · exact keeps_refl s
      · exact keeps_refl s
    · exact keeps_refl s

theorem step_told (action : Action) (sound : Sound env.config s) (told : Told env.config heard s)
    (served : ∀ other, Served s other) (released : Released s action) :
    Told env.config (hear s heard action) (step env s action) ∧ ∀ other, Served (step env s action) other := by
  cases action with
  | onConnect connection =>
    rw [hear]
    split
    next live =>
      rw [step,if_pos live]
      exact ⟨told,served⟩
    next idle => exact onConnect_told env s heard connection sound told served (by simpa using idle)
  | onData connection login packets => exact onData_told env s heard connection login packets sound told served
  | onDisconnect connection =>
    rw [step]
    split
    next live => exact onCommandOnDisconnect_told env heard s connection told served live
    · exact ⟨told,served⟩
  | disconnect sessionId =>
    exact keeps_both _ _ s _ (forSession_keeps s sessionId _ fun session => onMasterDisconnect_keeps session s)
      told served
  | shutdown =>
    have unmapped : values s.sessionMap = [] := by
      rw [sound.indexed.unmapped]
      rfl
    rw [step,onCommandShutdown,unmapped]
    exact keeps_both _ _ s _ (keeps_same s _ rfl (List.Subset.refl _) rfl) told served
  | gateAllocReq loginSessionId accountName =>
    have asks := gateAllocReq_asks env loginSessionId accountName s sound.indexed
    have asked := keeps_both _ _ s _ (note_keeps s (.gateAllocReq loginSessionId accountName)) told served
    change Told env.config heard _ ∧ _
    generalize step env s (.gateAllocReq loginSessionId accountName) = t at asks ⊢
    cases asks with
    | stopped => exact ⟨told,served⟩
    | duplicate => exact asked
    | full => exact keeps_both _ _ _ _ (note_keeps _ _) asked.1 asked.2
    | crash =>
      exact keeps_both _ _ (s.note _) _ (keeps_same _ _ rfl (List.Subset.refl _) rfl) asked.1 asked.2
    | allocated session rest running fresh room list free =>
      obtain ⟨unused,-,-,-⟩ := taken_held env.config s (take rest s) session rest sound list free rfl
      exact onGateAllocReq_told env heard _ session loginSessionId accountName {asked.1 with} asked.2 unused
  | gateReleaseReq loginSessionId accountName =>
    refine keeps_both _ _ s _ (whileRunning_keeps s _ ?_) told served
    rw [onCommandGateReleaseReq]
    split
    · exact onGateReleaseReq_keeps env _ s
    · exact keeps_refl s
  | regionBindReq sessionId regionServerId =>
    exact keeps_both _ _ s _ (whileRunning_keeps s _ (forSession_keeps s sessionId _ fun session =>
      onRegionBindReq_keeps env session s regionServerId)) told served
  | checkSessionState =>
    exact keeps_both _ _ s _ (whileRunning_keeps s _ (checkSessionState_keeps env s)) told served
  | reportState => exact keeps_both _ _ s _ (whileRunning_keeps s _ (note_keeps s _)) told served
  | tick currTime => exact keeps_both _ _ s _ (keeps_same s _ rfl (List.Subset.refl _) rfl) told served
  | pass => exact pass_told env heard s told served released

end

theorem init_told (config : Config) : Told config (fun _ => []) (init config) ∧
    ∀ session, Served (init config) session :=
  ⟨⟨fun _ _ live => (by cases live),fun _ _ state => (by cases state),fun _ _ state => (by cases state),
    fun _ acked => (by cases acked)⟩,fun _ serving => (by cases serving)⟩

theorem watched (env : Env) (s : Gate) (heard : Nat → List WString) (actions : List Action)
    (guarded : Guarded (step env) Released s actions) (sound : Sound env.config s)
    (told : Told env.config heard s) (served : ∀ session, Served s session) :
    let w := run (watch env) (s,heard) actions
    w.1 = run (step env) s actions ∧ Told env.config w.2 w.1 ∧ ∀ session, Served w.1 session := by
  induction actions generalizing s heard with
  | nil => exact ⟨rfl,told,served⟩
  | cons action actions ih =>
    obtain ⟨first,rest⟩ := guarded
    obtain ⟨after,serves⟩ := step_told env s heard action sound told served first
    exact ih _ _ rest (step_sound env s action sound (released_single s action first)) after serves

/-- Where the data for a session id leaves: on a connection that is there, on which a single token was read,
the one of the account for which the id was acknowledged. -/
structure Delivered (env : Env) (s : Gate) (tokens : Nat → List WString) (delivery : UInt32 × Option Nat)
    (connection : Nat) (accountName : WString) : Prop where
  leaves : delivery.2 = some connection
  live : (s.connections connection).live = true
  token : tokens connection = [accountName]
  acked : Acked env.config accountName delivery.1 s.log

theorem target_delivered (env : Env) (s : Gate) (heard : Nat → List WString) (broadcast : Bool)
    (sessionId : UInt32) (delivery : UInt32 × Option Nat) (told : Told env.config heard s)
    (served : ∀ session, Served s session) (found : target broadcast s sessionId = some delivery) :
    ∃ connection accountName, Delivered env s heard delivery connection accountName := by
  rw [target] at found
  cases leads : getSession sessionId s with
  | none =>
    rw [leads] at found
    cases found
  | some session =>
    rw [leads] at found
    simp only [Option.ite_none_left_eq_some,not_or] at found
    obtain ⟨⟨-,-,reached⟩,same⟩ := found
    obtain rfl := Option.some.inj same
    have state : (s.sessions session).state = .gateLoginReq := by
      revert reached
      rw [reaches]
      generalize (s.sessions session).state = state
      cases state <;> decide
    obtain ⟨connection,own,live,-⟩ := served session (by rw [state]; rfl)
    have id : (s.sessions session).sessionId = sessionId := by
      rw [getSession,Option.ite_none_right_eq_some] at leads
      rw [← Option.some.inj leads.2]
      exact leads.1.2
    refine ⟨connection,(s.sessions session).accountName,own,live,told.heard session connection state own,?_⟩
    change Acked env.config _ sessionId s.log
    rw [← id]
    exact told.acked session (by rw [state]; rfl)

/-- In every run whose passes clear single sessions that no connection belongs to any more, data reaches only
the client that has logged in with the account of the session id. -/
theorem data_delivered (env : Env) (actions : List Action)
    (guarded : Guarded (step env) Released (init env.config) actions) (data : Data) :
    let s := run (step env) (init env.config) actions
    ∀ delivery ∈ deliveries s data, ∃ connection accountName,
      Delivered env s (tokens env actions) delivery connection accountName := by
  intro s delivery member
  obtain ⟨same,told,served⟩ := watched env (init env.config) (fun _ => []) actions guarded
    (init_sound env.config) (init_told env.config).1 (init_told env.config).2
  rw [same] at told served
  cases data with
  | sendData sessionId =>
    rw [deliveries] at member
    split at member
    · exact target_delivered env s _ false sessionId delivery told served (Option.mem_toList.mp member)
    · cases member
  | broadcastData sessionIds =>
    rw [deliveries] at member
    split at member
    · obtain ⟨sessionId,-,found⟩ := List.mem_filterMap.mp member
      exact target_delivered env s _ true sessionId delivery told served found
    · cases member

/-- Two accounts log in, the second one from a connection that was accepted first. -/
def twoLogins : List Action :=
  [.pass,.onConnect 1,.gateAllocReq 10 [97],.onConnect 2,.gateAllocReq 11 [98],.onData 2 (.token [97]) 0,
    .onData 1 (.token [98]) 0]

theorem twoLogins_released : Guarded (step sampleEnv) Released (init sampleEnv.config) twoLogins :=
  ⟨⟨by decide,fun _ member => by cases member⟩,trivial,trivial,trivial,trivial,trivial,trivial,trivial⟩

theorem data_delivered_twoLogins :
    let s := run (step sampleEnv) (init sampleEnv.config) twoLogins
    (16777473,some 2) ∈ deliveries s (.sendData 16777473) ∧ ∃ connection accountName,
      Delivered sampleEnv s (tokens sampleEnv twoLogins) (16777473,some 2) connection accountName := by
  intro s
  have member : (16777473,some 2) ∈ deliveries s (.sendData 16777473) := by decide +kernel
  exact ⟨member,data_delivered sampleEnv twoLogins twoLogins_released (.sendData 16777473) _ member⟩

end Fantuan.GateServer.Deliveries
