import Fantuan.GateServer.Deliveries

/-! What the gate tells the servers behind it of one session id: that it is acknowledged for an account, that
this account has logged in, the packets of the account, and the end of its connection.
-/
namespace Fantuan.GateServer.Conversations
open Lib.Table Lib.Drain Lib.Run ServerBase.ServerCommon Tool.ObjectPool Tool.StateMachine ServerLoop Session
  Commands SessionSteps Indexes SessionCounts Disconnects Transfers Deliveries

/-- How far the talk about a session id has come. -/
inductive Phase where
  | closed
  | acked (accountName : WString)
  | loggedIn (accountName : WString)
  deriving DecidableEq

/-- The session id that a message which was sent is about. -/
def subject : Event → Option UInt32
  | .sent (.gateAllocAck _ _ _ sessionId) true => some sessionId
  | .sent (.onGateLoginReq sessionId _) true => some sessionId
  | .sent (.packetForward sessionId) true => some sessionId
  | .sent (.onSessionDisconnect sessionId) true => some sessionId
  | _ => none

/-- none: the message is out of turn. -/
def hear (phase : Phase) : Event → Option Phase
  | .sent (.gateAllocAck _ _ accountName _) _ => some (.acked accountName)
  | .sent (.onGateLoginReq _ accountName) _ =>
    if phase = .acked accountName then some (.loggedIn accountName) else none
  | .sent (.packetForward _) _ =>
    match phase with
    | .loggedIn _ => some phase
    | _ => none
  | .sent (.onSessionDisconnect _) _ => some .closed
  | _ => some phase

/-- The talk about a session id; the newest event is first in the log. -/
def conversation (sessionId : UInt32) : List Event → Option Phase
  | [] => some .closed
  | event :: log =>
    if subject event = some sessionId then (conversation sessionId log).bind fun phase => hear phase event
    else conversation sessionId log

/-- The talk is where the states of the sessions say it is. -/
structure Conforms (s : Gate) : Prop where
  heard : ∀ sessionId, sessionId ≠ 0 → (conversation sessionId s.log).isSome = true
  acked : ∀ session, (s.sessions session).sessionId ≠ 0 → (s.sessions session).state = .gateAllocAck →
    conversation (s.sessions session).sessionId s.log = some (.acked (s.sessions session).accountName)
  loggedIn : ∀ session, (s.sessions session).sessionId ≠ 0 → (s.sessions session).state = .gateLoginReq →
    conversation (s.sessions session).sessionId s.log = some (.loggedIn (s.sessions session).accountName)

/-- A handler of one session, which says nothing of the others and of this one only what is in turn. -/
structure Talks (session : Object) (s t : Gate) : Prop where
  keeps : Keeps s t
  others : ∀ sessionId, sessionId ≠ (s.sessions session).sessionId →
    conversation sessionId t.log = conversation sessionId s.log
  own : (s.sessions session).sessionId ≠ 0 → ∀ phase,
    conversation (s.sessions session).sessionId s.log = some phase → ∃ later,
    conversation (s.sessions session).sessionId t.log = some later ∧
      (isAcked (t.sessions session).state = true → later = phase)

theorem conversation_other (sessionId : UInt32) (event : Event) (log : List Event)
    (other : subject event ≠ some sessionId) :
    conversation sessionId (event :: log) = conversation sessionId log := if_neg other

theorem conversation_own (sessionId : UInt32) (event : Event) (log : List Event)
    (own : subject event = some sessionId) :
    conversation sessionId (event :: log) = (conversation sessionId log).bind fun phase => hear phase event :=
  if_pos own

theorem subject_failed (message : Message) : subject (.sent message false) = none := by
  cases message <;> rfl

section
variable (session : Object) (s t u : Gate)

theorem talks_silent (keeps : Keeps s t) (log : t.log = s.log) : Talks session s t := by
  refine ⟨keeps,fun _ _ => by rw [log],fun _ phase now => ⟨phase,?_,fun _ => rfl⟩⟩
  rw [log]
  exact now

theorem talks_refl : Talks session s s := talks_silent session s s (keeps_refl s) rfl

theorem talks_trans (first : Talks session s t) (second : Talks session t u) : Talks session s u := by
  have same := (first.keeps.data session).sessionId
  refine ⟨keeps_trans s t u first.keeps second.keeps,fun sessionId other => ?_,fun real phase now => ?_⟩
  · rw [second.others sessionId (by rw [same]; exact other)]
    exact first.others sessionId other
  · obtain ⟨later,then',kept⟩ := first.own real phase now
    rw [← same] at then'
    obtain ⟨last,finally',still⟩ := second.own (by rw [same]; exact real) later then'
    rw [same] at finally'
    refine ⟨last,finally',fun acked => (still acked).trans (kept ?_)⟩
    rcases (second.keeps.data session).state with state | ⟨-,wrong⟩
    · rw [← state]
      exact acked
    · rw [acked] at wrong
      cases wrong

theorem note_talks (event : Event) (about : ∀ sessionId, subject event = some sessionId →
      sessionId = (s.sessions session).sessionId ∧ isAcked (s.sessions session).state = false ∧
        ∀ phase, (hear phase event).isSome = true) : Talks session s (s.note event) := by
  refine ⟨note_keeps s event,fun sessionId other => ?_,fun _ phase now => ?_⟩
  · refine conversation_other sessionId event s.log fun said => ?_
    exact other (about sessionId said).1
  · change ∃ later, conversation _ (event :: s.log) = _ ∧ _
    by_cases said : subject event = some (s.sessions session).sessionId
    · obtain ⟨-,idle,heard⟩ := about _ said
      obtain ⟨later,hears⟩ := Option.isSome_iff_exists.mp (heard phase)
      refine ⟨later,?_,fun acked => ?_⟩
      · rw [conversation_own _ _ _ said,now]
        exact hears
      · change isAcked (s.sessions session).state = true at acked
        rw [idle] at acked
        cases acked
    · exact ⟨phase,(conversation_other _ event s.log said).trans now,fun _ => rfl⟩

theorem unsaid_talks (event : Event) (unsaid : subject event = none) : Talks session s (s.note event) := by
  refine note_talks session s event fun sessionId said => ?_
  rw [unsaid] at said
  cases said

theorem asyncDisconnect_talks (connection : Option Nat) : Talks session s (asyncDisconnect connection s) := by
  cases connection with
  | none => exact talks_silent session s _ (asyncDisconnect_keeps s none) rfl
  | some connection => exact unsaid_talks session s _ rfl

theorem pushFinalizing_talks : Talks session s (pushFinalizing session s) :=
  talks_silent session s _ (pushFinalizing_keeps session s) rfl

end

section
variable (env : Env) (session : Object) (s : Gate)

theorem closeSession_talks (isByMaster : Bool) : Talks session s (closeSession env session isByMaster s) := by
  rw [closeSession]
  split
  · exact talks_refl session s
  · split
    · exact asyncDisconnect_talks session s _
    · split
      next asked =>
        refine talks_trans session s _ _ (note_talks session s _ ?_) (pushFinalizing_talks session _)
        intro sessionId said
        cases success : sends env s with
        | false =>
          rw [success,subject_failed] at said
          cases said
        | true =>
          rw [success] at said
          obtain rfl := Option.some.inj said
          refine ⟨rfl,?_,fun phase => rfl⟩
          rw [asked.1]
          rfl
      · exact pushFinalizing_talks session s

theorem sent_talks (idle : isAcked (s.sessions session).state = false) :
    Talks session s (send env (sessionDisconnect session s) s) := by
  refine note_talks session s _ fun sessionId said => ?_
  cases success : sends env s with
  | false =>
    rw [success,subject_failed] at said
    cases said
  | true =>
    rw [success] at said
    obtain rfl := Option.some.inj said
    exact ⟨rfl,idle,fun phase => rfl⟩

theorem setState_talks (event : SessionEvent) (next : SessionState) (idle : idleEvent event = true)
    (reached : reaches event session s = some next) : Talks session s (setState session next s) :=
  talks_silent session s _ (setState_keeps s event session next idle reached) rfl

theorem stateTransition_talks (event : SessionEvent) (idle : idleEvent event = true) :
    Talks session s (stateTransition event session s) := by
  refine talks_silent session s _ (stateTransition_keeps s event session idle) ?_
  rw [stateTransition]
  split <;> rfl

theorem closeConnection_talks
    (free : Unowned s session ∧ isServing (s.sessions session).state = false ∨
      (s.sessions session).connection = none) : Talks session s (closeConnection session s) := by
  have keeps := closeConnection_keeps session s free
  rw [closeConnection] at keeps ⊢
  split at keeps
  next connection has =>
    have said := unsaid_talks session s (.close connection) rfl
    refine ⟨keeps,said.others,fun real phase now => ?_⟩
    obtain ⟨later,then',kept⟩ := said.own real phase now
    refine ⟨later,then',fun acked => kept ?_⟩
    rw [update_same] at acked
    exact acked
  · exact talks_refl session s

theorem onDisconnect_talks
    (free : Unowned s session ∨ (s.sessions session).state = .disconnect ∧
      (s.sessions session).connection = none) : Talks session s (onDisconnect env session s) := by
  cases reached : reaches .onDisconnect session s with
  | none =>
    rw [onDisconnect,reached]
    exact talks_refl session s
  | some next =>
    have ended := onDisconnect_chain env session s (Talks session) (talks_trans session)
      (fun _ _ talks => talks.keeps) (talks_silent session) (closeConnection_talks session) (sent_talks env session)
      (fun t => closeSession_talks env session t false) next reached free
    exact talks_trans session s _ _ (setState_talks session s .onDisconnect next rfl reached) ended

theorem disconnect_talks : Talks session s (disconnect env session s) := by
  rw [disconnect]
  split
  · exact talks_refl session s
  · split
    · exact talks_refl session s
    next next reached =>
      obtain rfl := disconnect_reached _ next reached
      have moved := setState_talks session s .disconnect .disconnect rfl reached
      dsimp only
      split
      · exact talks_trans session s _ _ moved (asyncDisconnect_talks session _ _)
      next bare =>
        refine talks_trans session s _ _ moved (onDisconnect_talks env session _ (.inr ?_))
        rw [setState,update_same]
        exact ⟨rfl,bare⟩

theorem onGateReleaseReq_talks : Talks session s (onGateReleaseReq env session s) := by
  rw [onGateReleaseReq]
  split
  · exact talks_refl session s
  · exact talks_trans session s _ _ (stateTransition_talks session s .gateReleaseReq rfl)
      (closeSession_talks env session _ true)

theorem onMasterDisconnect_talks : Talks session s (onMasterDisconnect session s) := by
  have moved := stateTransition_talks session s .onMasterDisconnect rfl
  rw [onMasterDisconnect]
  split
  · exact talks_refl session s
  · dsimp only
    split
    · exact talks_trans session s _ _ moved (asyncDisconnect_talks session _ _)
    · exact moved

theorem onRegionBindReq_talks (regionServerId : UInt8) :
    Talks session s (onRegionBindReq env session regionServerId s) := by
  refine talks_silent session s _ (onRegionBindReq_keeps env session s regionServerId) ?_
  rw [onRegionBindReq]
  split <;> rfl

theorem setAccountName_talks (accountName : WString) (connecting : (s.sessions session).state = .onConnection) :
    Talks session s (setAccountName session accountName s) :=
  talks_silent session s _ (setAccountName_keeps session s accountName connecting) rfl

theorem checkSession_talks : Talks session s (checkSession env s session) := by
  rw [checkSession]
  split
  · exact disconnect_talks env session s
  · exact talks_refl session s

/-- A session that forwards packets: it has a connection, and is disconnected at most. -/
structure Forwards (s t : Gate) : Prop where
  talks : Talks session s t
  still : (s.sessions session).sessionId ≠ 0 →
    conversation (s.sessions session).sessionId t.log = conversation (s.sessions session).sessionId s.log
  connected : (t.sessions session).connection.isSome = true
  state : (t.sessions session).state = .gateLoginReq ∨ (t.sessions session).state = .disconnect

theorem handlePacket_forwards (t : Gate) (accountName : WString)
    (loggedIn : (s.sessions session).sessionId ≠ 0 →
      conversation (s.sessions session).sessionId s.log = some (.loggedIn accountName))
    (forwards : Forwards session s t) : Forwards session s (handlePacket env session t) := by
  have same := (forwards.talks.keeps.data session).sessionId
  let sent := send env (.packetForward (t.sessions session).sessionId) t
  have open' (real : (s.sessions session).sessionId ≠ 0) :
      conversation (t.sessions session).sessionId sent.log = conversation (t.sessions session).sessionId t.log := by
    have now := (forwards.still real).trans (loggedIn real)
    rw [← same] at now
    change conversation _ (Event.sent _ (sends env t) :: t.log) = _
    cases sends env t with
    | false => exact conversation_other _ _ _ (by rw [subject_failed]; simp)
    | true =>
      rw [conversation_own _ _ _ rfl,now]
      rfl
  have said : Forwards session s sent := by
    refine ⟨talks_trans session s t sent forwards.talks
        ⟨note_keeps t _,fun sessionId other => ?_,fun real phase found => ?_⟩,
      fun real => ?_,forwards.connected,forwards.state⟩
    · refine conversation_other sessionId _ t.log fun about => other ?_
      cases success : sends env t with
      | false =>
        rw [success,subject_failed] at about
        cases about
      | true =>
        rw [success] at about
        exact (Option.some.inj about).symm
    · exact ⟨phase,(open' (by rw [← same]; exact real)).trans found,fun _ => rfl⟩
    · rw [← same,open' real,same]
      exact forwards.still real
  rw [handlePacket]
  split
  · exact said
  · change Forwards session s (disconnect env session sent)
    rw [disconnect]
    split
    · exact said
    · split
      · exact said
      next next reached =>
        have talks := setState_talks session sent .disconnect next rfl reached
        have moved : next = .disconnect := by
          rcases forwards.state with state | state
          · rw [reaches,show (sent.sessions session).state = _ from state] at reached
            exact (Option.some.inj reached).symm
          · rw [reaches,show (sent.sessions session).state = _ from state] at reached
            cases reached
        obtain ⟨connection,has⟩ := Option.isSome_iff_exists.mp said.connected
        rw [has]
        dsimp only
        have after := asyncDisconnect_talks session (setState session next sent) (some connection)
        refine ⟨talks_trans session s _ _ said.talks (talks_trans session _ _ _ talks after),fun real => ?_,?_,?_⟩
        · change conversation _ (Event.asyncDisconnect connection :: sent.log) = _
          rw [conversation_other _ _ _ (by simp [subject])]
          exact said.still real
        · change ((setState session next sent).sessions session).connection.isSome = true
          rw [setState,update_same]
          exact said.connected
        · refine .inr ?_
          change ((setState session next sent).sessions session).state = _
          rw [setState,update_same]
          exact moved

theorem handlePackets_talks (packets : Nat) (accountName : WString)
    (loggedIn : (s.sessions session).sessionId ≠ 0 →
      conversation (s.sessions session).sessionId s.log = some (.loggedIn accountName))
    (connected : (s.sessions session).connection.isSome = true) (state : (s.sessions session).state = .gateLoginReq) :
    Talks session s (repeated (handlePacket env session) packets s) :=
  (repeated_invariant (handlePacket env session) (Forwards session s)
    (fun t forwards => handlePacket_forwards env session s t accountName loggedIn forwards) packets s
    ⟨talks_refl session s,fun _ => rfl,connected,.inl state⟩).talks

end

theorem acked_inside (config : Config) (s : Gate) (session : Object) (indexed : Indexed config s)
    (acked : isAcked (s.sessions session).state = true) : session < poolMax config := by
  refine indexed.used session fun unused => ?_
  rw [unused] at acked
  cases acked

theorem sessionId_inj (config : Config) (s : Gate) (session other : Object) (indexed : Indexed config s)
    (inside : session < poolMax config) (otherInside : other < poolMax config)
    (same : (s.sessions other).sessionId = (s.sessions session).sessionId) : other = session := by
  have one := (indexed.ids session inside).1
  have two := (indexed.ids other otherInside).1
  rw [same] at two
  exact two.symm.trans one

theorem talks_conforms (config : Config) (s t : Gate) (session : Object) (indexed : Indexed config s)
    (inside : session < poolMax config) (talks : Talks session s t) (conforms : Conforms s) : Conforms t := by
  -- the talk about a session that is acknowledged after the handler is where it was before
  have still (other : Object) (real : (t.sessions other).sessionId ≠ 0)
      (acked : isAcked (t.sessions other).state = true) :
      (t.sessions other).state = (s.sessions other).state ∧
        (t.sessions other).sessionId = (s.sessions other).sessionId ∧
        (t.sessions other).accountName = (s.sessions other).accountName ∧
        conversation (s.sessions other).sessionId t.log = conversation (s.sessions other).sessionId s.log := by
    have steady := talks.keeps.data other
    have state := steady.state.resolve_right (by rw [acked]; simp)
    have name := steady.accountName.resolve_right (by rw [acked]; simp)
    refine ⟨state,steady.sessionId,name,?_⟩
    rw [state] at acked
    by_cases same : (s.sessions other).sessionId = (s.sessions session).sessionId
    · have otherInside := acked_inside config s other indexed acked
      obtain rfl := sessionId_inj config s session other indexed inside otherInside same
      rw [steady.sessionId] at real
      obtain ⟨phase,now⟩ := Option.isSome_iff_exists.mp (conforms.heard _ real)
      obtain ⟨later,then',kept⟩ := talks.own real phase now
      rw [then',now,kept (by rw [state]; exact acked)]
    · exact talks.others _ same
  refine ⟨fun sessionId real => ?_,fun other real acked => ?_,fun other real loggedIn => ?_⟩
  · by_cases own : sessionId = (s.sessions session).sessionId
    · subst own
      obtain ⟨phase,now⟩ := Option.isSome_iff_exists.mp (conforms.heard _ real)
      obtain ⟨later,then',-⟩ := talks.own real phase now
      rw [then']
      rfl
    · rw [talks.others sessionId own]
      exact conforms.heard sessionId real
  · obtain ⟨state,id,name,same⟩ := still other real (by rw [acked]; rfl)
    rw [id] at real ⊢
    rw [name,same]
    exact conforms.acked other real (state.symm.trans acked)
  · obtain ⟨state,id,name,same⟩ := still other real (by rw [loggedIn]; rfl)
    rw [id] at real ⊢
    rw [name,same]
    exact conforms.loggedIn other real (state.symm.trans loggedIn)

theorem silent_conforms (s t : Gate) (conforms : Conforms s)
    (log : ∀ sessionId, sessionId ≠ 0 → conversation sessionId t.log = conversation sessionId s.log)
    (data : ∀ session, isAcked (t.sessions session).state = true →
      (t.sessions session).state = (s.sessions session).state ∧
        (t.sessions session).sessionId = (s.sessions session).sessionId ∧
        (t.sessions session).accountName = (s.sessions session).accountName) : Conforms t := by
  refine ⟨fun sessionId real => ?_,fun session real acked => ?_,fun session real loggedIn => ?_⟩
  · rw [log sessionId real]
    exact conforms.heard sessionId real
  · obtain ⟨state,id,name⟩ := data session (by rw [acked]; rfl)
    rw [log _ real]
    rw [id] at real ⊢
    rw [name]
    exact conforms.acked session real (state.symm.trans acked)
  · obtain ⟨state,id,name⟩ := data session (by rw [loggedIn]; rfl)
    rw [log _ real]
    rw [id] at real ⊢
    rw [name]
    exact conforms.loggedIn session real (state.symm.trans loggedIn)

theorem same_conforms (s t : Gate) (conforms : Conforms s) (log : t.log = s.log)
    (sessions : t.sessions = s.sessions) : Conforms t := by
  refine silent_conforms s t conforms (fun _ _ => by rw [log]) fun session _ => ?_
  rw [sessions]
  exact ⟨rfl,rfl,rfl⟩

theorem unsaid_conforms (s : Gate) (event : Event) (conforms : Conforms s)
    (unsaid : subject event = none ∨ subject event = some 0) : Conforms (s.note event) := by
  refine silent_conforms s _ conforms (fun sessionId real => ?_) fun _ _ => ⟨rfl,rfl,rfl⟩
  refine conversation_other sessionId event s.log fun said => ?_
  rcases unsaid with none | zero
  · rw [none] at said
    cases said
  · rw [zero] at said
    exact real (Option.some.inj said).symm

theorem leaves_conforms (s t : Gate) (session : Object) (conforms : Conforms s) (log : t.log = s.log)
    (idle : isAcked (t.sessions session).state = false)
    (there : ∀ other, other ≠ session → t.sessions other = s.sessions other) : Conforms t := by
  refine silent_conforms s t conforms (fun _ _ => by rw [log]) fun other acked => ?_
  have unlike : other ≠ session := by
    rintro rfl
    rw [idle] at acked
    cases acked
  rw [there other unlike]
  exact ⟨rfl,rfl,rfl⟩

theorem onGateAllocReq_conforms (env : Env) (s : Gate) (session : Object) (loginSessionId : UInt32)
    (accountName : WString) (indexed : Indexed env.config s) (inside : session < poolMax env.config)
    (unused : (s.sessions session).state = .none) (conforms : Conforms s) :
    Conforms (onGateAllocReq env session loginSessionId accountName s) := by
  let named := s.update session (allocated loginSessionId accountName)
  have here : named.sessions session = allocated loginSessionId accountName (s.sessions session) := update_same ..
  have there (other : Object) (unlike : other ≠ session) : named.sessions other = s.sessions other :=
    update_other s session other _ unlike
  have before : Conforms named :=
    leaves_conforms s named session conforms rfl (by rw [here]; rfl) there
  rw [onGateAllocReq_unused env session loginSessionId accountName s unused]
  change Conforms (if sends env s then setState session .gateAllocAck (named.note _) else named.note _)
  split
  next success =>
    rw [success]
    let id := nextSequence (s.sessions session).sessionId
    let event := Event.sent (.gateAllocAck env.config.serverId loginSessionId accountName id) true
    let t := setState session .gateAllocAck (named.note event)
    have own : t.sessions session = {allocated loginSessionId accountName (s.sessions session) with
        state := .gateAllocAck} := by
      change (setState session .gateAllocAck (named.note event)).sessions session = _
      rw [setState,update_same]
      exact congrArg (fun data : GateSession => {data with state := .gateAllocAck}) here
    have others (other : Object) (unlike : other ≠ session) : t.sessions other = s.sessions other :=
      (update_other _ session other _ unlike).trans (there other unlike)
    -- no other session that is acknowledged has the new id
    have apart (other : Object) (unlike : other ≠ session) (acked : isAcked (t.sessions other).state = true) :
        id ≠ (t.sessions other).sessionId := by
      rw [others other unlike] at acked ⊢
      intro same
      have one := (nextSequence_numbered env.config session _ (indexed.ids session inside)).1
      have two := (indexed.ids other (acked_inside env.config s other indexed acked)).1
      rw [← same] at two
      exact unlike (two.symm.trans one)
    have said (sessionId : UInt32) (other : id ≠ sessionId) :
        conversation sessionId t.log = conversation sessionId s.log :=
      conversation_other sessionId event s.log fun about => other (Option.some.inj about)
    have now (real : id ≠ 0) : conversation id t.log = some (.acked accountName) := by
      obtain ⟨phase,then'⟩ := Option.isSome_iff_exists.mp (conforms.heard id real)
      change conversation id (event :: s.log) = _
      rw [conversation_own id event s.log rfl,then']
      rfl
    change Conforms t
    refine ⟨fun sessionId real => ?_,fun other real acked => ?_,fun other real loggedIn => ?_⟩
    · by_cases same : id = sessionId
      · rw [← same] at real ⊢
        rw [now real]
        rfl
      · rw [said sessionId same]
        exact conforms.heard sessionId real
    · by_cases same : other = session
      · subst same
        rw [own] at real ⊢
        exact now real
      · rw [said _ (apart other same (by rw [acked]; rfl))]
        rw [others other same] at real acked ⊢
        exact conforms.acked other real acked
    · by_cases same : other = session
      · subst same
        rw [own] at loggedIn
        cases loggedIn
      · rw [said _ (apart other same (by rw [loggedIn]; rfl))]
        rw [others other same] at real loggedIn ⊢
        exact conforms.loggedIn other real loggedIn
  next failed =>
    have none : sends env s = false := by simpa using failed
    rw [none]
    exact unsaid_conforms named _ before (.inl rfl)

section
variable (env : Env)

/-- The login of the account is told of a session that is acknowledged for it. -/
theorem onSessionTransfered_conforms (session : Object) (s : Gate) (indexed : Indexed env.config s)
    (waiting : (s.sessions session).state = .gateAllocAck) (conforms : Conforms s) :
    Conforms (onSessionTransfered env session s) := by
  have inside := acked_inside env.config s session indexed (by rw [waiting]; rfl)
  have reached : reaches .transfered session s = some .loggedIn := by rw [reaches,waiting]; rfl
  let moved := setState session .loggedIn s
  have here : moved.sessions session = {s.sessions session with state := .loggedIn} := update_same ..
  have there (other : Object) (unlike : other ≠ session) : moved.sessions other = s.sessions other :=
    update_other s session other _ unlike
  have before : Conforms moved := leaves_conforms s moved session conforms rfl (by rw [here]; rfl) there
  let id := (s.sessions session).sessionId
  let accountName := (s.sessions session).accountName
  have message : Message.onGateLoginReq (moved.sessions session).sessionId (moved.sessions session).accountName =
      .onGateLoginReq id accountName := by rw [here]
  rw [onSessionTransfered,if_pos reached,stateTransition_reached s session _ _ reached]
  change Conforms (if sends env moved then
    stateTransition .gateLoginReq session (send env (.onGateLoginReq _ _) moved) else
    disconnect env session (send env (.onGateLoginReq _ _) moved))
  rw [message]
  split
  next success =>
    let event := Event.sent (.onGateLoginReq id accountName) true
    have sent : send env (.onGateLoginReq id accountName) moved = moved.note event := by
      rw [send,success]
    have logged : reaches .gateLoginReq session (moved.note event) = some .gateLoginReq := by
      change transition (moved.sessions session).state _ = _
      rw [here]
      rfl
    rw [sent,stateTransition_reached _ session _ _ logged]
    let t := setState session .gateLoginReq (moved.note event)
    have own : t.sessions session = {s.sessions session with state := .gateLoginReq} := by
      change (setState session .gateLoginReq (moved.note event)).sessions session = _
      rw [setState,update_same]
      exact congrArg (fun data : GateSession => {data with state := .gateLoginReq}) here
    have others (other : Object) (unlike : other ≠ session) : t.sessions other = s.sessions other :=
      (update_other _ session other _ unlike).trans (there other unlike)
    have apart (other : Object) (unlike : other ≠ session) (acked : isAcked (t.sessions other).state = true) :
        id ≠ (t.sessions other).sessionId := by
      rw [others other unlike] at acked ⊢
      exact fun same => unlike (sessionId_inj env.config s session other indexed inside
        (acked_inside env.config s other indexed acked) same.symm)
    have said (sessionId : UInt32) (other : id ≠ sessionId) :
        conversation sessionId t.log = conversation sessionId s.log :=
      conversation_other sessionId event s.log fun about => other (Option.some.inj about)
    have now (real : id ≠ 0) : conversation id t.log = some (.loggedIn accountName) := by
      change conversation id (event :: s.log) = _
      rw [conversation_own id event s.log rfl,conforms.acked session real waiting]
      exact if_pos rfl
    change Conforms t
    refine ⟨fun sessionId real => ?_,fun other real acked => ?_,fun other real loggedIn => ?_⟩
    · by_cases same : id = sessionId
      · rw [← same] at real ⊢
        rw [now real]
        rfl
      · rw [said sessionId same]
        exact conforms.heard sessionId real
    · by_cases same : other = session
      · subst same
        rw [own] at acked
        cases acked
      · rw [said _ (apart other same (by rw [acked]; rfl))]
        rw [others other same] at real acked ⊢
        exact conforms.acked other real acked
    · by_cases same : other = session
      · subst same
        rw [own] at real ⊢
        exact now real
      · rw [said _ (apart other same (by rw [loggedIn]; rfl))]
        rw [others other same] at real loggedIn ⊢
        exact conforms.loggedIn other real loggedIn
  next failed =>
    have none : sends env moved = false := by simpa using failed
    have sent : send env (.onGateLoginReq id accountName) moved =
        moved.note (.sent (.onGateLoginReq id accountName) false) := by rw [send,none]
    rw [sent]
    have stuck : reaches .disconnect session (moved.note (.sent (.onGateLoginReq id accountName) false)) = .none := by
      change transition (moved.sessions session).state _ = _
      rw [here]
      rfl
    rw [disconnect,stuck]
    have after := unsaid_conforms moved (.sent (.onGateLoginReq id accountName) false) before (.inl rfl)
    split <;> exact after

theorem clone_named (session temp : Object) (s : Gate)
    (named : (s.sessions session).accountName = (s.sessions temp).accountName) :
    ((clone session temp s).sessions session).sessionId = (s.sessions session).sessionId ∧
      ((clone session temp s).sessions session).accountName = (s.sessions session).accountName := by
  have data : (s.update session (Disconnects.cloned (s.sessions temp))).sessions session =
      Disconnects.cloned (s.sessions temp) (s.sessions session) := update_same ..
  have still : ((s.update session (Disconnects.cloned (s.sessions temp))).sessions session).sessionId =
        (s.sessions session).sessionId ∧
      ((s.update session (Disconnects.cloned (s.sessions temp))).sessions session).accountName =
        (s.sessions session).accountName := by
    rw [data]
    exact ⟨rfl,named.symm⟩
  rw [clone]
  split
  · exact ⟨rfl,rfl⟩
  · dsimp only
    split
    · exact still
    · exact still

/-- A token: its account's session takes the connection, or the temporary session is disconnected. -/
theorem loggedInNtf_conforms (temp : Object) (s : Gate) (sound : Sound env.config s) (taking : Taking temp s)
    (conforms : Conforms s) : Conforms (loggedInNtf env temp s).2 := by
  have inside := sound.indexed.used temp (by rw [taking.connecting]; simp)
  by_cases refusable : Refusable (s.sessions temp).accountName s
  · rw [loggedInNtf_refused env temp s taking refusable]
    exact talks_conforms env.config s _ temp sound.indexed inside (disconnect_talks env temp s) conforms
  · rw [Refusable] at refusable
    push Not at refusable
    obtain ⟨session,found,waits⟩ := refusable
    have ready : (s.sessions session).state = .gateAllocAck ∨ (s.sessions session).state = .holdConnection :=
      or_iff_not_imp_left.mpr waits
    obtain ⟨result,different,-,-,-,-,-⟩ := loggedInNtf_found env session temp s taking found ready
    rw [result]
    obtain ⟨-,listed⟩ := sound.listed _ session found
    let copy := clone session temp s
    have copied : Indexed env.config copy := does_indexed env.config _ _ (clone_does session temp s found) sound.indexed
    have same : Conforms copy := by
      refine silent_conforms s copy conforms (fun _ _ => by rw [clone_log]) fun other _ => ?_
      by_cases here : other = session
      · subst here
        exact ⟨clone_state other temp s,clone_named other temp s listed⟩
      · have kept : copy.sessions other = s.sessions other := clone_others session temp s other here
        rw [kept]
        exact ⟨rfl,rfl,rfl⟩
    have given : Conforms (onSessionTransfered env session copy) := by
      rcases ready with waiting | hold
      · exact onSessionTransfered_conforms env session copy copied ((clone_state session temp s).trans waiting) same
      · have none : reaches .transfered session copy = none := by
          rw [reaches,clone_state,hold]
          rfl
        have stays : onSessionTransfered env session copy = copy := by
          rw [onSessionTransfered,none,stateTransition_none _ _ _ none]
          rfl
        rw [stays]
        exact same
    have indexed := does_indexed env.config _ _ (onSessionTransfered_does env session copy) copied
    exact talks_conforms env.config _ _ temp indexed inside
      (talks_trans temp _ _ _ (stateTransition_talks temp _ .loggedIn rfl) (closeSession_talks env temp _ false)) given

theorem handleLoginPacket_conforms (temp : Object) (login : Login) (s : Gate) (sound : Sound env.config s)
    (active : (s.sessions temp).finalizing = false) (connecting : (s.sessions temp).state = .onConnection)
    (conforms : Conforms s) : Conforms (handleLoginPacket env temp login s) := by
  have inside := sound.indexed.used temp (by rw [connecting]; simp)
  have named (accountName : WString) : Sound env.config (setAccountName temp accountName s) ∧
      Conforms (setAccountName temp accountName s) :=
    ⟨sessionStep_sound env.config _ _ (.change s temp _ rfl ⟨rfl,rfl,.rfl,id,.inr (.inl connecting)⟩) sound,
      talks_conforms env.config s _ temp sound.indexed inside (setAccountName_talks temp s accountName connecting)
        conforms⟩
  cases login with
  | waiting => exact conforms
  | refused accountName =>
    obtain ⟨still,kept⟩ := named accountName
    exact talks_conforms env.config _ _ temp still.indexed inside (disconnect_talks env temp _) kept
  | token accountName =>
    obtain ⟨still,kept⟩ := named accountName
    let t := setAccountName temp accountName s
    have here : t.sessions temp = {s.sessions temp with accountName := accountName} := update_same s temp _
    have state : (t.sessions temp).state = .onConnection := by rw [here]; exact connecting
    have own := client_own env.config t still.indexed temp inside
    have taking : Taking temp t :=
      ⟨by rw [here]; exact active,state,own,still.indexed.connecting temp state⟩
    have after := loggedInNtf_conforms env temp t still taking kept
    have indexed := does_indexed env.config _ _ (loggedInNtf_does env temp t own) still.indexed
    rw [handleLoginPacket]
    generalize loggedInNtf env temp (setAccountName temp accountName s) = result at after indexed
    obtain ⟨success,final⟩ := result
    cases success with
    | true => exact after
    | false => exact talks_conforms env.config _ _ temp indexed inside (disconnect_talks env temp final) after

theorem onData_conforms (connection : Nat) (login : Login) (packets : Nat) (s : Gate) (sound : Sound env.config s)
    (served : ∀ session, Served s session) (conforms : Conforms s) :
    Conforms (step env s (.onData connection login packets)) := by
  rw [step]
  split
  · rw [whileRunning]
    split
    · rw [onCommandOnData]
      split
      next session client =>
        split
        · exact conforms
        next active =>
          have inside := sound.indexed.clients connection session client
          rw [onData]
          split
          · exact conforms
          next reached =>
            have reads : reaches .onData session s = some (s.sessions session).state := not_not.mp reached
            split
            next connecting =>
              exact handleLoginPacket_conforms env session login s sound (by simpa using active) connecting conforms
            next other =>
              have state : (s.sessions session).state = .gateLoginReq := by
                revert reads other
                rw [reaches]
                generalize (s.sessions session).state = state
                cases state <;> decide
              obtain ⟨own,has,-,-⟩ := served session (by rw [state]; rfl)
              have connected : (s.sessions session).connection.isSome = true := by rw [has]; rfl
              exact talks_conforms env.config s _ session sound.indexed inside
                (handlePackets_talks env session s packets _ (fun real => conforms.loggedIn session real state)
                  connected state) conforms
      · exact conforms
    · exact conforms
  · exact conforms

theorem onConnect_conforms (connection : Nat) (s : Gate) (sound : Sound env.config s) (conforms : Conforms s) :
    Conforms (step env s (.onConnect connection)) := by
  have accepted : Conforms (accept connection s) := same_conforms s _ conforms rfl rfl
  have still : Sound env.config (accept connection s) :=
    sessionStep_sound env.config _ _ (.line s connection _ (.inr rfl)) sound
  have refused : Conforms (asyncDisconnect (some connection) (accept connection s)) :=
    unsaid_conforms _ (.asyncDisconnect connection) accepted (.inl rfl)
  rw [step]
  split
  · exact conforms
  · rw [whileRunning]
    split
    · rw [onCommandOnConnect]
      split
      · exact refused
      · rcases allocate_cases env.config _ still.indexed with empty | ⟨session,rest,list,free,taken⟩
        · rw [empty]
          exact refused
        · obtain ⟨unused,-,-,-⟩ :=
            taken_held env.config _ (take rest (accept connection s)) session rest still list free rfl
          rw [taken]
          dsimp only
          change Conforms {onConnection session connection (take rest (accept connection s)) with tempSessionCount := _}
          refine same_conforms (onConnection session connection (take rest (accept connection s))) _ ?_ rfl rfl
          rw [onConnection_unused session connection (take rest (accept connection s)) unused]
          refine leaves_conforms (accept connection s) _ session accepted rfl ?_ ?_
          · rw [update_same]
            rfl
          · exact fun other unlike => update_other _ session other _ unlike
    · exact accepted

theorem pass_conforms (s : Gate) (conforms : Conforms s) (single : s.finalizingQueue.length ≤ 1) :
    Conforms (step env s .pass) := by
  have drained : Conforms {s with toLoop := clearFinalizing s.toLoop} := by
    cases queue : s.finalizingQueue with
    | nil =>
      refine same_conforms s _ conforms rfl ?_
      change (clearFinalizing s.toLoop).sessions = s.sessions
      rw [clearFinalizing,queue,drainBack]
    | cons session rest =>
      obtain ⟨rfl,cleared⟩ := single_cleared s session rest queue single
      refine leaves_conforms s _ session conforms rfl ?_ ?_
      · change isAcked ((clearFinalizing s.toLoop).sessions session).state = false
        rw [cleared,Function.update_self]
        rfl
      · intro other unlike
        change (clearFinalizing s.toLoop).sessions other = _
        rw [cleared,Function.update_of_ne unlike]
  rw [step,loopPass]
  split
  · exact same_conforms _ _ drained rfl rfl
  · exact drained

theorem checkSessionState_conforms (s : Gate) (indexed : Indexed env.config s) (conforms : Conforms s) :
    Conforms (checkSessionState env s) := by
  rw [checkSessionState]
  generalize List.range (sessionMax env.config).toNat = sessions
  induction sessions generalizing s with
  | nil => exact conforms
  | cons session sessions ih =>
    rw [List.foldl_cons]
    by_cases used : (s.sessions session).state = .none
    · have stays : checkSession env s session = s := by
        rw [checkSession]
        simp [used]
      rw [stays]
      exact ih s indexed conforms
    · refine ih _ (does_indexed env.config _ _ ?_ indexed)
        (talks_conforms env.config s _ session indexed (indexed.used session used)
          (checkSession_talks env session s) conforms)
      rw [checkSession]
      split
      · exact disconnect_does env session s
      · exact .refl

theorem getSession_inside (sessionId : UInt32) (s : Gate) (session : Object) (indexed : Indexed env.config s)
    (found : getSession sessionId s = some session) : session < poolMax env.config := by
  rw [getSession,Option.ite_none_right_eq_some] at found
  rw [← Option.some.inj found.2,← indexed.maxSize]
  exact found.1.1

theorem forSession_conforms (sessionId : UInt32) (handle : Object → Gate → Gate) (s : Gate)
    (indexed : Indexed env.config s) (talks : ∀ session, Talks session s (handle session s)) (conforms : Conforms s) :
    Conforms (forSession sessionId handle s) := by
  rw [forSession]
  split
  next session found =>
    exact talks_conforms env.config s _ session indexed (getSession_inside env sessionId s session indexed found)
      (talks session) conforms
  · exact same_conforms s _ conforms rfl rfl

theorem whileRunning_conforms (handle : Gate → Gate) (s : Gate) (conforms : Conforms s)
    (handled : Conforms (handle s)) : Conforms (whileRunning handle s) := by
  rw [whileRunning]
  split
  · exact handled
  · exact conforms

/-- The end of a connection is told by the session that the connection belongs to. -/
theorem onDisconnect_conforms (connection : Nat) (heard : Nat → List WString) (s : Gate) (sound : Sound env.config s)
    (told : Told env.config heard s) (conforms : Conforms s) :
    Conforms (step env s (.onDisconnect connection)) := by
  rw [step]
  split
  next live =>
    have hung : Conforms (hangUp connection s) := same_conforms s _ conforms rfl rfl
    have still : Indexed env.config (hangUp connection s) :=
      sessionStep_indexed env.config _ _ (.line s connection _ (.inl rfl)) sound.indexed
    have client : ((hangUp connection s).connections connection).client = (s.connections connection).client := by
      simp [hangUp]
    rw [onCommandOnDisconnect,client]
    split
    next session owner =>
      let t := unmapSession session (hangUp connection s)
      have unmapped : Conforms t := same_conforms _ _ hung rfl rfl
      have indexed : Indexed env.config t := sessionStep_indexed env.config _ _ (.unmap _ session) still
      have inside := sound.indexed.clients connection session owner
      by_cases held : (s.sessions session).state = .holdConnection
      · have none : reaches .onDisconnect session t = none := by
          change transition (s.sessions session).state _ = _
          rw [held]
          rfl
        have stays : onDisconnect env session t = t := by rw [onDisconnect,none]
        rw [stays]
        exact unmapped
      · have unowned := hangUp_unowned env.config heard s session connection told live owner held
        exact talks_conforms env.config t _ session indexed inside
          (onDisconnect_talks env session t (.inl unowned)) unmapped
    · exact hung
  · exact conforms

theorem step_conforms (s : Gate) (heard : Nat → List WString) (action : Action) (sound : Sound env.config s)
    (told : Told env.config heard s) (served : ∀ session, Served s session) (released : Released s action)
    (conforms : Conforms s) : Conforms (step env s action) := by
  cases action with
  | onConnect connection => exact onConnect_conforms env connection s sound conforms
  | onData connection login packets => exact onData_conforms env connection login packets s sound served conforms
  | onDisconnect connection => exact onDisconnect_conforms env connection heard s sound told conforms
  | disconnect sessionId =>
    exact forSession_conforms env sessionId _ s sound.indexed (fun session => onMasterDisconnect_talks session s)
      conforms
  | shutdown =>
    have unmapped : values s.sessionMap = [] := by
      rw [sound.indexed.unmapped]
      rfl
    rw [step,onCommandShutdown,unmapped]
    exact same_conforms s _ conforms rfl rfl
  | gateAllocReq loginSessionId accountName =>
    have asks := gateAllocReq_asks env loginSessionId accountName s sound.indexed
    have asked := unsaid_conforms s (.gateAllocReq loginSessionId accountName) conforms (.inl rfl)
    generalize step env s (.gateAllocReq loginSessionId accountName) = t at asks ⊢
    cases asks with
    | stopped => exact conforms
    | duplicate => exact asked
    | full =>
      refine unsaid_conforms _ _ asked ?_
      cases sends env (s.note (.gateAllocReq loginSessionId accountName)) with
      | true => exact .inr rfl
      | false => exact .inl rfl
    | crash => exact same_conforms _ _ asked rfl rfl
    | allocated session rest running fresh room list free =>
      obtain ⟨unused,-,-,-⟩ := taken_held env.config s (take rest s) session rest sound list free rfl
      have noted : Indexed env.config (s.note (.gateAllocReq loginSessionId accountName)) := {sound.indexed with}
      obtain ⟨inside,taken⟩ := take_indexed env.config _ session rest noted list free
      have listed := insert_indexed env.config _ session accountName taken fresh inside
      exact onGateAllocReq_conforms env _ session loginSessionId accountName {listed with} inside unused
        (same_conforms _ _ asked rfl rfl)
  | gateReleaseReq loginSessionId accountName =>
    refine whileRunning_conforms _ s conforms ?_
    rw [onCommandGateReleaseReq]
    split
    next session found =>
      exact talks_conforms env.config s _ session sound.indexed (sound.indexed.names accountName session found)
        (onGateReleaseReq_talks env session s) conforms
    · exact conforms
  | regionBindReq sessionId regionServerId =>
    exact whileRunning_conforms _ s conforms (forSession_conforms env sessionId _ s sound.indexed
      (fun session => onRegionBindReq_talks env session s regionServerId) conforms)
  | checkSessionState =>
    exact whileRunning_conforms _ s conforms (checkSessionState_conforms env s sound.indexed conforms)
  | reportState =>
    refine whileRunning_conforms _ s conforms (unsaid_conforms s _ conforms (.inl ?_))
    cases sends env s <;> rfl
  | tick currTime => exact same_conforms s _ conforms rfl rfl
  | pass => exact pass_conforms env s conforms released.1

theorem run_conforms (s : Gate) (heard : Nat → List WString) (actions : List Action)
    (guarded : Guarded (step env) Released s actions) (sound : Sound env.config s) (told : Told env.config heard s)
    (served : ∀ session, Served s session) (conforms : Conforms s) : Conforms (run (step env) s actions) := by
  induction actions generalizing s heard with
  | nil => exact conforms
  | cons action actions ih =>
    obtain ⟨first,rest⟩ := guarded
    obtain ⟨after,serves⟩ := step_told env s heard action sound told served first
    exact ih _ _ rest (step_sound env s action sound (released_single s action first)) after serves
      (step_conforms env s heard action sound told served first conforms)

/-- In every run whose passes clear single sessions that no connection belongs to any more, whatever is told of
a session id is told in turn: the login of an account next after the ack of this account, and packets only
between this login and what is told next. -/
theorem conversation_inTurn (actions : List Action)
    (guarded : Guarded (step env) Released (init env.config) actions) (sessionId : UInt32) (real : sessionId ≠ 0) :
    (conversation sessionId (run (step env) (init env.config) actions).log).isSome = true :=
  (run_conforms env (init env.config) (fun _ => []) actions guarded (init_sound env.config)
    (init_told env.config).1 (init_told env.config).2
    ⟨fun _ _ => rfl,fun _ _ state => (by cases state),fun _ _ state => (by cases state)⟩).heard sessionId real

end

/-- The second account sends two packets and hangs up. -/
def twoPackets : List Action := twoLogins ++ [.onData 1 .waiting 2,.onDisconnect 1]

theorem twoPackets_released : Guarded (step sampleEnv) Released (init sampleEnv.config) twoPackets :=
  guarded_join (step sampleEnv) Released _ twoLogins _ twoLogins_released ⟨trivial,trivial,trivial⟩

theorem conversation_inTurn_twoPackets :
    (conversation 16777729 (run (step sampleEnv) (init sampleEnv.config) twoPackets).log).isSome = true :=
  conversation_inTurn sampleEnv twoPackets twoPackets_released 16777729 (by decide)

end Fantuan.GateServer.Conversations
