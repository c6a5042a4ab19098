import Fantuan.GateServer.SessionSteps

/-! What holds of the sessions and the maps of a gate after every run: the pool gives out
the sessions of Init, their ids keep their index and server, and every session of an account
is found under its account name.
-/
namespace Fantuan.GateServer.Indexes
open Lib.Table Lib.Drain Lib.Run ServerBase.ServerCommon Tool.ObjectPool ServerLoop Session Commands
  SessionSteps

theorem initialSessionId_toNat (config : Config) (index : Nat) (inside : index < 65536) :
    (initialSessionId config index).toNat = config.serverId.toNat * 16777216 + index * 256 := by
  have bound := config.serverId.toNat_lt
  simp [initialSessionId]
  omega

/-- The id names this slot of m_arraySession and this server. -/
def Numbered (config : Config) (session : Object) (sessionId : UInt32) : Prop :=
  (sessionIndex sessionId).toNat = session ∧ serverId sessionId = config.serverId

theorem nextSequence_numbered (config : Config) (session : Object) (sessionId : UInt32)
    (numbered : Numbered config session sessionId) :
    Numbered config session (nextSequence sessionId) := by
  obtain ⟨index,server⟩ := numbered
  rw [sessionIndex_toNat] at index
  refine ⟨?_,?_⟩
  · rw [sessionIndex_toNat,nextSequence_toNat]
    omega
  · rw [← server]
    apply UInt8.toNat_inj.mp
    rw [serverId_toNat,serverId_toNat,nextSequence_toNat]
    omega

theorem poolMax_lt (config : Config) : poolMax config < 65536 := UInt16.toNat_lt _

theorem initialSessionId_numbered (config : Config) (index : Nat) (inside : index < poolMax config) :
    Numbered config index (initialSessionId config index) := by
  have bound := poolMax_lt config
  have value := initialSessionId_toNat config index (by omega)
  have server := config.serverId.toNat_lt
  refine ⟨?_,?_⟩
  · rw [sessionIndex_toNat,value]
    omega
  · apply UInt8.toNat_inj.mp
    rw [serverId_toNat,value]
    omega

structure Indexed (config : Config) (s : Gate) : Prop where
  maxSize : s.sessionPool.maxSize = poolMax config
  created : s.sessionPool.created = poolMax config
  usage : s.sessionPool.usedSize < 65536 ∧
    (s.sessionPool.objectList.length + s.sessionPool.usedSize) % 65536 = poolMax config
  free : ∀ session ∈ s.sessionPool.objectList, session < poolMax config
  queue : ∀ session ∈ s.finalizingQueue, session < poolMax config
  clients : ∀ connection session, (s.connections connection).client = some session →
    session < poolMax config
  names : ∀ accountName session, find accountName s.sessionMapByName = some session →
    session < poolMax config
  used : ∀ session, (s.sessions session).state ≠ .none → session < poolMax config
  ids : ∀ session < poolMax config, Numbered config session (s.sessions session).sessionId
  connecting : ∀ session, (s.sessions session).state = .onConnection →
    (s.sessions session).tempSession = true
  blank : ∀ session, (s.sessions session).state = .none → (s.sessions session).tempSession = true
  named : ∀ session, (s.sessions session).tempSession = false →
    find (s.sessions session).accountName s.sessionMapByName = some session
  unmapped : s.sessionMap = ∅

theorem init_indexed (config : Config) : Indexed config (init config) where
  maxSize := rfl
  created := rfl
  usage := by
    have bound := poolMax_lt config
    refine ⟨by simp [init],?_⟩
    simp only [init,List.length_range,Nat.add_zero]
    omega
  free := fun session member => List.mem_range.mp member
  queue := by simp [init]
  clients := by simp [init]
  names := by simp [init]
  used := fun session use => absurd rfl use
  ids := by
    intro session inside
    simp only [init,blankSession,inside,if_true]
    exact initialSessionId_numbered config session inside
  connecting := by simp [init,blankSession]
  blank := by simp [init,blankSession]
  named := by simp [init,blankSession]
  unmapped := rfl

structure Fits (config : Config) (names : Map WString Object) (session : Object)
    (data : GateSession) : Prop where
  used : data.state ≠ .none → session < poolMax config
  ids : session < poolMax config → Numbered config session data.sessionId
  connecting : data.state = .onConnection → data.tempSession = true
  blank : data.state = .none → data.tempSession = true
  named : data.tempSession = false → find data.accountName names = some session

theorem indexed_fits (config : Config) (s : Gate) (indexed : Indexed config s) (session : Object) :
    Fits config s.sessionMapByName session (s.sessions session) :=
  ⟨indexed.used session,indexed.ids session,indexed.connecting session,indexed.blank session,
    indexed.named session⟩

theorem update_indexed (config : Config) (s : Gate) (session : Object)
    (change : GateSession → GateSession) (indexed : Indexed config s)
    (fits : Fits config s.sessionMapByName session (change (s.sessions session))) :
    Indexed config (s.update session change) := by
  have all (other : Object) :
      Fits config s.sessionMapByName other ((s.update session change).sessions other) := by
    by_cases same : other = session
    · subst same
      rw [update_same]
      exact fits
    · rw [update_other s session other change same]
      exact indexed_fits config s indexed other
  exact {indexed with
    used := fun other => (all other).used
    ids := fun other => (all other).ids
    connecting := fun other => (all other).connecting
    blank := fun other => (all other).blank
    named := fun other => (all other).named}

theorem kept_fits (config : Config) (names : Map WString Object) (session : Object)
    (old new : GateSession) (kept : Kept names session old new) (fits : Fits config names session old) :
    Fits config names session new where
  used := by
    rw [ne_eq,kept.used]
    exact fits.used
  ids := by
    rw [kept.sessionId]
    exact fits.ids
  connecting := by
    rw [kept.tempSession]
    exact fun connecting => fits.connecting (kept.connecting connecting)
  blank := by
    rw [kept.tempSession,kept.used]
    exact fits.blank
  named := by
    intro account
    rw [kept.tempSession] at account
    rcases kept.accountName with name | connecting | found
    · rw [name]
      exact fits.named account
    · rw [fits.connecting connecting] at account
      cases account
    · exact found

theorem change_indexed (config : Config) (s : Gate) (session : Object)
    (change : GateSession → GateSession) (indexed : Indexed config s)
    (kept : Kept s.sessionMapByName session (s.sessions session) (change (s.sessions session))) :
    Indexed config (s.update session change) :=
  update_indexed config s session change indexed
    (kept_fits config _ session _ _ kept (indexed_fits config s indexed session))

theorem setClient_indexed (config : Config) (s : Gate) (session : Object) (connection : Nat)
    (indexed : Indexed config s) (inside : session < poolMax config) :
    Indexed config (setClient session connection s) := by
  refine {indexed with clients := ?_}
  intro other client found
  change (Function.update s.connections connection _ other).client = some client at found
  by_cases same : other = connection
  · subst same
    rw [Function.update_self] at found
    obtain rfl := Option.some.inj found
    exact inside
  · rw [Function.update_of_ne same] at found
    exact indexed.clients other client found

theorem sessionStep_indexed (config : Config) (s t : Gate) (step : SessionStep s t)
    (indexed : Indexed config s) : Indexed config t := by
  cases step with
  | note => exact {indexed with}
  | mark => exact {indexed with}
  | clock => exact {indexed with}
  | stop => exact {indexed with}
  | line connection state kept =>
    refine {indexed with clients := ?_}
    intro other session client
    change (Function.update s.connections connection state other).client = some session at client
    by_cases same : other = connection
    · subst same
      rw [Function.update_self] at client
      rcases kept with old | none
      · rw [old] at client
        exact indexed.clients other session client
      · rw [none] at client
        cases client
    · rw [Function.update_of_ne same] at client
      exact indexed.clients other session client
  | give session connection named =>
    obtain ⟨accountName,found⟩ := named
    exact setClient_indexed config s session connection indexed (indexed.names accountName session found)
  | unmap session =>
    refine {indexed with unmapped := ?_}
    change erase _ s.sessionMap = ∅
    rw [indexed.unmapped]
    exact empty_of_find _ fun key => by simp [find_erase]
  | change session change still kept => exact change_indexed config s session change indexed kept
  | queue session active held =>
    have changed := change_indexed config s session (fun data => {data with finalizing := true}) indexed
      ⟨rfl,rfl,.rfl,id,.inl rfl⟩
    refine {changed with queue := ?_}
    intro other member
    rcases List.mem_append.mp member with before | last
    · exact indexed.queue other before
    · obtain rfl := List.mem_singleton.mp last
      rcases held with use | ⟨accountName,found⟩
      · exact indexed.used other use
      · exact indexed.names accountName other found

theorem does_indexed (config : Config) (s t : Gate) (does : Does s t) (indexed : Indexed config s) :
    Indexed config t := by
  induction does with
  | refl => exact indexed
  | tail _ step ih => exact sessionStep_indexed config _ _ step ih

theorem allocate_cases (config : Config) (s : Gate) (indexed : Indexed config s) :
    s.sessionPool.allocate = (none,s.sessionPool) ∨
      ∃ session rest, s.sessionPool.objectList = session :: rest ∧
        s.sessionPool.usedSize < s.sessionPool.maxSize ∧
        s.sessionPool.allocate = (some session,{s.sessionPool with
          objectList := rest, usedSize := s.sessionPool.usedSize + 1}) := by
  obtain ⟨bound,sum⟩ := indexed.usage
  have size := indexed.maxSize
  by_cases room : s.sessionPool.usedSize < s.sessionPool.maxSize
  · cases list : s.sessionPool.objectList with
    | nil =>
      rw [list,List.length_nil] at sum
      omega
    | cons session rest =>
      refine .inr ⟨session,rest,rfl,room,?_⟩
      simp only [Pool.allocate,if_pos room,list]
  · exact .inl (by rw [Pool.allocate,if_neg room])

/-- The session at the front of the pool's list is taken. -/
def take (rest : List Object) (s : Gate) : Gate :=
  {s with sessionPool := {s.sessionPool with
    objectList := rest, usedSize := s.sessionPool.usedSize + 1}}

theorem take_indexed (config : Config) (s : Gate) (session : Object) (rest : List Object)
    (indexed : Indexed config s) (list : s.sessionPool.objectList = session :: rest)
    (room : s.sessionPool.usedSize < s.sessionPool.maxSize) :
    session < poolMax config ∧ Indexed config (take rest s) := by
  have free := indexed.free
  obtain ⟨bound,sum⟩ := indexed.usage
  have size := indexed.maxSize
  have limit := poolMax_lt config
  rw [list] at free sum
  rw [List.length_cons] at sum
  refine ⟨free session List.mem_cons_self,{indexed with usage := ⟨?_,?_⟩, free := ?_}⟩
  · change s.sessionPool.usedSize + 1 < 65536
    omega
  · change (rest.length + (s.sessionPool.usedSize + 1)) % 65536 = _
    rw [← sum]
    congr 1
    omega
  · exact fun other member => free other (List.mem_cons_of_mem session member)

theorem fresh_none (s : Gate) (session : Object) (event : SessionEvent) (next : SessionState)
    (special : plainEvent event = false) (reached : reaches event session s = some next) :
    (s.sessions session).state = .none := by
  have rows : ∀ row ∈ initStateMachine (s.sessions session).state, plainEvent row.1 = false →
      (s.sessions session).state = .none := by
    generalize (s.sessions session).state = state
    cases state <;> decide
  exact rows _ (Tool.StateMachine.outputState_mem initStateMachine _ next event reached) special

theorem onConnection_indexed (config : Config) (s : Gate) (session : Object) (connection : Nat)
    (indexed : Indexed config s) (inside : session < poolMax config) :
    Indexed config (onConnection session connection s) := by
  have fits := indexed_fits config s indexed session
  have temporary (t : Gate) (indexed : Indexed config t) :
      Indexed config (t.update session fun data => {data with tempSession := true}) := by
    refine update_indexed config t session _ indexed {indexed_fits config t indexed session with
      connecting := fun _ => rfl, blank := fun _ => rfl, named := ?_}
    intro account
    cases account
  rw [onConnection]
  split
  next reached =>
    have blank := fits.blank (fresh_none s session _ _ rfl reached)
    refine temporary _ (setClient_indexed config _ session connection ?_ inside)
    refine update_indexed config s session _ indexed ⟨fun _ => inside,fun _ => ?_,fun _ => blank,?_,?_⟩
    · exact nextSequence_numbered config session _ (fits.ids inside)
    · intro none
      cases none
    · intro account
      rw [blank] at account
      cases account
  · exact temporary s indexed

theorem onGateAllocReq_indexed (env : Env) (config : Config) (s : Gate) (session : Object)
    (loginSessionId : UInt32) (accountName : WString) (indexed : Indexed config s)
    (found : find accountName s.sessionMapByName = some session) :
    Indexed config (onGateAllocReq env session loginSessionId accountName s) := by
  have inside := indexed.names accountName session found
  have fits := indexed_fits config s indexed session
  rw [onGateAllocReq]
  split
  · let named := s.update session fun data => {data with
      state := .onGateAllocReq
      sessionId := nextSequence data.sessionId
      accountName := accountName
      loginSessionId := loginSessionId
      tempSession := false}
    have changed : Indexed config named := by
      refine update_indexed config s session _ indexed ⟨fun _ => inside,fun _ => ?_,?_,?_,fun _ => found⟩
      · exact nextSequence_numbered config session _ (fits.ids inside)
      · intro connecting
        cases connecting
      · intro none
        cases none
    have said : Indexed config (send env (allocAck env (named.sessions session)) named) :=
      {changed with}
    dsimp only
    split
    · exact does_indexed config _ _ (transition_does _ session .gateAllocAck rfl) said
    · exact said
  · exact indexed

theorem insert_indexed (config : Config) (s : Gate) (session : Object) (accountName : WString)
    (indexed : Indexed config s) (fresh : find accountName s.sessionMapByName = none)
    (inside : session < poolMax config) :
    Indexed config {s with sessionMapByName := insert accountName session s.sessionMapByName} := by
  refine {indexed with names := ?_, named := ?_}
  · intro name other found
    rcases find_insert_elim accountName name session other _ found with old | ⟨-,rfl,-⟩
    · exact indexed.names name other old
    · exact inside
  · intro other account
    have found := indexed.named other account
    change find _ (insert accountName session s.sessionMapByName) = some other
    rw [find_insert _ _ _ _ fresh,if_neg]
    · exact found
    · intro same
      change (s.sessions other).accountName = accountName at same
      rw [same,fresh] at found
      cases found

theorem clearSession_indexed (config : Config) (s : Gate) (session : Object)
    (indexed : Indexed config s) (inside : session < poolMax config) :
    Indexed config {s with toLoop := clearSession session s.toLoop} := by
  have fits := indexed_fits config s indexed session
  have blank := update_indexed config s session GateSession.clear indexed
    ⟨fun _ => inside,fits.ids,fun _ => rfl,fun _ => rfl,fun account => by cases account⟩
  obtain ⟨bound,sum⟩ := indexed.usage
  refine {blank with usage := ⟨?_,?_⟩, free := ?_, names := ?_, named := ?_, unmapped := ?_}
  · exact Nat.mod_lt _ (by omega)
  · change ((s.sessionPool.objectList ++ [session]).length +
      (s.sessionPool.usedSize + (2^16 - 1)) % 2^16) % 65536 = _
    rw [List.length_append,List.length_singleton,← sum]
    omega
  · intro other member
    rcases List.mem_append.mp member with before | last
    · exact indexed.free other before
    · obtain rfl := List.mem_singleton.mp last
      exact inside
  · intro accountName other found
    dsimp only [clearSession] at found
    split at found
    · exact indexed.names accountName other (find_erase_elim _ _ _ _ found).2
    · exact indexed.names accountName other found
  · intro other account
    have found := blank.named other account
    change find _ (if (s.sessions session).tempSession = false then
      erase (s.sessions session).accountName s.sessionMapByName else s.sessionMapByName) = _
    split
    next own =>
      rw [find_erase,if_neg]
      · exact found
      · intro same
        have taken := indexed.named session own
        change ((s.update session GateSession.clear).sessions other).accountName = _ at same
        rw [same] at found
        obtain rfl := Option.some.inj (taken.symm.trans found)
        change ((s.update session GateSession.clear).sessions session).tempSession = false at account
        rw [update_same] at account
        cases account
    · exact found
  · change erase _ s.sessionMap = ∅
    rw [indexed.unmapped]
    exact empty_of_find _ fun key => by simp [find_erase]

theorem pass_indexed (config : Config) (s : Gate) (indexed : Indexed config s) :
    Indexed config {s with toLoop := loopPass s.toLoop} := by
  have drained : Indexed config
      {s with toLoop := drainBack clearSession s.finalizingQueue s.toLoop} := by
    refine drainBack_invariant clearSession (fun loop => Indexed config {s with toLoop := loop})
      s.finalizingQueue ?_ s.toLoop indexed
    intro session member loop kept
    exact clearSession_indexed config {s with toLoop := loop} session kept (indexed.queue session member)
  have emptied : Indexed config {s with toLoop := clearFinalizing s.toLoop} :=
    {drained with queue := by simp [clearFinalizing]}
  rw [loopPass]
  split
  · exact {emptied with}
  · exact emptied

def plainAction : Action → Bool
  | .onConnect _ | .gateAllocReq _ _ | .pass => false
  | _ => true

theorem client_own (config : Config) (s : Gate) (indexed : Indexed config s) (session : Object)
    (inside : session < poolMax config) : Own session s := by
  rw [own_iff,indexed.maxSize]
  exact ⟨inside,(indexed.ids session inside).1⟩

theorem whileRunning_does (handle : Gate → Gate) (s : Gate) (does : Does s (handle s)) :
    Does s (whileRunning handle s) := by
  rw [whileRunning]
  split
  · exact does
  · exact .refl

theorem forSession_does (sessionId : UInt32) (handle : Object → Gate → Gate) (s : Gate)
    (does : ∀ session, Does s (handle session s)) : Does s (forSession sessionId handle s) := by
  rw [forSession]
  split
  · exact does _
  · exact .single (.mark s _)

theorem step_does (env : Env) (s : Gate) (action : Action) (indexed : Indexed env.config s)
    (plain : plainAction action = true) : Does s (step env s action) := by
  cases action with
  | onConnect => cases plain
  | gateAllocReq => cases plain
  | pass => cases plain
  | onData connection login packets =>
    rw [step]
    split
    · apply whileRunning_does
      rw [onCommandOnData]
      split
      next session client =>
        split
        · exact .refl
        · have inside := indexed.clients connection session client
          exact onData_does env session login packets s (client_own env.config s indexed session inside)
      · exact .refl
    · exact .refl
  | onDisconnect connection =>
    rw [step]
    split
    · have hung : Does s (hangUp connection s) := .single (.line s connection _ (.inl rfl))
      rw [onCommandOnDisconnect]
      split
      · exact (hung.tail (.unmap _ _)).trans (onDisconnect_does env _ _)
      · exact hung
    · exact .refl
  | disconnect sessionId =>
    exact forSession_does sessionId onMasterDisconnect s fun session => onMasterDisconnect_does session s
  | shutdown =>
    have unmapped : values s.sessionMap = [] := by
      rw [indexed.unmapped]
      rfl
    rw [step,onCommandShutdown,unmapped]
    exact .single (.stop s)
  | gateReleaseReq loginSessionId accountName =>
    apply whileRunning_does
    rw [onCommandGateReleaseReq]
    split
    next session found => exact onGateReleaseReq_does env session s ⟨accountName,found⟩
    · exact .refl
  | regionBindReq sessionId regionServerId =>
    apply whileRunning_does
    exact forSession_does sessionId _ s fun session => onRegionBindReq_does env session regionServerId s
  | checkSessionState => exact whileRunning_does _ s (checkSessionState_does env s)
  | reportState => exact whileRunning_does _ s (.single (.note s _ rfl))
  | tick currTime => exact .single (.clock s currTime)

/-- A connection is admitted as a temporary session. -/
def admitted (session : Object) (rest : List Object) (connection : Nat) (s : Gate) : Gate :=
  let connected := onConnection session connection (take rest s)
  {connected with tempSessionCount := connected.tempSessionCount + 1}

theorem onConnect_cases (env : Env) (connection : Nat) (s : Gate) (indexed : Indexed env.config s) :
    Does s (step env s (.onConnect connection)) ∨
      ∃ session rest, (s.connections connection).live = false ∧
        s.tempSessionCount < tempSessionMax env.config ∧
        s.sessionPool.objectList = session :: rest ∧
        s.sessionPool.usedSize < s.sessionPool.maxSize ∧
        step env s (.onConnect connection) = admitted session rest connection (accept connection s) := by
  have accepted : Does s (accept connection s) := .single (.line s connection _ (.inr rfl))
  rw [step]
  split
  · exact .inl .refl
  next idle =>
    rw [whileRunning]
    split
    · rw [onCommandOnConnect]
      split
      · exact .inl (accepted.trans (asyncDisconnect_does _ _))
      next room =>
        have indexed' := does_indexed env.config _ _ accepted indexed
        rcases allocate_cases env.config _ indexed' with none | ⟨session,rest,list,free,taken⟩
        · rw [none]
          exact .inl (accepted.trans (asyncDisconnect_does _ _))
        · rw [taken]
          exact .inr ⟨session,rest,by simpa using idle,UInt16.not_le.mp room,list,free,rfl⟩
    · exact .inl accepted

def allot (accountName : WString) (session : Object) (rest : List Object) (s : Gate) : Gate :=
  {take rest s with
    sessionCount := s.sessionCount + 1
    sessionMapByName := insert accountName session s.sessionMapByName}

/-- The exits of GateAllocReq. -/
inductive Asks (env : Env) (loginSessionId : UInt32) (accountName : WString) (s : Gate) : Gate → Prop
  | stopped (stopped : s.shutdownStatus ≠ .notShutdown) : Asks env loginSessionId accountName s s
  | duplicate (session : Object) (running : s.shutdownStatus = .notShutdown)
      (found : find accountName s.sessionMapByName = some session) :
      Asks env loginSessionId accountName s (s.note (.gateAllocReq loginSessionId accountName))
  | full (running : s.shutdownStatus = .notShutdown)
      (fresh : find accountName s.sessionMapByName = none)
      (full : sessionMax env.config ≤ s.sessionCount) :
      Asks env loginSessionId accountName s
        (send env (.gateAllocAck env.config.serverId loginSessionId accountName 0)
          (s.note (.gateAllocReq loginSessionId accountName)))
  | crash (running : s.shutdownStatus = .notShutdown)
      (fresh : find accountName s.sessionMapByName = none)
      (room : s.sessionCount < sessionMax env.config)
      (empty : s.sessionPool.allocate.1 = none) :
      Asks env loginSessionId accountName s
        {s.note (.gateAllocReq loginSessionId accountName) with undefined := true}
  | allocated (session : Object) (rest : List Object) (running : s.shutdownStatus = .notShutdown)
      (fresh : find accountName s.sessionMapByName = none)
      (room : s.sessionCount < sessionMax env.config)
      (list : s.sessionPool.objectList = session :: rest)
      (free : s.sessionPool.usedSize < s.sessionPool.maxSize) :
      Asks env loginSessionId accountName s
        (onGateAllocReq env session loginSessionId accountName
          (allot accountName session rest (s.note (.gateAllocReq loginSessionId accountName))))

theorem gateAllocReq_asks (env : Env) (loginSessionId : UInt32) (accountName : WString) (s : Gate)
    (indexed : Indexed env.config s) : Asks env loginSessionId accountName s
      (step env s (.gateAllocReq loginSessionId accountName)) := by
  rw [step,whileRunning]
  split
  next running =>
    rw [onCommandGateAllocReq]
    cases found : find accountName s.sessionMapByName with
    | some session => exact .duplicate session running found
    | none =>
      rw [Option.isSome_none,if_neg (by decide)]
      split
      next full => exact .full running found full
      next room =>
        rcases allocate_cases env.config s indexed with none | ⟨session,rest,list,free,taken⟩
        · rw [none]
          exact .crash running found (by simpa using room) (by rw [none])
        · rw [taken]
          exact .allocated session rest running found (by simpa using room) list free
  next stopped => exact .stopped stopped

theorem step_indexed (env : Env) (s : Gate) (action : Action) (indexed : Indexed env.config s) :
    Indexed env.config (step env s action) := by
  by_cases plain : plainAction action = true
  · exact does_indexed env.config _ _ (step_does env s action indexed plain) indexed
  · cases action with
    | onConnect connection =>
      rcases onConnect_cases env connection s indexed with
        does | ⟨session,rest,-,-,list,free,result⟩
      · exact does_indexed env.config _ _ does indexed
      · rw [result]
        have accepted : Indexed env.config (accept connection s) :=
          sessionStep_indexed env.config _ _ (.line s connection _ (.inr rfl)) indexed
        obtain ⟨inside,taken⟩ := take_indexed env.config _ session rest accepted list free
        exact {onConnection_indexed env.config _ session connection taken inside with}
    | gateAllocReq loginSessionId accountName =>
      have asked : Indexed env.config (s.note (.gateAllocReq loginSessionId accountName)) :=
        {indexed with}
      have asks := gateAllocReq_asks env loginSessionId accountName s indexed
      generalize step env s (.gateAllocReq loginSessionId accountName) = t at asks ⊢
      cases asks with
      | stopped => exact indexed
      | duplicate => exact asked
      | full => exact {asked with}
      | crash => exact {asked with}
      | allocated session rest running fresh room list free =>
        obtain ⟨inside,taken⟩ := take_indexed env.config _ session rest asked list free
        have listed := insert_indexed env.config _ session accountName taken fresh inside
        refine onGateAllocReq_indexed env env.config _ session loginSessionId accountName
          {listed with} ?_
        exact find_insert_same accountName session s.sessionMapByName fresh
    | pass => exact pass_indexed env.config s indexed
    | _ => exact absurd rfl plain

theorem run_indexed (env : Env) (actions : List Action) :
    Indexed env.config (run (step env) (init env.config) actions) :=
  run_invariant (step env) (fun _ _ => True) (Indexed env.config)
    (fun s action indexed _ => step_indexed env s action indexed) _ actions
    (guarded_true (step env) _ actions) (init_indexed env.config)

end Fantuan.GateServer.Indexes
