import Fantuan.ServerBase.SessionServerLoop

/-! What the commands of a session loop do to the sessions. Only a connection and its end change
an id, the pool, the map or a client; the other commands leave all of them, and close nothing.
-/
namespace Fantuan.ServerBase.SessionSteps
open Lib.Table Lib.Run ServerCommon Tool.ObjectPool Tool.StateMachine Sessions SessionServerLoop

def isOpen (kind : Kind) (state : SessionState) : Bool := (transition kind state .onDisconnect).isSome

/-- A session with a connection can be told of its end, and one without has just been cleared. -/
def Sane (kind : Kind) (data : Session) : Prop :=
  match data.connection with
  | some _ => isOpen kind data.state = true
  | none => data.state = .none

theorem sane_connected (kind : Kind) (data : Session) (connection : Nat) (sane : Sane kind data)
    (has : data.connection = some connection) : isOpen kind data.state = true := by
  rw [Sane,has] at sane
  exact sane

theorem sane_free (kind : Kind) (data : Session) (sane : Sane kind data) (bare : data.connection = none) :
    data.state = .none := by
  rw [Sane,bare] at sane
  exact sane

theorem sane_same (kind : Kind) (old new : Session) (connection : new.connection = old.connection)
    (state : new.state = old.state) (sane : Sane kind old) : Sane kind new := by
  rw [Sane,connection,state]
  exact sane

/-- The events that lead from an open state to an open one. -/
def plainEvent : SessionEvent → Bool
  | .onConnection | .onDisconnect => false
  | _ => true

theorem plain_transition (kind : Kind) (state next : SessionState) (event : SessionEvent)
    (plain : plainEvent event = true) (reached : transition kind state event = some next) :
    state ≠ .none ∧ isOpen kind next = true := by
  have rows : ∀ row ∈ initStateMachine kind state, plainEvent row.1 = true →
      state ≠ .none ∧ isOpen kind row.2 = true := by
    cases kind <;> cases state <;> decide
  exact rows _ (outputState_mem (initStateMachine kind) state next event reached) plain

theorem end_transition (kind : Kind) (state : SessionState) (opened : isOpen kind state = true) :
    transition kind state .onDisconnect = some .onDisconnect := by
  revert opened
  cases kind <;> cases state <;> decide

theorem start_transition (kind : Kind) (state : SessionState) :
    transition kind state .onConnection = some .onConnection ↔ state = .none := by
  cases kind <;> cases state <;> decide

structure Steady (kind : Kind) (s t : Loop) : Prop where
  pool : t.sessionPool = s.sessionPool
  map : t.sessionMap = s.sessionMap
  connections : t.connections = s.connections
  sessionId : ∀ session, (t.sessions session).sessionId = (s.sessions session).sessionId
  connection : ∀ session, (t.sessions session).connection = (s.sessions session).connection
  sane : ∀ session, Sane kind (s.sessions session) → Sane kind (t.sessions session)
  closes : ∀ connection, t.log.count (.close connection) = s.log.count (.close connection)

section
variable (env : Env) (s : Loop)

theorem steady_refl (kind : Kind) : Steady kind s s :=
  ⟨rfl,rfl,rfl,fun _ => rfl,fun _ => rfl,fun _ => id,fun _ => rfl⟩

theorem steady_trans (kind : Kind) (t u : Loop) (first : Steady kind s t) (second : Steady kind t u) :
    Steady kind s u :=
  ⟨second.pool.trans first.pool,second.map.trans first.map,second.connections.trans first.connections,
    fun session => (second.sessionId session).trans (first.sessionId session),
    fun session => (second.connection session).trans (first.connection session),
    fun session sane => second.sane session (first.sane session sane),
    fun connection => (second.closes connection).trans (first.closes connection)⟩

theorem update_steady (kind : Kind) (session : Object) (change : Session → Session)
    (sessionId : (change (s.sessions session)).sessionId = (s.sessions session).sessionId)
    (connection : (change (s.sessions session)).connection = (s.sessions session).connection)
    (sane : Sane kind (s.sessions session) → Sane kind (change (s.sessions session))) :
    Steady kind s (s.update session change) := by
  refine ⟨rfl,rfl,rfl,fun other => ?_,fun other => ?_,fun other => ?_,fun _ => rfl⟩
  all_goals by_cases same : other = session
  · rw [same,update_same,sessionId]
  · rw [update_other s session other change same]
  · rw [same,update_same,connection]
  · rw [update_other s session other change same]
  · rw [same,update_same]
    exact sane
  · rw [update_other s session other change same]
    exact id

theorem note_steady (kind : Kind) (event : Event) (opened : ∀ connection, event ≠ .close connection) :
    Steady kind s (s.note event) :=
  ⟨rfl,rfl,rfl,fun _ => rfl,fun _ => rfl,fun _ => id,
    fun connection => List.count_cons_of_ne (opened connection)⟩

theorem undefined_steady (kind : Kind) (undefined : Bool) : Steady kind s {s with undefined := undefined} :=
  ⟨rfl,rfl,rfl,fun _ => rfl,fun _ => rfl,fun _ => id,fun _ => rfl⟩

theorem stateTransition_steady (event : SessionEvent) (plain : plainEvent event = true) (session : Object) :
    Steady env.config.kind s (stateTransition env event session s) := by
  cases reached : reaches env event session s with
  | none =>
    rw [stateTransition,reached]
    exact steady_refl s _
  | some next =>
    rw [stateTransition,reached]
    obtain ⟨used,opened⟩ := plain_transition _ _ next event plain reached
    refine update_steady s _ session _ rfl rfl fun sane => ?_
    cases has : (s.sessions session).connection with
    | none => exact absurd (sane_free _ _ sane has) used
    | some connection =>
      exact opened

theorem onDisconnect_free (session : Object) (free : (s.sessions session).state = .none) :
    onDisconnect env session s = s := by
  have unreached : reaches env .onDisconnect session s = none := by
    rw [reaches,free]
    cases env.config.kind <;> rfl
  have same : endConnection env session s = s := by
    rw [endConnection,unreached,if_neg (by simp),stateTransition,unreached]
  rw [onDisconnect,same]
  split
  · rfl
  · rw [if_neg (by rw [free]; simp)]

theorem disconnect_steady (session : Object) (sane : Sane env.config.kind (s.sessions session)) :
    Steady env.config.kind s (disconnect env session s) := by
  rw [disconnect]
  split
  · exact note_steady s _ _ (by simp)
  next bare =>
    rw [onDisconnect_free env s session (sane_free _ _ sane bare)]
    exact steady_refl s _

theorem sendData_steady (session : Object) : Steady env.config.kind s (sendData env session s) := by
  rw [sendData]
  split
  · split
    · exact note_steady s _ _ (by simp)
    · exact undefined_steady s _ true
  · exact note_steady s _ _ (by simp)

theorem loggedInNtf_steady (session : Object) : Steady env.config.kind s (loggedInNtf env session s).2 := by
  have moved := stateTransition_steady env s .loggedIn rfl session
  rw [loggedInNtf]
  split
  · refine steady_trans s _ _ _ moved (update_steady _ _ session
      (fun data => {data with loggedInTime := s.currTime}) rfl rfl ?_)
    exact sane_same _ _ _ rfl rfl
  · exact moved

theorem handleLoginPacket_steady (session : Object) (login : Login)
    (sane : Sane env.config.kind (s.sessions session)) :
    Steady env.config.kind s (handleLoginPacket env session login s) := by
  have names (accountName : WString) :
      Steady env.config.kind s (s.update session fun data => {data with accountName := accountName}) :=
    update_steady s _ session _ rfl rfl (sane_same _ _ _ rfl rfl)
  have ends (t : Loop) (steady : Steady env.config.kind s t) :
      Steady env.config.kind s (disconnect env session t) :=
    steady_trans s _ t _ steady (disconnect_steady env t session (steady.sane session sane))
  cases login with
  | waiting => exact steady_refl s _
  | refused accountName => exact ends _ (names accountName)
  | token accountName =>
    have named := names accountName
    rw [handleLoginPacket]
    generalize (s.update session fun data => {data with accountName := accountName}) = t at *
    have logged := steady_trans s _ t _ named (loggedInNtf_steady env t session)
    split
    · exact ends _ (steady_trans s _ t _ named (note_steady t _ _ (by simp)))
    · cases result : loggedInNtf env session t with
      | mk success u =>
        rw [result] at logged
        cases success with
        | false => exact ends u logged
        | true =>
          split
          next wrong => cases wrong
          next done _ =>
            obtain rfl := (Prod.mk.inj done).2
            exact logged
          next done _ =>
            obtain rfl := (Prod.mk.inj done).2
            split
            · exact steady_trans s _ _ _ logged (note_steady u _ _ (by simp))
            · exact steady_trans s _ _ _ logged (undefined_steady u _ true)

theorem onVersionReq_steady (session : Object) (version : UInt32)
    (sane : Sane env.config.kind (s.sessions session)) :
    Steady env.config.kind s (onVersionReq env session version s) := by
  have moved := stateTransition_steady env s .onVersionReq rfl session
  have ends (t : Loop) (steady : Steady env.config.kind s t) :
      Steady env.config.kind s (disconnect env session t) :=
    steady_trans s _ t _ steady (disconnect_steady env t session (steady.sane session sane))
  have told := steady_trans s _ _ _ moved (sendData_steady env _ session)
  rw [onVersionReq]
  dsimp only
  split
  · exact ends _ moved
  · split
    · exact ends _ told
    · have sent := steady_trans s _ _ _ told (note_steady _ _ (.sent (.onLoginReq
        ((sendData env session (stateTransition env .onVersionReq session s)).sessions session).sessionId
        ((sendData env session (stateTransition env .onVersionReq session s)).sessions session).accountName)
        (sends env (sendData env session (stateTransition env .onVersionReq session s)))) (by simp))
      split
      · exact steady_trans s _ _ _ sent (stateTransition_steady env _ .onLoginReq rfl session)
      · exact ends _ sent

theorem handlePackets_steady (session : Object) (packets : List Packet)
    (sane : Sane env.config.kind (s.sessions session)) :
    Steady env.config.kind s (packets.foldl (handlePacket env session) s) := by
  induction packets generalizing s with
  | nil => exact steady_refl s _
  | cons packet packets ih =>
    have first : Steady env.config.kind s (handlePacket env session s packet) := by
      rw [handlePacket.eq_def]
      split
      · exact onVersionReq_steady env s session _ sane
      · exact steady_refl s _
    exact steady_trans s _ _ _ first (ih _ (first.sane session sane))

theorem onData_steady (session : Object) (login : Login) (packets : List Packet)
    (sane : Sane env.config.kind (s.sessions session)) :
    Steady env.config.kind s (onData env session login packets s) := by
  rw [onData]
  split
  · exact steady_refl s _
  · split
    · exact handleLoginPacket_steady env s session login sane
    · exact handlePackets_steady env s session packets sane

theorem onLoginFailedAck_steady (session : Object) (sane : Sane env.config.kind (s.sessions session)) :
    Steady env.config.kind s (onLoginFailedAck env session s) := by
  have moved := stateTransition_steady env s .onLoginFailedAck rfl session
  have told := steady_trans s _ _ _ moved (sendData_steady env _ session)
  rw [onLoginFailedAck]
  split
  · exact steady_trans s _ _ _ moved (disconnect_steady env _ session (moved.sane session sane))
  · exact steady_trans s _ _ _ told (disconnect_steady env _ session (told.sane session sane))

theorem forSession_steady (sessionId : UInt32) (handle : Object → Loop → Loop)
    (steady : ∀ session, Steady env.config.kind s (handle session s)) :
    Steady env.config.kind s (forSession env.config sessionId handle s) := by
  rw [forSession]
  split
  next session _ => exact steady session
  · exact undefined_steady s _ _

theorem visits_steady {Entry : Type} (visit : Loop → Entry → Loop)
    (steady : ∀ t entry, (∀ session, Sane env.config.kind (t.sessions session)) →
      Steady env.config.kind t (visit t entry)) (entries : List Entry)
    (sane : ∀ session, Sane env.config.kind (s.sessions session)) :
    Steady env.config.kind s (entries.foldl visit s) := by
  induction entries generalizing s with
  | nil => exact steady_refl s _
  | cons entry entries ih =>
    have first := steady s entry sane
    exact steady_trans s _ _ _ first (ih _ fun session => first.sane session (sane session))

theorem checkSession_steady (session : Object) (sane : Sane env.config.kind (s.sessions session)) :
    Steady env.config.kind s (checkSession env s session) := by
  have both (late : Bool) :
      Steady env.config.kind s (if late = true then disconnect env session s else s) := by
    split
    · exact disconnect_steady env s session sane
    · exact steady_refl s _
  exact both _

theorem whileRunning_steady (handle : Loop → Loop) (steady : Steady env.config.kind s (handle s)) :
    Steady env.config.kind s (whileRunning handle s) := by
  rw [whileRunning]
  split
  · exact steady
  · exact steady_refl s _

/-- The actions that neither begin nor end a connection, nor clear an id. -/
def plainAction : Action → Bool
  | .onConnect _ | .onDisconnect _ | .clearSession _ => false
  | _ => true

theorem step_steady (action : Action) (plain : plainAction action = true)
    (sane : ∀ session, Sane env.config.kind (s.sessions session)) :
    Steady env.config.kind s (step env s action) := by
  cases action with
  | onConnect => cases plain
  | onDisconnect => cases plain
  | clearSession => cases plain
  | onData connection login packets =>
    rw [step]
    split
    · refine whileRunning_steady env s _ ?_
      rw [onCommandOnData]
      split
      next session _ => exact onData_steady env s session login packets (sane session)
      · exact note_steady s _ _ (by simp)
    · exact steady_refl s _
  | disconnect sessionId =>
    exact forSession_steady env s sessionId _ fun session => disconnect_steady env s session (sane session)
  | sendData sessionId =>
    exact whileRunning_steady env s _ (forSession_steady env s sessionId _ (sendData_steady env s))
  | broadcastData sessionIds =>
    refine whileRunning_steady env s _ (visits_steady env s _ (fun t sessionId _ => ?_) sessionIds sane)
    exact forSession_steady env t sessionId _ (sendData_steady env t)
  | packetForward sessionId =>
    rw [step]
    split
    · exact whileRunning_steady env s _ (forSession_steady env s sessionId _ (sendData_steady env s))
    · exact steady_refl s _
  | onLoginFailedAck sessionId =>
    rw [step]
    split
    · exact whileRunning_steady env s _ (forSession_steady env s sessionId _ fun session =>
        onLoginFailedAck_steady env s session (sane session))
    · exact steady_refl s _
  | shutdown =>
    have begun : Steady env.config.kind s {s with shutdownStatus := .startShutdown} :=
      ⟨rfl,rfl,rfl,fun _ => rfl,fun _ => rfl,fun _ => id,fun _ => rfl⟩
    exact steady_trans s _ _ _ begun (visits_steady env _ (fun t session => disconnect env session t)
      (fun t session sane => disconnect_steady env t session (sane session)) _ sane)
  | checkSessionState =>
    refine whileRunning_steady env s _ (visits_steady env s _ (fun t session sane => ?_) _ sane)
    exact checkSession_steady env t session (sane session)
  | reportState =>
    refine whileRunning_steady env s _ ?_
    rw [reportState]
    split
    · exact note_steady s _ _ (by simp)
    · exact steady_refl s _
  | tick => exact ⟨rfl,rfl,rfl,fun _ => rfl,fun _ => rfl,fun _ => id,fun _ => rfl⟩
  | pass =>
    rw [step,loopPass]
    split
    · exact ⟨rfl,rfl,rfl,fun _ => rfl,fun _ => rfl,fun _ => id,fun _ => rfl⟩
    · exact steady_refl s _

end

structure Given (session : Object) (connection : Nat) (s t : Loop) : Prop where
  running : s.shutdownStatus = .notShutdown
  pool : s.sessionPool.objectList = session :: t.sessionPool.objectList
  used : t.sessionPool.usedSize = s.sessionPool.usedSize + 1
  created : t.sessionPool.created = s.sessionPool.created
  maxSize : t.sessionPool.maxSize = s.sessionPool.maxSize
  map : t.sessionMap = insert (s.sessions session).sessionId session s.sessionMap
  own : t.sessions session = {s.sessions session with
    sessionId := nextSequence (s.sessions session).sessionId
    connection := some connection
    state := .onConnection
    connectionTime := s.currTime}
  others : ∀ other, other ≠ session → t.sessions other = s.sessions other
  connections : t.connections = Function.update s.connections connection ⟨true,some session⟩
  log : t.log = s.log

/-- What becomes of a new connection. -/
inductive Connects (connection : Nat) (s : Loop) : Loop → Prop
  | busy (live : (s.connections connection).live = true) : Connects connection s s
  | stopped (dead : (s.connections connection).live = false) (ending : s.shutdownStatus ≠ .notShutdown) :
      Connects connection s (accept connection s)
  | refused (dead : (s.connections connection).live = false) (empty : s.sessionPool.objectList = []) :
      Connects connection s ((accept connection s).note (.asyncDisconnect connection))
  | given (session : Object) (t : Loop) (dead : (s.connections connection).live = false)
      (gives : Given session connection s t) : Connects connection s t

structure Ended (kind : Kind) (session : Object) (connection : Nat) (s t : Loop) : Prop where
  status : t.shutdownStatus = s.shutdownStatus
  pool : t.sessionPool = s.sessionPool.release session
  map : t.sessionMap = erase (s.sessions session).sessionId s.sessionMap
  sessionId : (t.sessions session).sessionId = nextSequence (s.sessions session).sessionId
  bare : (t.sessions session).connection = none
  state : (t.sessions session).state = .none
  others : ∀ other, other ≠ session → t.sessions other = s.sessions other
  connections : t.connections = Function.update s.connections connection
    ⟨false,(s.connections connection).client⟩
  log : t.log = .close connection :: s.log

/-- The pool gives out the sessions of Init, in use or free, and a session and its connection know
each other. -/
structure Sound (config : Config) (s : Loop) : Prop where
  sane : ∀ session, Sane config.kind (s.sessions session)
  clients : ∀ connection session, (s.connections connection).live = true →
    (s.connections connection).client = some session → (s.sessions session).connection = some connection
  owners : ∀ session connection, (s.sessions session).connection = some connection →
    session < config.sessionMax.toNat ∧ (s.connections connection).live = true ∧
      (s.connections connection).client = some session
  free : ∀ session ∈ s.sessionPool.objectList,
    session < config.sessionMax.toNat ∧ (s.sessions session).connection = none
  distinct : s.sessionPool.objectList.Nodup
  maxSize : s.sessionPool.maxSize = config.sessionMax.toNat
  used : s.sessionPool.usedSize + s.sessionPool.objectList.length = config.sessionMax.toNat

section
variable (env : Env) (s : Loop) (connection : Nat)

theorem onConnect_connects (sound : Sound env.config s) :
    Connects connection s (step env s (.onConnect connection)) := by
  rw [step]
  split
  next live => exact .busy live
  next dead =>
    have dead := Bool.eq_false_of_not_eq_true dead
    rw [whileRunning]
    split
    next running =>
      change Connects connection s (onCommandOnConnect env connection (accept connection s))
      rcases s.sessionPool.allocate_cases (sound.used.trans sound.maxSize.symm) with
        ⟨empty,none⟩ | ⟨session,rest,list,-,taken⟩
      · rw [onCommandOnConnect,show (accept connection s).sessionPool.allocate = _ from none]
        exact .refused dead empty
      · rw [onCommandOnConnect,show (accept connection s).sessionPool.allocate = _ from taken]
        have bare := (sound.free session (by rw [list]; exact List.mem_cons_self)).2
        have unused := sane_free _ _ (sound.sane session) bare
        refine .given session _ dead ?_
        dsimp only
        rw [onConnection,if_pos]
        · refine ⟨running,list,rfl,rfl,rfl,rfl,Function.update_self ..,fun other different =>
            Function.update_of_ne different ..,?_,rfl⟩
          change Function.update (Function.update s.connections connection _) connection _ = _
          rw [Function.update_idem]
          change Function.update s.connections connection
            ⟨(Function.update s.connections connection _ connection).live,_⟩ = _
          rw [Function.update_self]
        · exact (start_transition _ _).mpr unused
    next ending => exact .stopped dead ending

theorem onDisconnect_ended (session : Object) (sound : Sound env.config s)
    (live : (s.connections connection).live = true)
    (client : (s.connections connection).client = some session) :
    Ended env.config.kind session connection s (step env s (.onDisconnect connection)) := by
  have own := sound.clients connection session live client
  have reached : reaches env .onDisconnect session s = some .onDisconnect :=
    end_transition _ _ (sane_connected _ _ connection (sound.sane session) own)
  let hung := clearSession session (hangUp connection s)
  let moved := setState session .onDisconnect hung
  let closed := (moved.note (.close connection)).update session fun data => {data with connection := none}
  let ended := closed.update session fun data =>
    {data with sessionId := nextSequence data.sessionId}.clear env.config.kind
  have has : (moved.sessions session).connection = some connection := by
    rw [show (moved.sessions session) = {s.sessions session with state := .onDisconnect} from update_same ..]
    exact own
  have ends : endConnection env session hung = ended := by
    rw [endConnection,if_pos (show reaches env .onDisconnect session hung = _ from reached),closeConnection,has]
  have data : ended.sessions session =
      {s.sessions session with sessionId := nextSequence (s.sessions session).sessionId}.clear
        env.config.kind := by
    simp only [ended,closed,moved,setState,update_same,Loop.note]
    rfl
  have others : ∀ other, other ≠ session → ended.sessions other = s.sessions other := by
    intro other different
    calc
      ended.sessions other = closed.sessions other := update_other closed session other _ different
      _ = moved.sessions other := update_other (moved.note _) session other _ different
      _ = s.sessions other := update_other hung session other
        (fun data => {data with state := .onDisconnect}) different
  have result : onDisconnect env session hung = ended := by
    rw [onDisconnect,ends]
    split
    · rfl
    · rw [data,if_neg]
      rintro ⟨waits,-⟩
      cases waits
  have found : ((hangUp connection s).connections connection).client = some session := by
    simpa [hangUp] using client
  rw [step,if_pos live,onCommandOnDisconnect,found]
  dsimp only
  rw [show clearSession session (hangUp connection s) = hung from rfl,result]
  refine ⟨rfl,rfl,rfl,?_,?_,?_,others,rfl,rfl⟩
  · change (ended.sessions session).sessionId = _
    rw [data]
    rfl
  · change (ended.sessions session).connection = _
    rw [data]
    rfl
  · change (ended.sessions session).state = _
    rw [data]
    rfl

theorem onDisconnect_clientless (client : (s.connections connection).client = none) :
    step env s (.onDisconnect connection) =
      if (s.connections connection).live = true then hangUp connection s else s := by
  have none : ((hangUp connection s).connections connection).client = .none := by
    simpa [hangUp] using client
  rw [step,onCommandOnDisconnect,none]

end

section
variable (env : Env) (s : Loop)

theorem steady_sound (t : Loop) (steady : Steady env.config.kind s t) (sound : Sound env.config s) :
    Sound env.config t := by
  refine ⟨fun session => steady.sane session (sound.sane session),fun connection session => ?_,
    fun session connection => ?_,?_,?_,?_,?_⟩
  · rw [steady.connections,steady.connection]
    exact sound.clients connection session
  · rw [steady.connections,steady.connection]
    exact sound.owners session connection
  · intro session member
    rw [steady.pool] at member
    rw [steady.connection]
    exact sound.free session member
  · rw [steady.pool]
    exact sound.distinct
  · rw [steady.pool]
    exact sound.maxSize
  · rw [steady.pool]
    exact sound.used

theorem line_sound (connection : Nat) (line : Connection) (sound : Sound env.config s)
    (before : (s.connections connection).live = false ∨ (s.connections connection).client = none)
    (after : line.live = false ∨ line.client = none) :
    Sound env.config {s with connections := Function.update s.connections connection line} := by
  refine {sound with clients := fun other session live client => ?_, owners := fun session other has => ?_}
  · by_cases same : other = connection
    · rw [same] at live client
      change (Function.update s.connections connection line connection).live = true at live
      change (Function.update s.connections connection line connection).client = _ at client
      rw [Function.update_self] at live client
      rcases after with dead | clientless
      · rw [dead] at live
        cases live
      · rw [clientless] at client
        cases client
    · change (Function.update s.connections connection line other).live = true at live
      change (Function.update s.connections connection line other).client = _ at client
      rw [Function.update_of_ne same] at live client
      exact sound.clients other session live client
  · obtain ⟨inside,live,client⟩ := sound.owners session other has
    have different : other ≠ connection := by
      rintro rfl
      rcases before with dead | clientless
      · rw [dead] at live
        cases live
      · rw [clientless] at client
        cases client
    change _ ∧ (Function.update s.connections connection line other).live = true ∧
      (Function.update s.connections connection line other).client = _
    rw [Function.update_of_ne different]
    exact ⟨inside,live,client⟩

theorem given_sound (session : Object) (connection : Nat) (t : Loop)
    (dead : (s.connections connection).live = false) (given : Given session connection s t)
    (sound : Sound env.config s) : Sound env.config t := by
  have list := given.pool
  have distinct := sound.distinct
  have used := sound.used
  rw [list] at distinct
  rw [list,List.length_cons] at used
  obtain ⟨apart,rest⟩ := List.nodup_cons.mp distinct
  obtain ⟨inside,bare⟩ := sound.free session (by rw [list]; exact List.mem_cons_self)
  refine ⟨fun other => ?_,fun other owner live client => ?_,fun owner other has => ?_,
    fun other member => ?_,rest,?_,?_⟩
  · by_cases same : other = session
    · rw [same,given.own]
      cases env.config.kind <;> rfl
    · rw [given.others other same]
      exact sound.sane other
  · rw [given.connections] at live client
    by_cases same : other = connection
    · rw [same,Function.update_self] at client
      obtain rfl := Option.some.inj client
      rw [same,given.own]
    · rw [Function.update_of_ne same] at live client
      have own := sound.clients other owner live client
      have different : owner ≠ session := by
        rintro rfl
        rw [bare] at own
        cases own
      rw [given.others owner different]
      exact own
  · rw [given.connections]
    by_cases same : owner = session
    · rw [same,given.own] at has
      obtain rfl := Option.some.inj has
      rw [Function.update_self,same]
      exact ⟨inside,rfl,rfl⟩
    · rw [given.others owner same] at has
      obtain ⟨within,live,client⟩ := sound.owners owner other has
      have different : other ≠ connection := by
        rintro rfl
        rw [dead] at live
        cases live
      rw [Function.update_of_ne different]
      exact ⟨within,live,client⟩
  · have before := sound.free other (by rw [list]; exact List.mem_cons_of_mem _ member)
    have different : other ≠ session := by
      rintro rfl
      exact apart member
    rw [given.others other different]
    exact before
  · rw [given.maxSize]
    exact sound.maxSize
  · rw [given.used]
    omega

theorem ended_sound (session : Object) (connection : Nat) (t : Loop)
    (own : (s.sessions session).connection = some connection)
    (ended : Ended env.config.kind session connection s t) (sound : Sound env.config s) :
    Sound env.config t := by
  obtain ⟨inside,-,-⟩ := sound.owners session connection own
  have absent : session ∉ s.sessionPool.objectList := by
    intro member
    rw [(sound.free session member).2] at own
    cases own
  have list : t.sessionPool.objectList = s.sessionPool.objectList ++ [session] := by
    rw [ended.pool]
    rfl
  have only (other : Nat) (live : (t.connections other).live = true) :
      other ≠ connection ∧ t.connections other = s.connections other := by
    rw [ended.connections] at live ⊢
    by_cases same : other = connection
    · rw [same,Function.update_self] at live
      cases live
    · exact ⟨same,Function.update_of_ne same ..⟩
  refine ⟨fun other => ?_,fun other owner live client => ?_,fun owner other has => ?_,
    fun other member => ?_,?_,?_,?_⟩
  · by_cases same : other = session
    · rw [same,Sane,ended.bare]
      exact ended.state
    · rw [ended.others other same]
      exact sound.sane other
  · obtain ⟨different,same⟩ := only other live
    rw [same] at live client
    have has := sound.clients other owner live client
    have apart : owner ≠ session := by
      rintro rfl
      rw [own] at has
      exact different (Option.some.inj has).symm
    rw [ended.others owner apart]
    exact has
  · have apart : owner ≠ session := by
      rintro rfl
      rw [ended.bare] at has
      cases has
    rw [ended.others owner apart] at has
    obtain ⟨within,live,client⟩ := sound.owners owner other has
    have different : other ≠ connection := by
      rintro rfl
      obtain ⟨-,-,mine⟩ := sound.owners session other own
      rw [mine] at client
      exact apart (Option.some.inj client).symm
    rw [ended.connections,Function.update_of_ne different]
    exact ⟨within,live,client⟩
  · rw [list] at member
    by_cases same : other = session
    · rw [same]
      exact ⟨inside,ended.bare⟩
    · rcases List.mem_append.mp member with before | new
      · rw [ended.others other same]
        exact sound.free other before
      · exact absurd (List.mem_singleton.mp new) same
  · rw [list]
    exact sound.distinct.append (List.nodup_singleton session) (by simpa using absent)
  · rw [ended.pool]
    exact sound.maxSize
  · have used := sound.used
    have few := env.config.sessionMax.toNat_lt
    have less : s.sessionPool.objectList.length < env.config.sessionMax.toNat := by
      have known : session :: s.sessionPool.objectList ⊆ List.range env.config.sessionMax.toNat := by
        intro other member
        rw [List.mem_range]
        rcases List.mem_cons.mp member with rfl | free
        · exact inside
        · exact (sound.free other free).1
      have few := ((List.nodup_cons.mpr ⟨absent,sound.distinct⟩).subperm known).length_le
      rwa [List.length_cons,List.length_range] at few
    rw [list,ended.pool,List.length_append,List.length_singleton]
    change (s.sessionPool.usedSize + (2^16 - 1)) % 2^16 + _ = _
    omega

theorem step_sound (action : Action) (sound : Sound env.config s) : Sound env.config (step env s action) := by
  by_cases plain : plainAction action = true
  · exact steady_sound env s _ (step_steady env s action plain sound.sane) sound
  · cases action with
    | onConnect connection =>
      have connects := onConnect_connects env s connection sound
      generalize step env s (.onConnect connection) = t at connects
      cases connects with
      | busy => exact sound
      | stopped dead => exact line_sound env s connection _ sound (.inl dead) (.inr rfl)
      | refused dead =>
        exact steady_sound env _ _ (note_steady _ _ _ (by simp))
          (line_sound env s connection ⟨true,none⟩ sound (.inl dead) (.inr rfl))
      | given session t dead gives => exact given_sound env s session connection t dead gives sound
    | onDisconnect connection =>
      cases live : (s.connections connection).live with
      | false =>
        rw [step,live]
        exact sound
      | true =>
        cases client : (s.connections connection).client with
        | none =>
          rw [onDisconnect_clientless env s connection client,if_pos live]
          exact line_sound env s connection _ sound (.inr client) (.inl rfl)
        | some session =>
          exact ended_sound env s session connection _ (sound.clients connection session live client)
            (onDisconnect_ended env s connection session sound live client) sound
    | clearSession =>
      rw [step]
      split
      · exact {sound with}
      · exact sound
    | _ => exact absurd rfl plain

theorem init_sound : Sound env.config (init env.config) := by
  refine ⟨fun _ => ?_,fun _ _ live => ?_,fun _ _ has => ?_,fun session member => ?_,?_,rfl,?_⟩
  · rfl
  · cases live
  · cases has
  · exact ⟨List.mem_range.mp member,rfl⟩
  · exact List.nodup_range
  · change 0 + (List.range env.config.sessionMax.toNat).length = _
    rw [List.length_range,Nat.zero_add]

theorem run_sound (actions : List Action) : Sound env.config (run (step env) (init env.config) actions) :=
  run_invariant (step env) (fun _ _ => True) (Sound env.config)
    (fun s action sound _ => step_sound env s action sound) _ actions
    (guarded_true (step env) _ actions) (init_sound env)

end

end Fantuan.ServerBase.SessionSteps
