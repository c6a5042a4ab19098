import Fantuan.GateServer.Indexes
import Fantuan.MasterServer.Handlers

/-! The answers of a gate on their way to the master, which takes them in the order in which
they were sent. A gate that is full answers with session id 0 and its own server id; the master
looks for server id 0 only, and takes the refusal for a session.
-/
namespace Fantuan.GateAllocation
open Lib.Table Lib.Drain Lib.Run ServerBase.ServerCommon Tool.ObjectPool GateServer.ServerLoop
  GateServer.Session GateServer.Commands GateServer.SessionSteps GateServer.Indexes

structure Ack where
  serverId : UInt8
  loginSessionId : UInt32
  accountName : WString
  sessionId : UInt32
  deriving DecidableEq

def acks (log : List Event) : List Ack :=
  (log.filterMap fun event => match event with
    | .sent (.gateAllocAck serverId loginSessionId accountName sessionId) true =>
      some ⟨serverId,loginSessionId,accountName,sessionId⟩
    | _ => none).reverse

structure System where
  gate : Gate
  master : MasterServer.Context.Loop
  delivered : Nat

def inFlight (s : System) : List Ack := (acks s.gate.log).drop s.delivered

structure Envs where
  gate : Env
  master : MasterServer.Context.Env

inductive Action where
  | gate (action : GateServer.Commands.Action)
  | master (action : MasterServer.Commands.Action)
  | deliver

def receive (env : MasterServer.Context.Env) (ack : Ack) :
    MasterServer.Context.Loop → MasterServer.Context.Loop :=
  MasterServer.Commands.onCommand env
    (.gateAllocAck ack.serverId ack.loginSessionId ack.accountName ack.sessionId)

/-- All commands but the acks come to the gate and to the master at any time. -/
def step (env : Envs) (s : System) : Action → System
  | .gate action => {s with gate := GateServer.Commands.step env.gate s.gate action}
  | .master action => {s with master := MasterServer.Commands.step env.master s.master action}
  | .deliver => match inFlight s with
    | ack :: _ => {s with master := receive env.master ack s.master, delivered := s.delivered + 1}
    | [] => s

def start (env : Envs) : System where
  gate := init env.gate.config
  master := .init env.master.config
  delivered := 0

/-- The gate has a session in use for the account, with the id of the ack. -/
def Holds (gate : Gate) (ack : Ack) : Prop :=
  ∃ session, find ack.accountName gate.sessionMapByName = some session ∧
    (gate.sessions session).sessionId = ack.sessionId ∧ (gate.sessions session).state ≠ .none

/-- The player for whom GateAllocAck is called waits for it. -/
structure Waits (master : MasterServer.Context.Loop) (ack : Ack) (player : Object) : Prop where
  running : master.shutdownStatus = .notShutdown
  found : find ack.accountName master.playerContextByName = some player
  session : (master.contexts player).sessionId = ack.loginSessionId
  asked : (master.contexts player).state = .gateAllocReq

/-- GateAllocAck takes its failure branch, which shuts the player down. -/
structure Refused (env : MasterServer.Context.Env) (master : MasterServer.Context.Loop) (ack : Ack)
    (player : Object) : Prop where
  failed : ((receive env ack master).contexts player).state = .gateAllocFailAck
  finalizing : ((receive env ack master).contexts player).finalizing = true

/-- The master refuses what the gate has not allocated, and the gate has allocated what the
master does not refuse. -/
structure Agrees (env : Envs) (s : System) : Prop where
  refused : ∀ ack ∈ inFlight s, ∀ player, Waits s.master ack player → ¬ Holds s.gate ack →
    Refused env.master s.master ack player
  accepted : ∀ ack ∈ inFlight s, ∀ player, Waits s.master ack player →
    ¬ Refused env.master s.master ack player → ack.sessionId ≠ 0 ∧ Holds s.gate ack

/-- The gate refuses nobody, and no pass clears a session whose ack is still on its way. -/
def Settled (env : Envs) (s : System) : Action → Prop
  | .gate (.gateAllocReq _ accountName) => env.gate.config.serverId = 0 ∨
      (s.gate.shutdownStatus = .notShutdown → find accountName s.gate.sessionMapByName = none →
        s.gate.sessionCount < sessionMax env.gate.config)
  | .gate .pass => env.gate.config.serverId = 0 ∨ ∀ session ∈ s.gate.finalizingQueue,
      ∀ ack ∈ inFlight s, (s.gate.sessions session).sessionId ≠ ack.sessionId
  | _ => True

instance (env : Envs) (s : System) : DecidablePred (Settled env s)
  | .gate (.gateAllocReq _ _) => inferInstanceAs (Decidable (_ ∨ (_ → _ → _)))
  | .gate .pass => inferInstanceAs (Decidable (_ ∨ ∀ session ∈ _, ∀ ack ∈ _, _))
  | .gate (.onConnect _) | .gate (.onData _ _ _) | .gate (.onDisconnect _) | .gate (.disconnect _)
  | .gate .shutdown | .gate (.gateReleaseReq _ _) | .gate (.regionBindReq _ _)
  | .gate .checkSessionState | .gate .reportState | .gate (.tick _) | .master _ | .deliver =>
    inferInstanceAs (Decidable True)

/-- The names and the sessions in use stay, with their ids. -/
structure Persists (s t : Gate) : Prop where
  names : ∀ accountName session, find accountName s.sessionMapByName = some session →
    find accountName t.sessionMapByName = some session
  used : ∀ session, (s.sessions session).state ≠ .none →
    (t.sessions session).sessionId = (s.sessions session).sessionId ∧
      (t.sessions session).state ≠ .none

theorem persists_holds (s t : Gate) (ack : Ack) (persists : Persists s t) (holds : Holds s ack) :
    Holds t ack := by
  obtain ⟨session,found,id,use⟩ := holds
  obtain ⟨same,still⟩ := persists.used session use
  exact ⟨session,persists.names _ session found,same.trans id,still⟩

theorem persists_same (s t : Gate) (names : t.sessionMapByName = s.sessionMapByName)
    (sessions : t.sessions = s.sessions) : Persists s t := by
  refine ⟨fun accountName session found => ?_,fun session use => ?_⟩
  · rw [names]
    exact found
  · rw [sessions]
    exact ⟨rfl,use⟩

theorem persists_trans (s t u : Gate) (first : Persists s t) (second : Persists t u) :
    Persists s u := by
  refine ⟨?_,?_⟩
  · exact fun accountName session found => second.names _ _ (first.names accountName session found)
  · intro session use
    obtain ⟨same,still⟩ := first.used session use
    obtain ⟨same',still'⟩ := second.used session still
    exact ⟨same'.trans same,still'⟩

theorem update_persists (s : Gate) (session : Object) (change : GateSession → GateSession)
    (kept : (s.sessions session).state ≠ .none →
      (change (s.sessions session)).sessionId = (s.sessions session).sessionId ∧
        (change (s.sessions session)).state ≠ .none) : Persists s (s.update session change) := by
  refine ⟨fun _ _ => id,?_⟩
  intro other use
  by_cases same : other = session
  · subst same
    rw [update_same]
    exact kept use
  · rw [update_other s session other change same]
    exact ⟨rfl,use⟩

theorem does_persists (s t : Gate) (does : Does s t) : Persists s t := by
  induction does with
  | refl => exact persists_same s s rfl rfl
  | tail _ step ih =>
    refine persists_trans s _ _ ih ?_
    cases step with
    | change session change still kept =>
      refine update_persists _ session change fun use => ⟨kept.sessionId,?_⟩
      rw [ne_eq,kept.used]
      exact use
    | queue session =>
      refine persists_trans _ _ _ (update_persists _ session (fun data => {data with
        finalizing := true}) fun use => ⟨rfl,use⟩) (persists_same _ _ rfl rfl)
    | _ => exact persists_same _ _ rfl rfl

theorem does_acks (s t : Gate) (does : Does s t) : acks t.log = acks s.log := by
  induction does with
  | refl => rfl
  | tail _ step ih =>
    cases step with
    | note event silent =>
      refine Eq.trans ?_ ih
      cases event with
      | sent message success =>
        cases message with
        | gateAllocAck =>
          obtain rfl : success = false := by simpa [quiet] using silent
          rfl
        | _ => rfl
      | gateAllocReq => cases silent
      | _ => rfl
    | _ => exact ih

theorem onConnection_persists (session : Object) (connection : Nat) (s : Gate) :
    Persists s (onConnection session connection s) := by
  have marked (t : Gate) : Persists t (t.update session fun data => {data with tempSession := true}) :=
    update_persists t session _ fun use => ⟨rfl,use⟩
  rw [onConnection]
  split
  next reached =>
    have unused := fresh_none s session .onConnection _ rfl reached
    refine persists_trans s _ _ ?_ (marked _)
    refine persists_trans s _ _ (update_persists s session (fun data => {data with
      sessionId := nextSequence data.sessionId
      connection := some connection
      state := .onConnection
      connectionTime := s.currTime}) ?_) (persists_same _ _ rfl rfl)
    exact fun use => absurd unused use
  · exact marked s

theorem onGateAllocReq_used (env : Env) (session : Object) (loginSessionId : UInt32)
    (accountName : WString) (s : Gate) (use : (s.sessions session).state ≠ .none) :
    onGateAllocReq env session loginSessionId accountName s = s := by
  rw [onGateAllocReq,if_neg]
  intro reached
  exact use (fresh_none s session .onGateAllocReq _ rfl reached)

theorem onGateAllocReq_persists (env : Env) (session : Object) (loginSessionId : UInt32)
    (accountName : WString) (s : Gate) :
    Persists s (onGateAllocReq env session loginSessionId accountName s) := by
  by_cases unused : (s.sessions session).state = .none
  · have said : Persists s ((s.update session (allocated loginSessionId accountName)).note
        (.sent (.gateAllocAck env.config.serverId loginSessionId accountName
          (nextSequence (s.sessions session).sessionId)) (sends env s))) :=
      persists_trans s _ _ (update_persists s session _ fun use => absurd unused use)
        (persists_same _ _ rfl rfl)
    rw [onGateAllocReq_unused env session loginSessionId accountName s unused]
    dsimp only
    split
    · exact persists_trans s _ _ said (update_persists _ session _ fun _ => ⟨rfl,by simp⟩)
    · exact said
  · rw [onGateAllocReq_used env session loginSessionId accountName s unused]
    exact persists_same s s rfl rfl

theorem insert_persists (s t : Gate) (accountName : WString) (session : Object)
    (fresh : find accountName s.sessionMapByName = none)
    (names : t.sessionMapByName = insert accountName session s.sessionMapByName)
    (sessions : t.sessions = s.sessions) : Persists s t := by
  refine ⟨fun name other found => ?_,fun other use => ?_⟩
  · rw [names,find_insert accountName name session _ fresh,if_neg]
    · exact found
    · rintro rfl
      rw [fresh] at found
      cases found
  · rw [sessions]
    exact ⟨rfl,use⟩

theorem gateStep_persists (env : Env) (s : Gate) (action : GateServer.Commands.Action)
    (indexed : Indexed env.config s) (still : action ≠ .pass) :
    Persists s (GateServer.Commands.step env s action) := by
  by_cases plain : plainAction action = true
  · exact does_persists _ _ (step_does env s action indexed plain)
  · cases action with
    | onConnect connection =>
      rcases onConnect_cases env connection s indexed with does | ⟨session,rest,-,-,-,-,result⟩
      · exact does_persists _ _ does
      · rw [result]
        let given := take rest (accept connection s)
        have connected := onConnection_persists session connection given
        exact persists_trans s given _ (persists_same s given rfl rfl)
          (persists_trans given _ _ connected (persists_same _ _ rfl rfl))
    | gateAllocReq loginSessionId accountName =>
      have asks := gateAllocReq_asks env loginSessionId accountName s indexed
      generalize GateServer.Commands.step env s (.gateAllocReq loginSessionId accountName) = t at asks ⊢
      cases asks with
      | allocated session rest running fresh =>
        have listed := insert_persists s (allot accountName session rest
          (s.note (.gateAllocReq loginSessionId accountName))) accountName session fresh rfl rfl
        exact persists_trans s _ _ listed
          (onGateAllocReq_persists env session loginSessionId accountName _)
      | _ => exact persists_same s _ rfl rfl
    | pass => exact absurd rfl still
    | _ => exact absurd rfl plain

theorem acks_sent (serverId : UInt8) (loginSessionId : UInt32) (accountName : WString)
    (sessionId : UInt32) (success : Bool) (log : List Event) :
    acks (.sent (.gateAllocAck serverId loginSessionId accountName sessionId) success :: log) =
      if success then acks log ++ [⟨serverId,loginSessionId,accountName,sessionId⟩] else acks log := by
  cases success <;> simp [acks]

/-- What a step of the gate adds to the acks names a session in use, if the step was not
a refusal. -/
def Answers (env : Env) (s t : Gate) : Prop :=
  acks t.log = acks s.log ∨ ∃ ack, acks t.log = acks s.log ++ [ack] ∧
    ack.serverId = env.config.serverId ∧
      (env.config.serverId ≠ 0 → ack.sessionId ≠ 0 ∧ Holds t ack)

theorem numbered_nonzero (config : Config) (session : Object) (sessionId : UInt32)
    (numbered : Numbered config session sessionId) (server : config.serverId ≠ 0) : sessionId ≠ 0 := by
  rintro rfl
  exact server numbered.2.symm

theorem onGateAllocReq_answers (env : Env) (session : Object) (loginSessionId : UInt32)
    (accountName : WString) (s : Gate) (inside : session < poolMax env.config)
    (indexed : Indexed env.config s)
    (found : find accountName s.sessionMapByName = some session) :
    Answers env s (onGateAllocReq env session loginSessionId accountName s) := by
  by_cases unused : (s.sessions session).state = .none
  · let sessionId := nextSequence (s.sessions session).sessionId
    let said := (s.update session (allocated loginSessionId accountName)).note
      (.sent (.gateAllocAck env.config.serverId loginSessionId accountName sessionId) (sends env s))
    have log : acks said.log = if sends env s then
        acks s.log ++ [⟨env.config.serverId,loginSessionId,accountName,sessionId⟩] else acks s.log :=
      acks_sent ..
    rw [onGateAllocReq_unused env session loginSessionId accountName s unused]
    change Answers env s (if sends env s then setState session .gateAllocAck said else said)
    cases success : sends env s with
    | false =>
      rw [success] at log
      exact .inl log
    | true =>
      rw [success] at log
      refine .inr ⟨_,log,rfl,fun server => ⟨?_,session,found,?_⟩⟩
      · exact numbered_nonzero env.config session sessionId
          (nextSequence_numbered env.config session _ (indexed.ids session inside)) server
      · rw [if_pos rfl,setState,update_same]
        refine ⟨?_,by simp⟩
        simp [said,Gate.note,sessionId,allocated]
  · rw [onGateAllocReq_used env session loginSessionId accountName s unused]
    exact .inl rfl

theorem gateStep_answers (env : Env) (s : Gate) (action : GateServer.Commands.Action)
    (indexed : Indexed env.config s)
    (admits : ∀ loginSessionId accountName, action = .gateAllocReq loginSessionId accountName →
      env.config.serverId ≠ 0 → s.shutdownStatus = .notShutdown →
        find accountName s.sessionMapByName = none → s.sessionCount < sessionMax env.config) :
    Answers env s (GateServer.Commands.step env s action) := by
  by_cases plain : plainAction action = true
  · exact .inl (does_acks _ _ (step_does env s action indexed plain))
  · cases action with
    | onConnect connection =>
      rcases onConnect_cases env connection s indexed with does | ⟨session,rest,-,-,-,-,result⟩
      · exact .inl (does_acks _ _ does)
      · rw [result]
        left
        change acks (onConnection session connection (take rest (accept connection s))).log = _
        rw [onConnection]
        split <;> rfl
    | gateAllocReq loginSessionId accountName =>
      have asks := gateAllocReq_asks env loginSessionId accountName s indexed
      generalize GateServer.Commands.step env s (.gateAllocReq loginSessionId accountName) = t at asks ⊢
      cases asks with
      | stopped => exact .inl rfl
      | duplicate => exact .inl rfl
      | crash => exact .inl rfl
      | full running fresh full =>
        let asked := s.note (.gateAllocReq loginSessionId accountName)
        have log : acks (send env (.gateAllocAck env.config.serverId loginSessionId accountName 0)
            asked).log = if sends env asked then
              acks s.log ++ [⟨env.config.serverId,loginSessionId,accountName,0⟩] else acks s.log :=
          acks_sent ..
        cases success : sends env asked with
        | false =>
          rw [success] at log
          exact .inl log
        | true =>
          rw [success] at log
          refine .inr ⟨_,log,rfl,fun server => ?_⟩
          have room := admits loginSessionId accountName rfl server running fresh
          exact absurd full (UInt16.not_le.mpr room)
      | allocated session rest running fresh room list free =>
        have asked : Indexed env.config (s.note (.gateAllocReq loginSessionId accountName)) :=
          {indexed with}
        obtain ⟨inside,taken⟩ := take_indexed env.config _ session rest asked list free
        have listed := insert_indexed env.config _ session accountName taken fresh inside
        exact onGateAllocReq_answers env session loginSessionId accountName (allot accountName session
          rest (s.note (.gateAllocReq loginSessionId accountName))) inside {listed with}
          (find_insert_same accountName session s.sessionMapByName fresh)
    | pass => exact .inl rfl
    | _ => exact absurd rfl plain

theorem pass_holds (env : Env) (s : Gate) (ack : Ack) (indexed : Indexed env.config s)
    (apart : ∀ session ∈ s.finalizingQueue, (s.sessions session).sessionId ≠ ack.sessionId)
    (holds : Holds s ack) : Holds (GateServer.Commands.step env s .pass) ack := by
  obtain ⟨session,found,id,use⟩ := holds
  have drained : Indexed env.config {s with toLoop := drainBack clearSession s.finalizingQueue s.toLoop} ∧
      find ack.accountName (drainBack clearSession s.finalizingQueue s.toLoop).sessionMapByName =
        some session ∧
      (drainBack clearSession s.finalizingQueue s.toLoop).sessions session = s.sessions session := by
    refine drainBack_invariant clearSession (fun loop => Indexed env.config {s with toLoop := loop} ∧
      find ack.accountName loop.sessionMapByName = some session ∧
      loop.sessions session = s.sessions session) s.finalizingQueue ?_ s.toLoop ⟨indexed,found,rfl⟩
    intro other member loop ⟨indexed',found',same⟩
    have different : session ≠ other := by
      rintro rfl
      exact apart session member id
    refine ⟨clearSession_indexed env.config {s with toLoop := loop} other indexed'
      (indexed.queue other member),?_,?_⟩
    · change find ack.accountName (if (loop.sessions other).tempSession = false then
        erase (loop.sessions other).accountName loop.sessionMapByName else loop.sessionMapByName) = _
      split
      next account =>
        rw [find_erase,if_neg]
        · exact found'
        · intro name
          have own := indexed'.named other account
          change find (loop.sessions other).accountName loop.sessionMapByName = some other at own
          rw [← name,found'] at own
          exact different (Option.some.inj own)
      · exact found'
    · exact (Function.update_of_ne different ..).trans same
  obtain ⟨-,found',same⟩ := drained
  have cleared : Holds {s with toLoop := clearFinalizing s.toLoop} ack := by
    refine ⟨session,found',?_⟩
    change ((drainBack clearSession s.finalizingQueue s.toLoop).sessions session).sessionId = _ ∧
      ((drainBack clearSession s.finalizingQueue s.toLoop).sessions session).state ≠ _
    rw [same]
    exact ⟨id,use⟩
  rw [GateServer.Commands.step,loopPass]
  split
  · exact persists_holds _ _ ack (persists_same _ _ rfl rfl) cleared
  · exact cleared

/-- Every ack has the id of the gate, and what is on its way names a session in use. -/
structure Truthful (env : Envs) (s : System) : Prop where
  indexed : Indexed env.gate.config s.gate
  server : ∀ ack ∈ acks s.gate.log, ack.serverId = env.gate.config.serverId
  held : env.gate.config.serverId ≠ 0 → ∀ ack ∈ inFlight s, ack.sessionId ≠ 0 ∧ Holds s.gate ack

theorem gate_truthful (env : Envs) (s : System) (action : GateServer.Commands.Action)
    (truthful : Truthful env s) (settled : Settled env s (.gate action)) :
    Truthful env (step env s (.gate action)) := by
  obtain ⟨indexed,server,held⟩ := truthful
  have indexed' := step_indexed env.gate s.gate action indexed
  have kept : env.gate.config.serverId ≠ 0 → ∀ ack ∈ inFlight s,
      Holds (GateServer.Commands.step env.gate s.gate action) ack := by
    intro nonzero ack member
    have holds := (held nonzero ack member).2
    by_cases passes : action = .pass
    · subst passes
      rcases settled with zero | apart
      · exact absurd zero nonzero
      · exact pass_holds env.gate s.gate ack indexed (fun session queued => apart session queued ack
          member) holds
    · exact persists_holds _ _ ack (gateStep_persists env.gate s.gate action indexed passes) holds
  have answers : Answers env.gate s.gate (GateServer.Commands.step env.gate s.gate action) := by
    refine gateStep_answers env.gate s.gate action indexed ?_
    rintro loginSessionId accountName rfl nonzero
    rcases settled with zero | admits
    · exact absurd zero nonzero
    · exact admits
  rcases answers with same | ⟨ack,more,id,holds⟩
  · have flight : inFlight (step env s (.gate action)) = inFlight s := by
      rw [inFlight,inFlight]
      exact congrArg (List.drop s.delivered) same
    refine ⟨indexed',?_,fun nonzero other member => ?_⟩
    · rw [step,same]
      exact server
    · rw [flight] at member
      exact ⟨(held nonzero other member).1,kept nonzero other member⟩
  · refine ⟨indexed',?_,fun nonzero other member => ?_⟩
    · rw [step,more]
      intro other member
      rcases List.mem_append.mp member with before | last
      · exact server other before
      · obtain rfl := List.mem_singleton.mp last
        exact id
    · have member' : other ∈ (acks s.gate.log ++ [ack]).drop s.delivered := by
        rw [← more]
        exact member
      rw [List.drop_append,List.mem_append] at member'
      rcases member' with before | last
      · exact ⟨(held nonzero other before).1,kept nonzero other before⟩
      · obtain rfl := List.mem_singleton.mp (List.mem_of_mem_drop last)
        exact holds nonzero

theorem step_truthful (env : Envs) (s : System) (action : Action) (truthful : Truthful env s)
    (settled : Settled env s action) : Truthful env (step env s action) := by
  cases action with
  | gate action => exact gate_truthful env s action truthful settled
  | master action => exact {truthful with}
  | deliver =>
    rw [step]
    split
    next ack rest flight =>
      have fewer : inFlight {s with
          master := receive env.master ack s.master, delivered := s.delivered + 1} = rest := by
        have next : rest = (inFlight s).drop 1 := by
          rw [flight]
          rfl
        rw [next,inFlight,inFlight,List.drop_drop]
      refine ⟨truthful.indexed,truthful.server,fun nonzero other member => ?_⟩
      rw [fewer] at member
      exact truthful.held nonzero other (by rw [flight]; exact List.mem_cons_of_mem ack member)
    · exact truthful

theorem receive_waiting (env : MasterServer.Context.Env) (master : MasterServer.Context.Loop)
    (ack : Ack) (player : Object) (waits : Waits master ack player) :
    receive env ack master =
      MasterServer.Player.gateAllocAck env player ack.serverId ack.sessionId master := by
  rw [receive,MasterServer.Commands.onCommand,if_neg (by simp [waits.running]),
    MasterServer.Commands.onCommandGateAllocAck,waits.found]
  exact if_pos waits.session

/-- The master only refuses an ack of server id 0. -/
theorem zero_refused (env : MasterServer.Context.Env) (master : MasterServer.Context.Loop)
    (ack : Ack) (player : Object) (waits : Waits master ack player) (zero : ack.serverId = 0) :
    Refused env master ack player := by
  let failed := MasterServer.PlayerSteps.setState player .gateAllocFailAck master
  have state : (failed.contexts player).state = .gateAllocFailAck := by
    simp [failed,MasterServer.PlayerSteps.setState]
  have running : failed.shutdownStatus ≠ .readyForShutdown := by
    change master.shutdownStatus ≠ _
    rw [waits.running]
    decide
  have moved : MasterServer.ServerLoop.stateTransition .gateAllocFailAck player master = failed := by
    apply MasterServer.PlayerSteps.stateTransition_reached
    rw [MasterServer.ServerLoop.reaches,waits.asked]
    rfl
  have result : receive env ack master =
      MasterServer.ServerLoop.shutdownPlayer env player failed := by
    rw [receive_waiting env master ack player waits,MasterServer.Player.gateAllocAck,if_pos zero,moved]
  have stays : (MasterServer.ServerLoop.shutdownNeeds (failed.contexts player).state).regionLeave =
      false := by
    rw [state]
    rfl
  refine ⟨?_,?_⟩
  · rw [result]
    cases active : (failed.contexts player).finalizing with
    | true => rw [MasterServer.ServerLoop.shutdownPlayer,if_pos active,state]
    | false =>
      rw [MasterServer.PlayerSteps.shutdownPlayer_running env player failed active running]
      simp [state,MasterServer.ServerLoop.shutdownNeeds,MasterServer.PlayerSteps.begin,
        MasterServer.PlayerSteps.releaseRegion,MasterServer.ServerLoop.finishShutdown,
        MasterServer.ServerLoop.addPlayerToFinalizingQueue,MasterServer.PlayerSteps.sendIf_contexts]
  · rw [result]
    exact MasterServer.Handlers.shutdownPlayer_finalizing env player failed running stays

theorem truthful_agrees (env : Envs) (s : System) (truthful : Truthful env s) : Agrees env s := by
  by_cases server : env.gate.config.serverId = 0
  · have refused (ack : Ack) (member : ack ∈ inFlight s) (player : Object)
        (waits : Waits s.master ack player) : Refused env.master s.master ack player := by
      refine zero_refused env.master s.master ack player waits ?_
      rw [truthful.server ack (List.mem_of_mem_drop member),server]
    refine ⟨fun ack member player waits _ => refused ack member player waits,?_⟩
    exact fun ack member player waits accepted => absurd (refused ack member player waits) accepted
  · refine ⟨?_,?_⟩
    · exact fun ack member _ _ unheld => absurd (truthful.held server ack member).2 unheld
    · exact fun ack member _ _ _ => truthful.held server ack member

/-- Master and gate agree on every ack as long as the gate refuses nobody, and keeps the sessions
whose acks are on their way. -/
theorem gateAllocAck_agrees (env : Envs) (actions : List Action)
    (guarded : Guarded (step env) (Settled env) (start env) actions) :
    Agrees env (run (step env) (start env) actions) :=
  truthful_agrees env _ (run_invariant (step env) (Settled env) (Truthful env)
    (step_truthful env) _ actions guarded
    ⟨init_indexed env.gate.config,by simp [acks,start,init],by simp [inFlight,acks,start,init]⟩)

/-- Both servers let the gate have one session. -/
def sampleEnvs : Envs where
  gate := ⟨⟨1,1,1000⟩,fun _ => true,fun _ => true⟩
  master := {MasterServer.Commands.sampleEnv fun _ => true with config := ⟨[⟨1,16777343,5000,1⟩],[]⟩}

theorem gateAllocAck_agrees_once :
    Agrees sampleEnvs (run (step sampleEnvs) (start sampleEnvs)
      [.master (.command (.onLoginReport 1)),.master (.command (.onLoginReq 10 [97])),
        .gate (.gateAllocReq 10 [97])]) :=
  gateAllocAck_agrees sampleEnvs
    [.master (.command (.onLoginReport 1)),.master (.command (.onLoginReq 10 [97])),
      .gate (.gateAllocReq 10 [97])] (by decide +kernel)

/-- The gate reports its count before the first request reaches it, and the master asks for a
second session, which the gate refuses. -/
def overbooked : List Action :=
  [.master (.command (.onLoginReport 1)),.master (.command (.onLoginReq 10 [97])),
    .master (.command (.onGateReport 1 0)),.master (.command (.onLoginReq 11 [98])),
    .gate (.gateAllocReq 10 [97]),.gate (.gateAllocReq 11 [98]),.deliver]

theorem gateAllocAck_disagrees : ¬ Agrees sampleEnvs (run (step sampleEnvs) (start sampleEnvs) overbooked) := by
  intro agrees
  let s := run (step sampleEnvs) (start sampleEnvs) overbooked
  have unheld : ¬ Holds s.gate ⟨1,11,[98],0⟩ := by
    rintro ⟨session,found,-⟩
    have unlisted : find [98] s.gate.sessionMapByName = none := by decide +kernel
    rw [unlisted] at found
    cases found
  have waits : Waits s.master ⟨1,11,[98],0⟩ 1 :=
    ⟨by decide +kernel,by decide +kernel,by decide +kernel,by decide +kernel⟩
  have refused := (agrees.refused ⟨1,11,[98],0⟩ (by decide +kernel) 1 waits unheld).failed
  revert refused
  decide +kernel

end Fantuan.GateAllocation
