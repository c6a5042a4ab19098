import Fantuan.GateServer.Indexes

/-! The answers to GateAllocReq. A request for an account that is still in the map, also one
whose session waits to be cleared, is not answered at all.
-/
namespace Fantuan.GateServer.AllocAcks
open Lib.Table Lib.Run ServerBase.ServerCommon Tool.ObjectPool ServerLoop Session Commands
  SessionSteps Indexes

def requests (log : List Event) : List UInt32 :=
  log.filterMap fun event => match event with
    | .gateAllocReq loginSessionId _ => some loginSessionId
    | _ => none

def answers (log : List Event) : List UInt32 :=
  log.filterMap fun event => match event with
    | .sent (.gateAllocAck _ loginSessionId _ _) true => some loginSessionId
    | _ => none

/-- As many acks carry a login session id as requests had it. -/
def Answered (s : Gate) : Prop :=
  ∀ loginSessionId, (answers s.log).count loginSessionId = (requests s.log).count loginSessionId

/-- The session that the pool would give is unused. -/
def Spare (s : Gate) : Prop :=
  match s.sessionPool.allocate.1 with
  | some session => (s.sessions session).state = .none
  | none => False

instance (s : Gate) : Decidable (Spare s) := by
  rw [Spare]
  split <;> infer_instance

/-- The account is new to the gate, the ack can be sent, and the gate is full or has a session. -/
def Answerable (env : Env) (s : Gate) : Action → Prop
  | .gateAllocReq _ accountName => s.shutdownStatus = .notShutdown →
    find accountName s.sessionMapByName = none ∧ env.net (s.log.length + 1) = true ∧
      (sessionMax env.config ≤ s.sessionCount ∨ Spare s)
  | _ => True

instance (env : Env) (s : Gate) : DecidablePred (Answerable env s)
  | .gateAllocReq _ _ => inferInstanceAs (Decidable (_ → _))
  | .onConnect _ | .onData _ _ _ | .onDisconnect _ | .disconnect _ | .shutdown
  | .gateReleaseReq _ _ | .regionBindReq _ _ | .checkSessionState | .reportState | .tick _ | .pass =>
    inferInstanceAs (Decidable True)

theorem quiet_log (event : Event) (log : List Event) (silent : quiet event = true) :
    requests (event :: log) = requests log ∧ answers (event :: log) = answers log := by
  cases event with
  | gateAllocReq => cases silent
  | sent message success =>
    cases message with
    | gateAllocAck =>
      obtain rfl : success = false := by simpa [quiet] using silent
      exact ⟨rfl,rfl⟩
    | _ => exact ⟨rfl,rfl⟩
  | _ => exact ⟨rfl,rfl⟩

theorem does_log (s t : Gate) (does : Does s t) :
    requests t.log = requests s.log ∧ answers t.log = answers s.log := by
  induction does with
  | refl => exact ⟨rfl,rfl⟩
  | tail _ step ih =>
    cases step with
    | note event silent =>
      obtain ⟨asked,answered⟩ := quiet_log event _ silent
      exact ⟨asked.trans ih.1,answered.trans ih.2⟩
    | _ => exact ih

theorem onConnection_log (session : Object) (connection : Nat) (s : Gate) :
    (onConnection session connection s).log = s.log := by
  rw [onConnection]
  split <;> rfl

theorem step_answers (env : Env) (s : Gate) (action : Action) (indexed : Indexed env.config s)
    (answerable : Answerable env s action) (answered : answers s.log = requests s.log) :
    answers (step env s action).log = requests (step env s action).log := by
  by_cases plain : plainAction action = true
  · obtain ⟨asked,replied⟩ := does_log _ _ (step_does env s action indexed plain)
    rw [asked,replied,answered]
  · cases action with
    | onConnect connection =>
      rcases onConnect_cases env connection s indexed with does | ⟨session,rest,-,-,-,-,result⟩
      · obtain ⟨asked,replied⟩ := does_log _ _ does
        rw [asked,replied,answered]
      · have same : (admitted session rest connection (accept connection s)).log = s.log :=
          onConnection_log session connection _
        rw [result,same]
        exact answered
    | gateAllocReq loginSessionId accountName =>
      have asks := gateAllocReq_asks env loginSessionId accountName s indexed
      generalize step env s (.gateAllocReq loginSessionId accountName) = t at asks ⊢
      cases asks with
      | stopped => exact answered
      | duplicate session running found =>
        rw [(answerable running).1] at found
        cases found
      | full running =>
        have success : sends env (s.note (.gateAllocReq loginSessionId accountName)) = true :=
          (answerable running).2.1
        rw [send,success]
        exact congrArg (loginSessionId :: ·) answered
      | crash running fresh room empty =>
        rcases (answerable running).2.2 with full | spare
        · exact absurd full (UInt16.not_le.mpr room)
        · rw [Spare,empty] at spare
          exact spare.elim
      | allocated session rest running fresh room list free =>
        let given := allot accountName session rest (s.note (.gateAllocReq loginSessionId accountName))
        have unused : (given.sessions session).state = .none := by
          rcases (answerable running).2.2 with full | spare
          · exact absurd full (UInt16.not_le.mpr room)
          · rw [Spare,Pool.allocate,if_pos free,list] at spare
            exact spare
        have success : sends env given = true := (answerable running).2.1
        rw [onGateAllocReq_unused env session loginSessionId accountName given unused,success]
        exact congrArg (loginSessionId :: ·) answered
    | pass =>
      have same : (step env s .pass).log = s.log := rfl
      rw [same]
      exact answered
    | _ => exact absurd rfl plain

/-- In a run whose requests are all answerable, each is answered by one ack. -/
theorem gateAllocReq_answered (env : Env) (actions : List Action)
    (guarded : Guarded (step env) (Answerable env) (init env.config) actions) :
    Answered (run (step env) (init env.config) actions) := by
  have kept := run_invariant (step env) (Answerable env)
    (fun s => Indexed env.config s ∧ answers s.log = requests s.log)
    (fun s action ⟨indexed,answered⟩ answerable => ⟨step_indexed env s action indexed,
      step_answers env s action indexed answerable answered⟩)
    _ actions guarded ⟨init_indexed env.config,rfl⟩
  intro loginSessionId
  rw [kept.2]

theorem gateAllocReq_answered_twice :
    Answered (run (step sampleEnv) (init sampleEnv.config)
      [.gateAllocReq 10 [97],.gateAllocReq 11 [98]]) :=
  gateAllocReq_answered sampleEnv [.gateAllocReq 10 [97],.gateAllocReq 11 [98]] (by decide +kernel)

/-- The account is asked for again after its release and before the next pass. -/
theorem gateAllocReq_unanswered :
    ¬ Answered (run (step sampleEnv) (init sampleEnv.config)
      [.gateAllocReq 10 [97],.gateReleaseReq 10 [97],.gateAllocReq 11 [97]]) := by
  intro answered
  have once := answered 11
  revert once
  decide +kernel

end Fantuan.GateServer.AllocAcks
