import Fantuan.Lib.Clock
import Fantuan.ServerBase.SessionEffects

/-! The timeouts of the login server and of the chat server. What a session stores is the time since
when it has been in its state, and a check adds the timeout to it on the clock.
-/
namespace Fantuan.ServerBase.SessionTimes
open Lib.Run Lib.Clock ServerCommon Tool.ObjectPool Tool.StateMachine Sessions SessionServerLoop SessionSteps
  SessionEffects

def limit (config : Config) : SessionState → Option UInt32
  | .onConnection => some config.connectionTimeout
  | .loggedIn => some config.loginTimeout
  | _ => none

/-- What a session stores on entering such a state. -/
def stampOf (data : Session) : UInt32 :=
  match data.state with
  | .onConnection => data.connectionTime
  | _ => data.loggedInTime

def stamp (s : Loop) (session : Object) : UInt32 := stampOf (s.sessions session)

def phase (s : Loop) (session : Object) : SessionState := (s.sessions session).state

def elapsed : Action → Nat
  | .tick milliseconds => milliseconds.toNat
  | _ => 0

def retime (now : Nat) : Action → Action
  | .tick _ => .tick (shown now)
  | action => action

/-- A run in which the number of a tick is that of the milliseconds since the one before. -/
def timedRun (env : Env) (actions : List Action) : Timed Loop :=
  run (timedStep (step env) elapsed retime phase) ⟨init env.config,0,fun _ => 0⟩ actions

def newEvents (s t : Loop) : List Event := t.log.take (t.log.length - s.log.length)

def Told (s t : Loop) (session : Object) : Prop :=
  ∃ connection, (s.sessions session).connection = some connection ∧
    .asyncDisconnect connection ∈ newEvents s t

/-- The session has been in its state for at least its timeout. -/
def Overdue (config : Config) (t : Timed Loop) (session : Object) : Prop :=
  ∃ timeout, limit config (t.state.sessions session).state = some timeout ∧
    t.since session + timeout.toNat ≤ t.now

/-- The check tells just the sessions that are overdue. -/
def Checked (env : Env) (t : Timed Loop) (session : Object) : Prop :=
  t.state.shutdownStatus = .notShutdown →
    (Told t.state (step env t.state .checkSessionState) session ↔ Overdue env.config t session)

/-- The order of the deadline and the present is the same on the clock. -/
def Timely (env : Env) (t : Timed Loop) (session : Object) : Prop :=
  t.state.shutdownStatus = .notShutdown → ∀ timeout,
    limit env.config (t.state.sessions session).state = some timeout →
      InOrder (t.since session + timeout.toNat) t.now

/-- What the commands do to a session, unless a connection begins. -/
structure Times (s t : Loop) : Prop where
  clock : t.currTime = s.currTime
  connecting : ∀ session, (t.sessions session).state = .onConnection →
    (s.sessions session).state = .onConnection ∧
      (t.sessions session).connectionTime = (s.sessions session).connectionTime
  loggedIn : ∀ session, (t.sessions session).state = .loggedIn →
    (s.sessions session).state = .loggedIn ∧
        (t.sessions session).loggedInTime = (s.sessions session).loggedInTime ∨
      (s.sessions session).state = .onConnection ∧ (t.sessions session).loggedInTime = s.currTime

section
variable (env : Env) (s : Loop)

theorem times_same (t : Loop) (clock : t.currTime = s.currTime) (sessions : t.sessions = s.sessions) :
    Times s t := by
  refine ⟨clock,fun session => ?_,fun session => ?_⟩
  · rw [sessions]
    exact fun state => ⟨state,rfl⟩
  · rw [sessions]
    exact fun state => .inl ⟨state,rfl⟩

theorem times_refl : Times s s := times_same s s rfl rfl

theorem times_trans (t u : Loop) (first : Times s t) (second : Times t u) : Times s u := by
  refine ⟨second.clock.trans first.clock,fun session state => ?_,fun session state => ?_⟩
  · obtain ⟨before,time⟩ := second.connecting session state
    obtain ⟨early,kept⟩ := first.connecting session before
    exact ⟨early,time.trans kept⟩
  · rcases second.loggedIn session state with ⟨before,time⟩ | ⟨before,time⟩
    · rcases first.loggedIn session before with ⟨early,kept⟩ | ⟨early,new⟩
      · exact .inl ⟨early,time.trans kept⟩
      · exact .inr ⟨early,time.trans new⟩
    · exact .inr ⟨(first.connecting session before).1,time.trans first.clock⟩

theorem update_times (session : Object) (change : Session → Session)
    (connecting : (change (s.sessions session)).state = .onConnection →
      (s.sessions session).state = .onConnection ∧
        (change (s.sessions session)).connectionTime = (s.sessions session).connectionTime)
    (loggedIn : (change (s.sessions session)).state = .loggedIn →
      (s.sessions session).state = .loggedIn ∧
          (change (s.sessions session)).loggedInTime = (s.sessions session).loggedInTime ∨
        (s.sessions session).state = .onConnection ∧
          (change (s.sessions session)).loggedInTime = s.currTime) :
    Times s (s.update session change) := by
  refine ⟨rfl,fun other => ?_,fun other => ?_⟩
  all_goals by_cases same : other = session
  · rw [same,update_same]
    exact connecting
  · rw [update_other s session other change same]
    exact fun state => ⟨state,rfl⟩
  · rw [same,update_same]
    exact loggedIn
  · rw [update_other s session other change same]
    exact fun state => .inl ⟨state,rfl⟩

theorem relabel_times (session : Object) (change : Session → Session)
    (state : (change (s.sessions session)).state = (s.sessions session).state)
    (connectionTime : (change (s.sessions session)).connectionTime = (s.sessions session).connectionTime)
    (loggedInTime : (change (s.sessions session)).loggedInTime = (s.sessions session).loggedInTime) :
    Times s (s.update session change) := by
  refine update_times s session change ?_ ?_
  · rw [state]
    exact fun connecting => ⟨connecting,connectionTime⟩
  · rw [state]
    exact fun loggedIn => .inl ⟨loggedIn,loggedInTime⟩

/-- Only the event LOGGEDIN leads into one of the two states from another. -/
theorem timed_transition (kind : Kind) (state next : SessionState) (event : SessionEvent)
    (plain : event ≠ .onConnection ∧ event ≠ .loggedIn) (reached : transition kind state event = some next) :
    (next = .onConnection → state = .onConnection) ∧ (next = .loggedIn → state = .loggedIn) := by
  have rows : ∀ row ∈ initStateMachine kind state, row.1 ≠ .onConnection ∧ row.1 ≠ .loggedIn →
      (row.2 = .onConnection → state = .onConnection) ∧ (row.2 = .loggedIn → state = .loggedIn) := by
    cases kind <;> cases state <;> decide
  exact rows _ (outputState_mem (initStateMachine kind) state next event reached) plain

theorem sessionStep_times (t : Loop) (step : SessionStep env s t) : Times s t := by
  cases step with
  | beside _ sessions _ clock => exact times_same s t clock sessions
  | note event _ => exact times_same s _ rfl rfl
  | name session accountName => exact relabel_times s session _ rfl rfl rfl
  | advance session event next plain reached =>
    obtain ⟨connecting,loggedIn⟩ := timed_transition _ _ next event plain reached
    exact update_times s session _ (fun state => ⟨connecting state,rfl⟩) fun state => .inl ⟨loggedIn state,rfl⟩
  | login session connecting =>
    exact update_times s session _ SessionState.noConfusion fun _ => .inr ⟨connecting,rfl⟩
  | unbind session => exact relabel_times s session _ rfl rfl rfl
  | free session => exact update_times s session _ SessionState.noConfusion SessionState.noConfusion

theorem does_times (t : Loop) (does : Does env s t) : Times s t := by
  induction does with
  | refl => exact times_refl s
  | tail _ step ih => exact times_trans s _ _ ih (sessionStep_times env _ _ step)

theorem times_stamps (t : Loop) (now : Nat) (clock : s.currTime = shown now) (times : Times s t) :
    Stamps phase (fun state => state = .onConnection ∨ state = .loggedIn) stamp now s t := by
  rintro session (connecting | loggedIn)
  · obtain ⟨before,kept⟩ := times.connecting session connecting
    change (t.sessions session).state = _ at connecting
    refine .inl ⟨before.trans connecting.symm,?_⟩
    rw [stamp,stamp,stampOf,stampOf,connecting,before]
    exact kept
  · change (t.sessions session).state = _ at loggedIn
    rcases times.loggedIn session loggedIn with ⟨before,kept⟩ | ⟨before,new⟩
    · refine .inl ⟨before.trans loggedIn.symm,?_⟩
      rw [stamp,stamp,stampOf,stampOf,loggedIn,before]
      exact kept
    · refine .inr ⟨?_,?_⟩
      · change (s.sessions session).state ≠ (t.sessions session).state
        rw [before,loggedIn]
        exact SessionState.noConfusion
      · rw [stamp,stampOf,loggedIn]
        exact new.trans clock

theorem enter_stamps (t : Loop) (now : Nat) (session : Object) (data : Session)
    (free : (s.sessions session).state = .none) (connecting : data.state = .onConnection)
    (time : data.connectionTime = shown now) (sessions : t.sessions = Function.update s.sessions session data) :
    Stamps phase (fun state => state = .onConnection ∨ state = .loggedIn) stamp now s t := by
  intro other inside
  by_cases same : other = session
  · refine .inr ⟨?_,?_⟩
    · rw [phase,phase,same,free,sessions,Function.update_self,connecting]
      exact SessionState.noConfusion
    · rw [stamp,same,sessions,Function.update_self,stampOf,connecting]
      exact time
  · have kept : t.sessions other = s.sessions other := by rw [sessions,Function.update_of_ne same]
    exact .inl ⟨congrArg Session.state kept.symm,congrArg stampOf kept⟩

theorem onConnect_stamps (connection now : Nat) (clock : s.currTime = shown now) :
    Stamps phase (fun state => state = .onConnection ∨ state = .loggedIn) stamp now s
      (step env s (.onConnect connection)) := by
  have still (t : Loop) (currTime : t.currTime = s.currTime) (sessions : t.sessions = s.sessions) :=
    times_stamps s t now clock (times_same s t currTime sessions)
  rw [step]
  split
  · exact still s rfl rfl
  · rw [whileRunning]
    split
    · rw [onCommandOnConnect]
      split
      · exact still _ rfl rfl
      next session pool _ =>
        rw [onConnection]
        split
        next reached => exact enter_stamps s _ now session _ ((start_transition _ _).mp reached) rfl clock rfl
        · exact still _ rfl rfl
    · exact still _ rfl rfl

theorem onConnect_clock (connection : Nat) : (step env s (.onConnect connection)).currTime = s.currTime := by
  rw [step]
  split
  · rfl
  · rw [whileRunning]
    split
    · rw [onCommandOnConnect]
      split
      · rfl
      · rw [onConnection]
        split <;> rfl
    · rfl

end

/-- The loop knows the time of its last tick, and the stamps are right. -/
structure OnTime (t : Timed Loop) : Prop where
  clock : t.state.currTime = shown t.now
  stamped : Stamped phase (fun state => state = .onConnection ∨ state = .loggedIn) stamp t

theorem timedStep_onTime (env : Env) (t : Timed Loop) (action : Action) (onTime : OnTime t) :
    OnTime (timedStep (step env) elapsed retime phase t action) := by
  have others (untimed : elapsed action = 0) (same : ∀ now, retime now action = action)
      (clock : (step env t.state action).currTime = t.state.currTime)
      (stamps : Stamps phase (fun state => state = .onConnection ∨ state = .loggedIn) stamp t.now t.state
        (step env t.state action)) :
      OnTime (timedStep (step env) elapsed retime phase t action) := by
    constructor
    · change (step env t.state (retime (t.now + elapsed action) action)).currTime = shown (t.now + elapsed action)
      rw [same,clock,untimed]
      exact onTime.clock
    · refine timedStep_stamped _ _ _ _ _ _ t action ?_ onTime.stamped
      rw [same,untimed]
      exact stamps
  have plain (untimed : elapsed action = 0) (same : ∀ now, retime now action = action)
      (begins : ∀ connection, action ≠ .onConnect connection) (still : ∀ currTime, action ≠ .tick currTime) :
      OnTime (timedStep (step env) elapsed retime phase t action) := by
    have times := does_times env _ _ (step_does env t.state action begins still)
    exact others untimed same times.clock (times_stamps _ _ _ onTime.clock times)
  cases action with
  | tick milliseconds =>
    refine ⟨rfl,timedStep_stamped _ _ _ _ _ _ t _ ?_ onTime.stamped⟩
    exact fun session _ => .inl ⟨rfl,rfl⟩
  | onConnect connection =>
    exact others rfl (fun _ => rfl) (onConnect_clock env t.state connection)
      (onConnect_stamps env t.state connection t.now onTime.clock)
  | _ => exact plain rfl (fun _ => rfl) (by simp) (by simp)

theorem timedRun_onTime (env : Env) (actions : List Action) : OnTime (timedRun env actions) := by
  refine run_invariant _ (fun _ _ => True) OnTime (fun t action onTime _ => timedStep_onTime env t action onTime)
    _ actions (guarded_true _ _ actions) ⟨rfl,fun session inside => ?_⟩
  rcases inside with state | state <;> cases state

/-- The timed run is a run of the loop, so that every session in use has its connection. -/
theorem timedRun_sound (env : Env) (actions : List Action) : Sound env.config (timedRun env actions).state := by
  obtain ⟨others,same⟩ := timed_reached (step env) elapsed retime phase
    ⟨init env.config,0,fun _ => 0⟩ actions
  rw [timedRun,same]
  exact run_sound env others

section
variable (env : Env) (s : Loop)

/-- What the check makes of the times of a session. -/
def late (session : Object) : Bool :=
  match limit env.config (s.sessions session).state with
  | some timeout => stamp s session + timeout ≤ s.currTime
  | none => false

theorem checkSession_late (session : Object) :
    checkSession env s session = if late env s session then disconnect env session s else s := by
  rw [checkSession,late,stamp,stampOf]
  cases (s.sessions session).state <;> rfl

/-- The connections that a check has told to disconnect, in order. -/
def toldBy (sessions : List Object) : List Nat :=
  sessions.filterMap fun session => if late env s session then (s.sessions session).connection else none

theorem late_connected (session : Object) (sane : Sane env.config.kind (s.sessions session))
    (isLate : late env s session = true) : ∃ connection, (s.sessions session).connection = some connection := by
  cases has : (s.sessions session).connection with
  | some connection => exact ⟨connection,rfl⟩
  | none =>
    rw [late,sane_free _ _ sane has] at isLate
    cases isLate

theorem checks_log (sane : ∀ session, Sane env.config.kind (s.sessions session)) (sessions : List Object) :
    sessions.foldl (checkSession env) s =
      {s with log := ((toldBy env s sessions).map Event.asyncDisconnect).reverse ++ s.log} := by
  induction sessions generalizing s with
  | nil => rfl
  | cons session sessions ih =>
    rw [List.foldl_cons,checkSession_late,toldBy]
    cases isLate : late env s session with
    | false =>
      rw [if_neg (by simp),ih s sane,List.filterMap_cons_none (by rw [isLate]; rfl)]
      rfl
    | true =>
      obtain ⟨connection,has⟩ := late_connected env s session (sane session) isLate
      rw [if_pos rfl,disconnect,has]
      dsimp only
      rw [ih (s.note (.asyncDisconnect connection)) sane,
        List.filterMap_cons_some (b := connection) (by rw [isLate,if_pos rfl,has]),List.map_cons,List.reverse_cons,
        List.append_assoc]
      rfl

theorem checkSessionState_told (sound : Sound env.config s) (session : Object) :
    Told s (checkSessionState env s) session ↔ late env s session = true := by
  have added : newEvents s (checkSessionState env s) =
      ((toldBy env s (List.range env.config.sessionMax.toNat)).map Event.asyncDisconnect).reverse := by
    rw [checkSessionState,checks_log env s sound.sane,newEvents]
    change (_ ++ s.log).take ((_ ++ s.log).length - s.log.length) = _
    rw [List.length_append,Nat.add_sub_cancel,List.take_left']
    rfl
  have listed (connection : Nat) : .asyncDisconnect connection ∈ newEvents s (checkSessionState env s) ↔
      ∃ other < env.config.sessionMax.toNat, late env s other = true ∧
        (s.sessions other).connection = some connection := by
    rw [added,List.mem_reverse,List.mem_map]
    simp only [Event.asyncDisconnect.injEq,exists_eq_right,toldBy,List.mem_filterMap,List.mem_range,
      Option.ite_none_right_eq_some]
  constructor
  · rintro ⟨connection,has,told⟩
    obtain ⟨other,-,isLate,owns⟩ := (listed connection).mp told
    have mine := (sound.owners session connection has).2.2
    rw [(sound.owners other connection owns).2.2] at mine
    rw [← Option.some.inj mine]
    exact isLate
  · intro isLate
    obtain ⟨connection,has⟩ := late_connected env s session (sound.sane session) isLate
    exact ⟨connection,has,(listed connection).mpr ⟨session,(sound.owners session connection has).1,isLate,has⟩⟩

end

/-- On the clock a session is late if its deadline is reached there. -/
theorem late_shown (env : Env) (t : Timed Loop) (onTime : OnTime t) (session : Object) :
    late env t.state session = true ↔ ∃ timeout, limit env.config (t.state.sessions session).state = some timeout ∧
      shown (t.since session + timeout.toNat) ≤ shown t.now := by
  rw [late,← onTime.clock]
  cases limited : limit env.config (t.state.sessions session).state with
  | none => simp
  | some timeout =>
    have inside : (t.state.sessions session).state = .onConnection ∨ (t.state.sessions session).state = .loggedIn := by
      revert limited
      cases (t.state.sessions session).state <;> simp [limit]
    rw [onTime.stamped session inside]
    dsimp only
    rw [shown_add,decide_eq_true_eq]
    simp

/-- In every timed run a check tells just the sessions that are overdue, if and only if the deadlines and
the present are in order on the clock. -/
theorem checked_iff (env : Env) (actions : List Action) (session : Object) :
    Checked env (timedRun env actions) session ↔ Timely env (timedRun env actions) session := by
  have onTime := timedRun_onTime env actions
  have sound := timedRun_sound env actions
  rw [Checked,Timely]
  refine imp_congr_right fun running => ?_
  rw [step,whileRunning,if_pos running,checkSessionState_told env _ sound,late_shown env _ onTime,Overdue]
  cases limited : limit env.config ((timedRun env actions).state.sessions session).state with
  | none => simp
  | some timeout =>
    simp only [Option.some.injEq,exists_eq_left',forall_eq']
    exact reached_right_iff _ _

end Fantuan.ServerBase.SessionTimes
