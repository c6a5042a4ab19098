import Fantuan.GateServer.SessionFrames
import Fantuan.Lib.Clock

/-! The connection timeout of the gate. The check visits as many sessions as the gate may have for
accounts; the array has more of them.
-/
namespace Fantuan.GateServer.ConnectionTimes
open Lib.Run Lib.Clock ServerBase.ServerCommon Tool.ObjectPool Tool.StateMachine ServerLoop Session Commands
  SessionSteps SessionFrames

def stamp (s : Gate) (session : Object) : UInt32 := (s.sessions session).connectionTime

def phase (s : Gate) (session : Object) : SessionState := (s.sessions session).state

def elapsed : Action → Nat
  | .tick milliseconds => milliseconds.toNat
  | _ => 0

def retime (now : Nat) : Action → Action
  | .tick _ => .tick (shown now)
  | action => action

/-- A run in which the number of a tick is that of the milliseconds since the one before. -/
def timedRun (env : Env) (actions : List Action) : Timed Gate :=
  run (timedStep (step env) elapsed retime phase) ⟨init env.config,0,fun _ => 0⟩ actions

def Told (s t : Gate) (session : Object) : Prop :=
  (s.sessions session).state ≠ .disconnect ∧ (t.sessions session).state = .disconnect ∧
    ∃ connection events, (s.sessions session).connection = some connection ∧ t.log = events ++ s.log ∧
      .asyncDisconnect connection ∈ events

/-- The time at which a connected session has to be told. -/
def deadline (config : Config) (t : Timed Gate) (session : Object) : Nat :=
  t.since session + config.connectionTimeout.toNat

/-- The check tells just the sessions that have been in ONCONNECTION for the timeout. -/
def Checked (env : Env) (t : Timed Gate) (session : Object) : Prop :=
  t.state.shutdownStatus = .notShutdown →
    (Told t.state (step env t.state .checkSessionState) session ↔
      (t.state.sessions session).state = .onConnection ∧ deadline env.config t session ≤ t.now)

/-- The check comes to the session, which is not finalizing. -/
def Visited (config : Config) (s : Gate) (session : Object) : Prop :=
  session < (sessionMax config).toNat ∧ (s.sessions session).finalizing = false

/-- The order of the deadline and the present is the same on the clock, or the check does not come to
the session, and its deadline is not there yet. -/
def Timely (env : Env) (t : Timed Gate) (session : Object) : Prop :=
  t.state.shutdownStatus = .notShutdown → (t.state.sessions session).state = .onConnection →
    (Visited env.config t.state session → InOrder (deadline env.config t session) t.now) ∧
      (¬ Visited env.config t.state session → t.now < deadline env.config t session)

section
variable (env : Env) (s : Gate)

theorem step_stamps (action : Action) (now : Nat) (clock : s.currTime = shown now) :
    Stamps phase (fun state => state = .onConnection) stamp now s (step env s action) := by
  intro session connecting
  change ((step env s action).sessions session).state = _ at connecting
  change (s.sessions session).state = ((step env s action).sessions session).state ∧
      ((step env s action).sessions session).connectionTime = _ ∨
    (s.sessions session).state ≠ ((step env s action).sessions session).state ∧
      ((step env s action).sessions session).connectionTime = _
  rw [connecting]
  rcases step_becomes env s session action with frame | ⟨state,-⟩ | begun | ⟨_,_,_,_,_,_,data⟩
  · obtain ⟨before,time,-⟩ := frame.connecting connecting
    exact .inl ⟨before,time⟩
  · rw [state] at connecting
    cases connecting
  · rw [begun.free]
    exact .inr ⟨SessionState.noConfusion,((begun.connecting connecting).1).trans clock⟩
  · rw [data] at connecting ⊢
    exact .inl ⟨connecting,rfl⟩

theorem step_connected (action : Action) (session : Object)
    (before : (s.sessions session).state = .onConnection → (s.sessions session).connection.isSome = true)
    (connecting : ((step env s action).sessions session).state = .onConnection) :
    ((step env s action).sessions session).connection.isSome = true := by
  rcases step_becomes env s session action with frame | ⟨state,-⟩ | begun | ⟨_,_,_,_,_,_,data⟩
  · obtain ⟨state,-,kept⟩ := frame.connecting connecting
    rw [kept]
    exact before state
  · rw [state] at connecting
    cases connecting
  · exact (begun.connecting connecting).2
  · rw [data] at connecting ⊢
    exact before connecting

end

/-- The loop knows the time of its last tick, and connected sessions their connection and its time. -/
structure OnTime (t : Timed Gate) : Prop where
  clock : t.state.currTime = shown t.now
  stamped : Stamped phase (fun state => state = .onConnection) stamp t
  connected : ∀ session, (t.state.sessions session).state = .onConnection →
    (t.state.sessions session).connection.isSome = true

theorem timedStep_onTime (env : Env) (t : Timed Gate) (action : Action) (onTime : OnTime t) :
    OnTime (timedStep (step env) elapsed retime phase t action) := by
  have others (untimed : elapsed action = 0) (same : ∀ now, retime now action = action)
      (still : ∀ currTime, action ≠ .tick currTime) :
      OnTime (timedStep (step env) elapsed retime phase t action) := by
    refine ⟨?_,timedStep_stamped _ _ _ _ _ _ t action ?_ onTime.stamped,?_⟩
    · change (step env t.state (retime (t.now + elapsed action) action)).currTime = shown (t.now + elapsed action)
      rw [same,(step_steady env t.state action still).1,untimed]
      exact onTime.clock
    · rw [same,untimed]
      exact step_stamps env t.state action t.now onTime.clock
    · intro session
      change ((step env t.state (retime _ action)).sessions session).state = _ → _
      rw [same]
      intro connecting
      change ((step env t.state (retime _ action)).sessions session).connection.isSome = true
      rw [same]
      exact step_connected env t.state action session (onTime.connected session) connecting
  cases action with
  | tick milliseconds =>
    refine ⟨rfl,timedStep_stamped _ _ _ _ _ _ t _ ?_ onTime.stamped,onTime.connected⟩
    exact fun session _ => .inl ⟨rfl,rfl⟩
  | _ => exact others rfl (fun _ => rfl) (by simp)

theorem timedRun_onTime (env : Env) (actions : List Action) : OnTime (timedRun env actions) := by
  refine run_invariant _ (fun _ _ => True) OnTime (fun t action onTime _ => timedStep_onTime env t action onTime)
    _ actions (guarded_true _ _ actions) ⟨rfl,fun session state => ?_,fun session state => ?_⟩
  · cases state
  · cases state

section
variable (env : Env) (s : Gate)

/-- What the check makes of a connected session. -/
structure Late (session : Object) : Prop where
  connecting : (s.sessions session).state = .onConnection
  reached : (s.sessions session).connectionTime + env.config.connectionTimeout ≤ s.currTime
  active : (s.sessions session).finalizing = false

theorem checkSession_late (session : Object) (isLate : Late env s session) (connection : Nat)
    (has : (s.sessions session).connection = some connection) :
    checkSession env s session = (setState session .disconnect s).note (.asyncDisconnect connection) := by
  have reached : reaches .disconnect session s = some .disconnect := by
    rw [reaches,isLate.connecting]
    rfl
  rw [checkSession,if_pos ⟨isLate.connecting,isLate.reached⟩,disconnect,isLate.active,if_neg (by simp),reached,has]
  rfl

theorem checkSession_early (session : Object) (early : ¬ Late env s session) : checkSession env s session = s := by
  rw [checkSession]
  split
  next reached =>
    rw [disconnect,if_pos]
    by_contra active
    exact early ⟨reached.1,reached.2,Bool.eq_false_of_not_eq_true active⟩
  · rfl

/-- Every session in ONCONNECTION has its connection. -/
def Connected (s : Gate) : Prop :=
  ∀ session, (s.sessions session).state = .onConnection → (s.sessions session).connection.isSome = true

/-- The session and the time stay, and the log only grows. -/
structure Spares (session : Object) (s t : Gate) : Prop where
  data : t.sessions session = s.sessions session
  clock : t.currTime = s.currTime
  log : ∃ events, t.log = events ++ s.log

theorem spares_refl (session : Object) : Spares session s s := ⟨rfl,rfl,[],rfl⟩

theorem spares_trans (session : Object) (t u : Gate) (first : Spares session s t) (second : Spares session t u) :
    Spares session s u := by
  obtain ⟨early,wrote⟩ := first.log
  obtain ⟨late,wroteLate⟩ := second.log
  refine ⟨second.data.trans first.data,second.clock.trans first.clock,late ++ early,?_⟩
  rw [wroteLate,wrote,List.append_assoc]

theorem spares_late (session : Object) (t : Gate) (spares : Spares session s t) :
    Late env t session ↔ Late env s session := by
  constructor
  · rintro ⟨connecting,reached,active⟩
    rw [spares.data] at connecting reached active
    rw [spares.clock] at reached
    exact ⟨connecting,reached,active⟩
  · rintro ⟨connecting,reached,active⟩
    rw [← spares.data] at connecting reached active
    rw [← spares.clock] at reached
    exact ⟨connecting,reached,active⟩

theorem checkSession_connected (session : Object) (connected : Connected s) :
    Connected (checkSession env s session) := by
  by_cases isLate : Late env s session
  · obtain ⟨connection,has⟩ := Option.isSome_iff_exists.mp (connected session isLate.connecting)
    rw [checkSession_late env s session isLate connection has]
    intro other connecting
    change ((setState session .disconnect s).sessions other).state = _ at connecting
    change ((setState session .disconnect s).sessions other).connection.isSome = true
    by_cases same : other = session
    · rw [same,setState,update_same] at connecting
      cases connecting
    · rw [setState,update_other s session other _ same] at connecting ⊢
      exact connected other connecting
  · rw [checkSession_early env s session isLate]
    exact connected

theorem checkSession_spares (session other : Object) (different : other ≠ session) (connected : Connected s) :
    Spares other s (checkSession env s session) := by
  by_cases isLate : Late env s session
  · obtain ⟨connection,has⟩ := Option.isSome_iff_exists.mp (connected session isLate.connecting)
    rw [checkSession_late env s session isLate connection has]
    have data : (setState session .disconnect s).sessions other = s.sessions other :=
      update_other s session other _ different
    exact ⟨data,rfl,[.asyncDisconnect connection],rfl⟩
  · rw [checkSession_early env s session isLate]
    exact spares_refl s other

theorem checks_spare (session : Object) (sessions : List Object) (apart : session ∉ sessions)
    (connected : Connected s) :
    Spares session s (sessions.foldl (checkSession env) s) ∧
      Connected (sessions.foldl (checkSession env) s) := by
  induction sessions generalizing s with
  | nil => exact ⟨spares_refl s session,connected⟩
  | cons first sessions ih =>
    obtain ⟨different,apart⟩ := List.ne_and_not_mem_of_not_mem_cons apart
    have one := checkSession_spares env s first session different connected
    obtain ⟨others,still⟩ := ih _ apart (checkSession_connected env s first connected)
    exact ⟨spares_trans s session _ _ one others,still⟩

theorem checks_visit (session : Object) (sessions : List Object) (distinct : sessions.Nodup)
    (member : session ∈ sessions) (connected : Connected s) :
    ∃ t, Spares session s t ∧ Connected t ∧
      Spares session (checkSession env t session) (sessions.foldl (checkSession env) s) := by
  obtain ⟨before,after,rfl⟩ := List.append_of_mem member
  obtain ⟨-,later,apart⟩ := List.nodup_append.mp distinct
  have early : session ∉ before := fun inside => apart session inside session List.mem_cons_self rfl
  obtain ⟨spares,still⟩ := checks_spare env s session before early connected
  refine ⟨before.foldl (checkSession env) s,spares,still,?_⟩
  rw [List.foldl_append,List.foldl_cons]
  exact (checks_spare env _ session after (List.nodup_cons.mp later).1
    (checkSession_connected env _ session still)).1

theorem unchanged_untold (session : Object) (t : Gate) (data : t.sessions session = s.sessions session) :
    ¬ Told s t session := by
  rintro ⟨before,after,-⟩
  rw [data] at after
  exact before after

theorem checkSessionState_told (session : Object) (connected : Connected s) :
    Told s (checkSessionState env s) session ↔
      session < (sessionMax env.config).toNat ∧ Late env s session := by
  rw [checkSessionState,← List.mem_range]
  by_cases inside : session ∈ List.range (sessionMax env.config).toNat
  · obtain ⟨t,early,still,later⟩ := checks_visit env s session _ List.nodup_range inside connected
    rw [and_iff_right inside,← spares_late env s session t early]
    by_cases isLate : Late env t session
    · refine iff_of_true ?_ isLate
      obtain ⟨connection,has⟩ := Option.isSome_iff_exists.mp (still session isLate.connecting)
      rw [checkSession_late env t session isLate connection has] at later
      obtain ⟨before,wrote⟩ := early.log
      obtain ⟨after,wroteLater⟩ := later.log
      refine ⟨?_,?_,connection,after ++ .asyncDisconnect connection :: before,?_,?_,?_⟩
      · rw [← early.data,isLate.connecting]
        exact SessionState.noConfusion
      · rw [later.data]
        exact congrArg GateSession.state (update_same t session fun data => {data with state := .disconnect})
      · rw [← early.data]
        exact has
      · rw [wroteLater,List.append_assoc]
        exact congrArg (fun log => after ++ .asyncDisconnect connection :: log) wrote
      · exact List.mem_append_right _ List.mem_cons_self
    · rw [checkSession_early env t session isLate] at later
      exact iff_of_false (unchanged_untold s session _ (later.data.trans early.data)) isLate
  · have spares := (checks_spare env s session _ inside connected).1
    exact iff_of_false (unchanged_untold s session _ spares.data) fun both => inside both.1

end

/-- In every timed run a check tells just the sessions that have been connected for the timeout, if and
only if it comes to them in time. -/
theorem checked_iff (env : Env) (actions : List Action) (session : Object) :
    Checked env (timedRun env actions) session ↔ Timely env (timedRun env actions) session := by
  have onTime := timedRun_onTime env actions
  generalize timedRun env actions = t at onTime ⊢
  rw [Checked,Timely]
  refine imp_congr_right fun running => ?_
  rw [step,whileRunning,if_pos running,checkSessionState_told env t.state session onTime.connected]
  by_cases connecting : (t.state.sessions session).state = .onConnection
  · have late : session < (sessionMax env.config).toNat ∧ Late env t.state session ↔
        Visited env.config t.state session ∧ shown (deadline env.config t session) ≤ shown t.now := by
      have time : (t.state.sessions session).connectionTime + env.config.connectionTimeout =
          shown (deadline env.config t session) := by
        rw [deadline,← shown_add]
        exact congrArg (· + env.config.connectionTimeout) (onTime.stamped session connecting)
      constructor
      · rintro ⟨inside,-,reached,active⟩
        rw [time,onTime.clock] at reached
        exact ⟨⟨inside,active⟩,reached⟩
      · rintro ⟨⟨inside,active⟩,reached⟩
        rw [← time,← onTime.clock] at reached
        exact ⟨inside,connecting,reached,active⟩
    rw [late,and_iff_right connecting,imp_iff_right connecting]
    by_cases visited : Visited env.config t.state session
    · rw [and_iff_right visited,imp_iff_right visited,and_iff_left (fun other => absurd visited other)]
      exact reached_right_iff _ _
    · simp only [visited,false_and,false_iff,false_imp_iff,true_and,not_false_eq_true,true_imp_iff,Nat.not_le]
  · refine iff_of_true ⟨fun told => absurd told.2.connecting connecting,fun both => absurd both.1 connecting⟩ ?_
    exact fun state => absurd state connecting

end Fantuan.GateServer.ConnectionTimes
