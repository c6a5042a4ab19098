import Fantuan.MasterServer.Effects
import Fantuan.MasterServer.Frames
import Fantuan.MasterServer.Logouts

/-! The events that answer a login, and which handlers write them: ShutdownPlayer in the states
before LoginNtf, and GateAllocAck. Once a player is answered, no handler answers again, unless a
gate's answer comes after the refusal.
-/
namespace Fantuan.MasterServer.LoginEvents
open Lib.Table ServerBase.ServerCommon Tool.ObjectPool PlayerFsm Context ServerLoop Player Commands
  PlayerSteps Handlers Effects Logouts Indexes Frames

def refusing (player : Option Object) (sessionId : UInt32) : Event → Bool
  | .sent other (.onLoginFailedAck session _) true => other = player && session = sessionId
  | _ => false

def forwarding (player : Object) (sessionId : UInt32) : Event → Bool
  | .sent (some other) (.loginPacketForward session (.written (.loginNtf _ _))) true =>
    other = player && session = sessionId
  | _ => false

def answering (player : Object) (sessionId : UInt32) (event : Event) : Bool :=
  refusing (some player) sessionId event || forwarding player sessionId event

/-- A gate has been asked for the player, and he has not been refused. -/
def unanswered (context : MasterPlayerContext) : Bool :=
  context.state = .gateAllocReq && !context.finalizing

def early : PlayerState → Bool
  | .none | .onLoginReq | .gateAllocReq | .gateAllocAck | .gateAllocFailAck => true
  | _ => false

def Past (context : MasterPlayerContext) : Prop := context.finalizing = true ∨ early context.state = false

theorem mute_answering (player : Object) (sessionId : UInt32) (other : Option Object) (message : Message)
    (success : Bool) (silent : mute message = true) :
    answering player sessionId (.sent other message success) = false := by
  cases message with
  | onLoginFailedAck => cases silent
  | loginPacketForward => cases silent
  | _ => cases other <;> rfl

theorem failed_answering (player : Object) (sessionId : UInt32) (other : Option Object)
    (message : Message) : answering player sessionId (.sent other message false) = false := by
  cases other with
  | none => cases message <;> rfl
  | some other =>
    cases message with
    | loginPacketForward _ delay =>
      cases delay with
      | written packet => cases packet <;> rfl
      | _ => rfl
    | _ => rfl

theorem past_transition (state next : PlayerState) (event : PlayerEvent) (late : early state = false)
    (reached : transition state event = some next) : early next = false := by
  have rows : ∀ row ∈ initStateMachine state, early row.2 = false := by
    cases state <;> first | decide | cases late
  exact rows _ (transition_mem state next event reached)

theorem early_refused (state : PlayerState) (late : early state = false) :
    (shutdownNeeds state).loginFailedAck = false := by
  cases state <;> first | rfl | cases late

/-- No event since the earlier log answers the login. -/
def Quiet (player : Object) (sessionId : UInt32) (earlier later : List Event) : Prop :=
  ∃ events, later = events ++ earlier ∧ ∀ event ∈ events, answering player sessionId event = false

theorem quiet_refl (player : Object) (sessionId : UInt32) (log : List Event) :
    Quiet player sessionId log log := ⟨[],rfl,by simp⟩

theorem quiet_cons (player : Object) (sessionId : UInt32) (earlier later : List Event) (event : Event)
    (silent : answering player sessionId event = false) (quiet : Quiet player sessionId earlier later) :
    Quiet player sessionId earlier (event :: later) := by
  obtain ⟨events,wrote,none⟩ := quiet
  refine ⟨event :: events,?_,?_⟩
  · rw [wrote,List.cons_append]
  · intro other member
    rcases List.mem_cons.mp member with rfl | before
    · exact silent
    · exact none other before

structure Silent (player : Object) (sessionId : UInt32) (earlier : List Event) (s : Loop) : Prop where
  past : Past (s.contexts player)
  quiet : Quiet player sessionId earlier s.log

section
variable (env : Env) (player : Object) (sessionId : UInt32) (earlier : List Event) (s : Loop)

theorem silent_start (past : Past (s.contexts player)) : Silent player sessionId s.log s :=
  ⟨past,quiet_refl player sessionId s.log⟩

variable (silent : Silent player sessionId earlier s)
include silent

theorem silent_same (t : Loop) (context : t.contexts player = s.contexts player) (log : t.log = s.log) :
    Silent player sessionId earlier t := by
  obtain ⟨past,quiet⟩ := silent
  refine ⟨?_,?_⟩
  · rw [context]
    exact past
  · rw [log]
    exact quiet

theorem update_silent (change : MasterPlayerContext → MasterPlayerContext)
    (past : Past (s.contexts player) → Past (change (s.contexts player))) :
    Silent player sessionId earlier (s.update player change) := by
  refine ⟨?_,silent.quiet⟩
  rw [update_same]
  exact past silent.past

theorem event_silent (event : Event) (quiet : answering player sessionId event = false) (t : Loop)
    (context : t.contexts player = s.contexts player) (log : t.log = event :: s.log) :
    Silent player sessionId earlier t := by
  refine ⟨?_,?_⟩
  · rw [context]
    exact silent.past
  · rw [log]
    exact quiet_cons player sessionId earlier s.log event quiet silent.quiet

theorem send_silent (message : Message) (quiet : mute message = true) :
    Silent player sessionId earlier (send env (some player) message s) :=
  event_silent player sessionId earlier s silent _ (mute_answering player sessionId _ message _ quiet) _ rfl rfl

theorem stateTransition_silent (event : PlayerEvent) :
    Silent player sessionId earlier (stateTransition event player s) := by
  cases reached : reaches event player s with
  | none =>
    rw [stateTransition_none player s event reached]
    exact silent
  | some next =>
    rw [stateTransition_reached player s event next reached]
    apply update_silent player sessionId earlier s silent
    rintro (finalizing | late)
    · exact .inl finalizing
    · exact .inr (past_transition _ next event late reached)

theorem addPlayerToFinalizingQueue_silent :
    Silent player sessionId earlier (addPlayerToFinalizingQueue player s) := by
  have marked := update_silent player sessionId earlier s silent
    (fun context => {context with finalizing := true}) fun _ => .inl rfl
  exact event_silent player sessionId earlier _ marked (.queued player) rfl _ rfl rfl

omit silent in
theorem silent_steps : Steps env player (Silent player sessionId earlier) where
  same s silent t contexts _ log :=
    silent_same player sessionId earlier s silent t (congrFun contexts player) log
  sent s message quiet silent := send_silent env player sessionId earlier s silent message quiet
  moved s event silent := stateTransition_silent player sessionId earlier s silent event
  changed s change spares silent := by
    apply update_silent player sessionId earlier s silent
    rw [Past,Past,spares.finalizing,spares.state]
    exact id
  queued s silent := addPlayerToFinalizingQueue_silent player sessionId earlier s silent

theorem shutdownPlayer_silent : Silent player sessionId earlier (shutdownPlayer env player s) := by
  refine shutdownPlayer_holds env player _ (silent_steps env player sessionId earlier) s silent ?_
  intro active refuses
  have late : early (s.contexts player).state = false :=
    silent.past.resolve_left (by rw [active]; simp)
  rw [early_refused _ late] at refuses
  cases refuses

omit silent in
theorem silent_closed : Closed env player (Silent player sessionId earlier) where
  toSteps := silent_steps env player sessionId earlier
  shut s silent := shutdownPlayer_silent env player sessionId earlier s silent

theorem handlePacket_silent (packet : Packet) :
    Silent player sessionId earlier (handlePacket env player packet s) :=
  handlePacket_holds env player _ (silent_closed env player sessionId earlier) s packet silent
    (fun _ _ t _ silent => update_silent player sessionId earlier t silent _ id)
    fun _ t silent _ => update_silent player sessionId earlier t silent _ id

end

/-- The states in which ShutdownPlayer refuses the login of a player who has a session. -/
def refusable : PlayerState → Bool
  | .gateAllocReq | .gateAllocAck | .gateAllocFailAck => true
  | _ => false

/-- One event since the earlier log answers the login. If it refuses it, the player is queued. -/
structure Settles (player : Object) (sessionId : UInt32) (earlier : List Event) (s : Loop) : Prop where
  past : Past (s.contexts player)
  once : ∃ events, s.log = events ++ earlier ∧ events.countP (answering player sessionId) = 1 ∧
    ((s.contexts player).finalizing = true ∨
      ∀ event ∈ events, refusing (some player) sessionId event = false)

section
variable (env : Env) (player : Object) (sessionId : UInt32) (earlier : List Event) (s : Loop)

theorem quiet_once (middle later : List Event) (event : Event)
    (answers : answering player sessionId event = true)
    (before : Quiet player sessionId earlier middle)
    (after : Quiet player sessionId (event :: middle) later) :
    ∃ events, later = events ++ earlier ∧ events.countP (answering player sessionId) = 1 ∧
      (refusing (some player) sessionId event = false →
        ∀ other ∈ events, refusing (some player) sessionId other = false) := by
  obtain ⟨first,wrote,noneBefore⟩ := before
  obtain ⟨last,wroteAfter,noneAfter⟩ := after
  have nothing (events : List Event) (none : ∀ event ∈ events, answering player sessionId event = false) :
      events.countP (answering player sessionId) = 0 ∧
        ∀ other ∈ events, refusing (some player) sessionId other = false := by
    constructor
    · rw [List.countP_eq_zero]
      intro other member
      rw [none other member]
      exact Bool.false_ne_true
    · intro other member
      have quiet := none other member
      rw [answering,Bool.or_eq_false_iff] at quiet
      exact quiet.1
  refine ⟨last ++ event :: first,?_,?_,fun forwards other member => ?_⟩
  · rw [wroteAfter,wrote,List.append_assoc,List.cons_append]
  · rw [List.countP_append,List.countP_cons_of_pos answers,(nothing last noneAfter).1,
      (nothing first noneBefore).1]
  · rcases List.mem_append.mp member with later | here
    · exact (nothing last noneAfter).2 other later
    · rcases List.mem_cons.mp here with rfl | sooner
      · exact forwards
      · exact (nothing first noneBefore).2 other sooner

theorem shutdownPlayer_settles (active : (s.contexts player).finalizing = false)
    (running : s.shutdownStatus ≠ .readyForShutdown) (state : refusable (s.contexts player).state = true)
    (own : (s.contexts player).sessionId = sessionId) (sent : sends env s = true)
    (quiet : Quiet player sessionId earlier s.log) :
    Settles player sessionId earlier (shutdownPlayer env player s) := by
  let refusal := Event.sent (some player) (.onLoginFailedAck sessionId 3) true
  have ready : isReadyForShutdown s = false := by simpa [isReadyForShutdown] using running
  have wrote : ((shutdownPlayer env player s).contexts player).finalizing = true ∧
      Quiet player sessionId (refusal :: s.log) (shutdownPlayer env player s).log := by
    have release := mute_answering player sessionId (some player)
      (.gateReleaseReq (s.contexts player).gateServerId (s.contexts player).sessionId
        (s.contexts player).accountName) (env.net (s.log.length + 1)) rfl
    have first := quiet_refl player sessionId (refusal :: s.log)
    have told : env.net s.log.length = true := sent
    rw [shutdownPlayer,active]
    cases here : (s.contexts player).state with
    | gateAllocReq =>
      simp [shutdownNeeds,finishShutdown,sendIf,addPlayerToFinalizingQueue,ready,send,own,told]
      rw [own] at release
      exact quiet_cons player sessionId _ _ _ rfl (quiet_cons player sessionId _ _ _ release first)
    | gateAllocAck =>
      simp [shutdownNeeds,finishShutdown,sendIf,addPlayerToFinalizingQueue,ready,send,own,told]
      rw [own] at release
      exact quiet_cons player sessionId _ _ _ rfl (quiet_cons player sessionId _ _ _ release first)
    | gateAllocFailAck =>
      simp [shutdownNeeds,finishShutdown,sendIf,addPlayerToFinalizingQueue,ready,send,own,told]
      exact quiet_cons player sessionId _ _ _ rfl first
    | _ =>
      rw [here] at state
      cases state
  obtain ⟨events,log,once,-⟩ := quiet_once player sessionId earlier s.log _ refusal
    (by simp [refusal,answering,refusing]) quiet wrote.2
  exact ⟨.inl wrote.1,events,log,once,.inl wrote.1⟩

/-- The number of the send by which GateAllocAck refuses the player. -/
def refusalAt (env : Env) (gate : UInt8) (n : Nat) : Nat :=
  if gate = 0 ∨ (env.config.getGateConfigItem gate).isNone then n else if env.net n then n + 2 else n + 1

theorem unanswered_state (context : MasterPlayerContext) (asked : unanswered context = true) :
    context.state = .gateAllocReq ∧ context.finalizing = false := by
  simpa [unanswered] using asked

structure Acked (s : Loop) : Prop where
  state : (s.contexts player).state = .gateAllocAck
  active : (s.contexts player).finalizing = false
  own : (s.contexts player).sessionId = sessionId
  running : s.shutdownStatus ≠ .readyForShutdown

theorem acked_settles (acked : Acked player sessionId s) (sent : sends env s = true)
    (quiet : Quiet player sessionId earlier s.log) :
    Settles player sessionId earlier (shutdownPlayer env player s) :=
  shutdownPlayer_settles env player sessionId earlier s acked.active acked.running (by rw [acked.state]; rfl) acked.own
    sent quiet

theorem forward_settles (gateSessionId : UInt32) (acked : Acked player sessionId s) (serverIp : UInt32)
    (serverPort : UInt16) (delay : s.delay = .written (.loginNtf serverIp serverPort))
    (quiet : Quiet player sessionId earlier s.log) (goes : sends env s = true ∨ env.net (s.log.length + 1) = true) :
    Settles player sessionId earlier (attempt env player (toLogin player)
      (expect env player .gateAllocNtf .gateAllocNtf fun s =>
        loginSession2GateSession player (s.contexts player).sessionId gateSessionId s) s) := by
  let sent := send env (some player) (toLogin player s) s
  have kept : Acked player sessionId sent := ⟨acked.state,acked.active,acked.own,acked.running⟩
  rw [attempt]
  change Settles player sessionId earlier (if sends env s then _ else shutdownPlayer env player sent)
  by_cases forwarded : sends env s = true
  case neg =>
    have failed : env.net s.log.length = false := by simpa [sends] using forwarded
    rw [if_neg forwarded]
    refine acked_settles env player sessionId earlier sent kept (goes.resolve_left forwarded) ?_
    change Quiet player sessionId earlier (.sent (some player) (toLogin player s) (env.net s.log.length) :: s.log)
    rw [failed]
    exact quiet_cons player sessionId _ _ _ (failed_answering player sessionId _ _) quiet
  have next : reaches .gateAllocNtf player sent = some .gateAllocNtf := by
    rw [reaches,kept.state]
    rfl
  rw [if_pos forwarded,expect]
  change Settles player sessionId earlier (if reaches .gateAllocNtf player sent = _ then _ else _)
  rw [if_pos next,stateTransition_reached player sent _ _ next]
  let passed := setState player .gateAllocNtf sent
  have frame := switch_frame player passed (passed.contexts player).sessionId gateSessionId
  have noted : (passed.contexts player).state = .gateAllocNtf := by
    simp only [passed,setState,update_same]
  have late : early ((loginSession2GateSession player (passed.contexts player).sessionId gateSessionId
      passed).contexts player).state = false := by
    rcases frame.own with own | own <;> rw [own,noted] <;> rfl
  have answer : answering player sessionId (.sent (some player) (toLogin player s) (env.net s.log.length)) = true := by
    have goesOut : env.net s.log.length = true := forwarded
    rw [goesOut,toLogin,acked.own,delay]
    simp [answering,refusing,forwarding]
  have passes : refusing (some player) sessionId (.sent (some player) (toLogin player s)
      (env.net s.log.length)) = false := rfl
  obtain ⟨events,wroteAll,once,none⟩ := quiet_once player sessionId earlier s.log _ _ answer quiet
    (quiet_refl player sessionId (.sent (some player) (toLogin player s) (env.net s.log.length) :: s.log))
  exact ⟨.inr late,events,frame.log.trans wroteAll,once,.inr (none passes)⟩

theorem notify_settles (gateSessionId : UInt32) (acked : Acked player sessionId s) (serverIp : UInt32)
    (serverPort : UInt16)
    (goes : env.net s.log.length = true ∧ env.net (s.log.length + 1) = true ∨
      env.net (if env.net s.log.length then s.log.length + 2 else s.log.length + 1) = true) :
    Settles player sessionId s.log (attemptWrite env player (.loginNtf serverIp serverPort)
      (attempt env player (toLogin player) (expect env player .gateAllocNtf .gateAllocNtf fun s =>
        loginSession2GateSession player (s.contexts player).sessionId gateSessionId s)) s) := by
  let written := write env player (.loginNtf serverIp serverPort) s
  have log : written.log = .sent (some player) (.client (.loginNtf serverIp serverPort)) (sends env s) :: s.log := by
    simp only [written,write]
    split <;> rfl
  have length : written.log.length = s.log.length + 1 := congrArg List.length log
  have contexts : written.contexts = s.contexts := write_contexts env player s _
  have kept : Acked player sessionId written := by
    refine ⟨?_,?_,?_,by rw [write_status env player s _]; exact acked.running⟩
    · rw [contexts]
      exact acked.state
    · rw [contexts]
      exact acked.active
    · rw [contexts]
      exact acked.own
  have quiet : Quiet player sessionId s.log written.log := by
    rw [log]
    exact quiet_cons player sessionId s.log s.log _ (mute_answering player sessionId _ _ _ rfl)
      (quiet_refl player sessionId s.log)
  rw [attemptWrite]
  change Settles player sessionId s.log (if sends env s then attempt env player (toLogin player) _ written
    else shutdownPlayer env player written)
  by_cases wrote : sends env s = true
  case neg =>
    have failed : env.net s.log.length = false := by simpa [sends] using wrote
    rw [if_neg wrote]
    refine acked_settles env player sessionId s.log written kept ?_ quiet
    rw [sends,length]
    simpa [failed] using goes
  have delay : written.delay = .written (.loginNtf serverIp serverPort) := by
    simp only [written,write]
    rw [if_pos wrote]
  rw [if_pos wrote]
  refine forward_settles env player sessionId s.log written gateSessionId kept serverIp serverPort delay quiet ?_
  rw [sends] at wrote ⊢
  rw [length]
  rw [wrote,if_pos rfl] at goes
  exact goes.imp And.right id

/-- The answer of a gate is passed on, or the player is refused. -/
theorem gateAllocAck_settles (gate : UInt8) (gateSessionId : UInt32)
    (asked : unanswered (s.contexts player) = true) (running : s.shutdownStatus ≠ .readyForShutdown)
    (own : (s.contexts player).sessionId = sessionId)
    (goes : Switches env player gate s ∨ env.net (refusalAt env gate s.log.length) = true) :
    Settles player sessionId s.log (gateAllocAck env player gate gateSessionId s) := by
  obtain ⟨state,active⟩ := unanswered_state _ asked
  have start := quiet_refl player sessionId s.log
  rw [gateAllocAck]
  by_cases refused : gate = 0
  · have sent : env.net s.log.length = true := by
      rcases goes with switches | goes
      · exact absurd refused switches.accepted
      · rw [refusalAt,if_pos (.inl refused)] at goes
        exact goes
    have reached : reaches .gateAllocFailAck player s = some .gateAllocFailAck := by
      rw [reaches,state]
      rfl
    rw [if_pos refused,stateTransition_reached player s _ _ reached]
    refine shutdownPlayer_settles env player sessionId s.log (setState player .gateAllocFailAck s)
      ?_ running ?_ ?_ sent start
    · rw [setState,update_same]
      exact active
    · rw [setState,update_same]
      rfl
    · rw [setState,update_same]
      exact own
  have reached : reaches .gateAllocAck player s = some .gateAllocAck := by
    rw [reaches,state]
    rfl
  rw [if_neg refused,expect]
  dsimp only
  rw [if_pos reached,stateTransition_reached player s _ _ reached]
  have acked : Acked player sessionId ((setState player .gateAllocAck s).update player fun context =>
      {context with gateServerId := gate}) := by
    refine ⟨?_,?_,?_,running⟩
    all_goals rw [update_same,setState,update_same]
    · exact active
    · exact own
  cases configured : env.config.getGateConfigItem gate with
  | none =>
    refine acked_settles env player sessionId s.log _ acked ?_ start
    rcases goes with switches | goes
    · have known := switches.configured
      rw [configured] at known
      cases known
    · rw [refusalAt,configured,if_pos (.inr rfl)] at goes
      exact goes
  | some item =>
    refine notify_settles env player sessionId _ gateSessionId acked item.serverIp item.serverPort ?_
    rcases goes with switches | goes
    · exact .inl ⟨switches.written,switches.forwarded⟩
    · rw [refusalAt,configured,if_neg (by simp [refused])] at goes
      exact .inr goes

/-- The answer of a gate that comes too late is not passed on as far as LoginNtf. -/
theorem gateAllocAck_silent (gate : UInt8) (gateSessionId : UInt32)
    (silent : Silent player sessionId earlier s)
    (late : (s.contexts player).finalizing = true → ¬ Switches env player gate s) :
    Silent player sessionId earlier (gateAllocAck env player gate gateSessionId s) := by
  have closed := silent_closed env player sessionId earlier
  rw [gateAllocAck]
  by_cases refused : gate = 0
  · rw [if_pos refused]
    exact closed.shut _ (closed.moved s _ silent)
  rw [if_neg refused,expect]
  have moved := closed.moved s .gateAllocAck silent
  dsimp only
  by_cases reached : reaches .gateAllocAck player s = some .gateAllocAck
  case neg =>
    rw [if_neg reached]
    exact closed.shut _ moved
  rw [if_pos reached]
  have state := gateAllocAck_transition _ reached
  have finalizing : (s.contexts player).finalizing = true := by
    rcases silent.past with finalizing | past
    · exact finalizing
    · rw [state] at past
      cases past
  have chosen := closed.changed _ (fun context => {context with gateServerId := gate})
    ⟨rfl,rfl,rfl,rfl,rfl⟩ moved
  generalize choice : (stateTransition .gateAllocAck player s).update player (fun context =>
    {context with gateServerId := gate}) = t at *
  have log : t.log = s.log := by
    rw [← choice,stateTransition_reached player s _ _ reached]
    rfl
  cases configured : env.config.getGateConfigItem gate with
  | none => exact closed.shut _ chosen
  | some item =>
    have written := write_holds env player _ closed t (.loginNtf item.serverIp item.serverPort) chosen
    change Silent player sessionId earlier (if sends env t then attempt env player (toLogin player) _
      (write env player (.loginNtf item.serverIp item.serverPort) t) else _)
    split
    next wrote =>
      rw [attempt]
      have length : (write env player (.loginNtf item.serverIp item.serverPort) t).log.length =
          s.log.length + 1 := by
        rw [← log,write]
        split <;> rfl
      have stays : env.net (s.log.length + 1) = false := by
        by_contra forwarded
        refine late finalizing ⟨refused,state,by rw [configured]; rfl,?_,by simpa using forwarded⟩
        rw [sends,log] at wrote
        exact wrote
      have failed : sends env (write env player (.loginNtf item.serverIp item.serverPort) t) = false := by
        rw [sends,length]
        exact stays
      rw [failed,if_neg Bool.false_ne_true]
      apply closed.shut
      refine event_silent player sessionId earlier _ written _ ?_ _ rfl rfl
      rw [show env.net (write env player (.loginNtf item.serverIp item.serverPort) t).log.length = false
        from failed]
      exact failed_answering player sessionId _ _
    next => exact closed.shut _ written

theorem expect_refuses (event : PlayerEvent) (expected : PlayerState) (next : Loop → Loop)
    (state : (s.contexts player).state = .gateAllocReq) (unknown : transition .gateAllocReq event = none) :
    expect env player event expected next s = shutdownPlayer env player s := by
  have unreached : reaches event player s = none := by
    rw [reaches,state]
    exact unknown
  rw [expect,unreached,stateTransition_none player s event unreached]
  rfl

section
variable (asked : unanswered (s.contexts player) = true)
include asked

theorem onGateLoginReq_refuses : onGateLoginReq env player s = shutdownPlayer env player s := by
  obtain ⟨state,active⟩ := unanswered_state _ asked
  rw [onGateLoginReq,active,if_neg Bool.false_ne_true]
  exact expect_refuses env player s _ _ _ state rfl

theorem onRegionAllocAck_refuses (region : UInt8) (result : Int32) :
    onRegionAllocAck env player region result s = shutdownPlayer env player s := by
  obtain ⟨state,active⟩ := unanswered_state _ asked
  rw [onRegionAllocAck,active,if_neg Bool.false_ne_true]
  exact expect_refuses env player s _ _ _ state rfl

theorem onRegionLeaveReq_refuses : onRegionLeaveReq env player s = shutdownPlayer env player s := by
  obtain ⟨state,active⟩ := unanswered_state _ asked
  have unreached : reaches .onRegionLeaveReq player s = none := by
    rw [reaches,state]
    rfl
  rw [onRegionLeaveReq,if_pos unreached,stateTransition_none player s _ unreached]

theorem handlePacket_refuses (packet : Packet) (reaches : harmless packet = false) :
    ∃ t : Loop, t.contexts = s.contexts ∧ t.log = s.log ∧ t.shutdownStatus = s.shutdownStatus ∧
      handlePacket env player packet s = shutdownPlayer env player t := by
  obtain ⟨state,active⟩ := unanswered_state _ asked
  have refuses (t : Loop) (contexts : t.contexts = s.contexts) (event : PlayerEvent)
      (expected : PlayerState) (next : Loop → Loop) (unknown : transition .gateAllocReq event = none) :
      (if (t.contexts player).finalizing = true then t else expect env player event expected next t) =
        shutdownPlayer env player t := by
    rw [contexts,active]
    refine expect_refuses env player t event expected next ?_ unknown
    rw [contexts]
    exact state
  cases packet with
  | avatarListAck result avatars =>
    exact ⟨holdAvatars avatars s,rfl,rfl,rfl,refuses (holdAvatars avatars s) rfl _ _ _ rfl⟩
  | channelLeaveReq => cases reaches
  | other => cases reaches
  | _ => exact ⟨s,rfl,rfl,rfl,refuses s rfl _ _ _ rfl⟩

end

end

end Fantuan.MasterServer.LoginEvents
