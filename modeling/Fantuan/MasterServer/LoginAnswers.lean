import Mathlib.Data.List.TakeWhile
import Fantuan.MasterServer.IndexRuns
import Fantuan.MasterServer.LoginEvents

/-! The answers to login requests. The session that asked gets one OnLoginFailedAck or one LoginNtf,
unless the request stays with a player for whom no gate is asked.
-/
namespace Fantuan.MasterServer.LoginAnswers
open Lib.Table Lib.Index Lib.Run StarNet.Packet ServerBase.ServerCommon Tool.ObjectPool PlayerFsm
open Context ServerLoop Player Commands PlayerSteps Handlers Effects Logouts Deletion
  Indexes IndexRuns Frames LoginEvents

def asking (player : Object) (sessionId : UInt32) : Event → Bool
  | .sent (some other) (.gateAllocReq _ session _) true => other = player && session = sessionId
  | _ => false

/-- The events since the earlier log, the oldest one first. -/
def since (earlier later : List Event) : List Event := later.reverse.drop earlier.length

/-- The events since the earlier log, up to the player's deletion. -/
def stay (player : Object) (earlier later : List Event) : List Event :=
  (since earlier later).takeWhile fun event => event ≠ .deleted player

def Waits (player : Object) (sessionId : UInt32) (accountName : WString) (s : Loop) : Prop :=
  s.shutdownStatus = .notShutdown ∧ unanswered (s.contexts player) = true ∧
    sessionOf s player = sessionId ∧ find accountName s.playerContextByName = some player

def accepts (accountName : WString) (s : Loop) : Option Object :=
  if s.loginServerContext.isConnected ∧ find accountName s.playerContextByName = none then
    s.playerContextPool.allocate.1
  else none

/-- A request without a player is refused at once. With a player a gate is asked, and the session
still waits for it or has one answer; a refused player is queued until he is deleted. -/
def Answered (sessionId : UInt32) (accountName : WString) (s t u : Loop) : Prop :=
  let refused := (since s.log t.log).countP (refusing none sessionId)
  match accepts accountName s with
  | none => refused = 1
  | some player =>
    let events := stay player s.log u.log
    refused = 0 ∧ events.any (asking player sessionId) = true ∧
      (Waits player sessionId accountName u ∧ .deleted player ∉ since s.log u.log ∧
          events.countP (answering player sessionId) = 0 ∨
        events.countP (answering player sessionId) = 1 ∧
          (events.any (refusing (some player) sessionId) = true →
            player ∈ u.finalizingQueue ∨ .deleted player ∈ since s.log u.log))

/-- If ShutdownPlayer refuses the player, the refusal goes out. -/
def Refusable (env : Env) (s : Loop) (player : Object) : Prop :=
  unanswered (s.contexts player) = true → sends env s = true

/-- The answer of a gate comes for a player who is not refused yet, and is passed on or refused. -/
def Acked (env : Env) (gate : UInt8) (s : Loop) (player : Object) : Prop :=
  (unanswered (s.contexts player) = true →
    Switches env player gate s ∨ env.net (refusalAt env gate s.log.length) = true) ∧
  ((s.contexts player).finalizing = true → ¬ Switches env player gate s)

/-- The refusals of a login request go out, or a gate has room and gets the request. -/
def fineLogin (env : Env) (accountName : WString) (s : Loop) : Bool :=
  if s.loginServerContext.isConnected then
    match find accountName s.playerContextByName with
    | some player => sends env s && (!unanswered (s.contexts player) || env.net (s.log.length + 1))
    | none =>
      if s.playerContextPool.allocate.1.isSome then
        (ServerLoop.gateAllocReq s).1.isSome && env.net (s.log.length + 1)
      else sends env s
  else sends env s

def FineCommand (env : Env) (s : Loop) : Command → Prop
  | .shutdown => Guarded (fun s player => shutdownPlayer env player s) (Refusable env)
      {s with shutdownStatus := .startShutdown} (values s.playerContextByName)
  | .onLoginReq _ accountName => fineLogin env accountName s = true
  | .gateAllocAck gate loginSessionId accountName _ =>
    ∀ player ∈ find accountName s.playerContextByName, sessionOf s player = loginSessionId →
      Acked env gate s player
  | .onGateLoginReq sessionId | .onRegionAllocAck sessionId _ _ | .onRegionLeaveReq sessionId
  | .onSessionDisconnect sessionId =>
    ∀ player ∈ find sessionId s.playerContextBySessionId, Refusable env s player
  | .onRegionPlayerFailReq sessionId =>
    ∀ player ∈ find sessionId s.playerContextBySessionId, unanswered (s.contexts player) = false
  | .packetForward sessionId typeId data =>
    ∀ player ∈ find sessionId s.playerContextBySessionId,
      harmless (env.onPacketReceived typeId data) = false → Refusable env s player
  | .onLoginReport _ | .onGateReport _ _ | .other => True

/-- A gate is there for every player and gets its request, refusals go out, no player is queued or
passed on without a refusal or after it, and every pass finds at most one player to delete. -/
def Fine (env : Env) (s : Loop) : Action → Prop
  | .command command => s.shutdownStatus = .notShutdown → FineCommand env s command
  | .pass => s.finalizingQueue.length ≤ 1

instance (env : Env) (s : Loop) (player : Object) : Decidable (Refusable env s player) :=
  inferInstanceAs (Decidable (_ → _))

instance (env : Env) (gate : UInt8) (s : Loop) (player : Object) : Decidable (Acked env gate s player) :=
  inferInstanceAs (Decidable ((_ → _ ∨ _) ∧ (_ → ¬ _)))

instance (env : Env) (s : Loop) : DecidablePred (FineCommand env s)
  | .shutdown => inferInstanceAs (Decidable (Guarded _ _ _ _))
  | .onLoginReq _ _ => inferInstanceAs (Decidable (_ = true))
  | .gateAllocAck _ _ _ _ => inferInstanceAs (Decidable (∀ player ∈ find _ _, _ → Acked _ _ _ player))
  | .onGateLoginReq _ | .onRegionAllocAck _ _ _ | .onRegionLeaveReq _ | .onSessionDisconnect _ =>
    inferInstanceAs (Decidable (∀ player ∈ find _ _, Refusable _ _ player))
  | .onRegionPlayerFailReq _ => inferInstanceAs (Decidable (∀ player ∈ find _ _, _ = false))
  | .packetForward _ _ _ => inferInstanceAs (Decidable (∀ player ∈ find _ _, _ = false → Refusable _ _ player))
  | .onLoginReport _ | .onGateReport _ _ | .other => inferInstanceAs (Decidable True)

instance (env : Env) (s : Loop) : DecidablePred (Fine env s)
  | .command _ => inferInstanceAs (Decidable (_ → _))
  | .pass => inferInstanceAs (Decidable (_ ≤ 1))

/-- The player got the login request, and one of his states is on the way to its answer. -/
structure Staying (player : Object) (sessionId : UInt32) (accountName : WString) (earlier : List Event)
    (s : Loop) : Prop where
  live : Live s player
  accountName : (s.contexts player).accountName = accountName
  events : ∃ events, s.log = events ++ earlier ∧ .deleted player ∉ events ∧
    events.any (asking player sessionId) = true ∧
    (unanswered (s.contexts player) = true ∧ sessionOf s player = sessionId ∧
        events.countP (answering player sessionId) = 0 ∨
      Past (s.contexts player) ∧ events.countP (answering player sessionId) = 1 ∧
        ((s.contexts player).finalizing = true ∨
          ∀ event ∈ events, refusing (some player) sessionId event = false))

/-- The player was answered once before he was deleted. -/
def Gone (player : Object) (sessionId : UInt32) (earlier later : List Event) : Prop :=
  ∃ after events, later = after ++ .deleted player :: (events ++ earlier) ∧ .deleted player ∉ events ∧
    events.any (asking player sessionId) = true ∧ events.countP (answering player sessionId) = 1

inductive Track (player : Object) (sessionId : UInt32) (accountName : WString) (earlier : List Event)
    (s : Loop) : Prop
  | staying (stays : Staying player sessionId accountName earlier s)
      (opened : unanswered (s.contexts player) = true → s.shutdownStatus = .notShutdown)
  | gone (answered : Gone player sessionId earlier s.log)

section
variable (env : Env) (player : Object) (sessionId : UInt32) (accountName : WString) (earlier : List Event)

theorem gone_append (later events : List Event) (gone : Gone player sessionId earlier later) :
    Gone player sessionId earlier (events ++ later) := by
  obtain ⟨after,stay,wrote,rest⟩ := gone
  refine ⟨events ++ after,stay,?_,rest⟩
  rw [wrote,List.append_assoc]

theorem about_other (other : Object) (event : Event) (different : player ≠ other)
    (owned : about other event) :
    event ≠ .deleted player ∧ answering player sessionId event = false := by
  cases event with
  | allocated => cases owned
  | deleted => cases owned
  | queued => exact ⟨by simp,rfl⟩
  | sent someone message success =>
    refine ⟨by simp,?_⟩
    obtain rfl := owned
    cases success with
    | false => exact failed_answering player sessionId _ _
    | true =>
      cases message with
      | onLoginFailedAck session => simp [answering,refusing,forwarding,Ne.symm different]
      | loginPacketForward session delay =>
        cases delay with
        | written packet =>
          cases packet with
          | loginNtf => simp [answering,refusing,forwarding,Ne.symm different]
          | _ => rfl
        | _ => rfl
      | _ => rfl

theorem about_stays (event : Event) (owned : about player event) : event ≠ .deleted player := by
  rintro rfl
  exact owned

theorem quiet_staying (s t : Loop) (live : Live t player)
    (name : (t.contexts player).accountName = (s.contexts player).accountName)
    (log : ∃ events, t.log = events ++ s.log ∧ ∀ event ∈ events, event ≠ .deleted player ∧
      answering player sessionId event = false)
    (phase : t.contexts player = s.contexts player ∨
      Past (s.contexts player) ∧ Past (t.contexts player) ∧
        ((s.contexts player).finalizing = true → (t.contexts player).finalizing = true))
    (stays : Staying player sessionId accountName earlier s) :
    Staying player sessionId accountName earlier t := by
  obtain ⟨-,named,before,wroteBefore,staysBefore,asked,answered⟩ := stays
  obtain ⟨more,wrote,quiet⟩ := log
  have none : more.countP (answering player sessionId) = 0 := by
    rw [List.countP_eq_zero]
    intro event member
    rw [(quiet event member).2]
    exact Bool.false_ne_true
  have unrefused : ∀ event ∈ more, refusing (some player) sessionId event = false := by
    intro event member
    have silent := (quiet event member).2
    rw [answering,Bool.or_eq_false_iff] at silent
    exact silent.1
  refine ⟨live,name.trans named,more ++ before,?_,?_,?_,?_⟩
  · rw [wrote,wroteBefore,List.append_assoc]
  · intro member
    rcases List.mem_append.mp member with new | old
    · exact (quiet _ new).1 rfl
    · exact staysBefore old
  · rw [List.any_append,asked,Bool.or_true]
  · rw [List.countP_append,none,Nat.zero_add]
    have refusals (old : ∀ event ∈ before, refusing (some player) sessionId event = false) :
        ∀ event ∈ more ++ before, refusing (some player) sessionId event = false := by
      intro event member
      exact (List.mem_append.mp member).elim (unrefused event) (old event)
    rcases phase with same | ⟨past,pastAfter,kept⟩
    · rw [sessionOf,same]
      rcases answered with waits | ⟨past,once,either⟩
      · exact .inl waits
      · exact .inr ⟨past,once,either.imp id refusals⟩
    · rcases answered with ⟨waits,-,-⟩ | ⟨-,once,either⟩
      · obtain ⟨state,active⟩ := unanswered_state _ waits
        rcases past with finalizing | late
        · rw [active] at finalizing
          cases finalizing
        · rw [state] at late
          cases late
      · exact .inr ⟨pastAfter,once,either.imp kept refusals⟩

theorem settled_staying (s t : Loop) (live : Live t player)
    (name : (t.contexts player).accountName = (s.contexts player).accountName)
    (log : ∃ events, t.log = events ++ s.log ∧ ∀ event ∈ events, event ≠ .deleted player)
    (waits : unanswered (s.contexts player) = true) (settles : Settles player sessionId s.log t)
    (stays : Staying player sessionId accountName earlier s) :
    Staying player sessionId accountName earlier t := by
  obtain ⟨-,named,before,wroteBefore,staysBefore,asked,answered⟩ := stays
  obtain ⟨more,wrote,alive⟩ := log
  obtain ⟨past,events,wroteAgain,once,either⟩ := settles
  obtain rfl : more = events := List.append_cancel_right (wrote.symm.trans wroteAgain)
  have none : before.countP (answering player sessionId) = 0 := by
    rcases answered with ⟨-,-,none⟩ | ⟨past,-,-⟩
    · exact none
    · obtain ⟨state,active⟩ := unanswered_state _ waits
      rcases past with finalizing | late
      · rw [active] at finalizing
        cases finalizing
      · rw [state] at late
        cases late
  refine ⟨live,name.trans named,more ++ before,?_,?_,?_,.inr ⟨past,?_,?_⟩⟩
  · rw [wrote,wroteBefore,List.append_assoc]
  · intro member
    rcases List.mem_append.mp member with new | old
    · exact alive _ new rfl
    · exact staysBefore old
  · rw [List.any_append,asked,Bool.or_true]
  · rw [List.countP_append,once,none]
  · refine either.imp id fun unrefused event member => ?_
    rcases List.mem_append.mp member with new | old
    · exact unrefused event new
    · have silent := List.countP_eq_zero.mp none event old
      rw [Bool.not_eq_true,answering,Bool.or_eq_false_iff] at silent
      exact silent.1

/-- What a handler does to the player himself: it is silent about him once he is answered, and
before that it leaves him or settles him. -/
structure Deals (s t : Loop) : Prop where
  past : Past (s.contexts player) → Silent player sessionId s.log t
  waits : unanswered (s.contexts player) = true → sessionOf s player = sessionId →
    t.contexts player = s.contexts player ∧ Quiet player sessionId s.log t.log ∨
      Settles player sessionId s.log t

theorem owned_staying (s t : Loop) (pool : t.playerContextPool = s.playerContextPool)
    (name : (t.contexts player).accountName = (s.contexts player).accountName)
    (kept : (s.contexts player).finalizing = true → (t.contexts player).finalizing = true)
    (log : ∃ events, t.log = events ++ s.log ∧ ∀ event ∈ events, about player event)
    (deals : Deals player sessionId s t) (stays : Staying player sessionId accountName earlier s) :
    Staying player sessionId accountName earlier t := by
  obtain ⟨more,wrote,owned⟩ := log
  have live := (live_same s t pool player).mpr stays.live
  have alive : ∀ event ∈ more, event ≠ .deleted player := fun event member =>
    about_stays player event (owned event member)
  have silent (quiet : Quiet player sessionId s.log t.log) : ∃ events, t.log = events ++ s.log ∧
      ∀ event ∈ events, event ≠ .deleted player ∧ answering player sessionId event = false := by
    obtain ⟨events,wroteAgain,none⟩ := quiet
    obtain rfl : more = events := List.append_cancel_right (wrote.symm.trans wroteAgain)
    exact ⟨more,wrote,fun event member => ⟨alive event member,none event member⟩⟩
  obtain ⟨_,-,-,-,answered⟩ := stays.events
  rcases answered with ⟨waits,own,-⟩ | ⟨past,-,-⟩
  · rcases deals.waits waits own with ⟨same,quiet⟩ | settles
    · exact quiet_staying player sessionId accountName earlier s t live name (silent quiet) (.inl same) stays
    · exact settled_staying player sessionId accountName earlier s t live name ⟨more,wrote,alive⟩ waits
        settles stays
  · have still := deals.past past
    exact quiet_staying player sessionId accountName earlier s t live name (silent still.quiet)
      (.inr ⟨past,still.past,kept⟩) stays

/-- What a handler for one player leaves of the players, also where it gives him a new session. -/
structure Turn (other : Object) (s t : Loop) : Prop where
  status : t.shutdownStatus = s.shutdownStatus
  pool : t.playerContextPool = s.playerContextPool
  others : ∀ another, another ≠ other → t.contexts another = s.contexts another
  accountName : (t.contexts other).accountName = (s.contexts other).accountName
  kept : (s.contexts other).finalizing = true → (t.contexts other).finalizing = true
  log : ∃ events, t.log = events ++ s.log ∧ ∀ event ∈ events, about other event

theorem frame_turn (other : Object) (s t : Loop) (frame : Frame other s t) : Turn other s t :=
  ⟨frame.status,frame.pool,frame.others,frame.accountName,frame.kept,frame.log⟩

theorem switch_turn (other : Object) (s : Loop) (loginSessionId gateSessionId : UInt32) :
    Turn other s (loginSession2GateSession other loginSessionId gateSessionId s) := by
  have frame := switch_frame other s loginSessionId gateSessionId
  refine ⟨?_,frame.pool,frame.others,?_,?_,[],frame.log,by simp⟩
  · rw [loginSession2GateSession]
    dsimp only
    split
    · rfl
    · split <;> rfl
  · rcases frame.own with own | own <;> rw [own]
  · rcases frame.own with own | own <;> rw [own] <;> exact id

theorem turn_trans (other : Object) (s t u : Loop) (first : Turn other s t) (second : Turn other t u) :
    Turn other s u := by
  obtain ⟨earlier,wrote,owned⟩ := first.log
  obtain ⟨later,wroteLater,ownedLater⟩ := second.log
  refine ⟨second.status.trans first.status,second.pool.trans first.pool,
    fun another different => (second.others another different).trans (first.others another different),
    second.accountName.trans first.accountName,fun finalizing => second.kept (first.kept finalizing),
    later ++ earlier,?_,?_⟩
  · rw [wroteLater,wrote,List.append_assoc]
  · intro event member
    exact (List.mem_append.mp member).elim (ownedLater event) (owned event)

theorem gateAllocAck_turn (env : Env) (other : Object) (s : Loop) (gate : UInt8) (gateSessionId : UInt32)
    (running : s.shutdownStatus ≠ .readyForShutdown) :
    Turn other s (gateAllocAck env other gate gateSessionId s) := by
  rcases gateAllocAck_does env False other s gate gateSessionId ⟨False.elim,running⟩ with
    does | ⟨-,t,does,-,switched⟩
  · exact frame_turn other s _ (does_frame env False other s _ does)
  · rw [switched]
    refine turn_trans other s _ _ (frame_turn other s _ ?_) (switch_turn other _ _ _)
    exact frame_trans other s t _ (does_frame env False other s t does) (setState_frame other t _)

theorem handled_staying (other : Object) (s t : Loop) (turn : Turn other s t)
    (deals : other = player → Deals player sessionId s t)
    (stays : Staying player sessionId accountName earlier s) :
    Staying player sessionId accountName earlier t := by
  by_cases same : other = player
  · subst other
    exact owned_staying player sessionId accountName earlier s t turn.pool turn.accountName turn.kept
      turn.log (deals rfl) stays
  · have context := turn.others player (Ne.symm same)
    obtain ⟨events,wrote,owned⟩ := turn.log
    refine quiet_staying player sessionId accountName earlier s t
      ((live_same s t turn.pool player).mpr stays.live) (by rw [context]) ⟨events,wrote,?_⟩ (.inl context)
      stays
    intro event member
    exact about_other player sessionId other event (Ne.symm same) (owned event member)

theorem handled_track (other : Object) (s t : Loop) (turn : Turn other s t)
    (opened : s.shutdownStatus = .notShutdown) (deals : other = player → Deals player sessionId s t)
    (track : Track player sessionId accountName earlier s) :
    Track player sessionId accountName earlier t := by
  cases track with
  | staying stays =>
    refine .staying (handled_staying player sessionId accountName earlier other s t turn deals stays) ?_
    rw [turn.status]
    exact fun _ => opened
  | gone answered =>
    obtain ⟨events,wrote,-⟩ := turn.log
    refine .gone ?_
    rw [wrote]
    exact gone_append player sessionId earlier s.log events answered

theorem shutdown_deals (s t u : Loop) (past : Past (s.contexts player) → Silent player sessionId s.log t)
    (refuses : unanswered (s.contexts player) = true → u.contexts = s.contexts ∧ u.log = s.log ∧
      u.shutdownStatus = s.shutdownStatus ∧ t = shutdownPlayer env player u)
    (running : s.shutdownStatus ≠ .readyForShutdown) (refusable : Refusable env s player) :
    Deals player sessionId s t := by
  refine ⟨past,fun waits own => .inr ?_⟩
  obtain ⟨contexts,log,status,rfl⟩ := refuses waits
  obtain ⟨state,active⟩ := unanswered_state _ waits
  apply shutdownPlayer_settles env player sessionId s.log u
  · rw [contexts,active]
  · rw [status]
    exact running
  · rw [contexts,state]
    rfl
  · rw [contexts]
    exact own
  · rw [sends,log]
    exact refusable waits
  · rw [log]
    exact quiet_refl player sessionId s.log

theorem shutdownPlayer_deals (s : Loop) (running : s.shutdownStatus ≠ .readyForShutdown)
    (refusable : Refusable env s player) : Deals player sessionId s (shutdownPlayer env player s) :=
  shutdown_deals env player sessionId s _ s
    (fun past => shutdownPlayer_silent env player sessionId s.log s (silent_start player sessionId s past))
    (fun _ => ⟨rfl,rfl,rfl,rfl⟩) running refusable

/-- A step that is not about the player. -/
theorem aside_track (s t : Loop) (opened : s.shutdownStatus = .notShutdown → t.shutdownStatus = .notShutdown)
    (live : Live s player → Live t player)
    (context : Live s player → t.contexts player = s.contexts player)
    (log : ∃ events, t.log = events ++ s.log ∧ (Live s player → ∀ event ∈ events,
      event ≠ .deleted player ∧ answering player sessionId event = false))
    (track : Track player sessionId accountName earlier s) :
    Track player sessionId accountName earlier t := by
  obtain ⟨events,wrote,quiet⟩ := log
  cases track with
  | staying stays running =>
    have same := context stays.live
    refine .staying (quiet_staying player sessionId accountName earlier s t (live stays.live) (by rw [same])
      ⟨events,wrote,quiet stays.live⟩ (.inl same) stays) ?_
    rw [same]
    exact fun waits => opened (running waits)
  | gone answered =>
    refine .gone ?_
    rw [wrote]
    exact gone_append player sessionId earlier s.log events answered

theorem forSession_track (s : Loop) (session : UInt32) (handle : Object → Loop → Loop)
    (opened : s.shutdownStatus = .notShutdown) (does : ∀ other, Does env False other s (handle other s))
    (deals : find session s.playerContextBySessionId = some player →
      Deals player sessionId s (handle player s))
    (track : Track player sessionId accountName earlier s) :
    Track player sessionId accountName earlier (forSession session handle s) := by
  rw [forSession]
  split
  next other found =>
    refine handled_track player sessionId accountName earlier other s _
      (frame_turn other s _ (does_frame env False other s _ (does other))) opened ?_ track
    rintro rfl
    exact deals found
  · exact track

theorem past_answered (context : MasterPlayerContext) (past : Past context) : unanswered context = false := by
  by_contra waits
  obtain ⟨state,active⟩ := unanswered_state context (by simpa using waits)
  rcases past with finalizing | late
  · rw [active] at finalizing
    cases finalizing
  · rw [state] at late
    cases late

theorem stays_past (s : Loop) (stays : Staying player sessionId accountName earlier s) :
    unanswered (s.contexts player) = true ∧ sessionOf s player = sessionId ∨ Past (s.contexts player) := by
  obtain ⟨_,-,-,-,answered⟩ := stays.events
  rcases answered with ⟨waits,own,-⟩ | ⟨past,-,-⟩
  · exact .inl ⟨waits,own⟩
  · exact .inr past

theorem shutdowns_staying (players : List Object) (s : Loop)
    (running : s.shutdownStatus ≠ .readyForShutdown)
    (refusable : Guarded (fun s player => shutdownPlayer env player s) (Refusable env) s players)
    (stays : Staying player sessionId accountName earlier s)
    (reached : Past (s.contexts player) ∨ player ∈ players) :
    let t := players.foldl (fun s player => shutdownPlayer env player s) s
    Staying player sessionId accountName earlier t ∧ Past (t.contexts player) := by
  induction players generalizing s with
  | nil => exact ⟨stays,reached.resolve_right (by simp)⟩
  | cons other players ih =>
    obtain ⟨first,rest⟩ := refusable
    have turn := frame_turn other s _ (shutdownPlayer_frame env other s running)
    have deals : other = player → Deals player sessionId s (shutdownPlayer env other s) := by
      rintro rfl
      exact shutdownPlayer_deals env other sessionId s running first
    have after := handled_staying player sessionId accountName earlier other s _ turn deals stays
    rw [List.foldl_cons]
    refine ih _ ?_ rest after ?_
    · rw [turn.status]
      exact running
    · by_cases same : other = player
      · left
        have mine := deals same
        rcases stays_past player sessionId accountName earlier s stays with ⟨waits,own⟩ | past
        · obtain ⟨state,active⟩ := unanswered_state _ waits
          subst other
          exact (shutdownPlayer_settles env player sessionId s.log s active running (by rw [state]; rfl) own
            (first waits) (quiet_refl player sessionId s.log)).past
        · exact (mine.past past).past
      · rw [turn.others player (Ne.symm same)]
        exact reached.imp id fun member =>
          (List.mem_cons.mp member).resolve_left (Ne.symm same)

theorem shutdowns_log (players : List Object) (s : Loop) (running : s.shutdownStatus ≠ .readyForShutdown) :
    ∃ events, (players.foldl (fun s player => shutdownPlayer env player s) s).log = events ++ s.log := by
  induction players generalizing s with
  | nil => exact ⟨[],rfl⟩
  | cons other players ih =>
    have frame := shutdownPlayer_frame env other s running
    obtain ⟨first,wrote,-⟩ := frame.log
    obtain ⟨later,wroteLater⟩ := ih (shutdownPlayer env other s) (by rw [frame.status]; exact running)
    refine ⟨later ++ first,?_⟩
    rw [List.foldl_cons,wroteLater,wrote,List.append_assoc]

theorem onCommandShutdown_track (s : Loop) (listed : Listed s) (fine : FineCommand env s .shutdown)
    (track : Track player sessionId accountName earlier s) :
    Track player sessionId accountName earlier (onCommandShutdown env s) := by
  rw [onCommandShutdown]
  cases track with
  | staying stays =>
    have started : Staying player sessionId accountName earlier {s with shutdownStatus := .startShutdown} :=
      ⟨stays.live,stays.accountName,stays.events⟩
    have named : player ∈ values s.playerContextByName :=
      (mem_values _ _).mpr ⟨_,indexes_found listed.names player stays.live⟩
    obtain ⟨after,past⟩ := shutdowns_staying env player sessionId accountName earlier _ _ (by simp) fine started
      (.inr named)
    refine .staying after fun waits => ?_
    rw [past_answered _ past] at waits
    cases waits
  | gone answered =>
    obtain ⟨events,wrote⟩ := shutdowns_log env (values s.playerContextByName)
      {s with shutdownStatus := .startShutdown} (by simp)
    refine .gone ?_
    rw [wrote]
    exact gone_append player sessionId earlier s.log events answered

theorem onCommandGateAllocAck_track (s : Loop) (gate : UInt8) (loginSessionId : UInt32) (name : WString)
    (gateSessionId : UInt32) (opened : s.shutdownStatus = .notShutdown)
    (fine : FineCommand env s (.gateAllocAck gate loginSessionId name gateSessionId))
    (track : Track player sessionId accountName earlier s) :
    Track player sessionId accountName earlier
      (onCommandGateAllocAck env gate loginSessionId name gateSessionId s) := by
  have running : s.shutdownStatus ≠ .readyForShutdown := by
    rw [opened]
    simp
  rw [onCommandGateAllocAck]
  split
  next other found =>
    split
    next same =>
      obtain ⟨goes,late⟩ := fine other found same
      refine handled_track player sessionId accountName earlier other s _
        (gateAllocAck_turn env other s gate gateSessionId running) opened ?_ track
      rintro rfl
      refine ⟨fun past => ?_,fun waits own => .inr ?_⟩
      · exact gateAllocAck_silent env other sessionId s.log s gate gateSessionId
          (silent_start other sessionId s past) late
      · exact gateAllocAck_settles env other sessionId s gate gateSessionId waits running own (goes waits)
    · exact track
  · exact track

theorem told_track (s : Loop) (message : Message) (track : Track player sessionId accountName earlier s) :
    Track player sessionId accountName earlier (send env none message s) := by
  refine aside_track player sessionId accountName earlier s _ id id (fun _ => rfl) ⟨[_],rfl,?_⟩ track
  intro _ event member
  obtain rfl := List.mem_singleton.mp member
  refine ⟨by simp,?_⟩
  cases sent : env.net s.log.length with
  | false => exact failed_answering player sessionId none message
  | true =>
    cases message with
    | onLoginFailedAck => simp [answering,refusing,forwarding]
    | _ => rfl

theorem onCommandOnLoginReq_track (s : Loop) (session : UInt32) (name : WString) (listed : Listed s)
    (opened : s.shutdownStatus = .notShutdown) (fine : FineCommand env s (.onLoginReq session name))
    (track : Track player sessionId accountName earlier s) :
    Track player sessionId accountName earlier (onCommandOnLoginReq env session name s) := by
  have running : s.shutdownStatus ≠ .readyForShutdown := by
    rw [opened]
    simp
  have told := told_track env player sessionId accountName earlier s
  change fineLogin env name s = true at fine
  rw [fineLogin] at fine
  rw [onCommandOnLoginReq]
  cases connected : s.loginServerContext.isConnected with
  | false => exact told _ track
  | true =>
    rw [connected,if_pos rfl] at fine
    rw [Bool.not_true,if_neg Bool.false_ne_true]
    cases found : find name s.playerContextByName with
    | some other =>
      rw [found] at fine
      let refused := send env none (.onLoginFailedAck session 2) s
      refine handled_track player sessionId accountName earlier other refused _
        (frame_turn other refused _ (shutdownPlayer_frame env other refused running)) opened ?_ (told _ track)
      rintro rfl
      apply shutdownPlayer_deals env other sessionId refused running
      intro waits
      have goes := (Bool.and_eq_true _ _ ▸ fine).2
      change unanswered (s.contexts other) = true at waits
      rw [waits,Bool.not_true,Bool.false_or] at goes
      exact goes
    | none =>
      cases allocated : s.playerContextPool.allocate with
      | mk taken pool =>
        cases taken with
        | none => exact told _ track
        | some other =>
          obtain ⟨-,unheld,held⟩ := allocate_sound _ _ _ listed.pool allocated
          have dead : ¬ Live s other := unheld
          let joined := named other session name (placed other pool session name s)
          have turn : Turn other joined (onLoginReq env other session name (placed other pool session name s)) := by
            refine frame_turn other _ _ (does_frame env False other _ _ ?_)
            refine onLoginReq_does env False other _ session name ?_ running
            change (s.contexts other).state = .none
            rw [listed.cleared other dead]
            rfl
          cases track with
          | staying stays =>
            have different : player ≠ other := by
              rintro rfl
              exact dead stays.live
            refine handled_track player sessionId accountName earlier other joined _ turn opened
              (fun same => absurd same.symm different) ?_
            refine aside_track player sessionId accountName earlier s joined id
              (fun alive => (held player).mpr (.inl alive)) (fun _ => ?_)
              ⟨[.allocated other],rfl,fun _ event member => ?_⟩ (.staying stays fun _ => opened)
            · simp only [joined]
              rw [named,update_other _ other player _ different,setState,update_other _ other player _ different]
              rfl
            · obtain rfl := List.mem_singleton.mp member
              exact ⟨by simp,rfl⟩
          | gone answered =>
            obtain ⟨events,wrote,-⟩ := turn.log
            refine .gone ?_
            dsimp only
            change Gone player sessionId earlier
              (onLoginReq env other session name (placed other pool session name s)).log
            rw [wrote]
            apply gone_append
            exact gone_append player sessionId earlier s.log [.allocated other] answered

theorem onCommand_track (s : Loop) (command : Command) (listed : Listed s)
    (fine : Fine env s (.command command)) (track : Track player sessionId accountName earlier s) :
    Track player sessionId accountName earlier (onCommand env command s) := by
  rw [onCommand.eq_def]
  split
  · exact track
  next opened =>
    have opened : s.shutdownStatus = .notShutdown := not_not.mp opened
    have running : s.shutdownStatus ≠ .readyForShutdown := by
      rw [opened]
      simp
    have fine := fine opened
    have silent (past : Past (s.contexts player)) := silent_start player sessionId s past
    have closed := silent_closed env player sessionId s.log
    cases command with
    | shutdown => exact onCommandShutdown_track env player sessionId accountName earlier s listed fine track
    | onLoginReport =>
      exact aside_track player sessionId accountName earlier s _ id id (fun _ => rfl) ⟨[],rfl,by simp⟩ track
    | onGateReport serverId sessionCount =>
      dsimp only [onCommandOnGateReport]
      split
      · exact aside_track player sessionId accountName earlier s _ id id (fun _ => rfl) ⟨[],rfl,by simp⟩ track
      · exact aside_track player sessionId accountName earlier s _ id id (fun _ => rfl) ⟨[],rfl,by simp⟩ track
    | onLoginReq session name =>
      exact onCommandOnLoginReq_track env player sessionId accountName earlier s session name listed opened
        fine track
    | gateAllocAck gate loginSessionId name gateSessionId =>
      exact onCommandGateAllocAck_track env player sessionId accountName earlier s gate loginSessionId name
        gateSessionId opened fine track
    | onGateLoginReq session =>
      refine forSession_track env player sessionId accountName earlier s session _ opened
        (fun other => onGateLoginReq_does env False other s ⟨False.elim,running⟩) (fun found => ?_) track
      refine shutdown_deals env player sessionId s _ s (fun past => ?_) (fun waits => ?_) running
        (fine player found)
      · exact onGateLoginReq_holds env player _ closed s (silent past)
      · exact ⟨rfl,rfl,rfl,onGateLoginReq_refuses env player s waits⟩
    | onRegionAllocAck session region result =>
      refine forSession_track env player sessionId accountName earlier s session _ opened
        (fun other => onRegionAllocAck_does env False other s region result ⟨False.elim,running⟩)
        (fun found => ?_) track
      refine shutdown_deals env player sessionId s _ s (fun past => ?_) (fun waits => ?_) running
        (fine player found)
      · exact onRegionAllocAck_holds env player _ closed s region result (silent past)
      · exact ⟨rfl,rfl,rfl,onRegionAllocAck_refuses env player s waits region result⟩
    | onRegionLeaveReq session =>
      refine forSession_track env player sessionId accountName earlier s session _ opened
        (fun other => onRegionLeaveReq_does env False other s running) (fun found => ?_) track
      refine shutdown_deals env player sessionId s _ s (fun past => ?_) (fun waits => ?_) running
        (fine player found)
      · exact onRegionLeaveReq_holds env player _ closed s (silent past)
      · exact ⟨rfl,rfl,rfl,onRegionLeaveReq_refuses env player s waits⟩
    | onRegionPlayerFailReq session =>
      refine forSession_track env player sessionId accountName earlier s session _ opened
        (fun other => onRegionPlayerFailReq_does env False other s) (fun found => ?_) track
      refine ⟨fun past => ?_,fun waits => ?_⟩
      · exact onRegionPlayerFailReq_holds env player _ closed s (silent past)
      · rw [fine player found] at waits
        cases waits
    | onSessionDisconnect session =>
      refine forSession_track env player sessionId accountName earlier s session _ opened
        (fun other => shutdownPlayer_does env False other s ⟨False.elim,running⟩) (fun found => ?_) track
      exact shutdownPlayer_deals env player sessionId s running (fine player found)
    | packetForward session typeId data =>
      have delayed (other : Object) : Does env False other s (delaySendData typeId data s) :=
        .single (.note s (.received typeId data) (s.undefined || maxInputBuffer < data.length))
      refine forSession_track env player sessionId accountName earlier s session _ opened
        (fun other => (delayed other).trans (handlePacket_does env False other _ _ ⟨False.elim,running⟩))
        (fun found => ?_) track
      have past (past : Past (s.contexts player)) := handlePacket_silent env player sessionId s.log
        (delaySendData typeId data s) ⟨past,quiet_refl player sessionId s.log⟩
        (env.onPacketReceived typeId data)
      cases reaches : harmless (env.onPacketReceived typeId data) with
      | true =>
        refine ⟨past,fun waits own => .inl ?_⟩
        cases packet : env.onPacketReceived typeId data with
        | channelLeaveReq => exact ⟨rfl,quiet_refl player sessionId s.log⟩
        | other => exact ⟨rfl,quiet_refl player sessionId s.log⟩
        | _ => simp [packet,harmless] at reaches
      | false =>
        by_cases waits : unanswered (s.contexts player) = true
        · obtain ⟨u,contexts,log,status,handled⟩ := handlePacket_refuses env player
            (delaySendData typeId data s) waits (env.onPacketReceived typeId data) reaches
          exact shutdown_deals env player sessionId s _ u past (fun _ => ⟨contexts,log,status,handled⟩)
            running (fine player found reaches)
        · exact ⟨past,fun asked => absurd asked waits⟩
    | other => exact track

theorem loopPass_track (s : Loop) (listed : Listed s) (short : s.finalizingQueue.length ≤ 1)
    (track : Track player sessionId accountName earlier s) :
    Track player sessionId accountName earlier (loopPass s) := by
  have drained : Track player sessionId accountName earlier (deleteFinalizing s) := by
    rcases deleteFinalizing_short s short with ⟨-,same⟩ | ⟨other,queue,same⟩
    · rw [same]
      exact track
    · rw [same]
      have deleted := deletePlayer_deleted other s
      obtain ⟨alive,finalizing⟩ := listed.queued other (by rw [queue]; exact List.mem_singleton_self other)
      obtain ⟨-,held⟩ := release_sound _ other listed.pool alive
      cases track with
      | staying stays running =>
        by_cases own : other = player
        · subst other
          obtain ⟨events,wrote,alive,asked,answered⟩ := stays.events
          rcases answered with ⟨waits,-,-⟩ | ⟨-,once,-⟩
          · rw [past_answered _ (.inl finalizing)] at waits
            cases waits
          · refine .gone ⟨[],events,?_,alive,asked,once⟩
            change (deletePlayer player s).log = _
            rw [deleted.log,wrote]
            rfl
        · refine aside_track player sessionId accountName earlier s _ ?_ (fun lives => ?_) (fun _ => ?_)
            ⟨[.deleted other],deleted.log,fun _ event member => ?_⟩ (.staying stays running)
          · change _ → (deletePlayer other s).shutdownStatus = _
            rw [deleted.status]
            exact id
          · change (deletePlayer other s).playerContextPool.Held player
            rw [deleted.pool]
            exact (held player).mpr ⟨lives,Ne.symm own⟩
          · change (deletePlayer other s).contexts player = _
            rw [deleted.contexts,Function.update_of_ne (Ne.symm own)]
          · obtain rfl := List.mem_singleton.mp member
            exact ⟨by simpa using own,rfl⟩
      | gone answered =>
        refine .gone ?_
        change Gone player sessionId earlier (deletePlayer other s).log
        rw [deleted.log]
        exact gone_append player sessionId earlier s.log [.deleted other] answered
  rw [loopPass]
  split
  next ready =>
    refine aside_track player sessionId accountName earlier (deleteFinalizing s) _ (fun opened => ?_) id
      (fun _ => rfl) ⟨[],rfl,by simp⟩ drained
    rw [ready.1] at opened
    cases opened
  · exact drained

theorem step_track (s : Loop) (action : Action) (both : Listed s ∧ Track player sessionId accountName earlier s)
    (fine : Fine env s action) :
    Listed (step env s action) ∧ Track player sessionId accountName earlier (step env s action) := by
  obtain ⟨listed,track⟩ := both
  cases action with
  | command command =>
    exact ⟨onCommand_listed env s command listed,
      onCommand_track env player sessionId accountName earlier s command listed fine track⟩
  | pass =>
    exact ⟨loopPass_listed s fine listed,loopPass_track player sessionId accountName earlier s listed fine track⟩

omit player sessionId accountName earlier in
theorem gateAllocReq_gates (s t : Loop) (same : t.gateServerContext = s.gateServerContext) :
    (ServerLoop.gateAllocReq t).1 = (ServerLoop.gateAllocReq s).1 := by
  rw [ServerLoop.gateAllocReq,ServerLoop.gateAllocReq,same]
  split <;> rfl

theorem onLoginReq_sends (s : Loop) (fresh : (s.contexts player).state = .none)
    (room : (ServerLoop.gateAllocReq s).1.isSome = true) (sent : sends env s = true) :
    ∃ gate t, onLoginReq env player sessionId accountName s =
        setState player .gateAllocReq (send env (some player) (.gateAllocReq gate sessionId accountName) t) ∧
      t.contexts player = {s.contexts player with
        sessionId := sessionId, accountName := accountName, gateServerId := gate, state := .onLoginReq} ∧
      t.log = s.log ∧ t.playerContextPool = s.playerContextPool ∧ t.shutdownStatus = s.shutdownStatus := by
  rw [onLoginReq_fresh env player s sessionId accountName fresh]
  let joined := named player sessionId accountName s
  have own : joined.contexts player = {s.contexts player with
      sessionId := sessionId, accountName := accountName, state := .onLoginReq} := by
    simp only [joined,named,setState,update_same]
  have free := gateAllocReq_gates s joined rfl
  have frame := does_frame env False player _ _ (gateAllocReq_does env False player joined)
  have contexts := gateAllocReq_contexts joined
  have log : (ServerLoop.gateAllocReq joined).2.log = s.log := by
    rw [ServerLoop.gateAllocReq]
    split <;> rfl
  cases allotted : ServerLoop.gateAllocReq joined with
  | mk gate counted =>
    rw [allotted] at free frame contexts log
    dsimp only at free frame contexts log
    cases gate with
    | none =>
      rw [← free] at room
      cases room
    | some gate =>
      let chosen := counted.update player fun context => {context with gateServerId := gate}
      have context : chosen.contexts player = {s.contexts player with
          sessionId := sessionId, accountName := accountName, gateServerId := gate, state := .onLoginReq} := by
        simp only [chosen]
        rw [update_same,contexts,own]
      have goes : sends env chosen = true := by
        change env.net counted.log.length = true
        rw [log]
        exact sent
      have next : reaches .gateAllocReq player
          (send env (some player) (.gateAllocReq gate sessionId accountName) chosen) = some .gateAllocReq := by
        change transition (chosen.contexts player).state .gateAllocReq = _
        rw [context]
        rfl
      refine ⟨gate,chosen,?_,context,log,frame.pool,frame.status⟩
      dsimp only
      rw [if_pos goes,expect,if_pos next,stateTransition_reached player _ _ _ next]
      rfl

theorem onLoginReq_asks (s : Loop) (fresh : (s.contexts player).state = .none)
    (room : (ServerLoop.gateAllocReq s).1.isSome = true) (sent : sends env s = true) :
    let t := onLoginReq env player sessionId accountName s
    ∃ gate, t.contexts player = {s.contexts player with
        sessionId := sessionId, accountName := accountName, gateServerId := gate, state := .gateAllocReq} ∧
      t.log = .sent (some player) (.gateAllocReq gate sessionId accountName) true :: s.log ∧
      t.playerContextPool = s.playerContextPool ∧ t.shutdownStatus = s.shutdownStatus := by
  obtain ⟨gate,t,result,context,log,pool,status⟩ := onLoginReq_sends env player sessionId accountName s
    fresh room sent
  rw [result]
  refine ⟨gate,?_,?_,pool,status⟩
  · rw [setState,update_same]
    change {t.contexts player with state := .gateAllocReq} = _
    rw [context]
  · change .sent (some player) (.gateAllocReq gate sessionId accountName) (env.net t.log.length) :: t.log = _
    rw [log,show env.net s.log.length = true from sent]

theorem since_append (events : List Event) : since earlier (events ++ earlier) = events.reverse := by
  rw [since,List.reverse_append,← List.length_reverse,List.drop_left]

theorem onCommandOnLoginReq_starts (s : Loop) (listed : Listed s) (opened : s.shutdownStatus = .notShutdown)
    (fine : FineCommand env s (.onLoginReq sessionId accountName)) (accepted : accepts accountName s = some player) :
    let t := onCommandOnLoginReq env sessionId accountName s
    Track player sessionId accountName s.log t ∧ (since s.log t.log).countP (refusing none sessionId) = 0 := by
  change fineLogin env accountName s = true at fine
  rw [accepts] at accepted
  split at accepted
  next free =>
    obtain ⟨connected,unnamed⟩ := free
    cases allocated : s.playerContextPool.allocate with
    | mk taken pool =>
      rw [allocated] at accepted
      obtain rfl : taken = some player := accepted
      rw [fineLogin,connected,if_pos rfl,unnamed,allocated] at fine
      obtain ⟨room,sent⟩ := (Bool.and_eq_true _ _).mp fine
      obtain ⟨-,unheld,held⟩ := allocate_sound _ _ _ listed.pool allocated
      have cleared := listed.cleared player unheld
      let start := placed player pool sessionId accountName s
      have starts : onCommandOnLoginReq env sessionId accountName s =
          onLoginReq env player sessionId accountName start := by
        rw [onCommandOnLoginReq,connected,unnamed,allocated]
        rfl
      obtain ⟨gate,context,log,taken,status⟩ := onLoginReq_asks env player sessionId accountName start
        (by change (s.contexts player).state = .none; rw [cleared]; rfl)
        (by rw [gateAllocReq_gates s start rfl]; exact room) sent
      change (onLoginReq env player sessionId accountName start).contexts player = {s.contexts player with
        sessionId := sessionId, accountName := accountName, gateServerId := gate,
        state := .gateAllocReq} at context
      rw [cleared] at context
      have whole : (onLoginReq env player sessionId accountName start).log =
          [Event.sent (some player) (.gateAllocReq gate sessionId accountName) true,
            Event.allocated player] ++ s.log := log
      rw [starts]
      refine ⟨.staying ⟨?_,?_,_,whole,by simp,by simp [asking],.inl ⟨?_,?_,rfl⟩⟩ fun _ => ?_,?_⟩
      · rw [Live,taken]
        exact (held player).mpr (.inr rfl)
      · rw [context]
      · rw [context]
        rfl
      · rw [sessionOf,context]
      · rw [status]
        exact opened
      · rw [whole,since_append]
        rfl
  · cases accepted

/-- A request that gets no player is refused at once. -/
theorem onCommandOnLoginReq_refused (s : Loop) (opened : s.shutdownStatus = .notShutdown)
    (fine : FineCommand env s (.onLoginReq sessionId accountName)) (refused : accepts accountName s = none) :
    (since s.log (onCommandOnLoginReq env sessionId accountName s).log).countP (refusing none sessionId) = 1 := by
  change fineLogin env accountName s = true at fine
  have told (reason : Int8) (goes : sends env s = true) :
      (since s.log (send env none (.onLoginFailedAck sessionId reason) s).log).countP
        (refusing none sessionId) = 1 := by
    change (since s.log ([Event.sent none (.onLoginFailedAck sessionId reason) (sends env s)] ++ s.log)).countP _ = 1
    rw [since_append,goes]
    simp [refusing]
  rw [fineLogin] at fine
  rw [onCommandOnLoginReq]
  cases connected : s.loginServerContext.isConnected with
  | false =>
    rw [connected] at fine
    exact told 1 fine
  | true =>
    rw [connected,if_pos rfl] at fine
    rw [Bool.not_true,if_neg Bool.false_ne_true]
    cases found : find accountName s.playerContextByName with
    | some other =>
      rw [found] at fine
      let answered := send env none (.onLoginFailedAck sessionId 2) s
      have frame := shutdownPlayer_frame env other answered (by rw [show answered.shutdownStatus = _ from opened]; simp)
      obtain ⟨events,wrote,owned⟩ := frame.log
      have quiet : events.countP (refusing none sessionId) = 0 := by
        rw [List.countP_eq_zero]
        intro event member refuses
        have mine := owned event member
        cases event with
        | sent someone message success =>
          obtain rfl := mine
          cases message <;> cases success <;> simp [refusing] at refuses
        | _ => simp [refusing] at refuses
      have whole : (shutdownPlayer env other answered).log =
          (events ++ [Event.sent none (.onLoginFailedAck sessionId 2) (sends env s)]) ++ s.log := by
        rw [wrote,List.append_assoc]
        rfl
      dsimp only
      change (since s.log (shutdownPlayer env other answered).log).countP _ = 1
      rw [whole,since_append,List.countP_reverse,List.countP_append,quiet,((Bool.and_eq_true _ _).mp fine).1]
      simp [refusing]
    | none =>
      have full : s.playerContextPool.allocate.1 = none := by
        rw [accepts,if_pos ⟨connected,found⟩] at refused
        exact refused
      cases allocated : s.playerContextPool.allocate with
      | mk taken pool =>
        rw [allocated] at full
        obtain rfl : taken = none := full
        rw [found,allocated] at fine
        exact told 2 fine

/-- What the invariant tells about the events of the run. -/
theorem track_answered (s t u : Loop) (accepted : accepts accountName s = some player)
    (unrefused : (since s.log t.log).countP (refusing none sessionId) = 0) (listed : Listed u)
    (track : Track player sessionId accountName s.log u) : Answered sessionId accountName s t u := by
  rw [Answered,accepted]
  refine ⟨unrefused,?_⟩
  cases track with
  | staying stays opened =>
    obtain ⟨live,name,events,wrote,alive,asked,answered⟩ := stays
    have whole : since s.log u.log = events.reverse := by rw [wrote,since_append]
    have all : stay player s.log u.log = events.reverse := by
      rw [stay,whole,List.takeWhile_eq_self_iff]
      intro event member
      have different : event ≠ .deleted player := by
        rintro rfl
        exact alive (List.mem_reverse.mp member)
      simpa using different
    rw [all,whole,List.any_reverse,List.any_reverse,List.countP_reverse]
    refine ⟨asked,?_⟩
    rcases answered with ⟨waits,own,none⟩ | ⟨-,once,either⟩
    · have found := indexes_found listed.names player live
      rw [name] at found
      exact .inl ⟨⟨opened waits,waits,own,found⟩,by simpa using alive,none⟩
    · refine .inr ⟨once,fun refused => .inl ?_⟩
      rcases either with finalizing | unrefused
      · exact listed.retired player finalizing
      · obtain ⟨event,member,refuses⟩ := List.any_eq_true.mp refused
        rw [unrefused event member] at refuses
        cases refuses
  | gone answered =>
    obtain ⟨after,events,wrote,alive,asked,once⟩ := answered
    have whole : since s.log u.log = events.reverse ++ .deleted player :: after.reverse := by
      have joined : u.log = (after ++ .deleted player :: events) ++ s.log := by
        rw [wrote,List.append_assoc]
        rfl
      rw [joined,since_append,List.reverse_append,List.reverse_cons,List.append_assoc]
      rfl
    have first : stay player s.log u.log = events.reverse := by
      rw [stay,whole,List.takeWhile_append_of_pos,List.takeWhile_cons_of_neg (by simp),List.append_nil]
      intro event member
      have different : event ≠ .deleted player := by
        rintro rfl
        exact alive (List.mem_reverse.mp member)
      simpa using different
    rw [first,List.any_reverse,List.any_reverse,List.countP_reverse]
    refine ⟨asked,.inr ⟨once,fun _ => .inr ?_⟩⟩
    rw [whole]
    simp

end

/-- In every run in which gates are there and get their requests, and refusals go out, every login
request that is processed is answered once, or still waits for the answer of its gate. -/
theorem loginReq_answered (env : Env) (earlier later : List Action) (sessionId : UInt32)
    (accountName : WString)
    (fine : Guarded (step env) (Fine env) (.init env.config)
      (earlier ++ .command (.onLoginReq sessionId accountName) :: later))
    (opened : (run (step env) (.init env.config) earlier).shutdownStatus = .notShutdown) :
    let s := run (step env) (.init env.config) earlier
    let t := step env s (.command (.onLoginReq sessionId accountName))
    Answered sessionId accountName s t (run (step env) t later) := by
  obtain ⟨before,here,after⟩ := guarded_append (step env) (Fine env) _ earlier _ later fine
  have listed := run_invariant (step env) (Fine env) Listed (fun s action listed fine =>
    step_listed env s action listed (by cases action; trivial; exact fine)) _ earlier before
    (init_listed env.config)
  intro s t
  have started : FineCommand env s (.onLoginReq sessionId accountName) := here opened
  have stepped : t = onCommandOnLoginReq env sessionId accountName s := by
    change onCommand env (.onLoginReq sessionId accountName) s = onCommandOnLoginReq env sessionId accountName s
    rw [onCommand.eq_def,if_neg (not_not.mpr opened)]
  cases accepted : accepts accountName s with
  | none =>
    rw [Answered,accepted,stepped]
    exact onCommandOnLoginReq_refused env sessionId accountName s opened started accepted
  | some player =>
    obtain ⟨track,unrefused⟩ := onCommandOnLoginReq_starts env player sessionId accountName s listed opened
      started accepted
    rw [← stepped] at track unrefused
    have listedNext : Listed t := step_listed env s _ listed trivial
    obtain ⟨lists,tracks⟩ := run_invariant (step env) (Fine env)
      (fun u => Listed u ∧ Track player sessionId accountName s.log u)
      (step_track env player sessionId accountName s.log) t later after ⟨listedNext,track⟩
    exact track_answered player sessionId accountName s t _ accepted unrefused lists tracks

/-- The gate answers, and LoginNtf goes to the session. -/
theorem loginReq_answered_forwarded :
    let env := sampleEnv fun _ => true
    let s := run (step env) (.init env.config) [.command (.onLoginReport 1)]
    let t := step env s (.command (.onLoginReq loginSession [99]))
    Answered loginSession [99] s t
      (run (step env) t [.command (.gateAllocAck 1 loginSession [99] gateSession),
        .command (.onSessionDisconnect gateSession),.pass]) :=
  loginReq_answered (sampleEnv fun _ => true) [.command (.onLoginReport 1)]
    [.command (.gateAllocAck 1 loginSession [99] gateSession),.command (.onSessionDisconnect gateSession),.pass]
    loginSession [99] (by decide +kernel) rfl

/-- No gate, and so neither a request to one nor an answer. -/
def gatelessEnv : Env := {sampleEnv (fun _ => true) with config := ⟨[],[]⟩}

/-- The player stays in the state of his request. -/
theorem loginReq_answered_gateless :
    let env := gatelessEnv
    let s := run (step env) (.init env.config) [.command (.onLoginReport 1)]
    let t := step env s (.command (.onLoginReq loginSession [99]))
    (t.contexts 0).state = .onLoginReq ∧ find [99] t.playerContextByName = some 0 ∧
      t.finalizingQueue = [] ∧ ¬ Answered loginSession [99] s t (run (step env) t [.pass]) := by
  refine ⟨by decide +kernel,by decide +kernel,by decide +kernel,fun answered => ?_⟩
  have accepted : accepts [99] (run (step gatelessEnv) (.init gatelessEnv.config)
      [.command (.onLoginReport 1)]) = some 0 := by decide +kernel
  rw [Answered,accepted] at answered
  have asked := answered.2.1
  revert asked
  decide +kernel

end Fantuan.MasterServer.LoginAnswers
