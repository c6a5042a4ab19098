import Mathlib.Logic.Relation
import Fantuan.MasterServer.Commands

/-! What a handler can do to its player: every handler is a chain of these steps. They
say once which transitions, sends and map updates occur, and under which conditions.
-/
namespace Fantuan.MasterServer.PlayerSteps
open Lib.Table ServerBase.ServerCommon Tool.ObjectPool PlayerFsm Context ServerLoop Player

/-- The states in which ShutdownPlayer waits for the region's answer. -/
def waiting : PlayerState → Bool
  | .onChannelLeave_regionLeaveAck | .finalizing_regionLeaveAck => true
  | _ => false

def loggedIn (state : PlayerState) : Bool := (shutdownNeeds state).cacheDisconnect || waiting state

def notLoggedIn : PlayerState → Bool
  | .none | .onLoginReq | .gateAllocReq | .gateAllocAck | .gateAllocFailAck | .gateAllocNtf
  | .onGateLoginReq => true
  | _ => false

def home : PlayerState → Place
  | .gateAllocAck => .login
  | state => deletePlace state

/-- The states between AddPlayerToRegionServerContext and the region's answer. -/
def inRegion : PlayerState → Bool
  | .regionEnterReq | .onChannelLeaveReq | .onChannelLeave_regionLeaveAck | .finalizing
  | .finalizing_regionLeaveAck => true
  | _ => false

/-- The events whose transitions change none of the above, but may end the stay in a
region. -/
def plainEvent : PlayerEvent → Bool
  | .onLoginReq | .gateAllocNtf | .cacheLoginReq | .onRegionLeaveReq | .regionLeaveAck | .logout
  | .onSessionDisconnect => false
  | _ => true

structure Plain (state next : PlayerState) : Prop where
  waiting : waiting next = false
  loggedIn : loggedIn state = true → loggedIn next = true
  notLoggedIn : notLoggedIn state = true → notLoggedIn next = true
  home : home next = home state
  inRegion : inRegion state = true → inRegion next = true

theorem plain_transition (state next : PlayerState) (event : PlayerEvent)
    (plain : plainEvent event = true) (reached : transition state event = some next) :
    Plain state next := by
  have rows : ∀ row ∈ initStateMachine state, plainEvent row.1 = true →
      waiting row.2 = false ∧ (loggedIn state = true → loggedIn row.2 = true) ∧
        (notLoggedIn state = true → notLoggedIn row.2 = true) ∧ home row.2 = home state ∧
        (inRegion state = true → inRegion row.2 = true) := by
    cases state <;> decide
  obtain ⟨waits,logged,fresh,home,region⟩ := rows _ (transition_mem state next event reached) plain
  exact ⟨waits,logged,fresh,home,region⟩

/-- The sends that neither log the player in nor out. -/
def quiet (message : Message) (success : Bool) : Bool :=
  match message with
  | .cacheOnLoginReq _ _ => !success
  | .cacheOnLogoutReq _ => false
  | _ => true

/-- A change of a context's other members: the gate before the player is there, and the
region before it has been entered. -/
structure Kept (old new : MasterPlayerContext) : Prop where
  sessionId : new.sessionId = old.sessionId
  accountName : new.accountName = old.accountName
  finalizing : new.finalizing = old.finalizing
  state : new.state = old.state
  gate : home old.state = .gate → new.gateServerId = old.gateServerId
  region : inRegion old.state = true →
    new.lastChannelId = old.lastChannelId ∧ new.regionServerId = old.regionServerId

section
variable (env : Env) (guarded : Prop) (player : Object)

def setState (player : Object) (next : PlayerState) (s : Loop) : Loop :=
  s.update player fun context => {context with state := next}

inductive PlayerStep : Loop → Loop → Prop
  | note (s : Loop) (delay : Delay) (undefined : Bool) :
      PlayerStep s {s with delay := delay, undefined := undefined}
  | count (s : Loop) (gate : UInt8) (change : GateServerContext → GateServerContext)
      (kept : ∀ context, (change context).players = context.players) :
      PlayerStep s (updateGate gate change s)
  | change (s : Loop) (change : MasterPlayerContext → MasterPlayerContext)
      (kept : Kept (s.contexts player) (change (s.contexts player))) :
      PlayerStep s (s.update player change)
  | move (s : Loop) (event : PlayerEvent) (next : PlayerState) (plain : plainEvent event = true)
      (reached : reaches event player s = some next) : PlayerStep s (setState player next s)
  | say (s : Loop) (message : Message) (silent : quiet message (sends env s) = true) :
      PlayerStep s (send env (some player) message s)
  | drop (s : Loop) : PlayerStep s (deletePlayerFromRegionServerContext player s)
  | enter (s : Loop) (entered : (s.contexts player).state = .regionEnterReq) :
      PlayerStep s (addPlayerToRegionServerContext player s)
  | wait (s : Loop) (next : PlayerState) (active : (s.contexts player).finalizing = false)
      (reached : reaches .regionLeaveAck player s = some next) :
      PlayerStep s (setState player next s)
  | retire (s : Loop) (logout : Bool) (active : (s.contexts player).finalizing = false)
      (due : guarded → loggedIn (s.contexts player).state = true → logout = true) :
      PlayerStep s (addPlayerToFinalizingQueue player
        (sendIf env logout player (.cacheOnLogoutReq (s.contexts player).sessionId) s))
  | login (s : Loop) (active : (s.contexts player).finalizing = false)
      (asked : (s.contexts player).state = .onGateLoginReq) (success : sends env s = true) :
      PlayerStep s (setState player .cacheLoginReq (send env (some player)
        (.cacheOnLoginReq (s.contexts player).sessionId (s.contexts player).accountName) s))
  | answer (s : Loop) (next : PlayerState)
      (reached : reaches .onRegionLeaveReq player s = some next) :
      PlayerStep s (deletePlayerFromRegionServerContext player (setState player next s))

abbrev Does : Loop → Loop → Prop := Relation.ReflTransGen (PlayerStep env guarded player)

/-- ShutdownPlayer may run: it does not interrupt a wait where that matters, and sends. -/
structure Open (s : Loop) : Prop where
  settled : guarded → (s.contexts player).finalizing = true ∨
    waiting (s.contexts player).state = false
  running : s.shutdownStatus ≠ .readyForShutdown

end

section
variable (env : Env) (guarded : Prop) (player : Object)

theorem stateTransition_reached (s : Loop) (event : PlayerEvent) (next : PlayerState)
    (reached : reaches event player s = some next) :
    stateTransition event player s = setState player next s := by
  rw [stateTransition,reached]
  rfl

theorem stateTransition_none (s : Loop) (event : PlayerEvent)
    (unreached : reaches event player s = none) : stateTransition event player s = s := by
  rw [stateTransition,unreached]

theorem transition_does (s : Loop) (event : PlayerEvent) (plain : plainEvent event = true) :
    Does env guarded player s (stateTransition event player s) := by
  cases reached : reaches event player s with
  | none =>
    rw [stateTransition_none player s event reached]
  | some next =>
    rw [stateTransition_reached player s event next reached]
    exact .single (.move s event next plain reached)

theorem transition_open (s : Loop) (event : PlayerEvent) (plain : plainEvent event = true)
    (calm : Open guarded player s) : Open guarded player (stateTransition event player s) := by
  cases reached : reaches event player s with
  | none =>
    rw [stateTransition_none player s event reached]
    exact calm
  | some next =>
    rw [stateTransition_reached player s event next reached]
    refine ⟨fun _ => .inr ?_,calm.running⟩
    rw [setState,update_same]
    exact (plain_transition _ _ event plain reached).waiting

theorem open_same (s t : Loop) (same : t.contexts player = s.contexts player)
    (status : t.shutdownStatus = s.shutdownStatus) (calm : Open guarded player s) :
    Open guarded player t :=
  ⟨by rw [same]; exact calm.settled,by rw [status]; exact calm.running⟩

theorem sendIf_does (s : Loop) (need : Bool) (message : Message)
    (silent : ∀ success, quiet message success = true) :
    Does env guarded player s (sendIf env need player message s) := by
  cases need with
  | false => exact .refl
  | true => exact .single (.say s message (silent _))

theorem sendIf_contexts (s : Loop) (need : Bool) (message : Message) :
    (sendIf env need player message s).contexts = s.contexts := by
  cases need <;> rfl

theorem finishShutdown_does (s : Loop) (needs : ShutdownNeeds)
    (active : (s.contexts player).finalizing = false) (running : isReadyForShutdown s = false)
    (due : guarded → loggedIn (s.contexts player).state = true → needs.cacheDisconnect = true) :
    Does env guarded player s (finishShutdown env needs player s) := by
  let context := s.contexts player
  let failed := sendIf env needs.loginFailedAck player (.onLoginFailedAck context.sessionId 3) s
  let released := sendIf env needs.gateRelease player
    (.gateReleaseReq context.gateServerId context.sessionId context.accountName) failed
  let left := sendIf env needs.gateDisconnect player
    (.disconnect context.gateServerId context.sessionId) released
  have same : left.contexts player = context := by
    simp only [left,released,failed,sendIf_contexts]
    rfl
  have finished : finishShutdown env needs player s = addPlayerToFinalizingQueue player
      (sendIf env needs.cacheDisconnect player (.cacheOnLogoutReq (left.contexts player).sessionId)
        left) := by
    rw [same,finishShutdown,running]
    simp only [Bool.not_false,Bool.and_true]
    rfl
  rw [finished]
  have first : Does env guarded player s failed :=
    sendIf_does env guarded player s _ _ fun _ => rfl
  have second : Does env guarded player failed released :=
    sendIf_does env guarded player failed _ _ fun _ => rfl
  have third : Does env guarded player released left :=
    sendIf_does env guarded player released _ _ fun _ => rfl
  refine ((first.trans second).trans third).tail (.retire left _ ?_ ?_)
  · rw [same]
    exact active
  · rw [same]
    exact due

theorem playerStep_status (s t : Loop) (step : PlayerStep env guarded player s t) :
    t.shutdownStatus = s.shutdownStatus := by
  cases step with
  | retire logout => cases logout <;> rfl
  | _ => rfl

theorem does_status (s t : Loop) (does : Does env guarded player s t) :
    t.shutdownStatus = s.shutdownStatus := by
  induction does with
  | refl => rfl
  | tail _ step ih => rw [playerStep_status env guarded player _ _ step,ih]

theorem playerStep_contexts (s t : Loop) (step : PlayerStep env guarded player s t) (other : Object)
    (different : other ≠ player) : t.contexts other = s.contexts other := by
  cases step with
  | change change => exact update_other s player other change different
  | move => exact update_other s player other _ different
  | wait => exact update_other s player other _ different
  | retire leaves =>
    cases leaves with
    | true =>
      exact update_other (send env (some player) (.cacheOnLogoutReq (s.contexts player).sessionId) s)
        player other (fun context => {context with finalizing := true}) different
    | false =>
      exact update_other s player other (fun context => {context with finalizing := true}) different
  | login => exact update_other _ player other _ different
  | answer next =>
    exact update_other s player other (fun context => {context with state := next}) different
  | _ => rfl

theorem does_contexts (s t : Loop) (does : Does env guarded player s t) (other : Object)
    (different : other ≠ player) : t.contexts other = s.contexts other := by
  induction does with
  | refl => rfl
  | tail _ step ih => rw [playerStep_contexts env guarded player _ _ step other different,ih]

/-- ShutdownPlayer starts to finalize a player who is in a region. -/
def begin (player : Object) (s : Loop) : Loop :=
  if (s.contexts player).state = .regionEnterReq then stateTransition .finalize player s else s

theorem begin_finalizing (s : Loop) :
    ((begin player s).contexts player).finalizing = (s.contexts player).finalizing := by
  rw [begin]
  split
  · rw [stateTransition]
    split
    · rw [update_same]
    · rfl
  · rfl

theorem begin_due (s : Loop) (settled : waiting (s.contexts player).state = false)
    (logged : loggedIn ((begin player s).contexts player).state = true) :
    (shutdownNeeds (s.contexts player).state).cacheDisconnect = true := by
  by_cases entered : (s.contexts player).state = .regionEnterReq
  · rw [entered]
    rfl
  · rw [begin,if_neg entered,loggedIn,settled,Bool.or_false] at logged
    exact logged

theorem begin_does (s : Loop) : Does env guarded player s (begin player s) := by
  rw [begin]
  split
  · exact transition_does env guarded player s .finalize rfl
  · exact .refl

theorem begin_status (s : Loop) : (begin player s).shutdownStatus = s.shutdownStatus := by
  rw [begin,stateTransition]
  split
  · split <;> rfl
  · rfl

/-- RegionReleaseReq and the removal from the region, where the state asks for them. -/
def releaseRegion (env : Env) (need : Bool) (player : Object) (s : Loop) : Loop :=
  if need then deletePlayerFromRegionServerContext player
    (send env (some player)
      (.regionReleaseReq (s.contexts player).regionServerId (s.contexts player).sessionId) s)
  else s

theorem releaseRegion_contexts (s : Loop) (need : Bool) :
    (releaseRegion env need player s).contexts = s.contexts := by
  cases need <;> rfl

theorem releaseRegion_status (s : Loop) (need : Bool) :
    (releaseRegion env need player s).shutdownStatus = s.shutdownStatus := by
  cases need <;> rfl

theorem releaseRegion_does (s : Loop) (need : Bool) :
    Does env guarded player s (releaseRegion env need player s) := by
  cases need with
  | false => exact .refl
  | true => exact .tail (.single (.say s _ rfl)) (.drop _)

theorem shutdownPlayer_running (s : Loop) (active : (s.contexts player).finalizing = false)
    (running : s.shutdownStatus ≠ .readyForShutdown) :
    shutdownPlayer env player s =
      let needs := shutdownNeeds (s.contexts player).state
      let released := releaseRegion env needs.regionRelease player (begin player s)
      let context := released.contexts player
      let left := send env (some player) (.regionLeaveReq context.regionServerId context.sessionId) released
      if needs.regionLeave = true then
        if sends env released = true then stateTransition .regionLeaveAck player left
        else finishShutdown env needs player left
      else finishShutdown env needs player released := by
  have ready : isReadyForShutdown s = false := by simpa [isReadyForShutdown] using running
  simp only [shutdownPlayer,active,ready,Bool.not_false,Bool.and_true,releaseRegion_contexts]
  rfl

theorem shutdownPlayer_does (s : Loop) (calm : Open guarded player s) :
    Does env guarded player s (shutdownPlayer env player s) := by
  cases active : (s.contexts player).finalizing with
  | true =>
    rw [shutdownPlayer,if_pos active]
  | false =>
    rw [shutdownPlayer_running env player s active calm.running]
    dsimp only
    let needs := shutdownNeeds (s.contexts player).state
    let released := releaseRegion env needs.regionRelease player (begin player s)
    have contexts : released.contexts player = (begin player s).contexts player := by
      simp only [released,releaseRegion_contexts]
    have reach : Does env guarded player s released :=
      (begin_does env guarded player s).trans (releaseRegion_does env guarded player _ _)
    have status : released.shutdownStatus = s.shutdownStatus := by
      simp only [released,releaseRegion_status,begin_status]
    have ready : isReadyForShutdown released = false := by
      simpa [isReadyForShutdown,status] using calm.running
    have still : (released.contexts player).finalizing = false := by
      rw [contexts,begin_finalizing,active]
    have due : guarded → loggedIn (released.contexts player).state = true →
        needs.cacheDisconnect = true := by
      intro guard logged
      rw [contexts] at logged
      rcases calm.settled guard with finalizing | settled
      · rw [active] at finalizing
        cases finalizing
      · exact begin_due player s settled logged
    let left := send env (some player) (.regionLeaveReq (released.contexts player).regionServerId
      (released.contexts player).sessionId) released
    have asked : Does env guarded player s left := reach.tail (.say released _ rfl)
    split
    · split
      · cases reached : reaches .regionLeaveAck player left with
        | none =>
          rw [stateTransition_none player _ _ reached]
          exact asked
        | some next =>
          rw [stateTransition_reached player _ _ next reached]
          exact asked.tail (.wait left next still reached)
      · exact asked.trans (finishShutdown_does env guarded player left needs still ready due)
    · exact reach.trans (finishShutdown_does env guarded player released needs still ready due)

end

end Fantuan.MasterServer.PlayerSteps
