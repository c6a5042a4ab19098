import Fantuan.CacheServer.OpenEvents

/-! The handlers that decide what becomes of a player: the choice of an avatar and the logout.
Each of them asks for at most one deciding event, and only for a session that waits for none.
-/
namespace Fantuan.CacheServer.Settling
open Lib.Table Tool.ObjectPool Tool.StateMachine CacheDBEvent ServerLoop Player Commands PlayerSteps
  Sessions PoolEvents OpenEvents

/-- A quiet step, or one that asks for a deciding event or acknowledges a choice. -/
inductive Settles (env : Env) : Cache → Cache → Prop
  | quiet {s t : Cache} (step : CacheStep env False False s t) : Settles env s t
  | ask (s : Cache) (player : Object) (data : EventData) (returnable : Bool)
      (listed : Listed s player) (free : Free s (s.contexts player).sessionId)
      (awaited : awaits data = some (s.contexts player).state)
      (active : (s.contexts player).finalizing = false) :
      Settles env s (pushSequenceEvent player data returnable s)
  | acknowledge (s : Cache) (player : Object) (next : PlayerState) (listed : Listed s player)
      (free : Free s (s.contexts player).sessionId)
      (reached : transition (s.contexts player).state .avatarSelectAck = some next) :
      Settles env s (s.update player fun context => {context with state := next})

abbrev Settled (env : Env) : Cache → Cache → Prop := Relation.ReflTransGen (Settles env)

theorem does_settled (env : Env) (s t : Cache) (does : Does env False False s t) :
    Settled env s t :=
  Relation.ReflTransGen.mono (fun _ _ step => .quiet step) _ _ does

theorem loud_step (env : Env) (s t : Cache) (step : CacheStep env False False s t) :
    CacheStep env True False s t := by
  cases step with
  | call mark plain => exact .call s mark plain
  | save delay => exact .save s delay
  | array arrayAvatar => exact .array s arrayAvatar
  | clock currTime => exact .clock s currTime
  | stop => exact .stop s
  | work worker => exact .work s worker
  | change player change listed kept => exact .change s player change listed kept
  | move player event next listed _ reached =>
    exact .move s player event next listed (fun _ => trivial) reached
  | push player data returnable listed => exact .push s player data returnable listed fun _ => trivial
  | queue player listed => exact .queue s player listed trivial
  | select player avatarId avatarName lastChannelId listed chosen =>
    exact .select s player avatarId avatarName lastChannelId listed chosen
  | enter player listed alone => exact .enter s player listed alone

theorem settles_step (env : Env) (s t : Cache) (settles : Settles env s t) :
    CacheStep env True False s t := by
  cases settles with
  | quiet step => exact loud_step env s t step
  | ask player data returnable listed =>
    exact .push s player data returnable listed fun _ => trivial
  | acknowledge player next listed _ reached =>
    exact .move s player .avatarSelectAck next listed (fun _ => trivial) reached

theorem settled_does (env : Env) (s t : Cache) (settled : Settled env s t) : Does env True False s t :=
  Relation.ReflTransGen.mono (settles_step env) _ _ settled

theorem ask_waiting (s : Cache) (player : Object) (data : EventData) (returnable : Bool)
    (listed : Listed s player) (free : Free s (s.contexts player).sessionId)
    (awaited : awaits data = some (s.contexts player).state)
    (active : (s.contexts player).finalizing = false) (waiting : Waiting s) :
    Waiting (pushSequenceEvent player data returnable s) where
  pool := pushSequenceEvent_known _ waiting.pool _ _ _
  handled := by
    intro event member
    have inside := waiting.handled event member
    rcases push_pushed s player data returnable with ⟨same,-⟩ | more
    · rwa [same]
    · omega
  waits := by
    intro event opened
    rcases push_open s player data returnable event opened with ⟨-,before,same⟩ | ⟨-,-,new⟩
    · rw [same]
      exact waiting.waits event before
    · rw [new]
      exact ⟨player,listed,awaited,active⟩
  single := by
    intro first second one two same
    rcases push_open s player data returnable first one with ⟨-,before,old⟩ | ⟨rfl,-,new⟩
    · rcases push_open s player data returnable second two with ⟨-,before',old'⟩ | ⟨rfl,-,new'⟩
      · rw [old,old'] at same
        exact waiting.single first second before before' same
      · rw [old,new'] at same
        exact absurd same (free first before)
    · rcases push_open s player data returnable second two with ⟨-,before',old'⟩ | ⟨rfl,-,-⟩
      · rw [new,old'] at same
        exact absurd same.symm (free second before')
      · rfl
  leaving := waiting.leaving

theorem settles_waiting (env : Env) (s t : Cache) (settles : Settles env s t) (keyed : Keyed s)
    (waiting : Waiting s) : Waiting t := by
  cases settles with
  | quiet step => exact step_waiting env s t step keyed waiting
  | ask player data returnable listed free awaited active =>
    exact ask_waiting s player data returnable listed free awaited active waiting
  | acknowledge player next listed free reached =>
    have active := transition_active s player next _ waiting reached
    refine update_waiting s player _ (.inl free) (fun finalizing => ?_) keyed waiting
    rw [active] at finalizing
    cases finalizing

theorem settled_stays (env : Env) (s t : Cache) (settled : Settled env s t) : Stays s t := by
  induction settled with
  | refl => exact fun _ opened => ⟨opened,rfl,rfl⟩
  | tail _ step ih =>
    refine stays_trans _ _ _ ih ?_
    cases step with
    | quiet step => exact step_stays env _ _ step
    | ask player data returnable => exact push_stays _ player data returnable
    | acknowledge => exact fun _ opened => ⟨opened,rfl,rfl⟩

theorem settled_waiting (env : Env) (s t : Cache) (settled : Settled env s t) (sound : Sound s)
    (waiting : Waiting s) : Waiting t := by
  induction settled with
  | refl => exact waiting
  | tail before step ih =>
    have still := does_sound env True False s _ (settled_does env s _ before) sound
    exact settles_waiting env _ _ step (sound_keyed _ still) ih

section
variable (env : Env) (player : Object)

/-- What is left of an allocation that has succeeded, or failed. -/
def allocation (success : Bool) (s : Cache) : Cache := {s with log := .allocated success :: s.log}

theorem allocateEvent_eq (failed next : Cache → Cache) (s : Cache) :
    allocateEvent env failed next s =
      if env.memory s.log.length then next (allocation true s) else failed (allocation false s) := by
  rw [allocateEvent]
  cases env.memory s.log.length with
  | true => rfl
  | false => rfl

theorem transition_target (state next : PlayerState) :
    (transition state .onAvatarSelectReq = some next → next = .onAvatarSelectReq) ∧
      (transition state .onLogoutReq = some next → next = .onLogoutReq) := by
  cases state <;> simp [transition,outputState,initStateMachine,eq_comm]

/-- The session waits for nothing, and its player is where it waits for an event of this data. -/
structure Ready (s : Cache) (data : EventData) : Prop where
  listed : Listed s player
  free : Free s (s.contexts player).sessionId
  awaited : awaits data = some (s.contexts player).state
  active : (s.contexts player).finalizing = false

theorem moved_ready (s : Cache) (event : PlayerEvent) (next : PlayerState) (data : EventData)
    (listed : Listed s player) (waiting : Waiting s) (other : event ≠ .avatarSelectAck)
    (reached : transition (s.contexts player).state event = some next)
    (awaited : awaits data = some next) :
    Settled env s (s.update player fun context => {context with state := next}) ∧
      Ready player (s.update player fun context => {context with state := next}) data := by
  have moved : CacheStep env False False s
      (s.update player fun context => {context with state := next}) :=
    .move s player event next listed (fun same => absurd same other) reached
  refine ⟨.single (.quiet moved),(listed_update s player player _ rfl).mpr listed,?_,?_,?_⟩
  · rw [update_same]
    exact narrows_free s _ _ (step_narrows env s _ moved)
      (transition_free s player next event listed waiting other reached)
  · rw [update_same]
    exact awaited
  · rw [update_same]
    exact transition_active s player next event waiting reached

variable (s : Cache) (data : EventData) (ready : Ready player s data)

theorem allocation_settled (success : Bool) : Settled env s (allocation success s) :=
  .single (.quiet (.call s (.allocated success) rfl))

include ready

theorem allocation_ready (success : Bool) : Ready player (allocation success s) data :=
  ⟨ready.listed,narrows_free s _ _ (call_narrows s (.allocated success) rfl) ready.free,ready.awaited,
    ready.active⟩

theorem ask_settled (returnable : Bool) :
    Settled env s (pushSequenceEvent player data returnable s) :=
  .single (.ask s player data returnable ready.listed ready.free ready.awaited ready.active)

end

theorem onAvatarSelectReq_settled (env : Env) (player : Object) (s : Cache) (avatarName : List UInt16)
    (listed : Listed s player) (waiting : Waiting s) :
    Settled env s (onAvatarSelectReq env player avatarName s) := by
  rw [onAvatarSelectReq,expect]
  split
  next state reached =>
    obtain rfl := (transition_target _ state).1 reached
    split
    next avatar found =>
      obtain ⟨moved,ready⟩ := moved_ready env player s _ _
        (.avatarSelectData avatar.avatarId avatarName 0) listed waiting (by decide) reached rfl
      have allocated (success : Bool) := moved.trans (allocation_settled env _ success)
      rw [allocateEvent_eq]
      split
      · exact (allocated true).trans
          (ask_settled env player _ _ (allocation_ready player _ _ ready true) true)
      · refine (allocated false).trans (does_settled env _ _ ?_)
        exact sendClient_last env False False player _
          (allocation_ready player _ _ ready false).listed _
    · exact (moved_ready env player s _ _ (.avatarSelectData 0 [] 0) listed waiting (by decide) reached
        rfl).1
  · exact .refl

/-- How many Finalize events a logout asks for. A player that is in a region is shut down twice
if there is no memory for its AvatarLogout. -/
def finalizeEvents (env : Env) (s : Cache) (player : Object) : Nat :=
  let start := s.log.length
  if (s.contexts player).avatarContext.enterRegion then
    if env.memory start then (env.memory (start + 1)).toNat
    else (env.memory (start + 1)).toNat + (env.memory (start + 2)).toNat
  else (env.memory start).toNat

theorem shutdownPlayer_leaving (env : Env) (player : Object) (s : Cache)
    (state : (s.contexts player).state = .onLogoutReq) (active : (s.contexts player).finalizing = false) :
    shutdownPlayer env player s =
      if env.memory s.log.length then pushSequenceEvent player .avatarFinalize true (allocation true s)
      else allocation false s := by
  rw [shutdownPlayer,if_neg (by simp [active]),shutdown,state]
  exact allocateEvent_eq env id (pushSequenceEvent player .avatarFinalize true) s

section
variable (env : Env) (player : Object) (s : Cache) (ready : Ready player s .avatarFinalize)
include ready

theorem shutdownPlayer_ready : shutdownPlayer env player s =
    if env.memory s.log.length then pushSequenceEvent player .avatarFinalize true (allocation true s)
    else allocation false s :=
  shutdownPlayer_leaving env player s (Option.some.inj ready.awaited).symm ready.active

theorem push_ready (avatarId : UInt64) :
    Settled env s (pushSequenceEvent player (.avatarLogout avatarId) true s) ∧
      Ready player (pushSequenceEvent player (.avatarLogout avatarId) true s) .avatarFinalize := by
  have pushed : CacheStep env False False s (pushSequenceEvent player (.avatarLogout avatarId) true s) :=
    .push s player _ true ready.listed (by simp [decides,awaits])
  exact ⟨.single (.quiet pushed),ready.listed,narrows_free s _ _ (step_narrows env s _ pushed) ready.free,
    ready.awaited,ready.active⟩

end

/-- One more call may follow the Finalize event. -/
def Finalized (player : Object) (s t : Cache) : Prop :=
  t = pushSequenceEvent player .avatarFinalize true s ∨
    t = allocation false (pushSequenceEvent player .avatarFinalize true s)

/-- So many Finalize events are asked for on the way to a state. -/
def Asks (env : Env) (player : Object) (s : Cache) (events : Nat) (result : Cache) : Prop :=
  ∃ before, Settled env s before ∧ Ready player before .avatarFinalize ∧
    (events = 0 ∧ result = before ∨ events = 1 ∧ Finalized player before result)

theorem asks_head (env : Env) (player : Object) (s t : Cache) (events : Nat) (result : Cache)
    (settled : Settled env s t) (asks : Asks env player t events result) :
    Asks env player s events result := by
  obtain ⟨before,rest,ready,finalized⟩ := asks
  exact ⟨before,settled.trans rest,ready,finalized⟩

section
variable (env : Env) (player : Object) (s : Cache) (ready : Ready player s .avatarFinalize)
include ready

theorem shutdownPlayer_asks :
    Asks env player s (env.memory s.log.length).toNat (shutdownPlayer env player s) := by
  rw [shutdownPlayer_ready env player s ready]
  have allocated (success : Bool) := allocation_settled env s success
  have still (success : Bool) := allocation_ready player s _ ready success
  cases env.memory s.log.length with
  | true => exact ⟨_,allocated true,still true,.inr ⟨rfl,.inl rfl⟩⟩
  | false => exact ⟨_,allocated false,still false,.inl ⟨rfl,rfl⟩⟩

theorem secondShutdown_asks (few : (env.memory s.log.length).toNat +
      (env.memory (s.log.length + 1)).toNat ≤ 1) :
    Asks env player s ((env.memory s.log.length).toNat + (env.memory (s.log.length + 1)).toNat)
      (shutdownPlayer env player (shutdownPlayer env player s)) := by
  have allocated (success : Bool) := allocation_settled env s success
  have still (success : Bool) := allocation_ready player s _ ready success
  rw [shutdownPlayer_ready env player s ready]
  cases first : env.memory s.log.length with
  | true =>
    rw [first] at few
    have second : env.memory (s.log.length + 1) = false := by
      cases again : env.memory (s.log.length + 1) with
      | true => simp [again] at few
      | false => rfl
    have leaving := shutdownPlayer_leaving env player
      (pushSequenceEvent player .avatarFinalize true (allocation true s))
      (Option.some.inj ready.awaited).symm ready.active
    have length : (pushSequenceEvent player .avatarFinalize true (allocation true s)).log.length =
        s.log.length + 1 := rfl
    rw [length,second] at leaving
    rw [if_pos rfl,leaving,second]
    exact ⟨_,allocated true,still true,.inr ⟨rfl,.inr rfl⟩⟩
  | false =>
    rw [if_neg Bool.false_ne_true,Bool.toNat_false,Nat.zero_add]
    exact asks_head env player s _ _ _ (allocated false)
      (shutdownPlayer_asks env player (allocation false s) (still false))

theorem avatarLogout_asks (few : (if env.memory s.log.length then
      (env.memory (s.log.length + 1)).toNat
    else (env.memory (s.log.length + 1)).toNat + (env.memory (s.log.length + 2)).toNat) ≤ 1) :
    Asks env player s (if env.memory s.log.length then (env.memory (s.log.length + 1)).toNat
        else (env.memory (s.log.length + 1)).toNat + (env.memory (s.log.length + 2)).toNat)
      (shutdownPlayer env player (onAvatarLogoutReq env player s)) := by
  have allocated (success : Bool) := allocation_settled env s success
  have still (success : Bool) := allocation_ready player s _ ready success
  rw [onAvatarLogoutReq,allocateEvent_eq]
  cases first : env.memory s.log.length with
  | true =>
    obtain ⟨pushes,pushed⟩ := push_ready env player (allocation true s) (still true)
      (s.contexts player).avatarContext.avatarId
    exact asks_head env player s _ _ _ ((allocated true).trans pushes)
      (shutdownPlayer_asks env player _ pushed)
  | false =>
    rw [first] at few
    exact asks_head env player s _ _ _ (allocated false)
      (secondShutdown_asks env player (allocation false s) (still false) few)

end

theorem onLogoutReq_asks (env : Env) (player : Object) (s : Cache) (next : PlayerState)
    (listed : Listed s player) (waiting : Waiting s)
    (reached : transition (s.contexts player).state .onLogoutReq = some next)
    (few : finalizeEvents env s player ≤ 1) :
    Asks env player s (finalizeEvents env s player) (onLogoutReq env player s) := by
  obtain rfl := (transition_target _ next).2 reached
  obtain ⟨moved,ready⟩ := moved_ready env player s _ _ .avatarFinalize listed waiting (by decide)
    reached rfl
  rw [onLogoutReq,expect,reached]
  dsimp only
  apply asks_head env player s _ _ _ moved
  rw [finalizeEvents] at few ⊢
  rw [update_same]
  cases entered : (s.contexts player).avatarContext.enterRegion with
  | true =>
    rw [entered] at few
    exact avatarLogout_asks env player _ ready few
  | false => exact shutdownPlayer_asks env player _ ready

theorem asks_settled (env : Env) (player : Object) (s : Cache) (events : Nat) (result : Cache)
    (asks : Asks env player s events result) : Settled env s result := by
  obtain ⟨before,settled,ready,⟨-,rfl⟩ | ⟨-,rfl | rfl⟩⟩ := asks
  · exact settled
  · exact settled.trans (ask_settled env player before _ ready true)
  · exact (settled.trans (ask_settled env player before _ ready true)).trans
      (allocation_settled env _ false)

theorem onLogoutReq_settled (env : Env) (player : Object) (s : Cache) (listed : Listed s player)
    (waiting : Waiting s) (few : (transition (s.contexts player).state .onLogoutReq).isSome = true →
      finalizeEvents env s player ≤ 1) : Settled env s (onLogoutReq env player s) := by
  cases reached : transition (s.contexts player).state .onLogoutReq with
  | some next =>
    exact asks_settled env player s _ _
      (onLogoutReq_asks env player s next listed waiting reached (few (by simp [reached])))
  | none => rw [onLogoutReq,expect,reached]

theorem sendClient_settled (env : Env) (player : Object) (s : Cache) (packet : Packet)
    (next : Cache → Cache)
    (continues : ∀ t, Does env False False s t → t.contexts = s.contexts → Settled env t (next t)) :
    Settled env s (sendClient env player packet next s) := by
  have written (success : Bool) : Does env False False s
      {s with log := .sent (.client packet) success :: s.log} := .single (.call s _ rfl)
  rw [sendClient,attempt]
  dsimp only
  split
  next success =>
    have saved := (written true).tail (.save _ (some packet))
    rw [attempt]
    dsimp only
    have forwarded (success : Bool) := saved.tail (.call _ (.sent (.packetForward
      (s.contexts player).sessionId (some packet)) success) rfl)
    rw [success]
    split
    next success' =>
      rw [success']
      exact (does_settled env _ _ (forwarded true)).trans (continues _ (forwarded true) rfl)
    next failed =>
      rw [Bool.eq_false_of_not_eq_true failed]
      exact does_settled env _ _ (forwarded false)
  next failed =>
    rw [Bool.eq_false_of_not_eq_true failed]
    exact does_settled env _ _ (written false)

theorem onPlayerEventAvatarSelectResult_settled (env : Env) (player : Object) (s : Cache)
    (ret : Int32) (avatarId : UInt64) (avatarName : List UInt16) (lastChannelId : UInt8)
    (listed : Listed s player) (free : Free s (s.contexts player).sessionId)
    (state : (s.contexts player).state = .onAvatarSelectReq) :
    Settled env s
      (onPlayerEventAvatarSelectResult env player ret avatarId avatarName lastChannelId s) := by
  have acknowledges (packet : Packet) (t : Cache) (does : Does env False False s t)
      (session : (t.contexts player).sessionId = (s.contexts player).sessionId)
      (same : (t.contexts player).state = (s.contexts player).state) :
      Settled env t (acknowledgeSelect env player packet t) := by
    refine sendClient_settled env player t packet _ fun u sent contexts => ?_
    have reached : transition (u.contexts player).state .avatarSelectAck = some .avatarSelectAck := by
      rw [contexts,same,state]
      rfl
    have later := does.trans sent
    rw [reached]
    refine .single (.acknowledge u player _ (does_listed env _ _ s u player later listed) ?_ reached)
    rw [contexts,session]
    exact narrows_free s u _ (does_narrows env s u later) free
  rw [onPlayerEventAvatarSelectResult]
  split
  · exact acknowledges _ s .refl rfl rfl
  · have selected : Does env False False s
        (selectAvatar player avatarId avatarName lastChannelId s) :=
      .single (.select s player avatarId avatarName lastChannelId listed False.elim)
    split
    · exact does_settled env _ _ selected
    · refine (does_settled env _ _ selected).trans (acknowledges _ _ selected ?_ ?_)
      · rw [selectAvatar,update_same]
      · rw [selectAvatar,update_same]

theorem addPlayerToFinalizingQueue_waiting (player : Object) (s : Cache)
    (free : Free s (s.contexts player).sessionId) (state : (s.contexts player).state = .onLogoutReq)
    (keyed : Keyed s) (waiting : Waiting s) : Waiting (addPlayerToFinalizingQueue player s) := by
  have marked := update_waiting s player (fun context => {context with finalizing := true}) (.inl free)
    (fun _ => state) keyed waiting
  have narrows : Narrows (s.update player fun context => {context with finalizing := true})
      (addPlayerToFinalizingQueue player s) := by
    refine narrows_same (s.update player fun context => {context with finalizing := true})
      (addPlayerToFinalizingQueue player s) rfl rfl fun event => ?_
    exact ⟨fun member => (List.mem_cons.mp member).resolve_left (by simp),List.mem_cons_of_mem _⟩
  exact narrows_waiting _ _ narrows (fun event other _ found active => ⟨found,rfl,active⟩)
    marked.leaving marked

/-- The next result is taken from the list; its session waits for nothing else. -/
theorem taken_waiting (s : Cache) (event : Nat) (rest : List Nat)
    (returned : s.dbConnPool.returnList = event :: rest) (waiting : Waiting s) :
    Waiting (taken event s) ∧ (.handled event ∉ s.log → decides (s.dbEvents event).data = true →
      Free (taken event s) (s.dbEvents event).sessionId) := by
  have known : event < s.dbConnPool.pushed := waiting.pool.returned event (by simp [returned])
  have narrows : Narrows s (taken event s) := by
    refine ⟨?_,fun known => popFromDBEventReturnList_known _ known,fun before other member => ?_⟩
    · rintro other ⟨inside,unhandled,deciding⟩
      exact ⟨⟨inside,fun member => unhandled (List.mem_cons_of_mem _ member),deciding⟩,rfl,rfl⟩
    · rcases List.mem_cons.mp member with same | earlier
      · obtain rfl := Mark.handled.inj same
        exact known
      · exact before other earlier
  refine ⟨narrows_waiting s _ narrows (fun _ player _ found active => ⟨found,rfl,active⟩) waiting.leaving
    waiting,fun fresh deciding => ?_⟩
  intro other opened same
  obtain ⟨before,session,-⟩ := narrows.opens other opened
  rw [session] at same
  obtain rfl := waiting.single other event before ⟨known,fresh,deciding⟩ same
  exact opened.2.1 List.mem_cons_self

end Fantuan.CacheServer.Settling
