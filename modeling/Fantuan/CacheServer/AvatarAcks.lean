import Fantuan.CacheServer.Settling

/-! The answers to the avatar requests. A request is acknowledged when it is refused or, at most
once, when the result of its DB event is handled; then its player can list or select again.
-/
namespace Fantuan.CacheServer.AvatarAcks
open Lib.Table Lib.Run Lib.Drain Tool.ObjectPool CacheDBEvent ServerLoop Player Commands PlayerSteps
  Sessions PoolEvents Settling

inductive Request where
  | list | create | select
  deriving DecidableEq

def requestOf : ClientPacket → Option Request
  | .avatarListReq => some .list
  | .avatarCreateReq _ => some .create
  | .avatarSelectReq _ => some .select
  | .other => none

def eventOf : EventData → Option Request
  | .getAvatarList _ _ => some .list
  | .avatarCreate _ _ => some .create
  | .avatarSelectData _ _ _ => some .select
  | _ => none

def ackOf : Packet → Request
  | .avatarListAck _ _ => .list
  | .avatarCreateAck _ _ => .create
  | .avatarSelectAck _ _ _ => .select

def isAck (request : Request) (sessionId : UInt32) : Mark → Bool
  | .sent (.packetForward session (some packet)) true => session = sessionId && ackOf packet = request
  | _ => false

def acks (request : Request) (sessionId : UInt32) (s : Cache) : Nat :=
  s.log.countP (isAck request sessionId)

def accepts (state : PlayerState) : Bool :=
  (transition state .onAvatarListReq).isSome || (transition state .onAvatarSelectReq).isSome

/-- The two sends that follow the next marks of the log succeed. -/
def delivers (env : Env) (marks : Nat) (s : Cache) : Bool :=
  env.net (s.log.length + marks) && env.net (s.log.length + marks + 1)

/-- The request pushes its event, or is answered without one. -/
def grants (env : Env) (s : Cache) (player : Object) : ClientPacket → Bool
  | .avatarListReq =>
    (transition (s.contexts player).state .onAvatarListReq).isSome && env.memory s.log.length &&
      (s.contexts player).sessionId ≠ 0
  | .avatarCreateReq avatarName =>
    (env.char2WChar avatarName).isSome &&
      if env.memory s.log.length then (s.contexts player).sessionId ≠ 0
      else delivers env 1 s && accepts (s.contexts player).state
  | .avatarSelectReq avatarName =>
    (match env.char2WChar avatarName with
      | some name => (avatars player s).any fun avatar => avatar.avatarName = name
      | none => false) &&
    (transition (s.contexts player).state .onAvatarSelectReq).isSome && env.memory s.log.length &&
      (s.contexts player).sessionId ≠ 0
  | .other => true

/-- As many avatars as the player has after the result can be converted. -/
def convertible (env : Env) (s : Cache) (player : Object) (ret : Int32) (arrayAvatar : List Avatar) :
    Bool :=
  let count := if ret = 0 then UInt8.ofNat arrayAvatar.length else (s.contexts player).avatarCount
  (List.range count.toNat).all fun i => (env.wchar2Char (arrayAvatar.getD i ⟨0,[]⟩).avatarName).isSome

/-- The result finds the player where it waits, and can be sent. -/
def returns (env : Env) (s : Cache) (player : Object) (event : PlayerDBEvent) : Bool :=
  delivers env 0 s &&
  match event.data with
  | .getAvatarList _ arrayAvatar =>
    (s.contexts player).state = .onAvatarListReq && convertible env s player event.ret arrayAvatar
  | .avatarCreate _ avatar =>
    accepts (s.contexts player).state && (event.ret ≠ 0 || (env.wchar2Char avatar.avatarName).isSome &&
      (s.contexts player).avatarCount.toNat < avatarCountMax)
  | .avatarSelectData _ avatarName _ =>
    (s.contexts player).state = .onAvatarSelectReq &&
      (event.ret ≠ 0 || (env.wchar2Char avatarName).isSome)
  | _ => true

/-- Requests are granted, the pool returns an event once, the result of a request finds its
player, and a pass deletes at most one. -/
def Prompt (env : Env) (s : Cache) : Action → Prop
  | .packetForward sessionId packet => s.shutdownStatus = .notShutdown →
    ∀ player ∈ find sessionId s.playerContextBySessionId, grants env s player packet = true
  | .result => ∀ event ∈ s.dbConnPool.returnList.head?, .handled event ∉ s.log ∧
    ((eventOf (s.dbEvents event).data).isSome = true →
      ∃ player ∈ find (s.dbEvents event).sessionId s.playerContextBySessionId,
        returns env (taken event s) player (s.dbEvents event) = true)
  | .drain => s.finalizingQueue.length ≤ 1
  | _ => True

instance (env : Env) (s : Cache) : DecidablePred (Prompt env s)
  | .packetForward _ _ => inferInstanceAs (Decidable (_ → ∀ player ∈ find _ _, _))
  | .result => inferInstanceAs (Decidable (∀ event ∈ s.dbConnPool.returnList.head?, _ ∧ (_ → ∃ _ ∈ _, _)))
  | .drain => inferInstanceAs (Decidable (_ ≤ _))
  | .shutdown | .onLoginReq _ _ | .onLogoutReq _ | .onRegionEnterReq _ _ _ | .saveData | .tick _
  | .work _ => inferInstanceAs (Decidable True)

/-- An ack of the request is given to the master, and its player can list or select again. -/
def Acknowledges (request : Request) (sessionId : UInt32) (player : Object) (s t : Cache) : Prop :=
  acks request sessionId t = acks request sessionId s + 1 ∧ accepts (t.contexts player).state = true

/-- The request is acknowledged at once and pushes no event, or pushes one: then it is
acknowledged when the result is handled, which happens at most once. -/
structure Answered (env : Env) (s : Cache) (sessionId : UInt32) (packet : ClientPacket)
    (request : Request) (player : Object) (later : List Action) : Prop where
  asked :
    (step env s (.packetForward sessionId packet)).dbConnPool.pushed = s.dbConnPool.pushed ∧
      Acknowledges request sessionId player s (step env s (.packetForward sessionId packet)) ∨
    (step env s (.packetForward sessionId packet)).dbConnPool.pushed = s.dbConnPool.pushed + 1 ∧
      acks request sessionId (step env s (.packetForward sessionId packet)) = acks request sessionId s
  result : (step env s (.packetForward sessionId packet)).dbConnPool.pushed =
      s.dbConnPool.pushed + 1 → ∀ before rest, later = before ++ .result :: rest →
    (run (step env) (step env s (.packetForward sessionId packet)) before).dbConnPool.returnList.head? =
      some s.dbConnPool.pushed →
    ∃ player,
      find sessionId (run (step env) (step env s (.packetForward sessionId packet))
        before).playerContextBySessionId = some player ∧
      Acknowledges request sessionId player
        (run (step env) (step env s (.packetForward sessionId packet)) before)
        (step env (run (step env) (step env s (.packetForward sessionId packet)) before) .result)
  once : (run (step env) (step env s (.packetForward sessionId packet)) later).log.count
    (.handled s.dbConnPool.pushed) ≤ 1

/-- What a step leaves of the events, beside the result that it handles. -/
structure Advances (s t : Cache) : Prop where
  pool : Known s.dbConnPool → Known t.dbConnPool
  pushed : s.dbConnPool.pushed ≤ t.dbConnPool.pushed
  handled : ∀ event, t.log.count (.handled event) = s.log.count (.handled event)
  events : ∀ event, event < s.dbConnPool.pushed →
    (t.dbEvents event).sessionId = (s.dbEvents event).sessionId ∧
      eventOf (t.dbEvents event).data = eventOf (s.dbEvents event).data

theorem advances_refl (s : Cache) : Advances s s := ⟨id,le_rfl,fun _ => rfl,fun _ _ => ⟨rfl,rfl⟩⟩

theorem advances_trans (s t u : Cache) (first : Advances s t) (second : Advances t u) :
    Advances s u where
  pool := fun known => second.pool (first.pool known)
  pushed := first.pushed.trans second.pushed
  handled := fun event => (second.handled event).trans (first.handled event)
  events := by
    intro event inside
    obtain ⟨session,data⟩ := first.events event inside
    obtain ⟨session',data'⟩ := second.events event (inside.trans_le first.pushed)
    exact ⟨session'.trans session,data'.trans data⟩

theorem fireEvent_eventOf (answer : Answer) (event : PlayerDBEvent) :
    eventOf (fireEvent answer event).data = eventOf event.data := by
  obtain ⟨sessionId,ret,data⟩ := event
  cases data <;> cases answer <;> rfl

theorem work_advances (env : Env) (s : Cache) (worker : Nat) : Advances s (work env worker s) := by
  have pushed := workerStep_pushed worker s.dbConnPool
  rw [work]
  split
  next fired here =>
    refine ⟨fun known => workerStep_known _ known worker,pushed.ge,fun _ => rfl,fun event inside => ?_⟩
    dsimp only
    by_cases same : event = fired
    · rw [same,Function.update_self]
      exact ⟨(fireEvent_same _ _).1,fireEvent_eventOf _ _⟩
    · rw [Function.update_of_ne same]
      exact ⟨rfl,rfl⟩
  · exact ⟨fun known => workerStep_known _ known worker,pushed.ge,fun _ => rfl,fun _ _ => ⟨rfl,rfl⟩⟩

theorem push_advances (s : Cache) (player : Object) (data : EventData) (returnable : Bool) :
    Advances s (pushSequenceEvent player data returnable s) where
  pool := fun known => pushSequenceEvent_known _ known _ _ _
  pushed := by
    rcases OpenEvents.push_pushed s player data returnable with ⟨same,-⟩ | more
    · rw [same]
    · omega
  handled := fun _ => rfl
  events := by
    intro event inside
    have same : (pushSequenceEvent player data returnable s).dbEvents event = s.dbEvents event :=
      Function.update_of_ne (Nat.ne_of_lt inside) ..
    rw [same]
    exact ⟨rfl,rfl⟩

theorem does_advances (env : Env) (s t : Cache) (does : Does env True False s t) : Advances s t := by
  induction does with
  | refl => exact advances_refl s
  | tail _ step ih =>
    refine advances_trans _ _ _ ih ?_
    cases step with
    | call mark plain =>
      refine ⟨id,le_rfl,fun event => List.count_cons_of_ne ?_,fun _ _ => ⟨rfl,rfl⟩⟩
      rintro rfl
      cases plain
    | work worker => exact work_advances env _ worker
    | push player data returnable => exact push_advances _ player data returnable
    | queue => exact ⟨id,le_rfl,fun event => List.count_cons_of_ne (by simp),fun _ _ => ⟨rfl,rfl⟩⟩
    | _ => exact ⟨id,le_rfl,fun _ => rfl,fun _ _ => ⟨rfl,rfl⟩⟩

theorem step_advances (env : Env) (s : Cache) (action : Action) (sound : Sound s)
    (single : Single s action) : Advances s (step env s action) ∨
      ∃ event rest, action = .result ∧ s.dbConnPool.returnList = event :: rest ∧
        Advances (taken event s) (step env s action) := by
  by_cases plain : plainAction action = true
  · exact .inl (does_advances env _ _
      (step_does env True False s action plain (sound_keyed s sound) fun _ => trivial))
  · cases action with
    | onLoginReq sessionId accountName =>
      refine .inl ?_
      rcases onLoginReq_cases env s sessionId accountName (unused s sound) with
        same | ⟨player,pool,-,-,result⟩
      · rw [same]
        exact advances_refl s
      · rw [result]
        exact ⟨id,le_rfl,fun _ => rfl,fun _ _ => ⟨rfl,rfl⟩⟩
    | result =>
      rw [step,onDBEventResult]
      split
      next event rest returned =>
        refine .inr ⟨event,rest,rfl,returned,does_advances env _ _ ?_⟩
        have keyed : Keyed (taken event s) := sound_keyed s sound
        refine forSession_does env True False _ _ _ keyed fun player listed => ?_
        exact onPlayerEventResult_does env True False player _ listed _ (fun _ => trivial)
          fun guard => guard.elim
      · exact .inl (advances_refl s)
    | drain =>
      refine .inl ?_
      obtain ⟨status,⟨-,result⟩ | ⟨player,-,result⟩⟩ := drain_cases s single
      · rw [step,result]
        exact ⟨id,le_rfl,fun _ => rfl,fun _ _ => ⟨rfl,rfl⟩⟩
      · rw [step,result]
        exact ⟨id,le_rfl,fun event => List.count_cons_of_ne (by simp),fun _ _ => ⟨rfl,rfl⟩⟩
    | _ => exact absurd rfl plain

/-- Every event that was handled has been pushed. -/
structure Numbered (s : Cache) : Prop where
  sound : Sound s
  pool : Known s.dbConnPool
  fresh : ∀ event, s.dbConnPool.pushed ≤ event → s.log.count (.handled event) = 0

theorem init_numbered (config : Config) : Numbered (init config) :=
  ⟨init_sound config,new_known config.dbConnCount,fun _ _ => rfl⟩

theorem taken_count (event other : Nat) (s : Cache) : (taken event s).log.count (.handled other) =
    s.log.count (.handled other) + if event = other then 1 else 0 := by
  rw [taken,List.count_cons]
  simp only [beq_iff_eq,Mark.handled.injEq]

theorem advances_fresh (s t : Cache) (advances : Advances s t)
    (fresh : ∀ event, s.dbConnPool.pushed ≤ event → s.log.count (.handled event) = 0) (event : Nat)
    (later : t.dbConnPool.pushed ≤ event) : t.log.count (.handled event) = 0 := by
  rw [advances.handled]
  exact fresh event (advances.pushed.trans later)

theorem step_numbered (env : Env) (s : Cache) (action : Action) (numbered : Numbered s)
    (single : Single s action) : Numbered (step env s action) := by
  obtain ⟨sound,pool,fresh⟩ := numbered
  refine ⟨step_sound env s action sound single,?_,?_⟩
  · rcases step_advances env s action sound single with advances | ⟨event,rest,-,-,advances⟩
    · exact advances.pool pool
    · exact advances.pool (popFromDBEventReturnList_known _ pool)
  · rcases step_advances env s action sound single with advances | ⟨event,rest,-,returned,advances⟩
    · exact advances_fresh s _ advances fresh
    · have inside : event < s.dbConnPool.pushed := pool.returned event (by simp [returned])
      refine advances_fresh _ _ advances fun other later => ?_
      change s.dbConnPool.pushed ≤ other at later
      rw [taken_count,fresh other later,if_neg (by omega)]

/-- The event belongs to the session and the request. -/
structure Pending (event : Nat) (sessionId : UInt32) (request : Request) (s : Cache) : Prop where
  numbered : Numbered s
  inside : event < s.dbConnPool.pushed
  session : (s.dbEvents event).sessionId = sessionId
  data : eventOf (s.dbEvents event).data = some request

theorem prompt_single (env : Env) (s : Cache) (action : Action) (prompt : Prompt env s action) :
    Single s action := by
  cases action with
  | drain => exact prompt
  | _ => trivial

structure Handling (s : Cache) : Prop where
  numbered : Numbered s
  once : ∀ event, s.log.count (.handled event) ≤ 1

theorem step_handling (env : Env) (s : Cache) (action : Action) (handling : Handling s)
    (prompt : Prompt env s action) : Handling (step env s action) := by
  have single := prompt_single env s action prompt
  refine ⟨step_numbered env s action handling.numbered single,fun event => ?_⟩
  rcases step_advances env s action handling.numbered.sound single with
    advances | ⟨other,rest,rfl,returned,advances⟩
  · rw [advances.handled]
    exact handling.once event
  · rw [advances.handled,taken_count]
    by_cases same : other = event
    · subst same
      have fresh : .handled other ∉ s.log := (prompt other (by simp [returned])).1
      rw [List.count_eq_zero_of_not_mem fresh,if_pos rfl]
    · rw [if_neg same]
      exact handling.once event

theorem run_handling (env : Env) (s : Cache) (actions : List Action)
    (guarded : Guarded (step env) (Prompt env) s actions) (handling : Handling s) :
    Handling (run (step env) s actions) :=
  run_invariant (step env) (Prompt env) Handling (step_handling env) s actions guarded handling

theorem step_pending (env : Env) (s : Cache) (action : Action) (event : Nat) (sessionId : UInt32)
    (request : Request) (pending : Pending event sessionId request s) (prompt : Prompt env s action) :
    Pending event sessionId request (step env s action) := by
  have single := prompt_single env s action prompt
  obtain ⟨numbered,inside,session,data⟩ := pending
  have again := step_numbered env s action numbered single
  rcases step_advances env s action numbered.sound single with advances | ⟨_,_,-,-,advances⟩
  · obtain ⟨sameSession,sameData⟩ := advances.events event inside
    exact ⟨again,inside.trans_le advances.pushed,sameSession.trans session,sameData.trans data⟩
  · obtain ⟨sameSession,sameData⟩ := advances.events event inside
    exact ⟨again,inside.trans_le advances.pushed,sameSession.trans session,sameData.trans data⟩

def forwarded (player : Object) (packet : Packet) (s : Cache) : Cache :=
  {s with
    delay := some packet
    log := .sent (.packetForward (s.contexts player).sessionId (some packet)) true ::
      .sent (.client packet) true :: s.log}

theorem sendClient_forwarded (env : Env) (player : Object) (packet : Packet) (next : Cache → Cache)
    (s : Cache) (delivered : delivers env 0 s = true) :
    sendClient env player packet next s = next (forwarded player packet s) := by
  rw [delivers,Nat.add_zero,Bool.and_eq_true] at delivered
  have second : env.net (Mark.sent (.client packet) true :: s.log).length = true := delivered.2
  rw [sendClient,attempt]
  dsimp only
  rw [delivered.1,if_pos rfl,attempt]
  dsimp only
  rw [second,if_pos rfl]
  rfl

section
variable (request : Request) (sessionId : UInt32) (player : Object)

theorem forwarded_acks (s : Cache) (packet : Packet)
    (session : (s.contexts player).sessionId = sessionId) (kind : ackOf packet = request) :
    acks request sessionId (forwarded player packet s) = acks request sessionId s + 1 := by
  rw [acks,forwarded,List.countP_cons_of_pos,List.countP_cons_of_neg]
  · rfl
  · simp [isAck]
  · simp [isAck,session,kind]

theorem forwarded_acknowledges (s t : Cache) (packet : Packet)
    (same : acks request sessionId t = acks request sessionId s)
    (session : (t.contexts player).sessionId = sessionId) (kind : ackOf packet = request)
    (accepted : accepts (t.contexts player).state = true) :
    Acknowledges request sessionId player s (forwarded player packet t) := by
  refine ⟨?_,accepted⟩
  rw [← same]
  exact forwarded_acks request sessionId player t packet session kind

theorem taken_acks (event : Nat) (s : Cache) :
    acks request sessionId (taken event s) = acks request sessionId s :=
  List.countP_cons_of_neg (by simp [isAck])

theorem allocation_acks (success : Bool) (s : Cache) :
    acks request sessionId (allocation success s) = acks request sessionId s :=
  List.countP_cons_of_neg (by simp [isAck])

end

theorem saveAvatars_same (player : Object) (ret : Int32) (arrayAvatar : List Avatar) (s : Cache) :
    (saveAvatars player ret arrayAvatar s).log = s.log ∧
      ((saveAvatars player ret arrayAvatar s).contexts player).sessionId = (s.contexts player).sessionId ∧
      ((saveAvatars player ret arrayAvatar s).contexts player).state = (s.contexts player).state ∧
      ((saveAvatars player ret arrayAvatar s).contexts player).avatarCount =
        if ret = 0 then UInt8.ofNat arrayAvatar.length else (s.contexts player).avatarCount := by
  rw [saveAvatars]
  split
  · have saved := update_same s player fun context =>
      {context with avatarCount := UInt8.ofNat arrayAvatar.length}
    refine ⟨rfl,?_⟩
    dsimp only
    rw [saved]
    exact ⟨rfl,rfl,rfl⟩
  · exact ⟨rfl,rfl,rfl,rfl⟩

section
variable (env : Env) (sessionId : UInt32) (player : Object) (s : Cache)
  (session : (s.contexts player).sessionId = sessionId) (delivered : delivers env 0 s = true)
include session delivered

theorem getAvatarListResult_acknowledges (ret : Int32) (arrayAvatar : List Avatar)
    (state : (s.contexts player).state = .onAvatarListReq)
    (converts : convertible env s player ret arrayAvatar = true) :
    Acknowledges .list sessionId player s
      (onPlayerEventGetAvatarListResult env player ret arrayAvatar s) := by
  have reached : transition (s.contexts player).state .avatarListAck = some .avatarListAck := by
    rw [state]
    rfl
  rw [onPlayerEventGetAvatarListResult,expect,reached]
  dsimp only
  obtain ⟨log,keyed,acknowledged,count⟩ := saveAvatars_same player ret arrayAvatar
    (s.update player fun context => {context with state := .avatarListAck})
  rw [update_same] at keyed acknowledged count
  generalize saveAvatars player ret arrayAvatar _ = listed at *
  rw [if_neg]
  · rw [sendClient_forwarded env player _ id listed (by rw [delivers,log]; exact delivered)]
    apply forwarded_acknowledges
    · rw [acks,log]
      rfl
    · exact keyed.trans session
    · rfl
    · rw [acknowledged]
      rfl
  · rw [convertible,List.all_eq_true] at converts
    rw [List.any_eq_true]
    rintro ⟨entry,member,missing⟩
    obtain ⟨i,inside,rfl⟩ := List.mem_map.mp member
    rw [count] at inside
    have converted := converts i inside
    rw [Option.isSome_iff_ne_none] at converted
    exact converted (Option.isNone_iff_eq_none.mp missing)

theorem avatarCreateResult_acknowledges (ret : Int32) (avatar : Avatar)
    (accepted : accepts (s.contexts player).state = true)
    (room : ret ≠ 0 ∨ (env.wchar2Char avatar.avatarName).isSome = true ∧
      (s.contexts player).avatarCount.toNat < avatarCountMax) :
    Acknowledges .create sessionId player s
      (onPlayerEventAvatarCreateResult env player ret avatar s) := by
  rw [onPlayerEventAvatarCreateResult]
  by_cases failed : ret ≠ 0
  · rw [if_pos failed,sendClient_forwarded env player _ id s delivered]
    exact forwarded_acknowledges .create sessionId player s s _ rfl session rfl accepted
  · obtain ⟨converts,inside⟩ := room.resolve_left failed
    obtain ⟨name,converted⟩ := Option.isSome_iff_exists.mp converts
    have added := update_same s player fun context =>
      {context with avatarCount := context.avatarCount + 1}
    rw [if_neg failed,converted]
    dsimp only
    rw [if_neg (Nat.not_le.mpr inside),sendClient_forwarded]
    · apply forwarded_acknowledges
      · rfl
      · dsimp only
        rw [added]
        exact session
      · rfl
      · dsimp only
        rw [added]
        exact accepted
    · exact delivered

theorem acknowledgeSelect_acknowledges (packet : Packet) (kind : ackOf packet = .select)
    (state : (s.contexts player).state = .onAvatarSelectReq) :
    Acknowledges .select sessionId player s (acknowledgeSelect env player packet s) := by
  have reached : transition ((forwarded player packet s).contexts player).state .avatarSelectAck =
      some .avatarSelectAck := by
    change transition (s.contexts player).state .avatarSelectAck = _
    rw [state]
    rfl
  rw [acknowledgeSelect,sendClient_forwarded env player packet _ s delivered,reached]
  refine ⟨forwarded_acks .select sessionId player s packet session kind,?_⟩
  rw [update_same]
  rfl

theorem avatarSelectResult_acknowledges (ret : Int32) (avatarId : UInt64) (avatarName : List UInt16)
    (lastChannelId : UInt8) (state : (s.contexts player).state = .onAvatarSelectReq)
    (converts : ret ≠ 0 ∨ (env.wchar2Char avatarName).isSome = true) :
    Acknowledges .select sessionId player s
      (onPlayerEventAvatarSelectResult env player ret avatarId avatarName lastChannelId s) := by
  rw [onPlayerEventAvatarSelectResult]
  by_cases failed : ret ≠ 0
  · rw [if_pos failed]
    exact acknowledgeSelect_acknowledges env sessionId player s session delivered _ rfl state
  · obtain ⟨name,converted⟩ := Option.isSome_iff_exists.mp (converts.resolve_left failed)
    have selected : ((selectAvatar player avatarId avatarName lastChannelId s).contexts player).sessionId =
          sessionId ∧
        ((selectAvatar player avatarId avatarName lastChannelId s).contexts player).state =
          .onAvatarSelectReq := by
      rw [selectAvatar,update_same]
      exact ⟨session,state⟩
    rw [if_neg failed]
    dsimp only
    rw [converted]
    exact acknowledgeSelect_acknowledges env sessionId player
      (selectAvatar player avatarId avatarName lastChannelId s) selected.1 delivered _ rfl selected.2

end

theorem onPlayerEventResult_acknowledges (env : Env) (request : Request) (player : Object)
    (event : PlayerDBEvent) (s : Cache) (session : (s.contexts player).sessionId = event.sessionId)
    (kind : eventOf event.data = some request) (returned : returns env s player event = true) :
    Acknowledges request event.sessionId player s (onPlayerEventResult env player event s) := by
  obtain ⟨sessionId,ret,data⟩ := event
  rw [returns,Bool.and_eq_true] at returned
  obtain ⟨delivered,fits⟩ := returned
  cases data with
  | getAvatarList accountName arrayAvatar =>
    obtain rfl := Option.some.inj kind
    rw [Bool.and_eq_true,decide_eq_true_eq] at fits
    exact getAvatarListResult_acknowledges env sessionId player s session delivered ret arrayAvatar
      fits.1 fits.2
  | avatarCreate accountName avatar =>
    obtain rfl := Option.some.inj kind
    simp only [Bool.and_eq_true,Bool.or_eq_true,decide_eq_true_eq] at fits
    exact avatarCreateResult_acknowledges env sessionId player s session delivered ret avatar fits.1
      fits.2
  | avatarSelectData avatarId avatarName lastChannelId =>
    obtain rfl := Option.some.inj kind
    simp only [Bool.and_eq_true,Bool.or_eq_true,decide_eq_true_eq] at fits
    exact avatarSelectResult_acknowledges env sessionId player s session delivered ret avatarId
      avatarName lastChannelId fits.1 fits.2
  | _ => cases kind

theorem result_acknowledges (env : Env) (s : Cache) (event : Nat) (sessionId : UInt32)
    (request : Request) (pending : Pending event sessionId request s) (prompt : Prompt env s .result)
    (returned : s.dbConnPool.returnList.head? = some event) :
    ∃ player, find sessionId s.playerContextBySessionId = some player ∧
      Acknowledges request sessionId player s (step env s .result) := by
  obtain ⟨rest,list⟩ : ∃ rest, s.dbConnPool.returnList = event :: rest :=
    List.head?_eq_some_iff.mp returned
  obtain ⟨player,found,fits⟩ := (prompt event (by rw [returned]; rfl)).2 (by rw [pending.data]; rfl)
  have keyed := sound_keyed s pending.numbered.sound _ player found
  have result : step env s .result = onPlayerEventResult env player (s.dbEvents event) (taken event s) := by
    rw [step,onDBEventResult,list]
    exact forSession_some _ _ (taken event s) player found
  obtain ⟨more,accepted⟩ := onPlayerEventResult_acknowledges env request player (s.dbEvents event)
    (taken event s) keyed pending.data fits
  rw [pending.session] at found more
  rw [taken_acks] at more
  rw [result]
  exact ⟨player,found,more,accepted⟩

/-- The event of a request is pushed, and nothing is answered yet. -/
structure Requested (request : Request) (sessionId : UInt32) (s t : Cache) : Prop where
  pushed : t.dbConnPool.pushed = s.dbConnPool.pushed + 1
  acks : acks request sessionId t = acks request sessionId s
  session : (t.dbEvents s.dbConnPool.pushed).sessionId = sessionId
  data : eventOf (t.dbEvents s.dbConnPool.pushed).data = some request

theorem push_requested (s t : Cache) (player : Object) (request : Request) (data : EventData)
    (pool : t.dbConnPool = s.dbConnPool) (log : t.log = s.log)
    (same : (t.contexts player).sessionId = (s.contexts player).sessionId)
    (nonzero : (s.contexts player).sessionId ≠ 0) (kind : eventOf data = some request) :
    Requested request (s.contexts player).sessionId s
      (pushSequenceEvent player data true (allocation true t)) := by
  have event : (pushSequenceEvent player data true (allocation true t)).dbEvents
      s.dbConnPool.pushed = ⟨(s.contexts player).sessionId,0,data⟩ := by
    rw [← pool,← same]
    exact Function.update_self ..
  refine ⟨?_,?_,by rw [event],by rw [event]; exact kind⟩
  · rcases OpenEvents.push_pushed (allocation true t) player data true with ⟨-,zero⟩ | more
    · exact absurd (same.symm.trans zero) nonzero
    · rw [more,← pool]
      rfl
  · change acks request _ (allocation true t) = _
    rw [allocation_acks,acks,acks,log]

section
variable (env : Env) (player : Object) (s : Cache)

theorem onAvatarListReq_requested
    (granted : grants env s player .avatarListReq = true) :
    Requested .list (s.contexts player).sessionId s (onAvatarListReq env player s) := by
  simp only [grants,Bool.and_eq_true,decide_eq_true_eq] at granted
  obtain ⟨⟨row,memory⟩,nonzero⟩ := granted
  obtain ⟨next,reached⟩ := Option.isSome_iff_exists.mp row
  rw [onAvatarListReq,expect,reached]
  dsimp only
  rw [allocateEvent_eq]
  change Requested _ _ _ (if env.memory s.log.length = true then _ else _)
  rw [if_pos memory]
  refine push_requested s (s.update player fun context => {context with state := next}) player .list _ rfl
    rfl ?_ nonzero rfl
  rw [update_same]

theorem onAvatarSelectReq_requested (avatarName : List UInt16)
    (known : (avatars player s).any (fun avatar => avatar.avatarName = avatarName) = true)
    (row : (transition (s.contexts player).state .onAvatarSelectReq).isSome = true)
    (memory : env.memory s.log.length = true) (nonzero : (s.contexts player).sessionId ≠ 0) :
    Requested .select (s.contexts player).sessionId s (onAvatarSelectReq env player avatarName s) := by
  obtain ⟨next,reached⟩ := Option.isSome_iff_exists.mp row
  have listed : avatars player (s.update player fun context => {context with state := next}) =
      avatars player s := by
    rw [avatars,update_same]
    rfl
  obtain ⟨avatar,chosen⟩ := Option.isSome_iff_exists.mp (List.find?_isSome.mpr (List.any_eq_true.mp known))
  rw [onAvatarSelectReq,expect,reached]
  dsimp only
  rw [listed,chosen]
  dsimp only
  rw [allocateEvent_eq]
  change Requested _ _ _ (if env.memory s.log.length = true then _ else _)
  rw [if_pos memory]
  refine push_requested s (s.update player fun context => {context with state := next}) player .select _ rfl
    rfl ?_ nonzero rfl
  rw [update_same]

theorem onAvatarCreateReq_answered (avatarName : List UInt16)
    (granted : if env.memory s.log.length = true then (s.contexts player).sessionId ≠ 0
      else delivers env 1 s = true ∧ accepts (s.contexts player).state = true) :
    ((onAvatarCreateReq env player avatarName s).dbConnPool.pushed = s.dbConnPool.pushed ∧
      Acknowledges .create (s.contexts player).sessionId player s
        (onAvatarCreateReq env player avatarName s)) ∨
    Requested .create (s.contexts player).sessionId s (onAvatarCreateReq env player avatarName s) := by
  rw [onAvatarCreateReq,allocateEvent_eq]
  by_cases memory : env.memory s.log.length = true
  · rw [if_pos memory] at granted ⊢
    exact .inr (push_requested s s player .create _ rfl rfl rfl granted rfl)
  · rw [if_neg memory] at granted ⊢
    rw [sendClient_forwarded env player _ id (allocation false s) granted.1]
    refine .inl ⟨rfl,?_⟩
    exact forwarded_acknowledges .create _ player s (allocation false s) _
      (allocation_acks .create _ false s) rfl rfl granted.2

end

theorem onPacketReceived_answered (env : Env) (player : Object) (s : Cache) (packet : ClientPacket)
    (request : Request) (kind : requestOf packet = some request)
    (granted : grants env s player packet = true) :
    ((onPacketReceived env player packet s).dbConnPool.pushed = s.dbConnPool.pushed ∧
      Acknowledges request (s.contexts player).sessionId player s (onPacketReceived env player packet s)) ∨
    Requested request (s.contexts player).sessionId s (onPacketReceived env player packet s) := by
  cases packet with
  | avatarListReq =>
    obtain rfl := Option.some.inj kind
    exact .inr (onAvatarListReq_requested env player s granted)
  | avatarCreateReq avatarName =>
    obtain rfl := Option.some.inj kind
    rw [grants,Bool.and_eq_true] at granted
    obtain ⟨name,converted⟩ := Option.isSome_iff_exists.mp granted.1
    rw [onPacketReceived,converted]
    apply onAvatarCreateReq_answered
    have rest := granted.2
    split at rest
    next memory =>
      rw [if_pos memory]
      exact of_decide_eq_true rest
    next memory =>
      rw [if_neg memory]
      rwa [Bool.and_eq_true] at rest
  | avatarSelectReq avatarName =>
    obtain rfl := Option.some.inj kind
    simp only [grants,Bool.and_eq_true,decide_eq_true_eq] at granted
    obtain ⟨⟨⟨known,row⟩,memory⟩,nonzero⟩ := granted
    cases converted : env.char2WChar avatarName with
    | none =>
      rw [converted] at known
      cases known
    | some name =>
      rw [converted] at known
      rw [onPacketReceived,converted]
      exact .inr (onAvatarSelectReq_requested env player s name known row memory nonzero)
  | other => cases kind

/-- In every run whose requests are granted and whose results can be sent, a request for a
player is answered by exactly one ack. -/
theorem avatarReq_answered (env : Env) (earlier later : List Action) (sessionId : UInt32)
    (packet : ClientPacket) (request : Request) (player : Object)
    (guarded : Guarded (step env) (Prompt env) (init env.config)
      (earlier ++ .packetForward sessionId packet :: later))
    (running : (run (step env) (init env.config) earlier).shutdownStatus = .notShutdown)
    (found : find sessionId
      (run (step env) (init env.config) earlier).playerContextBySessionId = some player)
    (kind : requestOf packet = some request) :
    Answered env (run (step env) (init env.config) earlier) sessionId packet request player later := by
  obtain ⟨before,prompt,after⟩ := guarded_append (step env) (Prompt env) (init env.config) earlier _
    later guarded
  have handling := run_handling env _ earlier before ⟨init_numbered env.config,fun _ => Nat.zero_le 1⟩
  generalize run (step env) (init env.config) earlier = s at *
  have numbered := handling.numbered
  have session := sound_keyed s numbered.sound sessionId player found
  have result : step env s (.packetForward sessionId packet) = onPacketReceived env player packet s := by
    rw [step,whileRunning,if_pos running,forSession,found]
  have answered := onPacketReceived_answered env player s packet request kind
    (prompt running player found)
  rw [session,← result] at answered
  have again := step_handling env s _ handling prompt
  refine ⟨answered.imp_right fun requested => ⟨requested.pushed,requested.acks⟩,?_,
    (run_handling env _ later after again).once _⟩
  rintro pushed before rest rfl returned
  have requested := answered.resolve_left fun atOnce => by
    have same := atOnce.1
    omega
  obtain ⟨first,prompt',-⟩ := guarded_append (step env) (Prompt env) _ before .result rest after
  have pending := run_invariant (step env) (Prompt env)
    (Pending s.dbConnPool.pushed sessionId request)
    (fun s action pending prompt => step_pending env s action _ sessionId request pending prompt) _ before
    first ⟨again.numbered,by omega,requested.session,requested.data⟩
  exact result_acknowledges env _ _ sessionId request pending prompt' returned

def selecting : List Action :=
  ([.onLoginReq firstSession [97],.packetForward firstSession .avatarListReq] : List Action) ++ answered

theorem avatarReq_answered_select :
    Answered sampleEnv (run (step sampleEnv) (init sampleEnv.config) selecting) firstSession
      (.avatarSelectReq [97]) .select 0 answered :=
  avatarReq_answered sampleEnv selecting answered firstSession (.avatarSelectReq [97]) .select 0
    (by decide +kernel) (by decide +kernel) (by decide +kernel) rfl

def strangerEnv : Env := {sampleEnv with char2WChar := fun _ => some [98]}

theorem avatarReq_answered_stranger :
    find firstSession
        (run (step strangerEnv) (init strangerEnv.config) selecting).playerContextBySessionId = some 0 ∧
      ¬ Answered strangerEnv (run (step strangerEnv) (init strangerEnv.config) selecting) firstSession
        (.avatarSelectReq [98]) .select 0 answered := by
  refine ⟨by decide +kernel,fun answered => ?_⟩
  have asked := answered.asked
  revert asked
  unfold Acknowledges
  decide +kernel

end Fantuan.CacheServer.AvatarAcks
