import Fantuan.CacheServer.Relogins

/-! The results of the DB events: what FireEvent reports to the worker, and what the event that is handed
back to the player says. The worker hands every event on.
-/
namespace Fantuan.CacheServer.EventResults
open Lib.Table Lib.Run Lib.Drain Tool.ObjectPool CacheDBEvent ServerLoop Player Commands Sessions PoolEvents
  PoolFirings AvatarAcks EventPushes Relogins

/-- As its constructor and the request leave it. -/
def initial : EventData → Bool
  | .getAvatarList _ avatars => avatars.isEmpty
  | .avatarCreate _ avatar => avatar.avatarId = 0
  | .avatarSelectData _ _ lastChannelId => lastChannelId = 0
  | _ => true

def Fresh (event : PlayerDBEvent) : Prop := event.ret = 0 ∧ initial event.data = true

theorem fresh_allows : Allows Fresh :=
  ⟨fun _ _ _ => ⟨rfl,rfl⟩,fun _ _ _ => ⟨rfl,rfl⟩,fun _ _ => ⟨rfl,rfl⟩,fun _ => ⟨rfl,rfl⟩⟩

def asks : EventData → Bool
  | .getAvatarList _ _ | .avatarCreate _ _ | .avatarSelectData _ _ _ => true
  | _ => false

/-- FireEvent returns a negative value: the query fails, or a name cannot be converted. -/
def fails (answer : Answer) (data : EventData) : Bool :=
  match answer,data with
  | none,data => asks data
  | some rows,.getAvatarList _ _ => rows.any fun row => row.name.isNone
  | some _,_ => false

def lastNumber (answer : Answer) : UInt64 := ((answer.getD []).getLast?.map Row.number).getD 0

def Decoded (answer : Answer) : EventData → Prop
  | .getAvatarList _ avatars => avatars.map (fun avatar => (avatar.avatarId,some avatar.avatarName)) =
      (answer.getD []).map fun row => (row.number,row.name)
  | .avatarCreate _ avatar => avatar.avatarId = lastNumber answer
  | .avatarSelectData _ _ lastChannelId => lastChannelId = (lastNumber answer).toUInt8
  | _ => True

def cached (player : Object) (s : Cache) : List Avatar × UInt8 × CacheAvatarContext :=
  (s.arrayAvatar player,(s.contexts player).avatarCount,(s.contexts player).avatarContext)

def ackRet : Packet → Int32
  | .avatarListAck ret _ => ret
  | .avatarCreateAck ret _ => ret
  | .avatarSelectAck ret _ _ => ret

/-- A failing ack is written, and goes on to the master unless writing it fails. -/
def Refused (player : Object) (s t : Cache) : Prop :=
  ∃ packet success marks, t.log = marks ++ .sent (.client packet) success :: s.log ∧ ackRet packet ≠ 0 ∧
    (success = true → ∃ forwarded,
      .sent (.packetForward (s.contexts player).sessionId (some packet)) forwarded ∈ marks)

/-- What is promised of a result that the player is handed. -/
structure Reported (answer : Answer) (event : PlayerDBEvent) (player : Object) (s t : Cache) : Prop where
  inside : overruns answer event.data = false
  failing : fails answer event.data = true →
    event.ret ≠ 0 ∧ cached player t = cached player s ∧ Refused player s t
  succeeding : fails answer event.data = false → event.ret = 0 ∧ Decoded answer event.data

/-- The player waits for its list, and as many names as it had can be converted. -/
def hears (env : Env) (event : PlayerDBEvent) (player : Object) (s : Cache) : Bool :=
  match event.data with
  | .getAvatarList _ avatars =>
    (s.contexts player).state = .onAvatarListReq && convertible env s player event.ret avatars
  | _ => true

/-- No query fails, the rows fit, and a list that cannot be converted finds its player. -/
def Fine (env : Env) (answer : Answer) (event : PlayerDBEvent) (player : Object) (s : Cache) : Prop :=
  (asks event.data = true → answer.isSome = true) ∧ overruns answer event.data = false ∧
    (fails answer event.data = true → hears env event player s = true)

theorem readAvatars_ret (rows : List Row) (avatars : List Avatar) :
    (readAvatars rows avatars).1 = if (rows.any fun row => row.name.isNone) = true then -1 else 0 := by
  induction rows generalizing avatars with
  | nil => rfl
  | cons row rows ih =>
    rw [readAvatars,List.any_cons]
    cases row.name with
    | none => rfl
    | some name => exact ih _

theorem readAvatars_decoded (rows : List Row) (avatars : List Avatar)
    (fine : (rows.any fun row => row.name.isNone) = false) :
    (readAvatars rows avatars).2.map (fun avatar => (avatar.avatarId,some avatar.avatarName)) =
      avatars.map (fun avatar => (avatar.avatarId,some avatar.avatarName)) ++
        rows.map fun row => (row.number,row.name) := by
  induction rows generalizing avatars with
  | nil => exact (List.append_nil _).symm
  | cons row rows ih =>
    obtain ⟨number,name⟩ := row
    rw [List.any_cons,Bool.or_eq_false_iff] at fine
    cases name with
    | none => cases fine.1
    | some name =>
      rw [readAvatars]
      dsimp only
      rw [ih _ fine.2,List.map_append,List.append_assoc]
      rfl

theorem foldl_last {Value : Type} (read : Row → Value) (rows : List Row) (value : Value) :
    rows.foldl (fun _ row => read row) value = (rows.getLast?.map read).getD value := by
  induction rows generalizing value with
  | nil => rfl
  | cons row rows ih =>
    rw [List.foldl_cons,ih,List.getLast?_cons]
    cases rows.getLast? <;> rfl

theorem created_number (rows : List Row) (avatar : Avatar) :
    (rows.foldl (fun avatar row => {avatar with avatarId := row.number}) avatar).avatarId =
      rows.foldl (fun _ row => row.number) avatar.avatarId := by
  induction rows generalizing avatar with
  | nil => rfl
  | cons row rows ih => exact ih _

theorem fireEvent_ret (answer : Answer) (event : PlayerDBEvent) (fresh : Fresh event)
    (asked : asks event.data = true → answer.isSome = true) :
    (fireEvent answer event).ret = if fails answer (fireEvent answer event).data = true then -1 else 0 := by
  obtain ⟨sessionId,ret,data⟩ := event
  obtain rfl : ret = 0 := fresh.1
  cases data with
  | getAvatarList accountName avatars =>
    obtain ⟨rows,rfl⟩ := Option.isSome_iff_exists.mp (asked rfl)
    exact readAvatars_ret rows avatars
  | avatarCreate =>
    obtain ⟨rows,rfl⟩ := Option.isSome_iff_exists.mp (asked rfl)
    rfl
  | avatarSelectData =>
    obtain ⟨rows,rfl⟩ := Option.isSome_iff_exists.mp (asked rfl)
    rfl
  | _ => cases answer <;> rfl

theorem fireEvent_decoded (answer : Answer) (event : PlayerDBEvent) (fresh : Fresh event)
    (fine : fails answer (fireEvent answer event).data = false) :
    Decoded answer (fireEvent answer event).data := by
  obtain ⟨sessionId,ret,data⟩ := event
  obtain ⟨-,initial⟩ := fresh
  cases answer with
  | none => cases data with
    | getAvatarList => cases fine
    | avatarCreate => cases fine
    | avatarSelectData => cases fine
    | _ => trivial
  | some rows => cases data with
    | getAvatarList accountName avatars =>
      obtain rfl := List.isEmpty_iff.mp initial
      exact readAvatars_decoded rows [] fine
    | avatarCreate accountName avatar =>
      change (rows.foldl (fun avatar row => {avatar with avatarId := row.number}) avatar).avatarId = _
      rw [created_number,of_decide_eq_true initial,foldl_last]
      rfl
    | avatarSelectData avatarId avatarName lastChannelId =>
      change rows.foldl (fun _ row => row.number.toUInt8) lastChannelId = _
      rw [of_decide_eq_true initial,foldl_last (fun row => row.number.toUInt8),lastNumber]
      change _ = (((rows.getLast?.map Row.number).getD 0) : UInt64).toUInt8
      cases rows.getLast? <;> rfl
    | _ => trivial

theorem fireEvent_unanswered (event : PlayerDBEvent) (fresh : Fresh event) (asked : asks event.data = true) :
    (fireEvent none event).ret = 0 ∧ fails none (fireEvent none event).data = true := by
  obtain ⟨sessionId,ret,data⟩ := event
  obtain rfl : ret = 0 := fresh.1
  cases data with
  | getAvatarList => exact ⟨rfl,rfl⟩
  | avatarCreate => exact ⟨rfl,rfl⟩
  | avatarSelectData => exact ⟨rfl,rfl⟩
  | _ => cases asked

section
variable (env : Env) (player : Object) (s : Cache)

theorem sendClient_refused (packet : Packet) (failing : ackRet packet ≠ 0) :
    Refused player s (sendClient env player packet id s) ∧
      cached player (sendClient env player packet id s) = cached player s := by
  rw [sendClient,attempt]
  dsimp only
  split
  · rw [attempt]
    dsimp only
    split
    · exact ⟨⟨packet,_,[_],rfl,failing,fun _ => ⟨_,List.mem_singleton.mpr rfl⟩⟩,rfl⟩
    · exact ⟨⟨packet,_,[_],rfl,failing,fun _ => ⟨_,List.mem_singleton.mpr rfl⟩⟩,rfl⟩
  next lost =>
    refine ⟨⟨packet,_,[],rfl,failing,?_⟩,rfl⟩
    intro sent
    exact absurd sent lost

theorem unsent_refused (t : Cache) (log : t.log = s.log) : ¬ Refused player s t := by
  intro ⟨packet,success,marks,longer,_⟩
  rw [log] at longer
  have lengths := congrArg List.length longer
  rw [List.length_append,List.length_cons] at lengths
  omega

theorem listed_any (ret : Int32) (arrayAvatar : List Avatar) (failing : ret ≠ 0) (state : PlayerState) :
    ((List.range ((s.update player fun context => {context with state := state}).contexts player).avatarCount.toNat).map
      fun i => ((arrayAvatar.getD i ⟨0,[]⟩).avatarId,env.wchar2Char (arrayAvatar.getD i ⟨0,[]⟩).avatarName)).any
        (fun entry => entry.2.isNone) = !convertible env s player ret arrayAvatar := by
  rw [update_same,convertible,if_neg failing,List.any_map,List.not_all_eq_any_not]
  refine List.any_congr rfl ?_
  intro i
  exact (Option.not_isSome _).symm

/-- The result of a list that cannot be read: the player that waits for it gets its failing ack. -/
theorem listResult_refused (ret : Int32) (arrayAvatar : List Avatar) (failing : ret ≠ 0) :
    (let t := onPlayerEventGetAvatarListResult env player ret arrayAvatar s
    cached player t = cached player s ∧ Refused player s t) ↔
      (s.contexts player).state = .onAvatarListReq ∧ convertible env s player ret arrayAvatar = true := by
  by_cases state : (s.contexts player).state = .onAvatarListReq
  · have reached : transition (s.contexts player).state .avatarListAck = some .avatarListAck := by
      rw [state]
      rfl
    have kept : cached player (s.update player fun context => {context with state := .avatarListAck}) =
        cached player s := by
      rw [cached,update_same]
      rfl
    have session : ((s.update player fun context => {context with state := .avatarListAck}).contexts
        player).sessionId = (s.contexts player).sessionId := by rw [update_same]
    dsimp only
    rw [onPlayerEventGetAvatarListResult,expect,reached]
    dsimp only
    rw [saveAvatars,if_neg failing,listed_any env player s ret arrayAvatar failing .avatarListAck]
    cases converts : convertible env s player ret arrayAvatar with
    | false =>
      rw [Bool.not_false,if_pos rfl]
      constructor
      · intro both
        exact absurd both.2 (unsent_refused player s _ rfl)
      · intro both
        cases both.2
    | true =>
      rw [Bool.not_true,if_neg Bool.false_ne_true]
      obtain ⟨refused,same⟩ := sendClient_refused env player
        (s.update player fun context => {context with state := .avatarListAck}) (.avatarListAck ret _) failing
      rw [Refused,session] at refused
      exact ⟨fun _ => ⟨state,rfl⟩,fun _ => ⟨same.trans kept,refused⟩⟩
  · have stays : transition (s.contexts player).state .avatarListAck = none := by
      revert state
      cases (s.contexts player).state <;> decide
    dsimp only
    rw [onPlayerEventGetAvatarListResult,expect,stays]
    constructor
    · intro both
      exact absurd both.2 (unsent_refused player s s rfl)
    · intro both
      exact absurd both.1 state

theorem fireEvent_asks (answer : Answer) (event : PlayerDBEvent) :
    asks (fireEvent answer event).data = asks event.data := by
  obtain ⟨sessionId,ret,data⟩ := event
  cases data <;> cases answer <;> rfl

theorem fails_list (answer : Answer) (data : EventData) (asked : asks data = true → answer.isSome = true)
    (failing : fails answer data = true) : ∃ accountName avatars, data = .getAvatarList accountName avatars := by
  cases answer with
  | none => cases asked failing
  | some rows =>
    cases data with
    | getAvatarList accountName avatars => exact ⟨accountName,avatars,rfl⟩
    | _ => cases failing

theorem listed_reported (event : PlayerDBEvent) (accountName : List UInt16) (avatars : List Avatar)
    (data : event.data = .getAvatarList accountName avatars) (failing : event.ret ≠ 0) :
    (cached player (onPlayerEventResult env player event s) = cached player s ∧
      Refused player s (onPlayerEventResult env player event s)) ↔ hears env event player s = true := by
  rw [onPlayerEventResult,hears,data]
  dsimp only
  rw [Bool.and_eq_true,decide_eq_true_iff]
  exact listResult_refused env player s event.ret avatars failing

/-- The result of an event that was fired once is right just when no query fails, its rows fit, and a list
that cannot be converted is heard. -/
theorem reported_fine (answer : Answer) (event : PlayerDBEvent) (fresh : Fresh event) :
    let fired := fireEvent answer event
    Reported answer fired player s (onPlayerEventResult env player fired s) ↔ Fine env answer fired player s := by
  dsimp only
  constructor
  · intro reported
    have asked : asks (fireEvent answer event).data = true → answer.isSome = true := by
      intro asked
      cases answer with
      | some rows => rfl
      | none =>
        rw [fireEvent_asks] at asked
        obtain ⟨silent,failing⟩ := fireEvent_unanswered event fresh asked
        exact absurd silent (reported.failing failing).1
    refine ⟨asked,reported.inside,?_⟩
    intro failing
    obtain ⟨accountName,avatars,data⟩ := fails_list answer _ asked failing
    obtain ⟨told,both⟩ := reported.failing failing
    exact (listed_reported env player s _ accountName avatars data told).mp both
  · intro ⟨asked,inside,heard⟩
    have ret := fireEvent_ret answer event fresh (by rw [← fireEvent_asks answer]; exact asked)
    refine ⟨inside,?_,?_⟩
    · intro failing
      rw [if_pos failing] at ret
      have told : (fireEvent answer event).ret ≠ 0 := by
        rw [ret]
        decide
      obtain ⟨accountName,avatars,data⟩ := fails_list answer _ asked failing
      exact ⟨told,(listed_reported env player s _ accountName avatars data told).mpr (heard failing)⟩
    · intro fine
      rw [if_neg ((Bool.not_eq_true _).mpr fine)] at ret
      exact ⟨ret,fireEvent_decoded answer event fresh fine⟩

end

def Right (env : Env) (s : Cache) : Action → Prop
  | .result => ∀ event ∈ s.dbConnPool.returnList.head?,
    ∀ player ∈ find (s.dbEvents event).sessionId s.playerContextBySessionId,
      Reported (env.answers event) (s.dbEvents event) player (taken event s) (step env s .result)
  | _ => True

def Careful (env : Env) (s : Cache) : Action → Prop
  | .result => ∀ event ∈ s.dbConnPool.returnList.head?,
    ∀ player ∈ find (s.dbEvents event).sessionId s.playerContextBySessionId,
      Fine env (env.answers event) (s.dbEvents event) player (taken event s)
  | _ => True

def fires : DbConnPool.Worker → Option Nat
  | .firing event => some event
  | _ => none

def Once (s : Cache) : Action → Prop
  | .work worker => ∀ event ∈ s.dbConnPool.workers[worker]?.bind fires, (s.dbConnPool.events event).fired = false
  | _ => True

instance (s : Cache) : DecidablePred (Once s)
  | .work worker => inferInstanceAs (Decidable (∀ event ∈ s.dbConnPool.workers[worker]?.bind fires, _))
  | .shutdown | .onLoginReq _ _ | .onLogoutReq _ | .onRegionEnterReq _ _ _ | .packetForward _ _ | .saveData
  | .tick _ | .result | .drain => inferInstanceAs (Decidable True)

/-- An event is as it was made until it has been fired. -/
structure Filled (env : Env) (s : Cache) : Prop where
  marked : Marked s.dbConnPool
  filled : ∀ event, event < s.dbConnPool.pushed → ∃ fresh, Fresh fresh ∧ s.dbEvents event =
    if (s.dbConnPool.events event).fired = true then fireEvent (env.answers event) fresh else fresh

theorem init_filled (env : Env) : Filled env (init env.config) :=
  ⟨new_marked env.config.dbConnCount,fun _ pushed => absurd pushed (Nat.not_lt_zero _)⟩

section
variable (env : Env) (s : Cache) (filled : Filled env s)
include filled

theorem same_filled (t : Cache) (pool : t.dbConnPool = s.dbConnPool) (events : t.dbEvents = s.dbEvents) :
    Filled env t := by
  obtain ⟨marked,filled⟩ := filled
  rw [← pool] at marked filled
  rw [← events] at filled
  exact ⟨marked,filled⟩

theorem push_filled (player : Object) (data : EventData) (returnable : Bool)
    (fresh : Fresh ⟨(s.contexts player).sessionId,0,data⟩) :
    Filled env (pushSequenceEvent player data returnable s) := by
  refine ⟨pushSequenceEvent_marked _ filled.marked _ _ _,?_⟩
  intro event pushed
  have old (before : event < s.dbConnPool.pushed) :
      (pushSequenceEvent player data returnable s).dbEvents event = s.dbEvents event ∧
        (pushSequenceEvent player data returnable s).dbConnPool.events event = s.dbConnPool.events event :=
    ⟨Function.update_of_ne (Nat.ne_of_lt before) ..,pushSequenceEvent_events _ _ _ _ event before⟩
  by_cases before : event < s.dbConnPool.pushed
  · rw [(old before).1,(old before).2]
    exact filled.filled event before
  · obtain ⟨rfl,unfired⟩ := pushSequenceEvent_new (s.contexts player).sessionId.toUInt64 data.eventId returnable
      s.dbConnPool event pushed before
    refine ⟨_,fresh,?_⟩
    rw [if_neg]
    · exact Function.update_self ..
    · intro fired
      exact Bool.false_ne_true (unfired.symm.trans fired)

theorem pushes_filled (t : Cache) (pushes : Pushes Fresh s t) : Filled env t := by
  induction pushes with
  | refl => exact filled
  | tail _ step ih =>
    cases step with
    | other _ pool events => exact same_filled env _ ih _ pool events
    | push player data returnable fresh => exact push_filled env _ ih player data returnable fresh

theorem work_filled (worker : Nat) (once : Once s (.work worker)) : Filled env (work env worker s) := by
  have pool : (work env worker s).dbConnPool = DbConnPool.workerStep worker s.dbConnPool := by
    rw [work]
    split <;> rfl
  refine ⟨by rw [pool]; exact workerStep_marked _ filled.marked worker,?_⟩
  intro event pushed
  rw [pool,workerStep_pushed] at pushed
  obtain ⟨fresh,made,same⟩ := filled.filled event pushed
  refine ⟨fresh,made,?_⟩
  rw [pool,workerStep_mark]
  by_cases firing : s.dbConnPool.workers[worker]? = some (.firing event)
  · have unfired := once event (by rw [firing]; rfl)
    rw [unfired,if_neg Bool.false_ne_true] at same
    rw [decide_eq_true firing,Bool.or_true,if_pos rfl,work,firing]
    dsimp only
    rw [Function.update_self,same]
  · have kept : (work env worker s).dbEvents event = s.dbEvents event := by
      rw [work]
      split
      next other here =>
        have different : event ≠ other := by
          intro same
          rw [same] at firing
          exact firing here
        exact Function.update_of_ne different ..
      · rfl
    rw [kept,decide_eq_false firing,Bool.or_false]
    exact same

end

theorem drain_pushes (s : Cache) : Pushes Fresh s (drain s) := by
  have drained : (drainBack Commands.deletePlayer s.finalizingQueue s).dbConnPool = s.dbConnPool ∧
      (drainBack Commands.deletePlayer s.finalizingQueue s).dbEvents = s.dbEvents := by
    apply drainBack_invariant _ (fun t => t.dbConnPool = s.dbConnPool ∧ t.dbEvents = s.dbEvents)
      s.finalizingQueue _ s ⟨rfl,rfl⟩
    exact fun _ _ _ same => same
  apply same_pushes
  · rw [drain,checkShutdown]
    split
    · exact drained.1
    · exact drained.1
  · rw [drain,checkShutdown]
    split
    · exact drained.2
    · exact drained.2

theorem onPacketReceived_pushes (env : Env) (player : Object) (packet : ClientPacket) (s : Cache) :
    Pushes Fresh s (onPacketReceived env player packet s) := by
  cases packet with
  | avatarListReq => exact onAvatarListReq_pushes Fresh env player s fun _ => ⟨rfl,rfl⟩
  | avatarCreateReq avatarName =>
    rw [onPacketReceived]
    split
    · exact onAvatarCreateReq_pushes Fresh env player s fresh_allows _
    · exact .refl
  | avatarSelectReq avatarName =>
    rw [onPacketReceived]
    split
    · exact onAvatarSelectReq_pushes Fresh env player s _ fun _ => ⟨rfl,rfl⟩
    · exact .refl
  | other => exact .refl

theorem onLoginReq_pushes (s : Cache) (sessionId : UInt32) (accountName : List UInt16) :
    Pushes Fresh s (onCommandOnLoginReq sessionId accountName s) := by
  rw [onCommandOnLoginReq]
  split
  · exact .refl
  next player pool _ =>
    let listed : Cache := {s with
      playerContextPool := pool
      playerContextBySessionId := insert sessionId player s.playerContextBySessionId
      logins := Function.update s.logins player s.loginCount
      loginCount := s.loginCount + 1}
    have entered : Pushes Fresh s listed := same_pushes Fresh s listed rfl rfl
    exact entered.trans (expect_pushes Fresh player listed _ _ fun t _ => same_pushes Fresh t _ rfl rfl)

theorem step_filled (env : Env) (s : Cache) (action : Action) (filled : Filled env s) (once : Once s action) :
    Filled env (step env s action) := by
  have running (handle : Cache → Cache) (pushes : Pushes Fresh s (handle s)) :
      Filled env (whileRunning handle s) :=
    pushes_filled env s filled _ (whileRunning_pushes Fresh s handle pushes)
  have session (sessionId : UInt32) (handle : Object → Cache → Cache)
      (pushes : ∀ player, Pushes Fresh s (handle player s)) :
      Filled env (whileRunning (forSession sessionId handle) s) :=
    running _ (forSession_pushes Fresh s sessionId handle fun player _ => pushes player)
  cases action with
  | shutdown =>
    exact running (fun s => {s with shutdownStatus := .startShutdown}) (same_pushes Fresh s _ rfl rfl)
  | onLoginReq sessionId accountName => exact running _ (onLoginReq_pushes s sessionId accountName)
  | onLogoutReq sessionId =>
    exact session sessionId _ fun player => onLogoutReq_pushes Fresh env player s fresh_allows
  | onRegionEnterReq sessionId serverId avatarName =>
    exact session sessionId _ fun player =>
      onRegionEnterReq_pushes Fresh env player s serverId avatarName fun _ => ⟨rfl,rfl⟩
  | packetForward sessionId packet =>
    exact session sessionId _ fun player => onPacketReceived_pushes env player packet s
  | saveData => exact running _ (saveDataToDB_pushes Fresh env s fresh_allows)
  | tick currTime => exact same_filled env s filled {s with currTime := currTime} rfl rfl
  | work worker => exact work_filled env s filled worker once
  | result =>
    rw [step,onDBEventResult]
    split
    next event rest returned =>
      have popped : Filled env (taken event s) :=
        ⟨popFromDBEventReturnList_marked _ filled.marked,filled.filled⟩
      exact pushes_filled env _ popped _ (forSession_pushes Fresh (taken event s) _ _ fun player _ =>
        onPlayerEventResult_pushes Fresh env player _ fresh_allows _)
    · exact filled
  | drain => exact pushes_filled env s filled _ (drain_pushes s)

theorem right_iff (env : Env) (s : Cache) (action : Action) (filled : Filled env s) :
    Right env s action ↔ Careful env s action := by
  cases action with
  | result =>
    have same (event : Nat) (next : s.dbConnPool.returnList.head? = some event) (player : Object)
        (found : find (s.dbEvents event).sessionId s.playerContextBySessionId = some player) :
        Reported (env.answers event) (s.dbEvents event) player (taken event s) (step env s .result) ↔
          Fine env (env.answers event) (s.dbEvents event) player (taken event s) := by
      obtain ⟨rest,returned⟩ := List.head?_eq_some_iff.mp next
      have member : event ∈ s.dbConnPool.returnList := by
        rw [returned]
        exact List.mem_cons_self
      have fired := filled.marked.returned event member
      obtain ⟨fresh,made,data⟩ := filled.filled event (filled.marked.known.returned event member)
      rw [if_pos fired] at data
      have handled : step env s .result = onPlayerEventResult env player (s.dbEvents event) (taken event s) := by
        rw [step,onDBEventResult,returned]
        dsimp only
        rw [forSession,found,taken]
      rw [handled,data]
      exact reported_fine env player (taken event s) (env.answers event) fresh made
    constructor
    · intro right event next player found
      exact (same event next player found).mp (right event next player found)
    · intro careful event next player found
      exact (same event next player found).mpr (careful event next player found)
  | _ => exact Iff.rfl

/-- In a run in which no event is fired twice the results are right, just as long as no query fails, the rows
fit, and every list that cannot be converted is heard. -/
theorem results_right_iff (env : Env) (actions : List Action) :
    (Guarded (step env) (fun s action => Once s action ∧ Careful env s action) (init env.config) actions →
        Guarded (step env) (Right env) (init env.config) actions) ∧
      (Guarded (step env) Once (init env.config) actions →
        Guarded (step env) (Right env) (init env.config) actions →
          Guarded (step env) (Careful env) (init env.config) actions) := by
  constructor
  · intro careful
    refine guarded_invariant (step env) _ _ (Filled env) ?_ ?_ _ actions careful (init_filled env)
    · exact fun s action filled both => step_filled env s action filled both.1
    · exact fun s action filled both => (right_iff env s action filled).mpr both.2
  · intro once right
    exact (guarded_iff (step env) Once (Right env) (Careful env) (Filled env)
      (fun s action filled once => step_filled env s action filled once)
      (fun s action filled _ => right_iff env s action filled) _ actions once (init_filled env)).mp right

def refusingEnv : Env := {sampleEnv with answers := fun _ => none}

def listing : List Action :=
  ([.onLoginReq firstSession [97],.packetForward firstSession .avatarListReq] : List Action) ++ answered.take 5

/-- The query fails, and the player is told that it has no avatars. -/
theorem results_right_refused :
    let s := run (step refusingEnv) (init refusingEnv.config) listing
    Guarded (step refusingEnv) Once (init refusingEnv.config) (listing ++ [.result]) ∧
      s.dbConnPool.returnList = [0] ∧ fails (refusingEnv.answers 0) (s.dbEvents 0).data = true ∧
      (s.dbEvents 0).ret = 0 ∧
      .sent (.client (.avatarListAck 0 [])) true ∈ (step refusingEnv s .result).log ∧
      ¬ Guarded (step refusingEnv) (Right refusingEnv) (init refusingEnv.config) (listing ++ [.result]) := by
  intro s
  have once : Guarded (step refusingEnv) Once (init refusingEnv.config) (listing ++ [.result]) := by
    decide +kernel
  have returned : s.dbConnPool.returnList = [0] := by decide +kernel
  have failing : fails (refusingEnv.answers 0) (s.dbEvents 0).data = true := by decide +kernel
  have silent : (s.dbEvents 0).ret = 0 := by decide +kernel
  refine ⟨once,returned,failing,silent,by decide +kernel,?_⟩
  intro right
  have last := (guarded_append (step refusingEnv) _ _ listing .result [] right).2.1
  have found : find (s.dbEvents 0).sessionId s.playerContextBySessionId = some 0 := by decide +kernel
  exact ((last 0 (by rw [returned]; rfl) 0 found).failing failing).1 silent

end Fantuan.CacheServer.EventResults
