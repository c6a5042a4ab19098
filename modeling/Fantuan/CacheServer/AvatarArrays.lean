import Mathlib.Data.List.GetD
import Fantuan.CacheServer.Commands
import Fantuan.Lib.Visits
import Fantuan.StarNet.DataStream

/-! The avatar arrays of the cache: that of a DB event, that into which a result is converted
and that of a player's context, each of AVATARCOUNT_MAX entries. What a step reads and writes
of them, by entries.
-/
namespace Fantuan.CacheServer.AvatarArrays
open Lib.Table Lib.Run Lib.Drain Lib.Visits Tool.ObjectPool StarNet.Packet StarNet.DataStream CacheDBEvent
  ServerLoop Player Commands

def entries (indexes : List Nat) : List Access := indexes.map fun index => ⟨index,avatarCountMax⟩

def ftdAvatarSize : Nat := 48

def fireEventAccesses (answer : Answer) : EventData → List Access
  | .getAvatarList _ avatars =>
    let rows := answer.getD []
    entries ((visits (fun i => (rows.getD (i - avatars.length) ⟨0,none⟩).name.isSome) avatars.length
      rows.length).map fun index => (UInt8.ofNat index).toNat)
  | _ => []

/-- memcpy of the whole array, the conversion, and what Serialize copies if it fits. -/
def getAvatarListResultAccesses (env : Env) (player : Object) (ret : Int32) (arrayAvatar : List Avatar)
    (s : Cache) : List Access :=
  if (transition (s.contexts player).state .avatarListAck).isSome then
    let count := ((saveAvatars player ret arrayAvatar s).contexts player).avatarCount.toNat
    let fine i := (env.wchar2Char (arrayAvatar.getD i ⟨0,[]⟩).avatarName).isSome
    let sent := (UInt8.ofNat arrayAvatar.length).toNat
    entries (if ret = 0 then List.range avatarCountMax else []) ++ entries (visits fine 0 count) ++
      entries (if (List.range count).all fine = true ∧ 7 + sent * ftdAvatarSize ≤ maxInputBuffer then
        List.range sent else [])
  else []

def avatarCreateResultAccesses (env : Env) (player : Object) (ret : Int32) (avatar : Avatar)
    (s : Cache) : List Access :=
  let count := (s.contexts player).avatarCount.toNat
  entries (if ret = 0 ∧ (env.wchar2Char avatar.avatarName).isSome ∧ count < avatarCountMax then [count]
    else [])

def resultAccesses (env : Env) (player : Object) (event : PlayerDBEvent) (s : Cache) : List Access :=
  match event.data with
  | .getAvatarList _ arrayAvatar => getAvatarListResultAccesses env player event.ret arrayAvatar s
  | .avatarCreate _ avatar => avatarCreateResultAccesses env player event.ret avatar s
  | _ => []

/-- The search for the name ends with the first avatar that has it. -/
def avatarSelectReqAccesses (player : Object) (avatarName : List UInt16) (s : Cache) : List Access :=
  if (transition (s.contexts player).state .onAvatarSelectReq).isSome then
    entries (visits (fun i => ((s.arrayAvatar player).getD i ⟨0,[]⟩).avatarName ≠ avatarName) 0
      (s.contexts player).avatarCount.toNat)
  else []

def packetAccesses (env : Env) (player : Object) (s : Cache) : ClientPacket → List Access
  | .avatarSelectReq avatarName =>
    match env.char2WChar avatarName with
    | some name => avatarSelectReqAccesses player name s
    | none => []
  | _ => []

def accesses (env : Env) (s : Cache) : Action → List Access
  | .work worker =>
    match s.dbConnPool.workers[worker]? with
    | some (.firing event) => fireEventAccesses (env.answers event) (s.dbEvents event).data
    | _ => []
  | .result =>
    match s.dbConnPool.returnList with
    | event :: _ =>
      match find (s.dbEvents event).sessionId s.playerContextBySessionId with
      | some player => resultAccesses env player (s.dbEvents event) s
      | none => []
    | [] => []
  | .packetForward sessionId packet =>
    if s.shutdownStatus = .notShutdown then
      match find sessionId s.playerContextBySessionId with
      | some player => packetAccesses env player s packet
      | none => []
    else []
  | _ => []

/-- The rows fit into what is left of the array, or a name that cannot be converted ends the
reading before. -/
def rowsFit (answer : Answer) : EventData → Bool
  | .getAvatarList _ avatars =>
    let rows := answer.getD []
    avatars.length + rows.length ≤ avatarCountMax ||
      (rows.take (avatarCountMax - avatars.length)).any fun row => row.name.isNone
  | _ => true

/-- The query that a thread answers has rows that fit. -/
def fits (env : Env) (s : Cache) : Action → Bool
  | .work worker =>
    match s.dbConnPool.workers[worker]? with
    | some (.firing event) => rowsFit (env.answers event) (s.dbEvents event).data
    | _ => true
  | _ => true

def Fits (env : Env) (s : Cache) (action : Action) : Prop := fits env s action = true

instance (env : Env) (s : Cache) : DecidablePred (Fits env s) :=
  fun _ => inferInstanceAs (Decidable (_ = true))

/-- No count is beyond AVATARCOUNT_MAX, in a context or in an event. -/
structure Counted (s : Cache) : Prop where
  contexts : ∀ player, (s.contexts player).avatarCount.toNat ≤ avatarCountMax
  events : ∀ event accountName avatars, (s.dbEvents event).data = .getAvatarList accountName avatars →
    avatars.length ≤ avatarCountMax

def Inside (env : Env) (s : Cache) (action : Action) : Prop :=
  ∀ access ∈ accesses env s action, access.Inside

theorem entries_inside (indexes : List Nat) :
    (∀ access ∈ entries indexes, access.Inside) ↔ ∀ index ∈ indexes, index < avatarCountMax := by
  rw [entries,List.forall_mem_map]
  rfl

theorem rowsFit_iff (rows : List Row) (accountName : List UInt16) (avatars : List Avatar) :
    rowsFit (some rows) (.getAvatarList accountName avatars) = true ↔
      avatars.length + rows.length ≤ avatarCountMax ∨ ∃ stop, avatars.length ≤ stop ∧
        stop < avatarCountMax ∧ stop - avatars.length < rows.length ∧
          (rows.getD (stop - avatars.length) ⟨0,none⟩).name.isSome = false := by
  rw [rowsFit,Option.getD_some]
  rw [Bool.or_eq_true,decide_eq_true_eq,List.any_eq_true]
  apply or_congr_right
  constructor
  · rintro ⟨row,taken,missing⟩
    obtain ⟨i,inside,rfl⟩ := List.mem_iff_getElem.mp taken
    rw [List.length_take] at inside
    refine ⟨avatars.length + i,by omega,by omega,by omega,?_⟩
    rw [Nat.add_sub_cancel_left,List.getD_eq_getElem _ _ (by omega)]
    rw [List.getElem_take] at missing
    simpa using missing
  · rintro ⟨stop,least,within,inside,missing⟩
    refine ⟨rows[stop - avatars.length],?_,?_⟩
    · apply List.mem_iff_getElem.mpr
      refine ⟨stop - avatars.length,?_,List.getElem_take⟩
      rw [List.length_take]
      omega
    · rw [List.getD_eq_getElem _ _ inside] at missing
      simpa using missing

theorem fireEventAccesses_inside (answer : Answer) (accountName : List UInt16) (avatars : List Avatar)
    (short : avatars.length ≤ avatarCountMax) :
    (∀ access ∈ fireEventAccesses answer (.getAvatarList accountName avatars), access.Inside) ↔
      rowsFit answer (.getAvatarList accountName avatars) = true := by
  have wide : rowsFit answer (.getAvatarList accountName avatars) =
      rowsFit (some (answer.getD [])) (.getAvatarList accountName avatars) := rfl
  rw [fireEventAccesses,wide,rowsFit_iff,entries_inside,List.forall_mem_map]
  generalize answer.getD [] = rows
  generalize fine : (fun i => (rows.getD (i - avatars.length) (⟨0,none⟩ : Row)).name.isSome) = goes
  -- the index does not wrap before the end of the array is passed
  have wraps : (∀ i ∈ visits goes avatars.length rows.length, (UInt8.ofNat i).toNat < avatarCountMax) ↔
      ∀ i ∈ visits goes avatars.length rows.length, i < avatarCountMax := by
    constructor
    · intro inside i visited
      by_contra outside
      have passed := inside _ (visits_before goes _ _ i avatarCountMax visited short (by omega))
      revert passed
      decide
    · intro inside i visited
      exact (Nat.mod_le _ _).trans_lt (inside i visited)
  rw [wraps,visits_inside]
  subst fine
  constructor
  · rintro (none | fit | ⟨stop,least,within,stops⟩)
    · exact .inl (by omega)
    · exact .inl fit
    · by_cases inside : stop - avatars.length < rows.length
      · exact .inr ⟨stop,least,within,inside,stops⟩
      · exact .inl (by omega)
  · rintro (fit | ⟨stop,least,within,-,stops⟩)
    · exact .inr (.inl fit)
    · exact .inr (.inr ⟨stop,least,within,stops⟩)

theorem readAvatars_length (rows : List Row) (avatars : List Avatar)
    (fit : rowsFit (some rows) (.getAvatarList [] avatars) = true)
    (short : avatars.length ≤ avatarCountMax) :
    (readAvatars rows avatars).2.length ≤ avatarCountMax := by
  induction rows generalizing avatars with
  | nil => exact short
  | cons row rows ih =>
    rw [readAvatars]
    split
    next name converted =>
      rw [rowsFit,Option.getD_some,Bool.or_eq_true,decide_eq_true_eq,List.length_cons] at fit
      have room : avatars.length < avatarCountMax := by
        rcases fit with enough | stops
        · omega
        · by_contra full
          rw [show avatarCountMax - avatars.length = 0 by omega,List.take_zero] at stops
          cases stops
      apply ih
      · rw [rowsFit,Option.getD_some,Bool.or_eq_true,decide_eq_true_eq,List.length_append,
          List.length_singleton]
        refine fit.imp (fun enough => by omega) fun stops => ?_
        rw [show avatarCountMax - avatars.length = avatarCountMax - (avatars.length + 1) + 1 by omega,
          List.take_succ_cons,List.any_cons,converted] at stops
        simpa using stops
      · rw [List.length_append,List.length_singleton]
        exact room
    · exact short

theorem init_counted (config : Config) : Counted (init config) where
  contexts := fun _ => Nat.zero_le _
  events := fun _ _ _ same => by cases same

theorem same_counted (s t : Cache) (contexts : t.contexts = s.contexts) (events : t.dbEvents = s.dbEvents)
    (counted : Counted s) : Counted t :=
  ⟨by rw [contexts]; exact counted.contexts,by rw [events]; exact counted.events⟩

theorem context_counted (s t : Cache) (player : Object) (context : CachePlayerContext)
    (contexts : t.contexts = Function.update s.contexts player context) (events : t.dbEvents = s.dbEvents)
    (few : context.avatarCount.toNat ≤ avatarCountMax) (counted : Counted s) : Counted t := by
  refine ⟨fun other => ?_,by rw [events]; exact counted.events⟩
  rw [contexts]
  by_cases same : other = player
  · rw [same,Function.update_self]
    exact few
  · rw [Function.update_of_ne same]
    exact counted.contexts other

theorem update_counted (s : Cache) (player : Object) (change : CachePlayerContext → CachePlayerContext)
    (same : (change (s.contexts player)).avatarCount = (s.contexts player).avatarCount)
    (counted : Counted s) : Counted (s.update player change) := by
  refine context_counted s _ player _ rfl rfl ?_ counted
  rw [same]
  exact counted.contexts player

def Blank (data : EventData) : Prop := ∀ accountName avatars, data = .getAvatarList accountName avatars →
  avatars = []

theorem push_counted (s : Cache) (player : Object) (data : EventData) (returnable : Bool)
    (blank : Blank data) (counted : Counted s) : Counted (pushSequenceEvent player data returnable s) := by
  refine ⟨counted.contexts,fun event accountName avatars same => ?_⟩
  rw [pushSequenceEvent] at same
  dsimp only at same
  by_cases here : event = s.dbConnPool.pushed
  · rw [here,Function.update_self] at same
    rw [blank accountName avatars same]
    exact Nat.zero_le _
  · rw [Function.update_of_ne here] at same
    exact counted.events event accountName avatars same

section
variable (env : Env) (player : Object) (s : Cache) (counted : Counted s)
include counted

theorem expect_counted (event : PlayerEvent) (next : Cache → Cache)
    (continues : ∀ t, Counted t → Counted (next t)) : Counted (expect event player next s) := by
  rw [expect]
  split
  · exact continues _ (update_counted s player _ rfl counted)
  · exact counted

theorem attempt_counted (message : Message) (next : Cache → Cache)
    (continues : ∀ t, Counted t → Counted (next t)) : Counted (attempt env message next s) := by
  rw [attempt]
  split
  · exact continues _ (same_counted s _ rfl rfl counted)
  · exact same_counted s _ rfl rfl counted

theorem sendClient_counted (packet : Packet) (next : Cache → Cache)
    (continues : ∀ t, Counted t → Counted (next t)) : Counted (sendClient env player packet next s) := by
  refine attempt_counted env s counted _ _ fun t counted => ?_
  exact attempt_counted env {t with delay := some packet} (same_counted t _ rfl rfl counted) _ _ continues

theorem allocateEvent_counted (failed next : Cache → Cache)
    (fails : ∀ t, Counted t → Counted (failed t)) (continues : ∀ t, Counted t → Counted (next t)) :
    Counted (allocateEvent env failed next s) := by
  rw [allocateEvent]
  split
  · exact continues _ (same_counted s _ rfl rfl counted)
  · exact fails _ (same_counted s _ rfl rfl counted)

theorem shutdownPlayer_counted : Counted (shutdownPlayer env player s) := by
  rw [shutdownPlayer]
  split
  · exact counted
  · rw [shutdown]
    split
    · refine allocateEvent_counted env s counted _ _ (fun _ counted => counted) fun t counted => ?_
      exact push_counted t player _ true (by rintro _ _ ⟨⟩) counted
    · have marked := update_counted s player (fun context => {context with finalizing := true}) rfl counted
      exact ⟨marked.contexts,marked.events⟩

theorem onLogoutReq_counted : Counted (onLogoutReq env player s) := by
  refine expect_counted player s counted _ _ fun t counted => ?_
  apply shutdownPlayer_counted
  split
  · refine allocateEvent_counted env t counted _ _ (shutdownPlayer_counted env player) fun u counted => ?_
    exact push_counted u player _ true (by rintro _ _ ⟨⟩) counted
  · exact counted

theorem onLoginReq_counted (sessionId : UInt32) (accountName : List UInt16) :
    Counted (onLoginReq player sessionId accountName s) := by
  refine expect_counted player s counted _ _ fun t counted => ?_
  exact update_counted t player _ rfl counted

theorem onRegionEnterReq_counted (serverId : UInt8) (avatarName : List UInt16) :
    Counted (onRegionEnterReq env player serverId avatarName s) := by
  refine expect_counted player s counted _ _ fun t counted => ?_
  refine allocateEvent_counted env t counted _ _ (fun _ counted => counted) fun u counted => ?_
  apply push_counted
  · rintro _ _ ⟨⟩
  · exact update_counted u player _ rfl counted

theorem onPacketReceived_counted (packet : ClientPacket) :
    Counted (onPacketReceived env player packet s) := by
  cases packet with
  | avatarListReq =>
    refine expect_counted player s counted _ _ fun t counted => ?_
    refine allocateEvent_counted env t counted _ _ (fun u counted => ?_) fun u counted => ?_
    · exact sendClient_counted env player u counted _ _ fun _ counted => counted
    · exact push_counted u player _ true (by rintro _ _ ⟨⟩; rfl) counted
  | avatarCreateReq avatarName =>
    rw [onPacketReceived]
    split
    · refine allocateEvent_counted env s counted _ _ (fun u counted => ?_) fun u counted => ?_
      · exact sendClient_counted env player u counted _ _ fun _ counted => counted
      · exact push_counted u player _ true (by rintro _ _ ⟨⟩) counted
    · exact counted
  | avatarSelectReq avatarName =>
    rw [onPacketReceived]
    split
    · refine expect_counted player s counted _ _ fun t counted => ?_
      split
      · refine allocateEvent_counted env t counted _ _ (fun u counted => ?_) fun u counted => ?_
        · exact sendClient_counted env player u counted _ _ fun _ counted => counted
        · exact push_counted u player _ true (by rintro _ _ ⟨⟩) counted
      · exact counted
    · exact counted
  | other => exact counted

theorem onSaveDataReq_counted (sendNtf : Bool) : Counted (onSaveDataReq env player sendNtf s) := by
  refine allocateEvent_counted env s counted _ _ (fun _ counted => counted) fun t counted => ?_
  exact update_counted _ player _ rfl (push_counted t player _ sendNtf (by rintro _ _ ⟨⟩) counted)

theorem saveDataToDB_counted : Counted (saveDataToDB env s) := by
  rw [saveDataToDB]
  generalize values s.playerContextBySessionId = players
  induction players generalizing s with
  | nil => exact counted
  | cons player players ih =>
    apply ih
    dsimp only
    split
    · exact counted
    · exact onSaveDataReq_counted env player s counted false

theorem saveAvatars_counted (ret : Int32) (arrayAvatar : List Avatar)
    (few : arrayAvatar.length ≤ avatarCountMax) : Counted (saveAvatars player ret arrayAvatar s) := by
  rw [saveAvatars]
  split
  · exact context_counted s _ player _ rfl rfl ((Nat.mod_le _ _).trans few) counted
  · exact counted

theorem avatarCreateResult_counted (ret : Int32) (avatar : Avatar) :
    Counted (onPlayerEventAvatarCreateResult env player ret avatar s) := by
  rw [onPlayerEventAvatarCreateResult]
  split
  · exact sendClient_counted env player s counted _ _ fun _ counted => counted
  · split
    · exact counted
    · split
      · exact counted
      next room =>
        apply sendClient_counted
        · refine context_counted s _ player _ rfl rfl ?_ counted
          exact (Nat.mod_le _ _).trans (Nat.succ_le_of_lt (Nat.lt_of_not_le room))
        · exact fun _ counted => counted

theorem acknowledgeSelect_counted (packet : Packet) :
    Counted (acknowledgeSelect env player packet s) := by
  refine sendClient_counted env player s counted _ _ fun t counted => ?_
  split
  · exact update_counted t player _ rfl counted
  · exact shutdownPlayer_counted env player t counted

theorem onPlayerEventResult_counted (event : PlayerDBEvent)
    (few : ∀ accountName avatars, event.data = .getAvatarList accountName avatars →
      avatars.length ≤ avatarCountMax) : Counted (onPlayerEventResult env player event s) := by
  obtain ⟨sessionId,ret,data⟩ := event
  cases data with
  | getAvatarList accountName arrayAvatar =>
    change Counted (onPlayerEventGetAvatarListResult env player ret arrayAvatar s)
    refine expect_counted player s counted _ _ fun t counted => ?_
    have saved := saveAvatars_counted player t counted ret arrayAvatar (few accountName arrayAvatar rfl)
    dsimp only
    split
    · exact saved
    · exact sendClient_counted env player _ saved _ _ fun _ counted => counted
  | avatarCreate accountName avatar => exact avatarCreateResult_counted env player s counted ret avatar
  | avatarSelectData avatarId avatarName lastChannelId =>
    change Counted (onPlayerEventAvatarSelectResult env player ret avatarId avatarName lastChannelId s)
    rw [onPlayerEventAvatarSelectResult]
    split
    · exact acknowledgeSelect_counted env player s counted _
    · have selected : Counted (selectAvatar player avatarId avatarName lastChannelId s) :=
        update_counted s player _ rfl counted
      dsimp only
      split
      · exact selected
      · exact acknowledgeSelect_counted env player _ selected _
  | avatarEnterRegion avatarId avatarName =>
    change Counted (onPlayerEventAvatarEnterRegionResult env player ret s)
    rw [onPlayerEventAvatarEnterRegionResult]
    apply attempt_counted
    · split
      · exact update_counted _ player _ rfl (same_counted s _ rfl rfl counted)
      · exact counted
    · intro t counted
      exact expect_counted player t counted _ _ fun _ counted => counted
  | avatarSaveData => exact counted
  | avatarLogout =>
    exact update_counted s player (fun context => {context with
      avatarContext := {context.avatarContext with enterRegion := false}}) rfl counted
  | avatarFinalize =>
    have marked := update_counted s player (fun context => {context with finalizing := true}) rfl counted
    exact ⟨marked.contexts,marked.events⟩

end

theorem work_counted (env : Env) (s : Cache) (worker : Nat)
    (fit : Fits env s (.work worker)) (counted : Counted s) : Counted (work env worker s) := by
  rw [work]
  split
  next fired here =>
    refine ⟨counted.contexts,fun event accountName avatars same => ?_⟩
    dsimp only at same
    by_cases this : event = fired
    · have rows : rowsFit (env.answers fired) (s.dbEvents fired).data = true := by
        rw [Fits,fits,here] at fit
        exact fit
      rw [this,Function.update_self] at same
      have few := counted.events fired
      generalize s.dbEvents fired = old at *
      obtain ⟨sessionId,ret,data⟩ := old
      cases data with
      | getAvatarList oldName oldAvatars =>
        have short := few oldName oldAvatars rfl
        generalize env.answers fired = answer at *
        cases answer with
        | none =>
          obtain ⟨-,rfl⟩ := EventData.getAvatarList.inj same
          exact short
        | some rows' =>
          obtain ⟨-,rfl⟩ := EventData.getAvatarList.inj same
          exact readAvatars_length rows' oldAvatars rows short
      | _ =>
        generalize env.answers fired = answer at *
        cases answer <;> cases same
    · rw [Function.update_of_ne this] at same
      exact counted.events event accountName avatars same
  · exact same_counted s _ rfl rfl counted

theorem forSession_counted (sessionId : UInt32) (handle : Object → Cache → Cache) (s : Cache)
    (counted : Counted s) (handles : ∀ player, Counted (handle player s)) :
    Counted (forSession sessionId handle s) := by
  rw [forSession]
  split
  · exact handles _
  · exact counted

theorem drain_counted (s : Cache) (counted : Counted s) : Counted (drain s) := by
  have drained : Counted (drainBack Commands.deletePlayer s.finalizingQueue s) := by
    apply drainBack_invariant _ Counted s.finalizingQueue _ s counted
    exact fun player _ t counted => context_counted t _ player .clear rfl rfl (Nat.zero_le _) counted
  rw [drain,checkShutdown]
  split
  · exact ⟨drained.contexts,drained.events⟩
  · exact ⟨drained.contexts,drained.events⟩

theorem step_counted (env : Env) (s : Cache) (action : Action) (counted : Counted s)
    (fit : Fits env s action) : Counted (step env s action) := by
  have running (handle : Cache → Cache) (handles : Counted (handle s)) :
      Counted (whileRunning handle s) := by
    rw [whileRunning]
    split
    · exact handles
    · exact counted
  cases action with
  | shutdown =>
    exact running (fun s => {s with shutdownStatus := .startShutdown}) ⟨counted.contexts,counted.events⟩
  | onLoginReq sessionId accountName =>
    apply running
    rw [onCommandOnLoginReq]
    split
    · exact counted
    · apply onLoginReq_counted
      exact ⟨counted.contexts,counted.events⟩
  | onLogoutReq sessionId =>
    exact running _ (forSession_counted sessionId _ s counted fun player =>
      onLogoutReq_counted env player s counted)
  | onRegionEnterReq sessionId serverId avatarName =>
    exact running _ (forSession_counted sessionId _ s counted fun player =>
      onRegionEnterReq_counted env player s counted serverId avatarName)
  | packetForward sessionId packet =>
    exact running _ (forSession_counted sessionId _ s counted fun player =>
      onPacketReceived_counted env player s counted packet)
  | saveData => exact running _ (saveDataToDB_counted env s counted)
  | tick currTime => exact same_counted s _ rfl rfl counted
  | work worker => exact work_counted env s worker fit counted
  | result =>
    rw [step,onDBEventResult]
    split
    next event rest returned =>
      apply forSession_counted
      · exact same_counted s _ rfl rfl counted
      · intro player
        apply onPlayerEventResult_counted
        · exact same_counted s _ rfl rfl counted
        · exact counted.events event
    · exact counted
  | drain => exact drain_counted s counted

section
variable (env : Env) (player : Object) (s : Cache) (counted : Counted s)
include counted

theorem visits_counted (fine : Nat → Bool) :
    ∀ index ∈ visits fine 0 (s.contexts player).avatarCount.toNat, index < avatarCountMax := by
  have few := counted.contexts player
  exact (visits_inside fine 0 _ avatarCountMax).mpr (.inr (.inl (by omega)))

theorem getAvatarListResultAccesses_inside (ret : Int32) (arrayAvatar : List Avatar)
    (few : arrayAvatar.length ≤ avatarCountMax) :
    ∀ access ∈ getAvatarListResultAccesses env player ret arrayAvatar s, access.Inside := by
  have saved := saveAvatars_counted player s counted ret arrayAvatar few
  rw [getAvatarListResultAccesses]
  split
  · dsimp only
    intro access accessed
    rcases List.mem_append.mp accessed with earlier | sent
    · rcases List.mem_append.mp earlier with copied | converted
      · refine (entries_inside _).mpr (fun index member => ?_) access copied
        split at member
        · exact List.mem_range.mp member
        · cases member
      · exact (entries_inside _).mpr (visits_counted player _ saved _) access converted
    · refine (entries_inside _).mpr (fun index member => ?_) access sent
      split at member
      · have inside := List.mem_range.mp member
        exact inside.trans_le ((Nat.mod_le _ _).trans few)
      · cases member
  · exact nil_inside

theorem resultAccesses_inside (event : PlayerDBEvent)
    (few : ∀ accountName avatars, event.data = .getAvatarList accountName avatars →
      avatars.length ≤ avatarCountMax) :
    ∀ access ∈ resultAccesses env player event s, access.Inside := by
  rw [resultAccesses]
  split
  next accountName arrayAvatar data =>
    exact getAvatarListResultAccesses_inside env player s counted event.ret arrayAvatar
      (few accountName arrayAvatar data)
  · refine (entries_inside _).mpr fun index member => ?_
    split at member
    next room =>
      obtain rfl := List.mem_singleton.mp member
      exact room.2.2
    · cases member
  · exact nil_inside

theorem packetAccesses_inside (packet : ClientPacket) :
    ∀ access ∈ packetAccesses env player s packet, access.Inside := by
  cases packet with
  | avatarSelectReq avatarName =>
    rw [packetAccesses]
    split
    · rw [avatarSelectReqAccesses]
      split
      · exact (entries_inside _).mpr (visits_counted player s counted _)
      · exact nil_inside
    · exact nil_inside
  | _ => exact nil_inside

end

theorem fires_inside (answer : Answer) (data : EventData) (fit : rowsFit answer data = true)
    (few : ∀ accountName avatars, data = .getAvatarList accountName avatars →
      avatars.length ≤ avatarCountMax) : ∀ access ∈ fireEventAccesses answer data, access.Inside := by
  cases data with
  | getAvatarList accountName avatars =>
    exact (fireEventAccesses_inside answer accountName avatars (few accountName avatars rfl)).mpr fit
  | _ => exact nil_inside

theorem step_inside (env : Env) (s : Cache) (action : Action) (counted : Counted s)
    (fit : Fits env s action) : Inside env s action := by
  rw [Inside]
  cases action with
  | work worker =>
    rw [accesses]
    split
    next event here =>
      rw [Fits,fits,here] at fit
      exact fires_inside _ _ fit (counted.events event)
    · exact nil_inside
  | result =>
    rw [accesses]
    split
    next event _ _ =>
      split
      · exact resultAccesses_inside env _ s counted _ (counted.events event)
      · exact nil_inside
    · exact nil_inside
  | packetForward sessionId packet =>
    rw [accesses]
    split
    · split
      · exact packetAccesses_inside env _ s counted packet
      · exact nil_inside
    · exact nil_inside
  | _ => exact nil_inside

/-- Where the rows of every query fit, the counts stay right and all accesses are inside. -/
theorem run_inside (env : Env) (actions : List Action)
    (guarded : Guarded (step env) (Fits env) (init env.config) actions) :
    Guarded (step env) (Inside env) (init env.config) actions ∧
      Counted (run (step env) (init env.config) actions) :=
  ⟨guarded_invariant (step env) (Fits env) (Inside env) Counted (step_counted env) (step_inside env) _
      actions guarded (init_counted env.config),
    run_invariant (step env) (Fits env) Counted (step_counted env) _ actions guarded
      (init_counted env.config)⟩

end Fantuan.CacheServer.AvatarArrays
