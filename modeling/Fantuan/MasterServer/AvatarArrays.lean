import Fantuan.Lib.Run
import Fantuan.Lib.Visits
import Fantuan.MasterServer.Deletion
import Fantuan.MasterServer.Effects
import Fantuan.StarNet.DataStream

/-! The avatar arrays of the master: the one that an AvatarListAck brings, the one into which
it is converted and that of a player's context. The ack is read from its payload here, with
its count and the length of its array as they come from the wire.
-/
namespace Fantuan.MasterServer.AvatarArrays
open Lib.Bytes Lib.Table Lib.Run Lib.Drain Lib.Visits StarNet.DataStream ServerBase.ServerCommon
  Tool.ObjectPool PlayerFsm Context ServerLoop Player Commands PlayerSteps Handlers Effects Deletion

/-- SERVER_FILTER_GATE and the first function of its filter. -/
def avatarListAckType : UInt16 := 768

def ftdAvatarSize : Nat := 48

/-- The array has memory for as many entries as its length says, and holds the bytes that were
copied into it. -/
structure AvatarListAck where
  result : Int32
  avatarCount : UInt8
  length : UInt16
  bytes : List UInt8

def avatarListAckCallback (data : List UInt8) : Option AvatarListAck := do
  let (result,stream) ← (InputStream.new 16 data).serialize 4
  let (avatarCount,stream) ← stream.serialize 1
  let (length,stream) ← stream.serialize 2
  let length := UInt16.ofNat (ofLe length)
  let (bytes,_) ← stream.serialize (arrayBytes ftdAvatarSize length)
  some ⟨Int32.ofNat (ofLe result),UInt8.ofNat (ofLe avatarCount),length,bytes⟩

/-- ftdAvatar2prdAvatar of an entry. -/
def AvatarListAck.convert (convert : List UInt8 → Option PrdAvatar) (ack : AvatarListAck) (i : Nat) :
    Option PrdAvatar :=
  if i < ack.length.toNat then convert ((ack.bytes.drop (i * ftdAvatarSize)).take ftdAvatarSize) else none

/-- The loop of GateServerRecv::AvatarListAck, up to m_iAvatarCount entries. -/
def AvatarListAck.packet (convert : List UInt8 → Option PrdAvatar) (ack : AvatarListAck) : Packet :=
  let indexes := List.range ack.avatarCount.toNat
  if indexes.all fun i => (ack.convert convert i).isSome then
    .avatarListAck ack.result (indexes.filterMap (ack.convert convert))
  else .other

def AvatarListAck.accesses (convert : List UInt8 → Option PrdAvatar) (ack : AvatarListAck) :
    List Access :=
  (visits (fun i => (ack.convert convert i).isSome) 0 ack.avatarCount.toNat).flatMap fun i =>
    [⟨i,ack.length.toNat⟩,⟨i,avatarCountMax⟩]

/-- The receiver of an AvatarListAck is this one, and no other packet is one. -/
def received (env : Env) (convert : List UInt8 → Option PrdAvatar) (typeId : UInt16) (data : List UInt8) :
    Packet :=
  if typeId = avatarListAckType then
    match avatarListAckCallback data with
    | some ack => ack.packet convert
    | none => .other
  else
    match env.onPacketReceived typeId data with
    | .avatarListAck _ _ => .other
    | packet => packet

def ackEnv (env : Env) (convert : List UInt8 → Option PrdAvatar) : Env :=
  {env with onPacketReceived := received env convert}

def entries (indexes : List Nat) : List Access := indexes.map fun index => ⟨index,avatarCountMax⟩

/-- What a handler that is reached does with the array of the context. -/
def contextAccesses (context : MasterPlayerContext) : Packet → List Access
  | .avatarListAck result avatars =>
    entries (if context.finalizing = false ∧ (transition context.state .onAvatarListAck).isSome ∧ result = 0
      then List.range avatars.length else [])
  | .avatarCreateAck result _ =>
    entries (if context.finalizing = false ∧ (transition context.state .onAvatarCreateAck).isSome ∧
      result = 0 ∧ context.avatars.length < avatarCountMax then [context.avatars.length] else [])
  | .avatarSelectReq avatarName =>
    entries (if context.finalizing = false ∧ (transition context.state .onAvatarSelectReq).isSome then
      visits (fun i => (context.avatars.getD i ⟨0,[]⟩).avatarName ≠ avatarName) 0 context.avatars.length
      else [])
  | _ => []

def packetAccesses (env : Env) (convert : List UInt8 → Option PrdAvatar) (context : MasterPlayerContext)
    (typeId : UInt16) (data : List UInt8) : List Access :=
  (if typeId = avatarListAckType then
    match avatarListAckCallback data with
    | some ack => ack.accesses convert
    | none => []
  else []) ++ contextAccesses context (received env convert typeId data)

def accesses (env : Env) (convert : List UInt8 → Option PrdAvatar) (s : Loop) : Action → List Access
  | .command (.packetForward sessionId typeId data) =>
    if s.shutdownStatus = .notShutdown then
      match find sessionId s.playerContextBySessionId with
      | some player => packetAccesses env convert (s.contexts player) typeId data
      | none => []
    else []
  | _ => []

/-- The count fits into both arrays, or an entry of both that cannot be converted ends the loop. -/
def AvatarListAck.fits (convert : List UInt8 → Option PrdAvatar) (ack : AvatarListAck) : Bool :=
  let both := min ack.length.toNat avatarCountMax
  ack.avatarCount.toNat ≤ both || (List.range both).any fun i => (ack.convert convert i).isNone

def Fits (convert : List UInt8 → Option PrdAvatar) (s : Loop) : Action → Prop
  | .command (.packetForward sessionId typeId data) =>
    s.shutdownStatus = .notShutdown → (find sessionId s.playerContextBySessionId).isSome = true →
      typeId = avatarListAckType → ∀ ack ∈ avatarListAckCallback data, ack.fits convert = true
  | _ => True

instance (convert : List UInt8 → Option PrdAvatar) (s : Loop) : DecidablePred (Fits convert s)
  | .command (.packetForward _ _ _) => inferInstanceAs (Decidable (_ → _ → _ → ∀ ack ∈ _, _))
  | .command .shutdown | .command (.onLoginReport _) | .command (.onGateReport _ _)
  | .command (.onLoginReq _ _) | .command (.gateAllocAck _ _ _ _) | .command (.onGateLoginReq _)
  | .command (.onRegionAllocAck _ _ _) | .command (.onRegionLeaveReq _)
  | .command (.onRegionPlayerFailReq _) | .command (.onSessionDisconnect _) | .command .other | .pass =>
    inferInstanceAs (Decidable True)

def Counted (s : Loop) : Prop := ∀ player, (s.contexts player).avatars.length ≤ avatarCountMax

def Inside (env : Env) (convert : List UInt8 → Option PrdAvatar) (s : Loop) (action : Action) : Prop :=
  ∀ access ∈ accesses env convert s action, access.Inside

/-- The loop over an ack stays inside both arrays exactly if the ack fits. -/
theorem ack_inside (convert : List UInt8 → Option PrdAvatar) (ack : AvatarListAck) :
    (∀ access ∈ ack.accesses convert, access.Inside) ↔ ack.fits convert = true := by
  have both : (∀ access ∈ ack.accesses convert, access.Inside) ↔
      ∀ i ∈ visits (fun i => (ack.convert convert i).isSome) 0 ack.avatarCount.toNat,
        i < min ack.length.toNat avatarCountMax := by
    rw [AvatarListAck.accesses]
    constructor
    · intro inside i visited
      have read := inside ⟨i,ack.length.toNat⟩ (List.mem_flatMap.mpr ⟨i,visited,by simp⟩)
      have written := inside ⟨i,avatarCountMax⟩ (List.mem_flatMap.mpr ⟨i,visited,by simp⟩)
      exact Nat.lt_min.mpr ⟨read,written⟩
    · intro inside access accessed
      obtain ⟨i,visited,either⟩ := List.mem_flatMap.mp accessed
      obtain ⟨read,written⟩ := Nat.lt_min.mp (inside i visited)
      rcases List.mem_cons.mp either with rfl | last
      · exact read
      · obtain rfl := List.mem_singleton.mp last
        exact written
  rw [both,visits_inside,AvatarListAck.fits,Bool.or_eq_true,decide_eq_true_eq,List.any_eq_true]
  constructor
  · rintro (none | fit | ⟨stop,-,within,stops⟩)
    · exact .inl (by omega)
    · exact .inl (by omega)
    · exact .inr ⟨stop,List.mem_range.mpr within,by simpa using stops⟩
  · rintro (fit | ⟨stop,within,stops⟩)
    · exact .inr (.inl (by omega))
    · exact .inr (.inr ⟨stop,Nat.zero_le _,List.mem_range.mp within,by simpa using stops⟩)

theorem packet_few (convert : List UInt8 → Option PrdAvatar) (ack : AvatarListAck) (result : Int32)
    (avatars : List PrdAvatar) (fits : ack.fits convert = true)
    (passed : ack.packet convert = .avatarListAck result avatars) : avatars.length ≤ avatarCountMax := by
  rw [AvatarListAck.packet] at passed
  split at passed
  next converted =>
    obtain ⟨-,rfl⟩ := Packet.avatarListAck.inj passed
    have few := List.length_filterMap_le (ack.convert convert) (List.range ack.avatarCount.toNat)
    rw [List.length_range] at few
    rw [AvatarListAck.fits,Bool.or_eq_true,decide_eq_true_eq,List.any_eq_true] at fits
    rcases fits with fit | ⟨stop,within,stops⟩
    · omega
    · by_contra long
      have inside := List.mem_range.mp within
      have fine := List.all_eq_true.mp converted stop (List.mem_range.mpr (by omega))
      rw [Option.isNone_iff_eq_none] at stops
      rw [stops] at fine
      cases fine
  · cases passed

theorem same_counted (s t : Loop) (contexts : t.contexts = s.contexts) (counted : Counted s) :
    Counted t := by
  rw [Counted,contexts]
  exact counted

theorem update_counted (s : Loop) (player : Object)
    (change : MasterPlayerContext → MasterPlayerContext)
    (few : (change (s.contexts player)).avatars.length ≤ avatarCountMax) (counted : Counted s) :
    Counted (s.update player change) := by
  intro other
  by_cases same : other = player
  · rw [same,update_same]
    exact few
  · rw [update_other s player other change same]
    exact counted other

section
variable (env : Env) (player : Object) (s : Loop) (counted : Counted s)
include counted

theorem stateTransition_counted (event : PlayerEvent) : Counted (stateTransition event player s) := by
  rw [stateTransition]
  split
  · exact update_counted s player _ (counted player) counted
  · exact counted

theorem addPlayerToFinalizingQueue_counted : Counted (addPlayerToFinalizingQueue player s) := by
  have marked := update_counted s player (fun context => {context with finalizing := true})
    (counted player) counted
  exact fun other => marked other

omit counted in
theorem counted_steps : Steps env player Counted where
  same s counted t contexts _ _ := same_counted s t contexts counted
  sent s _ _ counted := same_counted s _ rfl counted
  moved s event counted := stateTransition_counted player s counted event
  changed s change spares counted := by
    refine update_counted s player change ?_ counted
    rw [spares.avatars]
    exact counted player
  queued s counted := addPlayerToFinalizingQueue_counted player s counted

theorem shutdownPlayer_counted : Counted (shutdownPlayer env player s) :=
  shutdownPlayer_holds env player Counted (counted_steps env player) s counted
    fun _ _ t _ counted => same_counted t _ rfl counted

omit counted in
theorem counted_closed : Closed env player Counted where
  toSteps := counted_steps env player
  shut s counted := shutdownPlayer_counted env player s counted

theorem onLoginReq_counted (sessionId : UInt32) (accountName : List UInt16) :
    Counted (onLoginReq env player sessionId accountName s) := by
  refine expect_holds env player _ (counted_closed env player) s _ _ _ counted fun t counted => ?_
  have named := update_counted t player (fun context =>
    {context with sessionId := sessionId, accountName := accountName}) (counted player) counted
  have allotted := same_counted _ _ (gateAllocReq_contexts _) named
  dsimp only
  split
  next full result =>
    rw [result] at allotted
    exact allotted
  next gate chosen result =>
    rw [result] at allotted
    have sent := update_counted chosen player (fun context => {context with gateServerId := gate})
      (allotted player) allotted
    split
    · apply expect_holds env player _ (counted_closed env player)
      · exact sent
      · exact fun _ counted => counted
    · exact sent

theorem loginSession2GateSession_counted (loginSessionId gateSessionId : UInt32) :
    Counted (loginSession2GateSession player loginSessionId gateSessionId s) := by
  have renamed := update_counted s player (fun context => {context with sessionId := gateSessionId})
    (counted player) counted
  rw [loginSession2GateSession]
  dsimp only
  split
  · exact counted
  · split
    · exact fun other => renamed other
    · exact fun other => renamed other

theorem gateAllocAck_counted (gate : UInt8) (gateSessionId : UInt32) :
    Counted (gateAllocAck env player gate gateSessionId s) := by
  rw [gateAllocAck]
  split
  · exact shutdownPlayer_counted env player _ (stateTransition_counted player s counted _)
  · refine expect_holds env player _ (counted_closed env player) s _ _ _ counted fun t counted => ?_
    have chosen := update_counted t player (fun context => {context with gateServerId := gate})
      (counted player) counted
    dsimp only
    split
    · exact shutdownPlayer_counted env player _ chosen
    · refine attemptWrite_holds env player _ (counted_closed env player) _ _ _ chosen fun u counted => ?_
      refine attempt_holds env player _ (counted_closed env player) u _ _ counted fun v counted => ?_
      refine expect_holds env player _ (counted_closed env player) v _ _ _ counted fun w counted => ?_
      exact loginSession2GateSession_counted player w counted _ _

theorem handlePacket_counted (packet : Packet)
    (few : ∀ result avatars, packet = .avatarListAck result avatars → avatars.length ≤ avatarCountMax) :
    Counted (handlePacket env player packet s) := by
  apply handlePacket_holds env player Counted (counted_closed env player) s packet counted
  · intro result avatars t listed counted
    exact update_counted t player _ (few result avatars listed) counted
  · intro newAvatar t counted room
    refine update_counted t player _ ?_ counted
    rw [List.length_append,List.length_singleton]
    omega

end

theorem forSession_counted (sessionId : UInt32) (handle : Object → Loop → Loop) (s : Loop)
    (counted : Counted s)
    (handles : ∀ player, find sessionId s.playerContextBySessionId = some player →
      Counted (handle player s)) : Counted (forSession sessionId handle s) := by
  rw [forSession]
  split
  next player found => exact handles player found
  · exact counted

theorem onCommandShutdown_counted (env : Env) (s : Loop) (counted : Counted s) :
    Counted (onCommandShutdown env s) := by
  have each (players : List Object) (t : Loop) (counted : Counted t) :
      Counted (players.foldl (fun s player => shutdownPlayer env player s) t) := by
    induction players generalizing t with
    | nil => exact counted
    | cons player players ih => exact ih _ (shutdownPlayer_counted env player t counted)
  exact each _ _ counted

theorem onCommandOnLoginReq_counted (env : Env) (sessionId : UInt32) (accountName : List UInt16) (s : Loop)
    (counted : Counted s) : Counted (onCommandOnLoginReq env sessionId accountName s) := by
  rw [onCommandOnLoginReq]
  split
  · exact counted
  · split
    · apply shutdownPlayer_counted
      exact counted
    · split
      · exact counted
      · apply onLoginReq_counted
        exact counted

theorem onCommandGateAllocAck_counted (env : Env) (gate : UInt8) (loginSessionId : UInt32)
    (accountName : List UInt16) (gateSessionId : UInt32) (s : Loop) (counted : Counted s) :
    Counted (onCommandGateAllocAck env gate loginSessionId accountName gateSessionId s) := by
  rw [onCommandGateAllocAck]
  split
  · split
    · exact gateAllocAck_counted env _ s counted gate gateSessionId
    · exact counted
  · exact counted

theorem received_few (env : Env) (convert : List UInt8 → Option PrdAvatar) (typeId : UInt16)
    (data : List UInt8) (result : Int32) (avatars : List PrdAvatar)
    (fit : typeId = avatarListAckType → ∀ ack ∈ avatarListAckCallback data, ack.fits convert = true)
    (listed : received env convert typeId data = .avatarListAck result avatars) :
    avatars.length ≤ avatarCountMax := by
  rw [received] at listed
  split at listed
  next here =>
    split at listed
    next ack read => exact packet_few convert ack result avatars (fit here ack read) listed
    · cases listed
  · split at listed
    · cases listed
    next other => exact absurd listed (other result avatars)

theorem deletePlayer_counted (player : Object) (s : Loop) (counted : Counted s) :
    Counted (deletePlayer player s) := by
  rw [Counted,(deletePlayer_deleted player s).contexts]
  intro other
  by_cases same : other = player
  · rw [same,Function.update_self]
    exact Nat.zero_le _
  · rw [Function.update_of_ne same]
    exact counted other

theorem step_counted (env : Env) (convert : List UInt8 → Option PrdAvatar) (s : Loop) (action : Action)
    (counted : Counted s) (fit : Fits convert s action) :
    Counted (step (ackEnv env convert) s action) := by
  cases action with
  | pass =>
    have drained : Counted (drainBack deletePlayer s.finalizingQueue s) :=
      drainBack_invariant _ Counted s.finalizingQueue
        (fun player _ t counted => deletePlayer_counted player t counted) s counted
    rw [step,loopPass]
    split
    · exact drained
    · exact drained
  | command command =>
    rw [step,onCommand.eq_def]
    split
    · exact counted
    next running =>
      have here : s.shutdownStatus = .notShutdown := not_not.mp running
      cases command with
      | shutdown => exact onCommandShutdown_counted _ s counted
      | onLoginReport serverId => exact counted
      | onGateReport serverId sessionCount =>
        change Counted (onCommandOnGateReport serverId sessionCount s)
        rw [onCommandOnGateReport]
        split
        · exact counted
        · exact counted
      | onLoginReq sessionId accountName => exact onCommandOnLoginReq_counted _ sessionId accountName s counted
      | gateAllocAck gate loginSessionId accountName gateSessionId =>
        exact onCommandGateAllocAck_counted _ gate loginSessionId accountName gateSessionId s counted
      | onGateLoginReq sessionId =>
        exact forSession_counted sessionId _ s counted fun player _ =>
          onGateLoginReq_holds _ player _ (counted_closed _ player) s counted
      | onRegionAllocAck sessionId region result =>
        exact forSession_counted sessionId _ s counted fun player _ =>
          onRegionAllocAck_holds _ player _ (counted_closed _ player) s region result counted
      | onRegionLeaveReq sessionId =>
        exact forSession_counted sessionId _ s counted fun player _ =>
          onRegionLeaveReq_holds _ player _ (counted_closed _ player) s counted
      | onRegionPlayerFailReq sessionId =>
        exact forSession_counted sessionId _ s counted fun player _ =>
          onRegionPlayerFailReq_holds _ player _ (counted_closed _ player) s counted
      | onSessionDisconnect sessionId =>
        exact forSession_counted sessionId _ s counted fun player _ =>
          shutdownPlayer_counted _ player s counted
      | packetForward sessionId typeId data =>
        refine forSession_counted sessionId _ s counted fun player found => ?_
        have delayed : Counted (delaySendData typeId data s) := counted
        apply handlePacket_counted
        · exact delayed
        · intro result avatars listed
          exact received_few env convert typeId data result avatars (fit here (by rw [found]; rfl)) listed
      | other => exact counted

theorem contextAccesses_inside (context : MasterPlayerContext) (packet : Packet)
    (short : context.avatars.length ≤ avatarCountMax)
    (few : ∀ result avatars, packet = .avatarListAck result avatars → avatars.length ≤ avatarCountMax) :
    ∀ access ∈ contextAccesses context packet, access.Inside := by
  have inside (indexes : List Nat) (bound : ∀ index ∈ indexes, index < avatarCountMax) :
      ∀ access ∈ entries indexes, access.Inside := by
    rw [entries,List.forall_mem_map]
    exact bound
  cases packet with
  | avatarListAck result avatars =>
    refine inside _ fun index member => ?_
    split at member
    · exact (List.mem_range.mp member).trans_le (few result avatars rfl)
    · cases member
  | avatarCreateAck result newAvatar =>
    refine inside _ fun index member => ?_
    split at member
    next room =>
      obtain rfl := List.mem_singleton.mp member
      exact room.2.2.2
    · cases member
  | avatarSelectReq avatarName =>
    refine inside _ fun index member => ?_
    split at member
    · exact (visits_inside _ 0 _ avatarCountMax).mpr (.inr (.inl (by omega))) index member
    · cases member
  | _ => exact nil_inside

theorem step_inside (env : Env) (convert : List UInt8 → Option PrdAvatar) (s : Loop) (action : Action)
    (counted : Counted s) (fit : Fits convert s action) : Inside env convert s action := by
  cases action with
  | pass => exact nil_inside
  | command command =>
    cases command with
    | packetForward sessionId typeId data =>
      rw [Inside,accesses]
      split
      next running =>
        split
        next player found =>
          have fits := fit running (by rw [found]; rfl)
          intro access accessed
          rw [packetAccesses] at accessed
          rcases List.mem_append.mp accessed with converted | stored
          · split at converted
            next here =>
              split at converted
              next ack read => exact (ack_inside convert ack).mpr (fits here ack read) access converted
              · cases converted
            · cases converted
          · exact contextAccesses_inside _ _ (counted player)
              (fun result avatars => received_few env convert typeId data result avatars fits) access stored
        · exact nil_inside
      · exact nil_inside
    | _ => exact nil_inside

/-- Where every AvatarListAck fits, the counts stay right and all accesses are inside. -/
theorem run_inside (env : Env) (convert : List UInt8 → Option PrdAvatar) (actions : List Action)
    (guarded : Guarded (step (ackEnv env convert)) (Fits convert) (Loop.init env.config) actions) :
    Guarded (step (ackEnv env convert)) (Inside env convert) (Loop.init env.config) actions ∧
      Counted (run (step (ackEnv env convert)) (Loop.init env.config) actions) := by
  have start : Counted (Loop.init env.config) := by
    rw [Counted,(init_unused env.config).core.contexts]
    exact fun _ => Nat.zero_le _
  exact ⟨guarded_invariant _ (Fits convert) (Inside env convert) Counted (step_counted env convert)
      (step_inside env convert) _ actions guarded start,
    run_invariant _ (Fits convert) Counted (step_counted env convert) _ actions guarded start⟩

end Fantuan.MasterServer.AvatarArrays
