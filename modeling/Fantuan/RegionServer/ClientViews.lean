import Fantuan.RegionServer.FailReports
import Fantuan.RegionServer.Indexes

/-! What the client of a player has been told about the avatars around it. A player that has completed its
entry has been told about itself: its enter is broadcast to everybody in the map of the players.
-/
namespace Fantuan.RegionServer.ClientViews
open Lib.Table Lib.Run Lib.Drain ServerBase.ServerCommon Tool.ObjectPool Tool.StateMachine ServerLoop Player
  Commands PlayerSteps SendScripts FailReports Indexes

/-- The packet that a message brings to the client of a session. -/
def toClient (sessionId : UInt32) : Message → Option Packet
  | .sendData _ id delay => if id = sessionId then delay else none
  | .broadcastData _ ids delay => if sessionId ∈ ids then delay else none
  | _ => none

def tell (packet : Packet) (view : List UInt64) : List UInt64 :=
  match packet with
  | .regionAvatarEnterNtf avatarId _ => avatarId :: view
  | .regionAvatarLeaveNtf avatarId => view.filter fun other => other ≠ avatarId
  | _ => view

/-- A session begins with the ack of its allocation. -/
def hear (sessionId : UInt32) (event : Event) (view : List UInt64) : List UInt64 :=
  match event.message with
  | .onRegionAllocAck id _ _ => if id = sessionId then [] else view
  | message =>
    match if event.success then toClient sessionId message else none with
    | some packet => tell packet view
    | none => view

/-- The avatars announced to the client of a session and not withdrawn. -/
def announced (sessionId : UInt32) : List Event → List UInt64
  | [] => []
  | event :: before => hear sessionId event (announced sessionId before)

/-- The player has completed its entry, and has not been queued. -/
def Present (player : Object) (s : Region) : Prop :=
  (s.contexts player).state = .initAvatarNtf ∧ (s.contexts player).finalizing = false

def Right (s : Region) : Prop :=
  ∀ player, Present player s → ∀ avatarId, avatarId ∈ announced (s.contexts player).sessionId s.log ↔
    ∃ other, other ≠ player ∧ Present other s ∧ (s.contexts other).avatarId = avatarId

/-- The same with the own avatar of each player set aside. -/
def OthersRight (s : Region) : Prop :=
  ∀ player, Present player s → ∀ avatarId, avatarId ≠ (s.contexts player).avatarId →
    (avatarId ∈ announced (s.contexts player).sessionId s.log ↔
      ∃ other, other ≠ player ∧ Present other s ∧ (s.contexts other).avatarId = avatarId)

def Always (env : Env) (actions : List Action) : Prop :=
  Guarded (step env) (fun s action => Right (step env s action)) (init env.config) actions

def named (env : Env) (player : Object) (s : Region) : Bool := (env.wchar2Char (s.contexts player).avatarName).isSome

/-- A time request finds its player waiting for it, with a name that converts and a map that has a loop. -/
def Completes (env : Env) (s : Region) : Action → Prop
  | .packetForward sessionId (.clientTimeReq _) => ∃ player, Serves sessionId s player ∧
      (s.contexts player).state = .serverTimeNtf ∧ (s.contexts player).finalizing = false ∧
      named env player s = true ∧ mapScript env player s = []
  | _ => False

/-- A gate gets no more sessions than one broadcast holds. -/
def Few (s : Region) : Prop :=
  ∀ gate : Nat, ((sessionIds s).filter fun id => (serverId id).toNat = gate).length ≤ broadcastSessionMax

def Mild (s t : Region) : Prop := ∀ player, Present player t → Present player s

theorem Mild.trans {s t u : Region} (left : Mild s t) (right : Mild t u) : Mild s u :=
  fun player present => left player (right player present)

theorem contexts_mild (s t : Region) (same : t.contexts = s.contexts) : Mild s t := by
  intro player present
  rw [Present,same] at present
  exact present

theorem update_mild (player : Object) (change : RegionPlayerContext → RegionPlayerContext) (s : Region)
    (kept : (change (s.contexts player)).state = .initAvatarNtf → (change (s.contexts player)).finalizing = false →
      Present player s) : Mild s (s.update player change) := by
  intro other present
  by_cases same : other = player
  · subst same
    rw [Present,update_same] at present
    exact kept present.1 present.2
  · rw [Present,update_other s player other change same] at present
    exact present

theorem setState_mild (player : Object) (next : PlayerState) (s : Region) (early : next ≠ .initAvatarNtf) :
    Mild s (setState player next s) :=
  update_mild player _ s fun last _ => absurd last early

theorem shutdownPlayer_mild (player : Object) (s : Region) : Mild s (shutdownPlayer player s) := by
  rw [shutdownPlayer]
  split
  · exact contexts_mild s s rfl
  · split
    · refine (update_mild player _ s ?_ :
        Mild s (s.update player fun context => {context with finalizing := true}))
      intro _ queued
      cases queued
    · exact contexts_mild s s rfl

theorem early_transition (state next : PlayerState) (event : PlayerEvent) (early : event ≠ .initAvatarNtf)
    (reached : transition state event = some next) : next ≠ .initAvatarNtf := by
  have rows : ∀ row ∈ initStateMachine state, row.1 ≠ .initAvatarNtf → row.2 ≠ .initAvatarNtf := by
    cases state <;> decide
  exact rows _ (outputState_mem initStateMachine state next event reached) early

theorem stateTransition_mild (player : Object) (event : PlayerEvent) (s : Region) (early : event ≠ .initAvatarNtf) :
    Mild s (stateTransition event player s) := by
  rw [stateTransition]
  split
  next next reached => exact setState_mild player next s (early_transition _ next event early reached)
  · exact contexts_mild s s rfl

theorem expect_mild (player : Object) (event : PlayerEvent) (next : Region → Region) (s : Region)
    (early : event ≠ .initAvatarNtf) (continues : ∀ t, Mild t (next t)) : Mild s (expect event player next s) := by
  rw [expect]
  split
  next state reached =>
    exact (setState_mild player state s (early_transition _ state event early reached)).trans (continues _)
  · exact contexts_mild s s rfl

section
variable (env : Env) (player : Object)

theorem write_contexts (packet : Packet) (s : Region) : (write env packet s).contexts = s.contexts := by
  rw [write]
  split <;> rfl

theorem attempt_mild (message : Message) (next : Region → Region) (s : Region) (continues : ∀ t, Mild t (next t)) :
    Mild s (attempt env player message next s) := by
  have sent : Mild s (send env message s) := contexts_mild s _ rfl
  rw [attempt]
  split
  · exact sent.trans (continues _)
  · exact sent.trans (shutdownPlayer_mild player _)

theorem attemptWrite_mild (packet : Packet) (next : Region → Region) (s : Region) (continues : ∀ t, Mild t (next t)) :
    Mild s (attemptWrite env player packet next s) := by
  have written : Mild s (write env packet s) := contexts_mild s _ (write_contexts env packet s)
  rw [attemptWrite]
  split
  · exact written.trans (continues _)
  · exact written.trans (shutdownPlayer_mild player _)

theorem attemptData_mild (next : Region → Region) (s : Region) (continues : ∀ t, Mild t (next t)) :
    Mild s (attemptData env player next s) :=
  attempt_mild env player _ next s continues

theorem broadcastData_contexts (s : Region) : (broadcastData env s).contexts = s.contexts := by
  obtain ⟨_,_,result,-⟩ := broadcastData_sent env s
  rw [result]

theorem broadcastData_mild (s : Region) : Mild s (broadcastData env s) :=
  contexts_mild s _ (broadcastData_contexts env s)

theorem onRegionAllocReq_mild (sessionId : UInt32) (avatarId : UInt64) (avatarName : WString) (s : Region) :
    Mild s (onRegionAllocReq env player sessionId avatarId avatarName s) := by
  apply expect_mild player _ _ s (by decide)
  intro t
  refine Mild.trans (update_mild player _ t ?_) (attempt_mild env player _ _ _ ?_)
  · intro state finalizing
    exact ⟨state,finalizing⟩
  · intro u
    exact stateTransition_mild player _ u (by decide)

theorem onRegionReleaseReq_mild (s : Region) : Mild s (onRegionReleaseReq player s) := by
  rw [onRegionReleaseReq]
  split
  · exact contexts_mild s s rfl
  · exact expect_mild player _ _ s (by decide) (shutdownPlayer_mild player)

theorem onRegionEnterReq_mild (s : Region) : Mild s (onRegionEnterReq env player s) := by
  have enters (t : Region) : Mild t (attempt env player (.onRegionEnterReq (t.contexts player).sessionId
      env.config.serverId (t.contexts player).avatarName) (stateTransition .regionEnterReq player) t) :=
    attempt_mild env player _ _ t fun u => stateTransition_mild player _ u (by decide)
  rw [onRegionEnterReq]
  split
  · exact contexts_mild s s rfl
  · apply expect_mild player _ _ s (by decide)
    intro t
    dsimp only
    split
    · exact enters t
    · split
      · exact Mild.trans (contexts_mild t _ rfl) (enters _)
      · exact shutdownPlayer_mild player t

theorem onCommandOnRegionEnterAck_mild (result : Int32) (s : Region) :
    Mild s (onCommandOnRegionEnterAck env player result s) := by
  rw [onCommandOnRegionEnterAck]
  split
  · exact shutdownPlayer_mild player s
  · rw [onRegionEnterAck]
    split
    · exact contexts_mild s s rfl
    · apply expect_mild player _ _ s (by decide)
      intro t
      apply attempt_mild
      intro u
      apply attemptWrite_mild
      intro v
      apply attemptData_mild
      intro w
      exact stateTransition_mild player _ w (by decide)

theorem onRegionLeaveReq_mild (s : Region) : Mild s (onRegionLeaveReq env player s) := by
  rw [onRegionLeaveReq]
  split
  · exact contexts_mild s s rfl
  · apply expect_mild player _ _ s (by decide)
    intro t
    refine (shutdownPlayer_mild player t).trans (attemptWrite_mild env player _ _ _ ?_)
    exact broadcastData_mild env

theorem onRegionChatReq_mild (message : List UInt8) (s : Region) :
    Mild s (onRegionChatReq env player message s) := by
  rw [onRegionChatReq,withName]
  split
  · exact attemptWrite_mild env player _ _ s (broadcastData_mild env)
  · exact contexts_mild s s rfl

end

theorem whileRunning_mild (handle : Region → Region) (s : Region) (mild : Mild s (handle s)) :
    Mild s (whileRunning handle s) := by
  rw [whileRunning]
  split
  · exact mild
  · exact contexts_mild s s rfl

theorem forSession_mild (sessionId : UInt32) (handle : Object → Region → Region) (s : Region)
    (mild : ∀ player t, Mild t (handle player t)) : Mild s (forSession sessionId handle s) := by
  rw [forSession]
  split
  · exact contexts_mild s s rfl
  · dsimp only
    split
    · exact Mild.trans (contexts_mild s _ rfl) (mild _ _)
    · exact contexts_mild s _ rfl

theorem pass_mild (s : Region) : Mild s {s with toLoop := loopPass s.toLoop} := by
  have deletes (player : Object) (loop : Loop) :
      (deletePlayer player loop).contexts = Function.update loop.contexts player .clear := by
    rw [deletePlayer,emptySlot,eraseAvatar_rest]
  have kept := drainBack_invariant deletePlayer (fun loop : Loop => ∀ player,
    (loop.contexts player).state = .initAvatarNtf ∧ (loop.contexts player).finalizing = false → Present player s)
    s.finalizingQueue
  refine kept ?_ s.toLoop fun _ present => present
  intro entry _ loop before player present
  rw [deletes] at present
  by_cases same : player = entry
  · rw [same,Function.update_self] at present
    cases present.1
  · rw [Function.update_of_ne same] at present
    exact before player present

theorem initialMapEnter_mild (env : Env) (player : Object) (s : Region) :
    Mild s (initialMapEnter env player s) := by
  rw [initialMapEnter]
  split
  · exact contexts_mild s _ rfl
  · have placed (avatars : Object → Option UInt16) : Mild s {s with avatars := avatars} := contexts_mild s _ rfl
    dsimp only
    split
    · refine (placed _).trans (update_mild player _ _ ?_)
      intro state finalizing
      exact ⟨state,finalizing⟩
    · exact (placed _).trans (shutdownPlayer_mild player _)

theorem shutdownPlayer_state (player other : Object) (s : Region) :
    ((shutdownPlayer player s).contexts other).state = (s.contexts other).state := by
  rw [shutdownPlayer]
  split
  · rfl
  · split
    · change ((s.update player fun context => {context with finalizing := true}).contexts other).state = _
      by_cases same : other = player
      · rw [same,update_same]
      · rw [update_other s player other _ same]
    · rfl

theorem initialMapEnter_state (env : Env) (player other : Object) (s : Region) :
    ((initialMapEnter env player s).contexts other).state = (s.contexts other).state := by
  rw [initialMapEnter]
  split
  · rfl
  · dsimp only
    split
    · by_cases same : other = player
      · rw [same,update_same]
      · rw [update_other _ player other _ same]
    · exact shutdownPlayer_state player other _

theorem initialMapEnter_lost (env : Env) (player : Object) (s : Region) (lost : mapScript env player s ≠ [])
    (used : (s.contexts player).state ≠ .none) : ¬ Present player (initialMapEnter env player s) := by
  intro present
  rw [mapScript] at lost
  cases avatar : s.avatars player with
  | none =>
    rw [avatar] at lost
    exact lost rfl
  | some teleport =>
    rw [avatar] at lost
    rw [initialMapEnter_placed env player s teleport avatar] at present
    cases loop : env.logicLoopByMap (startMap teleport) with
    | none =>
      rw [loop] at present
      have queued := LeaveAnswers.shutdownPlayer_finalizing player
        {s with avatars := Function.update s.avatars player (some (startMap teleport))} used
      exact Bool.false_ne_true (present.2.symm.trans queued)
    | some logicLoop =>
      rw [Option.map_some,Option.any_some,loop] at lost
      exact lost rfl

def Keeps (s t : Region) : Prop :=
  ∀ sessionId avatarId, avatarId ∈ announced sessionId s.log → avatarId ∈ announced sessionId t.log

theorem Keeps.trans {s t u : Region} (left : Keeps s t) (right : Keeps t u) : Keeps s u :=
  fun sessionId avatarId told => right sessionId avatarId (left sessionId avatarId told)

section
variable (env : Env) (delivered : ∀ sent, env.net sent = true) (player : Object)

include delivered

theorem write_delivered (packet : Packet) (s : Region) :
    write env packet s = {send env (.client packet) s with delay := some packet} :=
  if_pos (delivered _)

theorem attempt_delivered (message : Message) (next : Region → Region) (s : Region) :
    attempt env player message next s = next (send env message s) :=
  if_pos (delivered _)

theorem attemptWrite_delivered (packet : Packet) (next : Region → Region) (s : Region) :
    attemptWrite env player packet next s = next (write env packet s) :=
  if_pos (delivered _)

theorem send_log (message : Message) (s : Region) : (send env message s).log = ⟨message,true⟩ :: s.log := by
  rw [send,sends,delivered]

theorem write_keeps (packet : Packet) (s : Region) : Keeps s (write env packet s) := by
  intro sessionId avatarId told
  rw [write_delivered env delivered]
  change avatarId ∈ announced sessionId (send env (.client packet) s).log
  rw [send_log env delivered]
  exact told

theorem sendData_told (gate : Option UInt8) (id sessionId : UInt32) (avatarId : UInt64) (name : List UInt8)
    (s : Region) :
    announced sessionId (send env (.sendData gate id (some (.regionAvatarEnterNtf avatarId name))) s).log =
      if id = sessionId then avatarId :: announced sessionId s.log else announced sessionId s.log := by
  rw [send_log env delivered,announced,hear]
  dsimp only [toClient]
  by_cases same : id = sessionId
  · simp [same,tell]
  · simp [same]

theorem broadcast_told (gate : UInt8) (ids : List UInt32) (sessionId : UInt32) (avatarId : UInt64)
    (name : List UInt8) (s : Region) :
    announced sessionId (send env (.broadcastData gate ids (some (.regionAvatarEnterNtf avatarId name))) s).log =
      if sessionId ∈ ids then avatarId :: announced sessionId s.log else announced sessionId s.log := by
  rw [send_log env delivered,announced,hear]
  dsimp only [toClient]
  by_cases listed : sessionId ∈ ids
  · simp [listed,tell]
  · simp [listed]

theorem sendAvatarEnterNtf_delivered (other : Object) (s : Region) :
    (sendAvatarEnterNtf env player other s).contexts = s.contexts ∧ Keeps s (sendAvatarEnterNtf env player other s) := by
  rw [sendAvatarEnterNtf,withName]
  split
  next name converted =>
    let written := write env (.regionAvatarEnterNtf (s.contexts other).avatarId name) s
    have saved : written.delay = some (.regionAvatarEnterNtf (s.contexts other).avatarId name) :=
      congrArg Region.delay (write_delivered env delivered _ s)
    rw [attemptWrite_delivered env delivered,attemptData,attempt_delivered env delivered]
    refine ⟨write_contexts env _ s,?_⟩
    intro sessionId avatarId told
    change avatarId ∈ announced sessionId (send env (.sendData _ _ written.delay) written).log
    rw [saved,sendData_told env delivered]
    have kept : avatarId ∈ announced sessionId written.log := write_keeps env delivered _ s sessionId avatarId told
    split
    · exact List.mem_cons_of_mem _ kept
    · exact kept
  · exact ⟨rfl,fun _ _ told => told⟩

theorem sendAvatarEnterNtf_told (other : Object) (s : Region) (converts : named env other s = true) :
    (s.contexts other).avatarId ∈
      announced (s.contexts player).sessionId (sendAvatarEnterNtf env player other s).log := by
  obtain ⟨name,converted⟩ := Option.isSome_iff_exists.mp converts
  let written := write env (.regionAvatarEnterNtf (s.contexts other).avatarId name) s
  have saved : written.delay = some (.regionAvatarEnterNtf (s.contexts other).avatarId name) :=
    congrArg Region.delay (write_delivered env delivered _ s)
  rw [sendAvatarEnterNtf,withName,converted]
  dsimp only
  rw [attemptWrite_delivered env delivered,attemptData,attempt_delivered env delivered]
  change _ ∈ announced _ (send env (.sendData _ (written.contexts player).sessionId written.delay) written).log
  rw [saved,sendData_told env delivered,write_contexts,if_pos rfl]
  exact List.mem_cons_self

/-- What the members of a list do for the player, and that each of them is told. -/
theorem sendAll_delivered (members : List Object) (s : Region) :
    let t := members.foldl (fun t other => if player = other then t else sendAvatarEnterNtf env player other t) s
    t.contexts = s.contexts ∧ Keeps s t ∧ ∀ other ∈ members, player ≠ other → named env other s = true →
      (s.contexts other).avatarId ∈ announced (s.contexts player).sessionId t.log := by
  induction members generalizing s with
  | nil => exact ⟨rfl,fun _ _ told => told,fun _ none => absurd none List.not_mem_nil⟩
  | cons first members ih =>
    obtain ⟨contexts,keeps,told⟩ := ih (if player = first then s else sendAvatarEnterNtf env player first s)
    rw [List.foldl_cons]
    by_cases same : player = first
    · rw [if_pos same] at contexts keeps told ⊢
      refine ⟨contexts,keeps,?_⟩
      intro other member different
      exact told other ((List.mem_cons.mp member).resolve_left fun here => different (same.trans here.symm)) different
    · obtain ⟨before,kept⟩ := sendAvatarEnterNtf_delivered env delivered player first s
      rw [if_neg same] at contexts keeps told ⊢
      refine ⟨contexts.trans before,kept.trans keeps,?_⟩
      intro other member different converts
      rcases List.mem_cons.mp member with rfl | later
      · exact keeps _ _ (sendAvatarEnterNtf_told env delivered player other s converts)
      · have again := told other later different (by rw [named,before]; exact converts)
        rw [before] at again
        exact again

theorem sendRegionAvatars_delivered (s : Region) :
    (sendRegionAvatars env player s).contexts = s.contexts ∧ Keeps s (sendRegionAvatars env player s) :=
  have all := sendAll_delivered env delivered player _ s
  ⟨all.1,all.2.1⟩

/-- Every session of a gate that has few is told. -/
theorem broadcastData_told (s : Region) (avatarId : UInt64) (name : List UInt8) (sessionId : UInt32)
    (saved : s.delay = some (.regionAvatarEnterNtf avatarId name)) (listed : sessionId ∈ sessionIds s)
    (inside : (serverId sessionId).toNat < serverCountMax) (few : Few s) :
    avatarId ∈ announced sessionId (broadcastData env s).log := by
  have each (gates : List Nat) (t : Region) (still : t.delay = some (.regionAvatarEnterNtf avatarId name))
      (reached : avatarId ∈ announced sessionId t.log ∨ (serverId sessionId).toNat ∈ gates) :
      avatarId ∈ announced sessionId (gates.foldl (fun t gate =>
        let there := ((sessionIds s).filter fun id => (serverId id).toNat = gate).take broadcastSessionMax
        if there.isEmpty then t else send env (.broadcastData (UInt8.ofNat gate) there t.delay) t) t).log := by
    induction gates generalizing t with
    | nil => exact reached.resolve_right List.not_mem_nil
    | cons gate gates ih =>
      rw [List.foldl_cons]
      dsimp only
      rw [List.take_of_length_le (few gate)]
      split
      next empty =>
        apply ih t still
        rcases reached with told | member
        · exact .inl told
        · rcases List.mem_cons.mp member with here | later
          · have member : sessionId ∈ (sessionIds s).filter fun id => (serverId id).toNat = gate :=
              List.mem_filter.mpr ⟨listed,decide_eq_true here⟩
            rw [List.isEmpty_iff.mp empty] at member
            cases member
          · exact .inr later
      · refine ih (send env (.broadcastData (UInt8.ofNat gate)
          ((sessionIds s).filter fun id => (serverId id).toNat = gate) t.delay) t) still ?_
        rw [still,broadcast_told env delivered]
        rcases reached with told | member
        · refine .inl ?_
          split
          · exact List.mem_cons_of_mem _ told
          · exact told
        · rcases List.mem_cons.mp member with here | later
          · refine .inl ?_
            rw [if_pos (List.mem_filter.mpr ⟨listed,decide_eq_true here⟩)]
            exact List.mem_cons_self
          · exact .inr later
  exact each (List.range serverCountMax) {s with
    undefined := s.undefined || (sessionIds s).any fun id => serverCountMax ≤ (serverId id).toNat} saved
    (.inr (List.mem_range.mpr inside))

theorem broadcastAvatarEnterNtf_told (s : Region) (converts : named env player s = true)
    (listed : (s.contexts player).sessionId ∈ sessionIds s)
    (inside : (serverId (s.contexts player).sessionId).toNat < serverCountMax) (few : Few s) :
    (broadcastAvatarEnterNtf env player s).contexts = s.contexts ∧
      (s.contexts player).avatarId ∈
        announced (s.contexts player).sessionId (broadcastAvatarEnterNtf env player s).log := by
  obtain ⟨name,converted⟩ := Option.isSome_iff_exists.mp converts
  rw [broadcastAvatarEnterNtf,withName,converted]
  dsimp only
  rw [attemptWrite_delivered env delivered,broadcastData_contexts,write_contexts]
  refine ⟨rfl,?_⟩
  have quiet := write_quiet env player (.regionAvatarEnterNtf (s.contexts player).avatarId name) s
  have ids := sessionIds_quiet player s _ quiet
  apply broadcastData_told env delivered _ _ name
  · rw [write_delivered env delivered]
  · rw [ids]
    exact listed
  · exact inside
  · intro gate
    rw [ids]
    exact few gate

omit delivered

def timed (clientTime : UInt32) (s : Region) : Region :=
  let told := write env (.serverTimeNtf (s.currTime + (s.currTime - clientTime) / 2))
    (setState player .onClientTimeReq s)
  stateTransition .serverTime2Ntf player
    (send env (.sendData (told.contexts player).gateServer (told.contexts player).sessionId told.delay) told)

/-- The player goes on to a state; what else the further sends depend on stays. -/
structure Moved (next : PlayerState) (s t : Region) : Prop where
  state : (t.contexts player).state = next
  others : ∀ other, other ≠ player → t.contexts other = s.contexts other
  quiet : Quiet player s t

theorem stateTransition_moved (event : PlayerEvent) (next : PlayerState) (s : Region) (plain : next ≠ .none)
    (reached : reaches event player s = some next) : Moved player next s (stateTransition event player s) := by
  rw [stateTransition,reached]
  refine ⟨?_,fun other different => update_other s player other _ different,setState_quiet player next s plain⟩
  change ((s.update player _).contexts player).state = next
  rw [update_same]

theorem timed_moved (clientTime : UInt32) (s : Region) :
    Moved player .serverTime2Ntf s (timed env player clientTime s) := by
  let waiting := setState player .onClientTimeReq s
  let told := write env (.serverTimeNtf (s.currTime + (s.currTime - clientTime) / 2)) waiting
  let sent := send env (.sendData (told.contexts player).gateServer (told.contexts player).sessionId told.delay) told
  have contexts : sent.contexts = waiting.contexts := write_contexts env _ waiting
  have state : (sent.contexts player).state = .onClientTimeReq := by
    rw [contexts]
    change ((s.update player _).contexts player).state = _
    rw [update_same]
  have reached : reaches .serverTime2Ntf player sent = some .serverTime2Ntf := by
    rw [reaches,state]
    rfl
  have used : PlayerState.serverTime2Ntf ≠ .none ∧ PlayerState.onClientTimeReq ≠ .none := by decide
  have moved := stateTransition_moved player .serverTime2Ntf .serverTime2Ntf sent used.1 reached
  refine ⟨moved.state,?_,?_⟩
  · intro other different
    rw [timed,moved.others other different,contexts]
    exact update_other s player other _ different
  · have waits : Quiet player s waiting := setState_quiet player _ s used.2
    exact ((waits.trans (write_quiet env player _ waiting)).trans (log_quiet player told _ _)).trans moved.quiet

include delivered

theorem onClientTimeReq_delivered (clientTime : UInt32) (s : Region) (active : (s.contexts player).finalizing = false)
    (state : (s.contexts player).state = .serverTimeNtf) :
    onClientTimeReq env player clientTime s = sendRegionAvatars env player
      (broadcastAvatarEnterNtf env player (initialMapEnter env player
        (sendInitialAvatarData env player (timed env player clientTime s)))) := by
  have reached : reaches .onClientTimeReq player s = some .onClientTimeReq := by
    rw [reaches,state]
    rfl
  rw [onClientTimeReq,active,if_neg Bool.false_ne_true,expect,reached]
  dsimp only
  rw [attemptWrite_delivered env delivered,attemptData,attempt_delivered env delivered]
  rfl

theorem sendInitialAvatarData_moved (s : Region) (state : (s.contexts player).state = .serverTime2Ntf) :
    Moved player (if named env player s then .initAvatarNtf else .serverTime2Ntf) s
      (sendInitialAvatarData env player s) := by
  rw [sendInitialAvatarData,withName,named]
  cases env.wchar2Char (s.contexts player).avatarName with
  | none => exact ⟨state,fun _ _ => rfl,.refl player s⟩
  | some name =>
    dsimp only
    rw [attemptWrite_delivered env delivered,attemptData,attempt_delivered env delivered]
    let written := write env (.initialAvatarDataNtf (s.contexts player).avatarId name) s
    let sent := send env (.sendData (written.contexts player).gateServer (written.contexts player).sessionId
      written.delay) written
    have contexts : sent.contexts = s.contexts := write_contexts env _ s
    have reached : reaches .initAvatarNtf player sent = some .initAvatarNtf := by
      rw [reaches,contexts,state]
      rfl
    have used : PlayerState.initAvatarNtf ≠ .none := by
      intro same
      cases same
    have moved := stateTransition_moved player .initAvatarNtf .initAvatarNtf sent used reached
    refine ⟨moved.state,?_,((write_quiet env player _ s).trans (log_quiet player written _ _)).trans moved.quiet⟩
    intro other different
    rw [moved.others other different,contexts]

section
variable (clientTime : UInt32) (s : Region) (active : (s.contexts player).finalizing = false)
  (state : (s.contexts player).state = .serverTimeNtf)

theorem initial_moved : Moved player (if named env player s then .initAvatarNtf else .serverTime2Ntf) s
    (sendInitialAvatarData env player (timed env player clientTime s)) := by
  have first := timed_moved env player clientTime s
  have second := sendInitialAvatarData_moved env delivered player _ first.state
  rw [named,first.quiet.avatarNames] at second
  refine ⟨second.state,?_,first.quiet.trans second.quiet⟩
  intro other different
  rw [second.others other different,first.others other different]

theorem broadcastAvatarEnterNtf_contexts (t : Region) :
    (broadcastAvatarEnterNtf env player t).contexts = t.contexts := by
  rw [broadcastAvatarEnterNtf,withName]
  split
  · rw [attemptWrite_delivered env delivered,broadcastData_contexts,write_contexts]
  · rfl

include active state

theorem time_contexts : (onClientTimeReq env player clientTime s).contexts =
    (initialMapEnter env player (sendInitialAvatarData env player (timed env player clientTime s))).contexts := by
  rw [onClientTimeReq_delivered env delivered player clientTime s active state]
  exact (sendRegionAvatars_delivered env delivered player _).1.trans
    (broadcastAvatarEnterNtf_contexts env delivered player _)

theorem time_others (other : Object) (different : other ≠ player) :
    let t := onClientTimeReq env player clientTime s
    (t.contexts other).state = (s.contexts other).state ∧ (Present other t → Present other s) := by
  have moved := initial_moved env delivered player clientTime s
  intro t
  rw [Present,time_contexts env delivered player clientTime s active state]
  refine ⟨by rw [initialMapEnter_state,moved.others other different],?_⟩
  intro present
  have before := initialMapEnter_mild env player _ other present
  rw [Present,moved.others other different] at before
  exact before

theorem time_mild (incomplete : ¬ (named env player s = true ∧ mapScript env player s = [])) :
    Mild s (onClientTimeReq env player clientTime s) := by
  have moved := initial_moved env delivered player clientTime s
  intro other present
  by_cases same : other = player
  · subst same
    rw [Present,time_contexts env delivered other clientTime s active state] at present
    by_cases lost : mapScript env other s = []
    · have unnamed : named env other s = false := by
        rw [← Bool.not_eq_true]
        exact fun converts => incomplete ⟨converts,lost⟩
      have before := moved.state
      rw [unnamed,if_neg Bool.false_ne_true] at before
      rw [initialMapEnter_state,before] at present
      cases present.1
    · rw [← mapScript_quiet env other s _ moved.quiet] at lost
      refine absurd present (initialMapEnter_lost env other _ lost ?_)
      rw [moved.state]
      split
      · nofun
      · nofun
  · exact (time_others env delivered player clientTime s active state other same).2 present

section
variable (converts : named env player s = true) (looped : mapScript env player s = [])

/-- The player that completes its entry, on its map. -/
abbrev placed : Region := initialMapEnter env player (sendInitialAvatarData env player (timed env player clientTime s))

include looped

theorem placed_quiet : Quiet player s (placed env player clientTime s) := by
  have moved := initial_moved env delivered player clientTime s
  have used : Active player s := ⟨active,by rw [state]; nofun⟩
  have enters := initialMapEnter_follows env player _ (moved.quiet.active used)
  rw [mapScript_quiet env player s _ moved.quiet,looped] at enters
  exact moved.quiet.trans (enters.quiet rfl)

include converts

theorem time_present : Present player (onClientTimeReq env player clientTime s) := by
  have moved := initial_moved env delivered player clientTime s
  have quiet := placed_quiet env delivered player clientTime s active state looped
  rw [converts,if_pos rfl] at moved
  rw [Present,time_contexts env delivered player clientTime s active state]
  refine ⟨?_,(quiet.active ⟨active,by rw [state]; nofun⟩).1⟩
  rw [initialMapEnter_state]
  exact moved.state

theorem time_own (listed : player ∈ values s.playerContextByAvatarId)
    (inside : (serverId (s.contexts player).sessionId).toNat < serverCountMax) (few : Few s) :
    let t := onClientTimeReq env player clientTime s
    (t.contexts player).avatarId ∈ announced (t.contexts player).sessionId t.log := by
  intro t
  have quiet := placed_quiet env delivered player clientTime s active state looped
  have ids := sessionIds_quiet player s _ quiet
  have same : t.contexts = (placed env player clientTime s).contexts :=
    time_contexts env delivered player clientTime s active state
  rw [same]
  change _ ∈ announced _ (onClientTimeReq env player clientTime s).log
  rw [onClientTimeReq_delivered env delivered player clientTime s active state]
  apply (sendRegionAvatars_delivered env delivered player _).2
  refine (broadcastAvatarEnterNtf_told env delivered player _ ?_ ?_ ?_ ?_).2
  · rw [named,quiet.avatarNames]
    exact converts
  · rw [sessionIds]
    exact List.mem_map_of_mem (by rw [quiet.avatarMap]; exact listed)
  · rw [quiet.sessionIds]
    exact inside
  · intro gate
    rw [ids]
    exact few gate

omit converts in
theorem time_listed (other : Object) (listed : other ∈ values s.playerContextByAvatarId) (different : player ≠ other)
    (shown : named env other s = true) :
    let t := onClientTimeReq env player clientTime s
    (t.contexts other).avatarId ∈ announced (t.contexts player).sessionId t.log := by
  intro t
  have quiet := placed_quiet env delivered player clientTime s active state looped
  let entered := broadcastAvatarEnterNtf env player (placed env player clientTime s)
  have contexts : entered.contexts = (placed env player clientTime s).contexts :=
    broadcastAvatarEnterNtf_contexts env delivered player _
  have same : t.contexts = entered.contexts :=
    (time_contexts env delivered player clientTime s active state).trans contexts.symm
  have map : entered.playerContextByAvatarId = s.playerContextByAvatarId := by
    refine Eq.trans ?_ quiet.avatarMap
    change (broadcastAvatarEnterNtf env player (placed env player clientTime s)).playerContextByAvatarId = _
    rw [broadcastAvatarEnterNtf,withName]
    split
    · obtain ⟨_,_,result,-⟩ :=
        broadcastData_sent env (write env (.regionAvatarEnterNtf _ _) (placed env player clientTime s))
      rw [attemptWrite_delivered env delivered,result]
      exact (write_quiet env player _ _).avatarMap
    · rfl
  have told := (sendAll_delivered env delivered player (values entered.playerContextByAvatarId) entered).2.2 other
  rw [same]
  change _ ∈ announced _ (onClientTimeReq env player clientTime s).log
  rw [onClientTimeReq_delivered env delivered player clientTime s active state]
  refine told ?_ different ?_
  · rw [map]
    exact listed
  · rw [named,contexts,quiet.avatarNames]
    exact shown

end

end

end

theorem waiting_transition (state : PlayerState) (other : state ≠ .serverTimeNtf) :
    transition state .onClientTimeReq = none := by
  revert other
  cases state <;> decide

theorem onClientTimeReq_idle (env : Env) (player : Object) (clientTime : UInt32) (s : Region)
    (idle : ¬ ((s.contexts player).state = .serverTimeNtf ∧ (s.contexts player).finalizing = false)) :
    onClientTimeReq env player clientTime s = s := by
  rw [onClientTimeReq]
  split
  · rfl
  next active =>
    have other : (s.contexts player).state ≠ .serverTimeNtf :=
      fun state => idle ⟨state,(Bool.not_eq_true _).mp active⟩
    rw [expect,reaches,waiting_transition _ other]

theorem step_mild (env : Env) (delivered : ∀ sent, env.net sent = true) (s : Region) (action : Action)
    (incomplete : ¬ Completes env s action) : Mild s (step env s action) := by
  have forward (sessionId : UInt32) (packet : ClientPacket)
      (mild : ∀ player undefined, Serves sessionId s player →
        Mild s (onPacketReceived env player packet {s with undefined := undefined})) :
      Mild s (step env s (.packetForward sessionId packet)) := by
    obtain ⟨player,undefined,serves,result⟩ | ⟨_,undefined,result⟩ :=
      step_requested env s (.packetForward sessionId packet) sessionId rfl
    · rw [result]
      exact mild player undefined serves
    · rw [result]
      exact contexts_mild s _ rfl
  cases action with
  | shutdown => exact whileRunning_mild _ s (contexts_mild s _ rfl)
  | tick currTime => exact contexts_mild s _ rfl
  | pass => exact pass_mild s
  | shutdownPlayerReq player => exact shutdownPlayer_mild player s
  | onRegionReleaseReq sessionId =>
    exact whileRunning_mild _ s (forSession_mild sessionId _ s onRegionReleaseReq_mild)
  | onRegionEnterReq sessionId =>
    exact whileRunning_mild _ s (forSession_mild sessionId _ s (onRegionEnterReq_mild env))
  | onRegionEnterAck sessionId result =>
    exact whileRunning_mild _ s (forSession_mild sessionId _ s fun player =>
      onCommandOnRegionEnterAck_mild env player result)
  | onRegionLeaveReq sessionId =>
    exact whileRunning_mild _ s (forSession_mild sessionId _ s (onRegionLeaveReq_mild env))
  | onRegionAllocReq sessionId avatarId avatarName =>
    rcases alloc_cases env sessionId avatarId avatarName s with same | ⟨player,pool,_,_,_,result⟩
    · rw [same]
      exact contexts_mild s s rfl
    · rw [result]
      exact Mild.trans (contexts_mild s _ rfl) (onRegionAllocReq_mild env player sessionId avatarId avatarName _)
  | packetForward sessionId packet =>
    apply forward
    intro player undefined serves
    have read : Mild s {s with undefined := undefined} := contexts_mild s _ rfl
    cases packet with
    | other => exact read
    | regionChatReq message => exact read.trans (onRegionChatReq_mild env player message _)
    | clientTimeReq clientTime =>
      by_cases waiting : (s.contexts player).state = .serverTimeNtf ∧ (s.contexts player).finalizing = false
      · refine read.trans (time_mild env delivered player clientTime {s with undefined := undefined} waiting.2
          waiting.1 ?_)
        intro ⟨converts,looped⟩
        exact incomplete ⟨player,serves,waiting.1,waiting.2,converts,looped⟩
      · have same := onClientTimeReq_idle env player clientTime {s with undefined := undefined} waiting
        rw [onPacketReceived,same]
        exact read

theorem present_used (player : Object) (s : Region) (present : Present player s) :
    (s.contexts player).state ≠ .none := by
  rw [present.1]
  nofun

theorem completes_served (env : Env) (s : Region) (sessionId clientTime : UInt32) (sound : Sound s)
    (completes : Completes env s (.packetForward sessionId (.clientTimeReq clientTime))) :
    ∃ player undefined, Serves sessionId s player ∧ (s.contexts player).state = .serverTimeNtf ∧
      (s.contexts player).finalizing = false ∧ named env player s = true ∧ mapScript env player s = [] ∧
      step env s (.packetForward sessionId (.clientTimeReq clientTime)) =
        onClientTimeReq env player clientTime {s with undefined := undefined} ∧
      Sound (step env s (.packetForward sessionId (.clientTimeReq clientTime))) := by
  obtain ⟨player,serves,state,active,converts,looped⟩ := completes
  obtain ⟨other,undefined,served,result⟩ | ⟨nobody,_⟩ :=
    step_requested env s (.packetForward sessionId (.clientTimeReq clientTime)) sessionId rfl
  · obtain rfl := Option.some.inj (serves.found.symm.trans served.found)
    exact ⟨player,undefined,serves,state,active,converts,looped,result,step_sound env s _ sound trivial⟩
  · exact absurd serves (nobody player)

theorem avatar_unique (s : Region) (sound : Sound s) (player other : Object) (own : (s.contexts player).state ≠ .none)
    (used : (s.contexts other).state ≠ .none) (same : (s.contexts other).avatarId = (s.contexts player).avatarId) :
    other = player := by
  have listed := sound.avatars other ((sound.held other).mpr used)
  rw [same,sound.avatars player ((sound.held player).mpr own)] at listed
  exact (Option.some.inj listed).symm

theorem completes_wrong (env : Env) (delivered : ∀ sent, env.net sent = true) (s : Region) (action : Action)
    (sound : Sound s) (few : Few s) (completes : Completes env s action) : ¬ Right (step env s action) := by
  cases action with
  | packetForward sessionId packet =>
    cases packet with
    | clientTimeReq clientTime =>
      obtain ⟨player,undefined,serves,state,active,converts,looped,result,after⟩ :=
        completes_served env s sessionId clientTime sound completes
      obtain ⟨live,server,_⟩ := sound.slotted _ _ player serves.found
      have member : player ∈ values s.playerContextByAvatarId := (mem_values _ player).mpr ⟨_,sound.avatars player live⟩
      have inside : (serverId (s.contexts player).sessionId).toNat < serverCountMax := by
        rw [server]
        exact Nat.not_le.mp fun beyond => serves.inside (.inl beyond)
      have present := time_present env delivered player clientTime {s with undefined := undefined} active state
        converts looped
      have told := time_own env delivered player clientTime {s with undefined := undefined} active state converts looped
        member inside few
      rw [result] at after ⊢
      intro right
      obtain ⟨twin,different,there,same⟩ := (right player present _).mp told
      exact different (avatar_unique _ after player twin (present_used _ _ present) (present_used _ _ there) same)
    | _ => cases completes
  | _ => cases completes

/-- Whoever completes its entry finds only players in the map that have completed theirs, but for itself and those whose
names do not convert. -/
def Joins (env : Env) (s : Region) : Action → Prop
  | .packetForward sessionId (.clientTimeReq clientTime) =>
    Completes env s (.packetForward sessionId (.clientTimeReq clientTime)) →
      ∀ other ∈ values s.playerContextByAvatarId, slotOf sessionId s.toLoop ≠ some other → named env other s = true →
        Present other s
  | _ => True

theorem othersRight_joins (env : Env) (delivered : ∀ sent, env.net sent = true) (s : Region) (action : Action)
    (sound : Sound s) (right : OthersRight (step env s action)) : Joins env s action := by
  cases action with
  | packetForward sessionId packet =>
    cases packet with
    | clientTimeReq clientTime =>
      intro completes other listed apart shown
      obtain ⟨player,undefined,serves,state,active,converts,looped,result,after⟩ :=
        completes_served env s sessionId clientTime sound completes
      have different : other ≠ player := fun same => apart (same ▸ serves.found)
      let t := onClientTimeReq env player clientTime {s with undefined := undefined}
      have present : Present player t := time_present env delivered player clientTime _ active state converts looped
      have told := time_listed env delivered player clientTime {s with undefined := undefined} active state looped other
        listed (Ne.symm different) shown
      obtain ⟨still,before⟩ := time_others env delivered player clientTime {s with undefined := undefined} active state
        other different
      rw [result] at right after
      have own := present_used player t present
      have used : (t.contexts other).state ≠ .none := by
        obtain ⟨avatarId,found⟩ := (mem_values _ other).mp listed
        rw [still]
        exact (sound.held other).mp (sound.mapped avatarId other found).1
      have distinct : (t.contexts other).avatarId ≠ (t.contexts player).avatarId :=
        fun same => different (avatar_unique t after player other own used same)
      obtain ⟨twin,-,there,same⟩ := (right player present _ distinct).mp told
      obtain rfl := avatar_unique t after other twin used (present_used twin t there) same
      exact before there
    | _ => trivial
  | _ => trivial

theorem absent_right (s : Region) (absent : ∀ player, ¬ Present player s) : Right s :=
  fun player present => absurd present (absent player)

/-- The clients are told right as long as nobody completes its entry; once somebody has, the client of this
player is told about its own avatar. -/
theorem always_iff (env : Env) (actions : List Action) (delivered : ∀ sent, env.net sent = true) :
    (Guarded (step env) (fun s action => ¬ Completes env s action) (init env.config) actions → Always env actions) ∧
      (Guarded (step env) (fun s action => Fresh s action ∧ Few s) (init env.config) actions →
        Always env actions →
          Guarded (step env) (fun s action => ¬ Completes env s action) (init env.config) actions) := by
  constructor
  · intro incomplete
    refine guarded_invariant (step env) _ _ (fun s => ∀ player, ¬ Present player s) ?_ ?_ _ actions incomplete ?_
    · intro s action absent early player present
      exact absent player (step_mild env delivered s action early player present)
    · intro s action absent early
      apply absent_right
      intro player present
      exact absent player (step_mild env delivered s action early player present)
    · intro player present
      cases present.1
  · intro ordinary always
    refine guarded_invariant (step env) _ _ Sound ?_ ?_ _ actions
      (guarded_and (step env) _ _ _ actions ordinary always) (init_sound env.config)
    · intro s action sound both
      exact step_sound env s action sound both.1.1
    · intro s action sound both completes
      exact completes_wrong env delivered s action sound both.1.2 completes both.2

/-- With its own avatar set aside each client is told right only as long as whoever completes its entry finds nobody in
the map who is only allocated, or queued and not yet deleted. -/
theorem others_joined (env : Env) (actions : List Action) (delivered : ∀ sent, env.net sent = true)
    (fresh : Guarded (step env) Fresh (init env.config) actions)
    (right : Guarded (step env) (fun s action => OthersRight (step env s action)) (init env.config) actions) :
    Guarded (step env) (Joins env) (init env.config) actions := by
  refine guarded_invariant (step env) _ _ Sound ?_ ?_ _ actions (guarded_and (step env) _ _ _ actions fresh right)
    (init_sound env.config)
  · intro s action sound both
    exact step_sound env s action sound both.1
  · intro s action sound both
    exact othersRight_joins env delivered s action sound both.2

theorem short_few (s : Region) (short : (sessionIds s).length ≤ broadcastSessionMax) : Few s :=
  fun _ => (List.length_filter_le ..).trans short

/-- Before the last request of an entry all is right, after it no more. -/
theorem always_entered : Always sampleEnv (entered.take 3) ∧ ¬ Always sampleEnv entered := by
  have net (sent : Nat) : sampleEnv.net sent = true := rfl
  have short : Guarded (step sampleEnv) (fun s action => Fresh s action ∧ (sessionIds s).length ≤ broadcastSessionMax)
      (init sampleEnv.config) entered := by decide +kernel
  refine ⟨(always_iff sampleEnv (entered.take 3) net).1 ⟨id,id,id,trivial⟩,?_⟩
  intro always
  have ordinary := guarded_invariant (step sampleEnv) _ (fun s action => Fresh s action ∧ Few s) (fun _ => True)
    (fun _ _ _ _ => trivial) (fun s _ _ both => ⟨both.1,short_few s both.2⟩) _ entered short trivial
  have incomplete := (always_iff sampleEnv entered net).2 ordinary always
  refine incomplete.2.2.2.1 ⟨0,⟨rfl,?_,?_⟩,?_,?_,?_,?_⟩ <;> decide +kernel

/-- A second player has only been allocated when the first completes its entry. -/
def waited : List Action := .onRegionAllocReq secondSession 8 [98] :: entered

/-- The first is told about the second, and about itself. -/
theorem waited_wrong : let s := run (step sampleEnv) (init sampleEnv.config) waited
    Present 1 s ∧ announced firstSession s.log = [8,7] ∧ (∀ other, other ≠ 1 → ¬ Present other s) ∧
      ¬ Always sampleEnv waited := by
  intro s
  have fresh : Guarded (step sampleEnv) Fresh (init sampleEnv.config) waited := by decide +kernel
  have sound : Sound s := run_invariant (step sampleEnv) Fresh Sound
    (fun s action sound fresh => step_sound sampleEnv s action sound fresh) _ waited fresh (init_sound _)
  have present : (s.contexts 1).state = .initAvatarNtf ∧ (s.contexts 1).finalizing = false := by decide +kernel
  have told : announced firstSession s.log = [8,7] := by decide +kernel
  have own : (s.contexts 1).sessionId = firstSession := by decide +kernel
  have alone (other : Object) (different : other ≠ 1) : ¬ Present other s := by
    intro there
    have live := (sound.held other).mpr (present_used other s there)
    have created : s.playerContextPool.created = 2 := by decide +kernel
    have below := live.1
    rw [created] at below
    have first : ∀ n : Nat, n < 2 → n ≠ 1 → n = 0 := by omega
    obtain rfl := first other below different
    have early : (s.contexts 0).state = .regionAllocAck := by decide +kernel
    exact absurd (there.1.symm.trans early) nofun
  refine ⟨present,told,alone,?_⟩
  intro always
  have right : Right s := (guarded_append (step sampleEnv) _ _ (waited.take 4)
    (.packetForward firstSession (.clientTimeReq 0)) [] always).2.1
  have about := right 1 present 8
  rw [own,told] at about
  obtain ⟨other,different,there,_⟩ := about.mp (by decide)
  exact alone other different there

end Fantuan.RegionServer.ClientViews
