import Fantuan.MasterServer.ChannelSelects
import Fantuan.MasterServer.Closures

/-! Players who are shut down between RegionAllocReq and the region. ShutdownPlayer reads the region that
an accepting answer stored, so before the answer it releases the player at server 0 and leaves the server
that was asked alone.
-/
namespace Fantuan.MasterServer.RegionReleases
open Lib.Table Lib.Run Lib.Drain StarNet.Packet ServerBase.ServerCommon Tool.ObjectPool PlayerFsm
open Context ServerLoop Player Commands PlayerSteps Handlers Closures Logouts Deletion Indexes Frames
  LoginAnswers ChannelSelects

/-- Where a player stands on the way from the channel list into a region and back. -/
inductive Stage where
  | choosing | asking | inside | leaving
  deriving DecidableEq

def stage : PlayerState → Stage
  | .regionAllocReq | .onRegionAllocAck | .channelSelectAck => .asking
  | .regionEnterReq | .finalizing | .finalizing_onRegionLeaveReq | .finalizing_regionLeaveAck
  | .logout => .inside
  | .onChannelLeaveReq | .onChannelLeave_onRegionLeaveReq | .onChannelLeave_regionLeaveAck => .leaving
  | _ => .choosing

/-- A region has been asked for the player, and he has neither entered it nor been shut down. -/
def Pending (s : Loop) (player : Object) : Prop :=
  (s.contexts player).finalizing = false ∧ stage (s.contexts player).state = .asking

instance (s : Loop) : DecidablePred (Pending s) := fun _ => inferInstanceAs (Decidable (_ ∧ _))

/-- The region server of the player's newest RegionAllocReq. -/
def asked (player : Object) : List Event → Option UInt8
  | [] => none
  | .sent (some other) (.regionAllocReq region _ _ _) true :: log =>
    if other = player then some region else asked player log
  | .deleted other :: log => if other = player then none else asked player log
  | _ :: log => asked player log

/-- A send or the channel list fails while the region's answer is handled. -/
def ackFails (env : Env) (s : Loop) (result : Int32) : Bool :=
  let next (n : Nat) : Bool := env.net (s.log.length + n)
  if result = 0 then !(next 0 && next 1 && next 2)
  else match channelData env s with
    | .ok _ => !(next 0 && next 1 && next 2 && next 3)
    | .error _ => true

/-- The players whom a command shuts down while a region is asked for them, and the region server that
ShutdownPlayer reads then. It is 0 until an answer accepts the player. -/
def shut (env : Env) (s : Loop) : Command → List (Object × UInt8)
  | .shutdown => (values s.playerContextByName).map fun player => (player,0)
  | .onLoginReq _ accountName =>
    if s.loginServerContext.isConnected then
      ((find accountName s.playerContextByName).or s.playerContextPool.allocate.1).toList.map
        fun player => (player,0)
    else []
  | .gateAllocAck _ loginSessionId accountName _ =>
    ((find accountName s.playerContextByName).filter fun player => sessionOf s player = loginSessionId).toList.map
      fun player => (player,0)
  | .onGateLoginReq sessionId | .onRegionLeaveReq sessionId | .onSessionDisconnect sessionId =>
    (find sessionId s.playerContextBySessionId).toList.map fun player => (player,0)
  | .onRegionAllocAck sessionId region result =>
    (find sessionId s.playerContextBySessionId).toList.flatMap fun player =>
      if (s.contexts player).state = .regionAllocReq then
        if ackFails env s result then [(player,if result = 0 then region else 0)] else []
      else [(player,0)]
  | .packetForward sessionId typeId data =>
    if harmless (env.onPacketReceived typeId data) then []
    else (find sessionId s.playerContextBySessionId).toList.map fun player => (player,0)
  | .onLoginReport _ | .onGateReport _ _ | .onRegionPlayerFailReq _ | .other => []

/-- The server is the one that was asked, and its map has nobody else under the player's session. -/
structure AimedAt (s : Loop) (player : Object) (region : UInt8) : Prop where
  asked : asked player s.log = some region
  alone : ∀ other ∈ find (sessionOf s player) (regionPlayers (s.contexts player).lastChannelId region s),
    Pending s other

instance (s : Loop) (player : Object) (region : UInt8) : Decidable (AimedAt s player region) :=
  decidable_of_iff (asked player s.log = some region ∧
      ∀ other ∈ find (sessionOf s player) (regionPlayers (s.contexts player).lastChannelId region s),
        Pending s other)
    ⟨fun both => ⟨both.1,both.2⟩,fun aimed => ⟨aimed.asked,aimed.alone⟩⟩

/-- Every player whom the action shuts down while a region is asked for him is shut down by an answer of
that region which accepts him, or the region is server 0. -/
def Aimed (env : Env) (s : Loop) : Action → Prop
  | .command command => s.shutdownStatus = .notShutdown →
    ∀ pair ∈ shut env s command, Pending s pair.1 → AimedAt s pair.1 pair.2
  | .pass => True

instance (env : Env) (s : Loop) : DecidablePred (Aimed env s)
  | .command _ => inferInstanceAs (Decidable (_ → _))
  | .pass => inferInstanceAs (Decidable True)

/-- A release goes to the server that was asked. A shutdown in the meantime takes nobody else out of a
region; the player is in none yet. -/
structure Proper (s t : Loop) : Prop where
  released : ∀ player region sessionId success,
    .sent (some player) (.regionReleaseReq region sessionId) success ∈ since s.log t.log →
      asked player s.log = some region
  kept : ∀ player, Pending s player → (t.contexts player).finalizing = true →
    ∀ channel region key other, find key (regionPlayers channel region s) = some other →
      ¬ Pending s other → find key (regionPlayers channel region t) = some other

/-- What holds of a player who may not have been accepted by a region. -/
def Early (context : MasterPlayerContext) : Prop :=
  context.finalizing = true ∨ stage context.state = .inside ∨
    stage context.state ≠ .leaving ∧ context.regionServerId = 0

def Calm (context : MasterPlayerContext) : Prop :=
  context.finalizing = true ∨ stage context.state = .inside ∨
    stage context.state = .choosing ∧ context.regionServerId = 0

theorem calm_early (context : MasterPlayerContext) (calm : Calm context) : Early context := by
  rcases calm with finalizing | inside | ⟨choosing,unset⟩
  · exact .inl finalizing
  · exact .inr (.inl inside)
  · exact .inr (.inr ⟨by rw [choosing]; simp,unset⟩)

theorem clear_early : Early .clear := .inr (.inr ⟨by decide,rfl⟩)

theorem early_calm (s : Loop) (player : Object) (early : Early (s.contexts player))
    (free : ¬ Pending s player) : Calm (s.contexts player) := by
  rcases early with finalizing | inside | ⟨stays,unset⟩
  · exact .inl finalizing
  · exact .inr (.inl inside)
  · cases place : stage (s.contexts player).state with
    | choosing => exact .inr (.inr ⟨place,unset⟩)
    | asking =>
      cases finalizing : (s.contexts player).finalizing with
      | true => exact .inl finalizing
      | false => exact absurd ⟨finalizing,place⟩ free
    | inside => exact .inr (.inl place)
    | leaving => exact absurd place stays

theorem pending_region (s : Loop) (player : Object) (early : Early (s.contexts player))
    (pending : Pending s player) : (s.contexts player).regionServerId = 0 := by
  rcases early with finalizing | inside | ⟨-,unset⟩
  · exact absurd (pending.1.symm.trans finalizing) Bool.false_ne_true
  · exact absurd (pending.2.symm.trans inside) (by simp)
  · exact unset

theorem routine_stage (state next : PlayerState) (event : PlayerEvent) (plain : routine event = true)
    (reached : transition state event = some next) :
    (stage state = .inside → stage next = .inside) ∧ (stage state = .choosing → stage next = .choosing) := by
  have rows : ∀ row ∈ initStateMachine state, routine row.1 = true →
      (stage state = .inside → stage row.2 = .inside) ∧
        (stage state = .choosing → stage row.2 = .choosing) := by
    cases state <;> decide
  exact rows _ (transition_mem state next event reached) plain

/-- The events that a player between the list and a region waits for. -/
def answers : PlayerEvent → Bool
  | .onRegionAllocAck | .onRegionAllocFailAck | .channelSelectAck | .regionEnterReq
  | .onSessionDisconnect => true
  | _ => false

def releasesRegion : Event → Bool
  | .sent _ (.regionReleaseReq _ _) _ => true
  | _ => false

/-- Events were added, and no RegionReleaseReq is among them. -/
def Silent (s t : Loop) : Prop :=
  ∃ events, t.log = events ++ s.log ∧ ∀ event ∈ events, releasesRegion event = false

theorem silent_same (s t : Loop) (log : t.log = s.log) : Silent s t := ⟨[],log,by simp⟩

theorem silent_cons (s t : Loop) (event : Event) (log : t.log = event :: s.log)
    (plain : releasesRegion event = false) : Silent s t :=
  ⟨[event],log,by simpa using plain⟩

theorem silent_trans (s t u : Loop) (first : Silent s t) (second : Silent t u) : Silent s u := by
  obtain ⟨earlier,wrote,plain⟩ := first
  obtain ⟨later,wroteLater,plainLater⟩ := second
  refine ⟨later ++ earlier,by rw [wroteLater,wrote,List.append_assoc],fun event member => ?_⟩
  exact (List.mem_append.mp member).elim (plainLater event) (plain event)

section
variable (env : Env) (player : Object)

/-- No region releases the player and his context is not between the list and a region. -/
def Spared (s t : Loop) : Prop := Silent s t ∧ Calm (t.contexts player)

theorem spared_same (s t u : Loop) (spared : Spared player s t)
    (contexts : u.contexts player = t.contexts player) (log : u.log = t.log) : Spared player s u :=
  ⟨silent_trans s t u spared.1 (silent_same t u log),by rw [contexts]; exact spared.2⟩

theorem spared_sent (s t : Loop) (message : Message) (spared : Spared player s t)
    (plain : ∀ region sessionId, message ≠ .regionReleaseReq region sessionId) :
    Spared player s (send env (some player) message t) := by
  refine ⟨silent_trans s t _ spared.1 (silent_cons t _ _ rfl ?_),spared.2⟩
  cases message with
  | regionReleaseReq region sessionId => exact absurd rfl (plain region sessionId)
  | _ => rfl

theorem calm_change (old new : MasterPlayerContext) (finalizing : new.finalizing = old.finalizing)
    (state : new.state = old.state) (region : new.regionServerId = old.regionServerId) (calm : Calm old) :
    Calm new := by
  rw [Calm,finalizing,state,region]
  exact calm

theorem spared_changed (s t : Loop) (change : MasterPlayerContext → MasterPlayerContext)
    (finalizing : (change (t.contexts player)).finalizing = (t.contexts player).finalizing)
    (state : (change (t.contexts player)).state = (t.contexts player).state)
    (region : (change (t.contexts player)).regionServerId = (t.contexts player).regionServerId)
    (spared : Spared player s t) : Spared player s (t.update player change) := by
  refine ⟨silent_trans s t _ spared.1 (silent_same t _ rfl),?_⟩
  rw [update_same]
  exact calm_change _ _ finalizing state region spared.2

theorem spared_moved (s t : Loop) (event : PlayerEvent) (plain : routine event = true)
    (spared : Spared player s t) : Spared player s (stateTransition event player t) := by
  cases reached : reaches event player t with
  | none =>
    rw [stateTransition_none player t event reached]
    exact spared
  | some next =>
    obtain ⟨inside,choosing⟩ := routine_stage _ next event plain reached
    rw [stateTransition_reached player t event next reached]
    refine ⟨silent_trans s t _ spared.1 (silent_same t _ rfl),?_⟩
    rw [setState_context]
    rcases spared.2 with finalizing | stays | ⟨chooses,unset⟩
    · exact .inl finalizing
    · exact .inr (.inl (inside stays))
    · exact .inr (.inr ⟨choosing chooses,unset⟩)

theorem spared_queued (s t : Loop) (spared : Spared player s t) :
    Spared player s (addPlayerToFinalizingQueue player t) := by
  refine ⟨silent_trans s t _ spared.1 (silent_cons t _ (.queued player) rfl rfl),.inl ?_⟩
  have own : (addPlayerToFinalizingQueue player t).contexts =
      (t.update player fun context => {context with finalizing := true}).contexts := rfl
  rw [own,update_same]

theorem regionRelease_stage (state : PlayerState) :
    (shutdownNeeds state).regionRelease = true ↔ stage state = .asking := by
  cases state <;> decide

theorem sendIf_spared (s t : Loop) (need : Bool) (message : Message) (spared : Spared player s t)
    (plain : ∀ region sessionId, message ≠ .regionReleaseReq region sessionId) :
    Spared player s (sendIf env need player message t) := by
  cases need with
  | false => exact spared
  | true => exact spared_sent env player s t message spared plain

theorem finishShutdown_spared (s t : Loop) (needs : ShutdownNeeds) (spared : Spared player s t) :
    Spared player s (finishShutdown env needs player t) := by
  apply spared_queued
  apply sendIf_spared _ _ _ _ _ _ _ (by simp)
  apply sendIf_spared _ _ _ _ _ _ _ (by simp)
  apply sendIf_spared _ _ _ _ _ _ _ (by simp)
  exact sendIf_spared _ _ _ _ _ _ spared (by simp)

/-- Nothing is released for a player who is not between the list and a region. -/
theorem calm_unreleased (s : Loop) (calm : Calm (s.contexts player))
    (active : (s.contexts player).finalizing = false) :
    (shutdownNeeds (s.contexts player).state).regionRelease = false := by
  apply Bool.eq_false_of_not_eq_true
  intro releases
  have asking := (regionRelease_stage _).mp releases
  rcases calm with finalizing | inside | ⟨choosing,-⟩
  · exact absurd (active.symm.trans finalizing) Bool.false_ne_true
  · exact absurd (asking.symm.trans inside) (by simp)
  · exact absurd (asking.symm.trans choosing) (by simp)

theorem shutdownPlayer_unreleased (s : Loop) (active : (s.contexts player).finalizing = false)
    (unreleased : (shutdownNeeds (s.contexts player).state).regionRelease = false) :
    shutdownPlayer env player s =
      let needs := shutdownNeeds (s.contexts player).state
      let begun := begin player s
      let left := send env (some player) (.regionLeaveReq (begun.contexts player).regionServerId
        (begun.contexts player).sessionId) begun
      if (needs.regionLeave && !isReadyForShutdown s) = true then
        if sends env begun = true then stateTransition .regionLeaveAck player left
        else finishShutdown env needs player left
      else finishShutdown env needs player begun := by
  simp only [shutdownPlayer,active,unreleased,Bool.false_and,Bool.false_eq_true,if_false]
  rfl

theorem shutdownPlayer_spared (s t : Loop) (spared : Spared player s t) :
    Spared player s (shutdownPlayer env player t) := by
  cases active : (t.contexts player).finalizing with
  | true =>
    rw [shutdownPlayer,if_pos active]
    exact spared
  | false =>
    have begun : Spared player s (begin player t) := by
      rw [begin]
      split
      · exact spared_moved player s t .finalize rfl spared
      · exact spared
    have left := spared_sent env player s _ (.regionLeaveReq ((begin player t).contexts player).regionServerId
      ((begin player t).contexts player).sessionId) begun (by simp)
    rw [shutdownPlayer_unreleased env player t active (calm_unreleased player t spared.2 active)]
    dsimp only
    split
    · split
      · exact spared_moved player s _ .regionLeaveAck rfl left
      · exact finishShutdown_spared env player s _ _ left
    · exact finishShutdown_spared env player s _ _ begun

theorem stateTransition_channels (s : Loop) (event : PlayerEvent) :
    (stateTransition event player s).channelContext = s.channelContext := by
  rw [stateTransition]
  split <;> rfl

theorem finishShutdown_channels (s : Loop) (needs : ShutdownNeeds) :
    (finishShutdown env needs player s).channelContext = s.channelContext := by
  have sent (need : Bool) (message : Message) (t : Loop) :
      (sendIf env need player message t).channelContext = t.channelContext := by
    cases need <;> rfl
  simp only [finishShutdown,addPlayerToFinalizingQueue,Loop.update,sent]

theorem shutdownPlayer_channels (s : Loop) (calm : Calm (s.contexts player)) :
    (shutdownPlayer env player s).channelContext = s.channelContext := by
  cases active : (s.contexts player).finalizing with
  | true => rw [shutdownPlayer,if_pos active]
  | false =>
    have begun : (begin player s).channelContext = s.channelContext := by
      rw [begin]
      split
      · exact stateTransition_channels player s _
      · rfl
    rw [shutdownPlayer_unreleased env player s active (calm_unreleased player s calm active)]
    dsimp only
    split
    · split
      · exact (stateTransition_channels player _ _).trans begun
      · exact (finishShutdown_channels env player _ _).trans begun
    · exact (finishShutdown_channels env player _ _).trans begun

theorem spared_upheld (s : Loop) : Upheld env player (Spared player s) where
  same t spared u contexts _ log := spared_same player s t u spared (congrFun contexts player) log
  sent t message heard spared := spared_sent env player s t message spared fun region sessionId same => by
    rw [same] at heard
    cases heard
  moved t event plain spared := spared_moved player s t event plain spared
  changed t change alike spared :=
    spared_changed player s t change alike.finalizing alike.state alike.regionServerId spared
  queued t spared := spared_queued player s t spared
  shut t spared := shutdownPlayer_spared env player s t spared

/-- The player is released at the region's server, and only there does somebody else go. -/
structure Released (region : UInt8) (s t : Loop) : Prop where
  log : ∃ events, t.log = events ++ s.log ∧ ∀ other server sessionId success,
    .sent other (.regionReleaseReq server sessionId) success ∈ events → other = some player ∧ server = region
  finalizing : (t.contexts player).finalizing = true
  maps : ∀ channel server key other, find key (regionPlayers channel server s) = some other →
    find key (regionPlayers channel server t) = some other ∨
      server = region ∧ channel = (s.contexts player).lastChannelId ∧ key = sessionOf s player

theorem shutdownPlayer_pending (s : Loop) (pending : Pending s player)
    (running : s.shutdownStatus ≠ .readyForShutdown) :
    shutdownPlayer env player s =
      let context := s.contexts player
      addPlayerToFinalizingQueue player
        (send env (some player) (.cacheOnLogoutReq context.sessionId)
          (send env (some player) (.disconnect context.gateServerId context.sessionId)
            (deletePlayerFromRegionServerContext player
              (send env (some player) (.regionReleaseReq context.regionServerId context.sessionId) s)))) := by
  have needs : ∀ state, stage state = .asking → shutdownNeeds state =
      {gateDisconnect := true, cacheDisconnect := true, regionRelease := true} ∧ state ≠ .regionEnterReq := by
    intro state asking
    cases state <;> first | exact ⟨rfl,by simp⟩ | cases asking
  obtain ⟨wants,outside⟩ := needs _ pending.2
  have begun : begin player s = s := by rw [begin,if_neg outside]
  let left := deletePlayerFromRegionServerContext player (send env (some player)
    (.regionReleaseReq (s.contexts player).regionServerId (s.contexts player).sessionId) s)
  have ready : isReadyForShutdown left = false := decide_eq_false running
  rw [shutdownPlayer_running env player s pending.1 running,wants,begun]
  change finishShutdown env _ player left = _
  simp only [finishShutdown,ready,sendIf,Bool.not_false,Bool.and_true,if_true,Bool.false_eq_true,if_false]
  rfl

theorem shutdownPlayer_released (s : Loop) (pending : Pending s player)
    (running : s.shutdownStatus ≠ .readyForShutdown) :
    Released player (s.contexts player).regionServerId s (shutdownPlayer env player s) := by
  rw [shutdownPlayer_pending env player s pending running]
  refine ⟨⟨[_,_,_,_],rfl,?_⟩,?_,?_⟩
  · intro other server sessionId success member
    simp only [List.mem_cons,List.not_mem_nil,or_false,reduceCtorEq,false_or,Event.sent.injEq,
      Message.regionReleaseReq.injEq,false_and,and_false] at member
    exact ⟨member.1,member.2.1.1⟩
  · dsimp only [addPlayerToFinalizingQueue]
    rw [update_same]
  · intro channel server key other found
    let asks := send env (some player)
      (.regionReleaseReq (s.contexts player).regionServerId (s.contexts player).sessionId) s
    change find key (regionPlayers channel server (updateRegion player
      (erase (s.contexts player).sessionId) asks)) = some other ∨ _
    rw [regionPlayers_updateRegion]
    split
    next here =>
      by_cases same : key = sessionOf s player
      · exact .inr ⟨here.2.1,here.1,same⟩
      · rw [find_erase]
        exact .inl ((if_neg same).trans found)
    next => exact .inl found

theorem released_before (region : UInt8) (s t u : Loop) (silent : Silent s t)
    (channels : t.channelContext = s.channelContext)
    (channel : (t.contexts player).lastChannelId = (s.contexts player).lastChannelId)
    (session : sessionOf t player = sessionOf s player) (released : Released player region t u) :
    Released player region s u := by
  obtain ⟨earlier,wrote,plain⟩ := silent
  obtain ⟨⟨later,wroteLater,aimed⟩,finalizing,maps⟩ := released
  refine ⟨⟨later ++ earlier,by rw [wroteLater,wrote,List.append_assoc],?_⟩,finalizing,?_⟩
  · intro other server sessionId success member
    rcases List.mem_append.mp member with new | old
    · exact aimed other server sessionId success new
    · cases plain _ old
  · rw [channel,session] at maps
    have same (channel server : UInt8) : regionPlayers channel server t = regionPlayers channel server s := by
      rw [regionPlayers,regionPlayers,channels]
    intro channel server key other found
    exact maps channel server key other (by rw [same]; exact found)

structure Acts (region : Option UInt8) (s t : Loop) : Prop where
  early : Early (t.contexts player)
  log : ∃ events, t.log = events ++ s.log ∧ ∀ other server sessionId success,
    .sent other (.regionReleaseReq server sessionId) success ∈ events →
      other = some player ∧ Pending s player ∧ region = some server
  maps : Pending s player → (t.contexts player).finalizing = true →
    ∀ channel server key other, find key (regionPlayers channel server s) = some other →
      find key (regionPlayers channel server t) = some other ∨
        region = some server ∧ channel = (s.contexts player).lastChannelId ∧ key = sessionOf s player

theorem released_acts (region : UInt8) (s t : Loop) (pending : Pending s player)
    (released : Released player region s t) : Acts player (some region) s t := by
  obtain ⟨⟨events,wrote,aimed⟩,finalizing,maps⟩ := released
  refine ⟨.inl finalizing,⟨events,wrote,?_⟩,fun _ _ => ?_⟩
  · intro other server sessionId success member
    obtain ⟨own,same⟩ := aimed other server sessionId success member
    exact ⟨own,pending,by rw [same]⟩
  · intro channel server key other found
    rcases maps channel server key other found with stays | ⟨same,others⟩
    · exact .inl stays
    · exact .inr ⟨by rw [same],others⟩

theorem silent_acts (region : Option UInt8) (s t : Loop) (early : Early (t.contexts player))
    (silent : Silent s t) (kept : Pending s player → (t.contexts player).finalizing = true →
      t.channelContext = s.channelContext) : Acts player region s t := by
  obtain ⟨events,wrote,plain⟩ := silent
  refine ⟨early,⟨events,wrote,?_⟩,fun pending finalizing => ?_⟩
  · intro other server sessionId success member
    cases plain _ member
  · intro channel server key other found
    rw [regionPlayers,kept pending finalizing]
    exact .inl found

theorem spared_acts (region : Option UInt8) (s t : Loop) (free : ¬ Pending s player)
    (spared : Spared player s t) : Acts player region s t :=
  silent_acts player region s t (calm_early _ spared.2) spared.1 fun pending => absurd pending free

theorem shutdownPlayer_acts (s : Loop) (early : Early (s.contexts player))
    (running : s.shutdownStatus ≠ .readyForShutdown) :
    Acts player (some 0) s (shutdownPlayer env player s) := by
  by_cases pending : Pending s player
  · have released := shutdownPlayer_released env player s pending running
    rw [pending_region s player early pending] at released
    exact released_acts player 0 s _ pending released
  · have start : Spared player s s := ⟨silent_same s s rfl,early_calm s player early pending⟩
    exact spared_acts player _ s _ pending (shutdownPlayer_spared env player s s start)

theorem asking_unreached (state : PlayerState) (event : PlayerEvent) (asking : stage state = .asking)
    (unanswered : answers event = false) : transition state event = none := by
  have rows : ∀ state, stage state = .asking → ∀ row ∈ initStateMachine state, answers row.1 = true := by
    intro state
    cases state <;> decide
  cases reached : transition state event with
  | none => rfl
  | some next =>
    exact absurd ((rows state asking _ (transition_mem state next event reached)).symm.trans unanswered)
      (by simp)

theorem expect_pending (s : Loop) (event : PlayerEvent) (expected : PlayerState) (next : Loop → Loop)
    (pending : Pending s player) (unanswered : answers event = false) :
    expect env player event expected next s = shutdownPlayer env player s := by
  have unreached : reaches event player s = none := asking_unreached _ event pending.2 unanswered
  rw [expect,stateTransition_none player s event unreached,unreached]
  exact if_neg (by simp)

theorem pending_ite (s : Loop) (next : Loop) (pending : Pending s player) :
    (if (s.contexts player).finalizing = true then s else next) = next :=
  if_neg (by rw [pending.1]; exact Bool.false_ne_true)

theorem gateAllocAck_pending (s : Loop) (gate : UInt8) (gateSessionId : UInt32) (pending : Pending s player) :
    gateAllocAck env player gate gateSessionId s = shutdownPlayer env player s := by
  rw [gateAllocAck]
  split
  · rw [stateTransition_none player s _ (asking_unreached _ _ pending.2 rfl)]
  · exact expect_pending env player s _ _ _ pending rfl

theorem onGateLoginReq_pending (s : Loop) (pending : Pending s player) :
    onGateLoginReq env player s = shutdownPlayer env player s := by
  rw [onGateLoginReq,pending_ite player s _ pending]
  exact expect_pending env player s _ _ _ pending rfl

theorem onRegionLeaveReq_pending (s : Loop) (pending : Pending s player) :
    onRegionLeaveReq env player s = shutdownPlayer env player s := by
  have unreached : reaches .onRegionLeaveReq player s = none :=
    asking_unreached _ _ pending.2 rfl
  rw [onRegionLeaveReq,stateTransition_none player s _ unreached,unreached]
  exact if_pos rfl

theorem onLoginReq_pending (s : Loop) (sessionId : UInt32) (accountName : WString)
    (pending : Pending s player) :
    onLoginReq env player sessionId accountName s = shutdownPlayer env player s := by
  apply onLoginReq_busy
  intro unused
  have asking := pending.2
  rw [unused] at asking
  cases asking

/-- A packet finds the player in none of the states that expect one. -/
theorem handlePacket_pending (s : Loop) (packet : Packet) (pending : Pending s player)
    (heard : harmless packet = false) :
    ∃ undefined, handlePacket env player packet s =
      shutdownPlayer env player {s with undefined := undefined} := by
  cases packet with
  | avatarListAck result avatars =>
    have held : Pending (holdAvatars avatars s) player := pending
    refine ⟨s.undefined || avatarCountMax < avatars.length,?_⟩
    rw [handlePacket,onAvatarListAck,pending_ite player _ _ held]
    exact expect_pending env player _ _ _ _ held rfl
  | avatarListReq =>
    rw [handlePacket,onAvatarListReq,pending_ite player s _ pending]
    exact ⟨_,expect_pending env player s _ _ _ pending rfl⟩
  | avatarCreateReq =>
    rw [handlePacket,onAvatarCreateReq,pending_ite player s _ pending]
    exact ⟨_,expect_pending env player s _ _ _ pending rfl⟩
  | avatarCreateAck result newAvatar =>
    rw [handlePacket,onAvatarCreateAck,pending_ite player s _ pending]
    exact ⟨_,expect_pending env player s _ _ _ pending rfl⟩
  | avatarSelectReq avatarName =>
    rw [handlePacket,onAvatarSelectReq,pending_ite player s _ pending]
    exact ⟨_,expect_pending env player s _ _ _ pending rfl⟩
  | avatarSelectAck result avatarName avatarId lastChannelId =>
    rw [handlePacket,onAvatarSelectAck,pending_ite player s _ pending]
    exact ⟨_,expect_pending env player s _ _ _ pending rfl⟩
  | channelSelectReq channelName =>
    rw [handlePacket,onChannelSelectReq,pending_ite player s _ pending]
    exact ⟨_,expect_pending env player s _ _ _ pending rfl⟩
  | channelLeaveReq => cases heard
  | other => cases heard

theorem loginSession2GateSession_spared (s t : Loop) (loginSessionId gateSessionId : UInt32)
    (spared : Spared player s t) :
    Spared player s (loginSession2GateSession player loginSessionId gateSessionId t) := by
  have frame := switch_frame player t loginSessionId gateSessionId
  refine ⟨silent_trans s t _ spared.1 (silent_same t _ frame.log),?_⟩
  rcases frame.own with same | moved
  · rw [same]
    exact spared.2
  · rw [moved]
    exact spared.2

theorem gateAllocAck_spared (s t : Loop) (gate : UInt8) (gateSessionId : UInt32)
    (spared : Spared player s t) : Spared player s (gateAllocAck env player gate gateSessionId t) := by
  have upheld := spared_upheld env player s
  rw [gateAllocAck]
  split
  · exact upheld.shut _ (upheld.moved t .gateAllocFailAck rfl spared)
  · refine expect_upheld env player _ upheld t _ _ _ rfl spared fun u spared => ?_
    have chosen := spared_changed player s u (fun context => {context with gateServerId := gate})
      rfl rfl rfl spared
    dsimp only
    split
    · exact upheld.shut _ chosen
    · refine attemptWrite_upheld env player _ upheld _ _ _ chosen fun v spared => ?_
      refine attempt_upheld env player _ upheld v _ _ (spared_sent env player s v _ spared (by simp [toLogin]))
        fun w spared => ?_
      refine expect_upheld env player _ upheld w _ _ _ rfl spared fun x spared => ?_
      exact loginSession2GateSession_spared player s x _ _ spared

theorem onLoginReq_spared (s t : Loop) (sessionId : UInt32) (accountName : WString)
    (spared : Spared player s t) : Spared player s (onLoginReq env player sessionId accountName t) := by
  have upheld := spared_upheld env player s
  refine expect_upheld env player _ upheld t _ _ _ rfl spared fun u spared => ?_
  let named := u.update player fun context =>
    {context with sessionId := sessionId, accountName := accountName}
  have called : Spared player s named := spared_changed player s u _ rfl rfl rfl spared
  have allotted : Spared player s (ServerLoop.gateAllocReq named).2 := by
    apply spared_same player s named _ called (congrFun (gateAllocReq_contexts named) player)
    rw [ServerLoop.gateAllocReq]
    split <;> rfl
  dsimp only
  split
  next full result =>
    rw [result] at allotted
    exact allotted
  next gate counted result =>
    rw [result] at allotted
    have chosen := spared_changed player s counted (fun context => {context with gateServerId := gate})
      rfl rfl rfl allotted
    have sent := spared_sent env player s _ (.gateAllocReq gate sessionId accountName) chosen (by simp)
    split
    · exact expect_upheld env player _ upheld _ _ _ _ rfl sent fun _ spared => spared
    · exact sent

theorem asked_early (s : Loop) (calm : Calm (s.contexts player)) :
    Early ((stateTransition .regionAllocReq player s).contexts player) := by
  cases reached : reaches .regionAllocReq player s with
  | none =>
    rw [stateTransition_none player s _ reached]
    exact calm_early _ calm
  | some next =>
    have rows : ∀ state, ∀ row ∈ initStateMachine state, row.1 = .regionAllocReq →
        stage state = .choosing ∧ stage row.2 = .asking := by
      intro state
      cases state <;> decide
    obtain ⟨chooses,asks⟩ := rows _ _ (transition_mem _ next _ reached) rfl
    rw [stateTransition_reached player s _ next reached,setState_context]
    rcases calm with finalizing | inside | ⟨-,unset⟩
    · exact .inl finalizing
    · exact absurd (chooses.symm.trans inside) (by simp)
    · exact .inr (.inr ⟨by rw [asks]; simp,unset⟩)

theorem onChannelSelectReq_acts (s : Loop) (channelName : WString) (region : Option UInt8)
    (free : ¬ Pending s player) (calm : Calm (s.contexts player)) :
    Acts player region s (onChannelSelectReq env player channelName s) := by
  have start : Spared player s s := ⟨silent_same s s rfl,calm⟩
  have upheld := spared_upheld env player s
  have acts (t : Loop) (spared : Spared player s t) : Acts player region s t :=
    spared_acts player region s t free spared
  rw [onChannelSelectReq]
  split
  · exact acts s start
  next active =>
    have moved := spared_moved player s s .onChannelSelectReq rfl start
    rw [expect]
    dsimp only
    split
    next reached =>
      generalize stateTransition .onChannelSelectReq player s = t at *
      split
      · have written := write_upheld env player _ upheld t (.channelSelectAck (-1)) moved
        split
        · exact acts _ (upheld.sent _ _ rfl written)
        · exact acts _ written
      · have sent := spared_sent env player s t (.regionAllocReq (getInitialRegionServerId
          (getChannelId channelName t) t) (t.contexts player).sessionId (t.contexts player).avatarId
          (t.contexts player).avatarName) moved (by simp)
        rw [attempt]
        split
        · have chosen := spared_changed player s _ (fun context =>
            {context with lastChannelId := getChannelId channelName t}) rfl rfl rfl sent
          refine silent_acts player region s _ ?_ ?_ fun pending => absurd pending free
          · exact asked_early player _ chosen.2
          · refine silent_trans s _ _ chosen.1 (silent_same _ _ ?_)
            rw [stateTransition]
            split <;> rfl
        · exact acts _ (upheld.shut _ sent)
    · exact acts _ (upheld.shut _ moved)

theorem channelData_same (s t : Loop) (channels : t.channelContext = s.channelContext)
    (count : t.channelCount = s.channelCount) : channelData env t = channelData env s := by
  rw [channelData,channelData,channels,count]

/-- The region's answer has been handled up to some send, with nothing but sends and the context changed. -/
structure Carried (state : PlayerState) (region : UInt8) (sent : Nat) (s t : Loop) : Prop where
  silent : Silent s t
  channels : t.channelContext = s.channelContext
  count : t.channelCount = s.channelCount
  status : t.shutdownStatus = s.shutdownStatus
  context : t.contexts player = {s.contexts player with state := state, regionServerId := region}
  length : t.log.length = s.log.length + sent

theorem carried_sent (state : PlayerState) (region : UInt8) (sent : Nat) (s t : Loop) (message : Message)
    (carried : Carried player state region sent s t)
    (plain : ∀ region sessionId, message ≠ .regionReleaseReq region sessionId) :
    Carried player state region (sent + 1) s (send env (some player) message t) := by
  refine ⟨silent_trans s t _ carried.silent (silent_cons t _ _ rfl ?_),carried.channels,carried.count,
    carried.status,carried.context,?_⟩
  · cases message with
    | regionReleaseReq region sessionId => exact absurd rfl (plain region sessionId)
    | _ => rfl
  · change t.log.length + 1 = _
    rw [carried.length,Nat.add_assoc]

theorem carried_written (state : PlayerState) (region : UInt8) (sent : Nat) (s t : Loop)
    (packet : ClientPacket) (carried : Carried player state region sent s t) :
    Carried player state region (sent + 1) s (write env player packet t) := by
  have told := carried_sent env player state region sent s t (.client packet) carried (by simp)
  rw [write]
  split
  · exact ⟨told.silent,told.channels,told.count,told.status,told.context,told.length⟩
  · exact told

theorem carried_moved (state next : PlayerState) (region : UInt8) (sent : Nat) (s t : Loop)
    (event : PlayerEvent) (carried : Carried player state region sent s t)
    (reached : transition state event = some next) :
    Carried player next region sent s (stateTransition event player t) := by
  have reaches : reaches event player t = some next := by rw [reaches,carried.context,reached]
  rw [stateTransition_reached player t event next reaches]
  refine ⟨silent_trans s t _ carried.silent (silent_same t _ rfl),carried.channels,carried.count,
    carried.status,?_,carried.length⟩
  rw [setState_context,carried.context]

theorem carried_stays (state : PlayerState) (region : UInt8) (sent : Nat) (s t : Loop)
    (event : PlayerEvent) (carried : Carried player state region sent s t)
    (unreached : transition state event = none) : stateTransition event player t = t := by
  apply stateTransition_none
  rw [reaches,carried.context,unreached]

theorem carried_sends (state : PlayerState) (region : UInt8) (sent : Nat) (s t : Loop)
    (carried : Carried player state region sent s t) : sends env t = env.net (s.log.length + sent) := by
  rw [sends,carried.length]

theorem carried_shut (state : PlayerState) (region : UInt8) (sent : Nat) (s t : Loop)
    (pending : Pending s player) (running : s.shutdownStatus ≠ .readyForShutdown)
    (asking : stage state = .asking) (carried : Carried player state region sent s t) :
    Acts player (some region) s (shutdownPlayer env player t) := by
  have still : Pending t player := by
    rw [Pending,carried.context]
    exact ⟨pending.1,asking⟩
  have released := shutdownPlayer_released env player t still (by rw [carried.status]; exact running)
  have named : (t.contexts player).regionServerId = region := by rw [carried.context]
  rw [named] at released
  apply released_acts player region s _ pending
  apply released_before player region s t _ carried.silent carried.channels _ _ released
  · rw [carried.context]
  · rw [sessionOf,sessionOf,carried.context]

theorem carried_acts (state : PlayerState) (region : UInt8) (sent : Nat) (reads : Option UInt8) (s t : Loop)
    (pending : Pending s player) (settled : stage state = .inside ∨ stage state = .asking ∧ region = 0)
    (carried : Carried player state region sent s t) : Acts player reads s t := by
  apply silent_acts player reads s t _ carried.silent
  · intro _ finalizing
    rw [carried.context] at finalizing
    exact absurd (pending.1.symm.trans finalizing) Bool.false_ne_true
  · rw [carried.context]
    rcases settled with inside | ⟨asking,unset⟩
    · exact .inr (.inl inside)
    · exact .inr (.inr ⟨fun leaving => absurd (asking.symm.trans leaving) (by simp),unset⟩)

theorem notifyChannels_acts (result : Int32) (reads : Option UInt8) (s t : Loop) (pending : Pending s player)
    (running : s.shutdownStatus ≠ .readyForShutdown) (refused : result ≠ 0)
    (failing : ackFails env s result = true → reads = some 0)
    (written : env.net (s.log.length + 0) = true) (forwarded : env.net (s.log.length + 1) = true)
    (carried : Carried player .channelSelectAck 0 2 s t) :
    Acts player reads s (notifyChannels env player t) := by
  have shut (sent : Nat) (u : Loop) (fails : ackFails env s result = true)
      (carried : Carried player .channelSelectAck 0 sent s u) :
      Acts player reads s (shutdownPlayer env player u) := by
    rw [failing fails]
    exact carried_shut env player .channelSelectAck 0 sent s u pending running rfl carried
  have fails : ackFails env s result = match channelData env s with
      | .ok _ => !(env.net (s.log.length + 2) && env.net (s.log.length + 3))
      | .error _ => true := by
    rw [ackFails,if_neg refused]
    simp only [written,forwarded,Bool.true_and]
  have same := channelData_same env s t carried.channels carried.count
  rw [notifyChannels,sendChannelList]
  cases data : channelData env t with
  | error fault =>
    rw [same] at data
    rw [data] at fails
    cases fault with
    | null =>
      exact shut 2 _ fails ⟨carried.silent,carried.channels,carried.count,carried.status,carried.context,
        carried.length⟩
    | notConverted => exact shut 2 _ fails carried
  | ok names =>
    rw [same] at data
    rw [data] at fails
    dsimp only
    have listed := carried_written env player .channelSelectAck 0 2 s t (.channelListNtf names) carried
    generalize write env player (.channelListNtf names) t = u at *
    by_cases wrote : sends env t = true
    case neg =>
      have lost := Bool.eq_false_of_not_eq_true wrote
      rw [lost]
      rw [carried_sends env player _ _ _ s t carried] at lost
      exact shut 3 u (by rw [fails,lost]; rfl) listed
    rw [wrote]
    have told := carried_sent env player .channelSelectAck 0 3 s u (.sendData (u.contexts player).gateServerId
      (u.contexts player).sessionId u.delay) listed (by simp)
    simp only [Bool.not_true,Bool.false_eq_true,if_false]
    by_cases forwards : sends env u = true
    case neg =>
      have lost := Bool.eq_false_of_not_eq_true forwards
      rw [if_neg forwards]
      rw [carried_sends env player _ _ _ s u listed] at lost
      exact shut 4 _ (by rw [fails,lost,Bool.and_false]; rfl) told
    rw [if_pos forwards,carried_stays player _ _ _ s _ .channelListNtf told rfl]
    exact carried_acts player _ _ _ _ s _ pending (.inr ⟨rfl,rfl⟩) told

theorem carried_start (s : Loop) (unset : (s.contexts player).regionServerId = 0) :
    Carried player .onRegionAllocAck 0 0 s (setState player .onRegionAllocAck s) := by
  refine ⟨silent_same s _ rfl,rfl,rfl,rfl,?_,rfl⟩
  rw [setState_context,← unset]

theorem carried_region (region : UInt8) (s t : Loop) (start : Carried player .onRegionAllocAck 0 0 s t) :
    Carried player .onRegionAllocAck region 0 s
      (t.update player fun context => {context with regionServerId := region}) := by
  refine ⟨silent_trans s t _ start.silent (silent_same t _ rfl),start.channels,start.count,start.status,?_,
    start.length⟩
  rw [update_same,start.context]

theorem onRegionAllocAck_agrees (s : Loop) (region : UInt8) (reads : Option UInt8) (pending : Pending s player)
    (running : s.shutdownStatus ≠ .readyForShutdown) (unset : (s.contexts player).regionServerId = 0)
    (asked : (s.contexts player).state = .regionAllocReq)
    (failing : ackFails env s 0 = true → reads = some region) :
    Acts player reads s (onRegionAllocAck env player region 0 s) := by
  have reached : reaches .onRegionAllocAck player s = some .onRegionAllocAck := by rw [reaches,asked]; rfl
  have fails : ackFails env s 0 = !(env.net (s.log.length + 0) && env.net (s.log.length + 1) &&
    env.net (s.log.length + 2)) := rfl
  have shut (sent : Nat) (state : PlayerState) (u : Loop) (asking : stage state = .asking)
      (fails : ackFails env s 0 = true) (carried : Carried player state region sent s u) :
      Acts player reads s (shutdownPlayer env player u) := by
    rw [failing fails]
    exact carried_shut env player state region sent s u pending running asking carried
  have placed := carried_region player region s _ (carried_start player s unset)
  rw [onRegionAllocAck,pending_ite player s _ pending,expect_reached env player s _ _ _ reached]
  rw [if_neg (by simp)]
  generalize ((setState player .onRegionAllocAck s).update player fun context =>
    {context with regionServerId := region}) = t at *
  have written := carried_written env player _ region 0 s t (.channelSelectAck 0) placed
  rw [attemptWrite,carried_sends env player _ _ _ s t placed]
  generalize write env player (.channelSelectAck 0) t = u at *
  cases first : env.net (s.log.length + 0) with
  | false => exact shut 1 _ u rfl (by rw [fails,first]; rfl) written
  | true =>
    have told := carried_sent env player _ region 1 s u (toClient player u) written (by simp [toClient])
    rw [if_pos rfl,attempt,carried_sends env player _ _ _ s u written]
    generalize send env (some player) (toClient player u) u = v at *
    cases second : env.net (s.log.length + 1) with
    | false => exact shut 2 _ v rfl (by rw [fails,second,Bool.and_false]; rfl) told
    | true =>
      have acked := carried_moved player _ .channelSelectAck region 2 s v .channelSelectAck told rfl
      have here : reaches .channelSelectAck player v = some .channelSelectAck := by
        rw [reaches,told.context]
        rfl
      rw [if_pos rfl,if_pos here]
      generalize stateTransition .channelSelectAck player v = w at *
      have enters := carried_sent env player _ region 2 s w (.regionEnterReq (w.contexts player).regionServerId
        (w.contexts player).sessionId) acked (by simp)
      rw [attempt,carried_sends env player _ _ _ s w acked]
      dsimp only
      generalize send env (some player) _ w = x at *
      cases third : env.net (s.log.length + 2) with
      | false => exact shut 3 _ x rfl (by rw [fails,third,Bool.and_false]; rfl) enters
      | true =>
        have entered := carried_moved player _ .regionEnterReq region 3 s x .regionEnterReq enters rfl
        have there : reaches .regionEnterReq player x = some .regionEnterReq := by
          rw [reaches,enters.context]
          rfl
        rw [if_pos rfl,if_pos there]
        have settled := carried_acts player _ region 3 reads s _ pending (.inl rfl) entered
        refine ⟨settled.early,settled.log,fun _ finalizing => ?_⟩
        have active : ((stateTransition .regionEnterReq player x).contexts player).finalizing = false := by
          rw [entered.context]
          exact pending.1
        exact absurd (active.symm.trans finalizing) Bool.false_ne_true

theorem onRegionAllocAck_refuses (s : Loop) (region : UInt8) (result : Int32) (reads : Option UInt8)
    (pending : Pending s player) (running : s.shutdownStatus ≠ .readyForShutdown)
    (unset : (s.contexts player).regionServerId = 0) (asked : (s.contexts player).state = .regionAllocReq)
    (refused : result ≠ 0) (failing : ackFails env s result = true → reads = some 0) :
    Acts player reads s (onRegionAllocAck env player region result s) := by
  have reached : reaches .onRegionAllocAck player s = some .onRegionAllocAck := by rw [reaches,asked]; rfl
  have fails (lost : ¬ (env.net (s.log.length + 0) = true ∧ env.net (s.log.length + 1) = true)) :
      ackFails env s result = true := by
    rw [ackFails,if_neg refused]
    dsimp only
    split
    · cases first : env.net (s.log.length + 0) with
      | false => rfl
      | true =>
        cases second : env.net (s.log.length + 1) with
        | false => rfl
        | true => exact absurd ⟨first,second⟩ lost
    · rfl
  have start := carried_start player s unset
  rw [onRegionAllocAck,pending_ite player s _ pending,expect_reached env player s _ _ _ reached]
  rw [if_pos refused,carried_stays player _ _ _ s _ .onRegionAllocFailAck start rfl]
  generalize setState player .onRegionAllocAck s = t at *
  have written := carried_written env player _ 0 0 s t (.channelSelectAck result) start
  rw [attemptWrite,carried_sends env player _ _ _ s t start]
  generalize write env player (.channelSelectAck result) t = u at *
  cases first : env.net (s.log.length + 0) with
  | false =>
    rw [if_neg (by simp),failing (fails fun both => absurd (first.symm.trans both.1) Bool.false_ne_true)]
    exact carried_shut env player _ 0 1 s u pending running rfl written
  | true =>
    have told := carried_sent env player _ 0 1 s u (toClient player u) written (by simp [toClient])
    rw [if_pos rfl,attempt,carried_sends env player _ _ _ s u written]
    generalize send env (some player) (toClient player u) u = v at *
    cases second : env.net (s.log.length + 1) with
    | false =>
      rw [if_neg (by simp),failing (fails fun both => absurd (second.symm.trans both.2) Bool.false_ne_true)]
      exact carried_shut env player _ 0 2 s v pending running rfl told
    | true =>
      have acked := carried_moved player _ .channelSelectAck 0 2 s v .channelSelectAck told rfl
      rw [if_pos rfl]
      exact notifyChannels_acts env player result reads s _ pending running refused failing first second acked

theorem allocAck_unreached (state : PlayerState) (other : state ≠ .regionAllocReq) :
    transition state .onRegionAllocAck = none := by
  cases state <;> first | rfl | exact absurd rfl other

theorem onRegionAllocAck_acts (s : Loop) (region : UInt8) (result : Int32) (reads : Option UInt8)
    (early : Early (s.contexts player)) (running : s.shutdownStatus ≠ .readyForShutdown)
    (other : (s.contexts player).state ≠ .regionAllocReq → reads = some 0)
    (failing : (s.contexts player).state = .regionAllocReq → ackFails env s result = true →
      reads = some (if result = 0 then region else 0)) :
    Acts player reads s (onRegionAllocAck env player region result s) := by
  by_cases asked : (s.contexts player).state = .regionAllocReq
  · by_cases pending : Pending s player
    · have unset := pending_region s player early pending
      have fails := failing asked
      by_cases agreed : result = 0
      · subst agreed
        exact onRegionAllocAck_agrees env player s region reads pending running unset asked fails
      · rw [if_neg agreed] at fails
        exact onRegionAllocAck_refuses env player s region result reads pending running unset asked agreed fails
    · have finalizing : (s.contexts player).finalizing = true := by
        apply Bool.eq_true_of_not_eq_false
        intro active
        exact pending ⟨active,by rw [asked]; rfl⟩
      rw [onRegionAllocAck,if_pos finalizing]
      exact spared_acts player reads s s pending ⟨silent_same s s rfl,early_calm s player early pending⟩
  · have unreached : reaches .onRegionAllocAck player s = none := allocAck_unreached _ asked
    rw [onRegionAllocAck]
    split
    next finalizing =>
      have free : ¬ Pending s player := fun pending =>
        absurd (pending.1.symm.trans finalizing) Bool.false_ne_true
      exact spared_acts player reads s s free ⟨silent_same s s rfl,early_calm s player early free⟩
    · rw [other asked,expect,stateTransition_none player s _ unreached,unreached,if_neg (by simp)]
      exact shutdownPlayer_acts env player s early running

/-- A handler that shuts down a player between the list and a region, and spares any other. -/
theorem handler_acts (s t : Loop) (early : Early (s.contexts player))
    (running : s.shutdownStatus ≠ .readyForShutdown)
    (shuts : Pending s player → t = shutdownPlayer env player s)
    (spares : Spared player s s → Spared player s t) : Acts player (some 0) s t := by
  by_cases pending : Pending s player
  · rw [shuts pending]
    exact shutdownPlayer_acts env player s early running
  · exact spared_acts player _ s t pending
      (spares ⟨silent_same s s rfl,early_calm s player early pending⟩)

theorem handlePacket_acts (s : Loop) (packet : Packet) (reads : Option UInt8)
    (early : Early (s.contexts player)) (running : s.shutdownStatus ≠ .readyForShutdown)
    (heard : harmless packet = false → reads = some 0) :
    Acts player reads s (handlePacket env player packet s) := by
  by_cases pending : Pending s player
  · cases quiet : harmless packet with
    | false =>
      obtain ⟨undefined,shuts⟩ := handlePacket_pending env player s packet pending quiet
      have held : Pending {s with undefined := undefined} player := pending
      have released := shutdownPlayer_released env player {s with undefined := undefined} held running
      have unset : (({s with undefined := undefined} : Loop).contexts player).regionServerId = 0 :=
        pending_region s player early pending
      rw [unset] at released
      rw [shuts,heard quiet]
      exact released_acts player 0 s _ pending
        (released_before player 0 s _ _ (silent_same s {s with undefined := undefined} rfl) rfl rfl rfl released)
    | true =>
      have same : handlePacket env player packet s = s := by
        cases packet <;> first | rfl | cases quiet
      rw [same]
      exact silent_acts player reads s s early (silent_same s s rfl) fun _ _ => rfl
  · have calm := early_calm s player early pending
    by_cases selects : ∃ channelName, packet = .channelSelectReq channelName
    · obtain ⟨channelName,rfl⟩ := selects
      exact onChannelSelectReq_acts env player s channelName reads pending calm
    · apply spared_acts player reads s _ pending
      apply handlePacket_upheld env player _ (spared_upheld env player s) s packet ⟨silent_same s s rfl,calm⟩
      · exact fun channelName same => selects ⟨channelName,same⟩
      · exact fun _ _ t _ spared => spared_changed player s t _ rfl rfl rfl spared
      · exact fun _ t spared _ => spared_changed player s t _ rfl rfl rfl spared

theorem onRegionPlayerFailReq_acts (s : Loop) (reads : Option UInt8) (early : Early (s.contexts player)) :
    Acts player reads s (onRegionPlayerFailReq env player s) := by
  rw [onRegionPlayerFailReq]
  split
  · exact silent_acts player reads s s early (silent_same s s rfl) fun _ _ => rfl
  · refine silent_acts player reads s _ (.inl ?_) ⟨[_,_,_],rfl,by simp [releasesRegion]⟩ fun _ _ => rfl
    dsimp only [addPlayerToFinalizingQueue]
    rw [update_same]

theorem gateAllocAck_others (s : Loop) (gate : UInt8) (gateSessionId : UInt32)
    (running : s.shutdownStatus ≠ .readyForShutdown) (other : Object) (different : other ≠ player) :
    (gateAllocAck env player gate gateSessionId s).contexts other = s.contexts other := by
  rcases gateAllocAck_does env False player s gate gateSessionId ⟨False.elim,running⟩ with
    does | ⟨-,t,does,-,same⟩
  · exact does_contexts env False player s _ does other different
  · rw [same,(switch_frame player _ _ gateSessionId).others other different,setState,
      update_other t player other _ different]
    exact does_contexts env False player s t does other different

theorem onLoginReq_others (s : Loop) (sessionId : UInt32) (accountName : WString)
    (running : s.shutdownStatus ≠ .readyForShutdown) (other : Object) (different : other ≠ player) :
    (onLoginReq env player sessionId accountName s).contexts other = s.contexts other := by
  by_cases fresh : (s.contexts player).state = .none
  · have does := onLoginReq_does env False player s sessionId accountName fresh running
    rw [does_contexts env False player _ _ does other different,named,
      update_other _ player other _ different,setState,update_other s player other _ different]
  · rw [onLoginReq_busy env player s sessionId accountName fresh]
    exact does_contexts env False player s _ (shutdownPlayer_does env False player s ⟨False.elim,running⟩)
      other different

end

/-- What a command does to players between the list and a region: those whom it shuts down are released at
the regions that go with them. -/
structure Obeys (shuts : List (Object × UInt8)) (s t : Loop) : Prop where
  early : ∀ player, Early (t.contexts player)
  log : ∃ events, t.log = events ++ s.log ∧ ∀ other server sessionId success,
    .sent other (.regionReleaseReq server sessionId) success ∈ events →
      ∃ player, other = some player ∧ Pending s player ∧ (player,server) ∈ shuts
  maps : ∀ player, Pending s player → (t.contexts player).finalizing = true →
    ∀ channel server key other, find key (regionPlayers channel server s) = some other →
      find key (regionPlayers channel server t) = some other ∨
        ∃ owner, Pending s owner ∧ (owner,server) ∈ shuts ∧
          channel = (s.contexts owner).lastChannelId ∧ key = sessionOf s owner

theorem acts_obeys (player : Object) (reads : Option UInt8) (shuts : List (Object × UInt8)) (s t : Loop)
    (early : ∀ player, Early (s.contexts player)) (acts : Acts player reads s t)
    (others : ∀ other, other ≠ player → t.contexts other = s.contexts other)
    (named : Pending s player → ∀ server ∈ reads, (player,server) ∈ shuts) : Obeys shuts s t := by
  obtain ⟨own,⟨events,wrote,aimed⟩,maps⟩ := acts
  refine ⟨fun other => ?_,⟨events,wrote,?_⟩,fun other pending finalizing => ?_⟩
  · by_cases same : other = player
    · rw [same]
      exact own
    · rw [others other same]
      exact early other
  · intro other server sessionId success member
    obtain ⟨whose,pending,reads⟩ := aimed other server sessionId success member
    exact ⟨player,whose,pending,named pending server reads⟩
  · by_cases same : other = player
    · subst other
      intro channel server key other found
      rcases maps pending finalizing channel server key other found with stays | ⟨reads,others⟩
      · exact .inl stays
      · exact .inr ⟨player,pending,named pending server reads,others⟩
    · rw [others other same] at finalizing
      exact absurd (pending.1.symm.trans finalizing) Bool.false_ne_true

theorem same_obeys (shuts : List (Object × UInt8)) (s t : Loop) (early : ∀ player, Early (s.contexts player))
    (contexts : t.contexts = s.contexts) (silent : Silent s t) : Obeys shuts s t := by
  obtain ⟨events,wrote,plain⟩ := silent
  refine ⟨by rw [contexts]; exact early,⟨events,wrote,?_⟩,fun player pending finalizing => ?_⟩
  · intro other server sessionId success member
    cases plain _ member
  · rw [contexts] at finalizing
    exact absurd (pending.1.symm.trans finalizing) Bool.false_ne_true

section
variable (env : Env)

theorem forSession_obeys (s : Loop) (sessionId : UInt32) (handle : Object → Loop → Loop)
    (reads : Object → Option UInt8) (shuts : List (Object × UInt8))
    (early : ∀ player, Early (s.contexts player))
    (does : ∀ player, Does env False player s (handle player s))
    (acts : ∀ player, Acts player (reads player) s (handle player s))
    (named : ∀ player ∈ find sessionId s.playerContextBySessionId,
      ∀ server ∈ reads player, (player,server) ∈ shuts) : Obeys shuts s (forSession sessionId handle s) := by
  rw [forSession]
  split
  next player found =>
    exact acts_obeys player (reads player) shuts s _ early (acts player)
      (does_contexts env False player s _ (does player)) fun _ => named player found
  next => exact same_obeys shuts s s early rfl (silent_same s s rfl)

structure Folded (shuts : List (Object × UInt8)) (s t : Loop) : Prop where
  early : ∀ player, Early (t.contexts player)
  log : ∃ events, t.log = events ++ s.log ∧ ∀ other server sessionId success,
    .sent other (.regionReleaseReq server sessionId) success ∈ events →
      ∃ player, other = some player ∧ Pending s player ∧ (player,server) ∈ shuts
  pending : ∀ player, Pending t player → t.contexts player = s.contexts player
  maps : ∀ channel server key other, find key (regionPlayers channel server s) = some other →
    find key (regionPlayers channel server t) = some other ∨
      ∃ owner, Pending s owner ∧ (owner,server) ∈ shuts ∧
        channel = (s.contexts owner).lastChannelId ∧ key = sessionOf s owner

theorem calm_free (s : Loop) (player : Object) (calm : Calm (s.contexts player)) : ¬ Pending s player := by
  rintro ⟨active,asking⟩
  rcases calm with finalizing | inside | ⟨choosing,-⟩
  · exact absurd (active.symm.trans finalizing) Bool.false_ne_true
  · exact absurd (asking.symm.trans inside) (by simp)
  · exact absurd (asking.symm.trans choosing) (by simp)

theorem shutdownPlayer_folded (shuts : List (Object × UInt8)) (s t : Loop) (player : Object)
    (running : t.shutdownStatus ≠ .readyForShutdown) (member : (player,0) ∈ shuts)
    (folded : Folded shuts s t) : Folded shuts s (shutdownPlayer env player t) := by
  obtain ⟨events,wrote,aimed⟩ := folded.log
  have acts := shutdownPlayer_acts env player t (folded.early player) running
  obtain ⟨more,wroteMore,aimedMore⟩ := acts.log
  have others := does_contexts env False player t _
    (shutdownPlayer_does env False player t ⟨False.elim,running⟩)
  have same (own : Pending t player) : t.contexts player = s.contexts player := folded.pending player own
  have start (own : Pending t player) : Pending s player := by
    rw [Pending,← same own]
    exact own
  refine ⟨fun other => ?_,⟨more ++ events,by rw [wroteMore,wrote,List.append_assoc],?_⟩,?_,?_⟩
  · by_cases own : other = player
    · rw [own]
      exact acts.early
    · rw [others other own]
      exact folded.early other
  · intro other server sessionId success written
    rcases List.mem_append.mp written with new | old
    · obtain ⟨whose,pending,reads⟩ := aimedMore other server sessionId success new
      obtain rfl := Option.some.inj reads
      exact ⟨player,whose,start pending,member⟩
    · exact aimed other server sessionId success old
  · intro other pending
    by_cases own : other = player
    · subst other
      by_cases before : Pending t player
      · have released := shutdownPlayer_released env player t before running
        exact absurd (pending.1.symm.trans released.finalizing) Bool.false_ne_true
      · have spared := shutdownPlayer_spared env player t t
          ⟨silent_same t t rfl,early_calm t player (folded.early player) before⟩
        exact absurd pending (calm_free _ player spared.2)
    · rw [Pending,others other own] at pending
      rw [others other own]
      exact folded.pending other pending
  · intro channel server key other found
    rcases folded.maps channel server key other found with stays | lost
    case inr => exact .inr lost
    by_cases before : Pending t player
    · have released := shutdownPlayer_released env player t before running
      rw [pending_region t player (folded.early player) before] at released
      rcases released.maps channel server key other stays with still | ⟨rfl,here,keyed⟩
      · exact .inl still
      · rw [sessionOf,same before] at keyed
        rw [same before] at here
        exact .inr ⟨player,start before,member,here,keyed⟩
    · rw [regionPlayers,shutdownPlayer_channels env player t
        (early_calm t player (folded.early player) before)]
      exact .inl stays

theorem onCommandShutdown_obeys (s : Loop) (early : ∀ player, Early (s.contexts player)) :
    Obeys (shut env s .shutdown) s (onCommandShutdown env s) := by
  have run (players : List Object) (t : Loop) (running : t.shutdownStatus ≠ .readyForShutdown)
      (members : ∀ player ∈ players, (player,0) ∈ shut env s .shutdown)
      (folded : Folded (shut env s .shutdown) s t) :
      Folded (shut env s .shutdown) s (players.foldl (fun s player => shutdownPlayer env player s) t) := by
    induction players generalizing t with
    | nil => exact folded
    | cons player players ih =>
      rw [List.foldl_cons]
      refine ih _ ?_ (fun other member => members other (List.mem_cons_of_mem player member))
        (shutdownPlayer_folded env _ s t player running (members player List.mem_cons_self) folded)
      rw [does_status env False player t _ (shutdownPlayer_does env False player t ⟨False.elim,running⟩)]
      exact running
  have folded := run (values s.playerContextByName) {s with shutdownStatus := .startShutdown} (by simp)
    (fun player member => List.mem_map.mpr ⟨player,member,rfl⟩)
    ⟨early,⟨[],rfl,by simp⟩,fun _ _ => rfl,fun _ _ _ _ found => .inl found⟩
  exact ⟨folded.early,folded.log,fun _ _ _ => folded.maps⟩

theorem obeys_before (shuts : List (Object × UInt8)) (s t u : Loop) (contexts : t.contexts = s.contexts)
    (channels : t.channelContext = s.channelContext) (silent : Silent s t) (obeys : Obeys shuts t u) :
    Obeys shuts s u := by
  obtain ⟨earlier,wrote,plain⟩ := silent
  obtain ⟨early,⟨later,wroteLater,aimed⟩,maps⟩ := obeys
  have pendings (player : Object) : Pending t player ↔ Pending s player := by rw [Pending,Pending,contexts]
  simp only [pendings] at aimed maps
  refine ⟨early,⟨later ++ earlier,by rw [wroteLater,wrote,List.append_assoc],?_⟩,?_⟩
  · intro other server sessionId success member
    rcases List.mem_append.mp member with new | old
    · exact aimed other server sessionId success new
    · cases plain _ old
  · intro player pending finalizing channel server key other found
    have stays := maps player pending finalizing channel server key other
    rw [regionPlayers,channels] at stays
    simpa only [sessionOf,contexts] using stays found

theorem onCommandOnLoginReq_obeys (s : Loop) (sessionId : UInt32) (accountName : WString)
    (early : ∀ player, Early (s.contexts player)) (running : s.shutdownStatus ≠ .readyForShutdown) :
    Obeys (shut env s (.onLoginReq sessionId accountName)) s
      (onCommandOnLoginReq env sessionId accountName s) := by
  have told (message : Message) (plain : ∀ region sessionId, message ≠ .regionReleaseReq region sessionId) :
      Silent s (send env none message s) := by
    refine silent_cons s _ _ rfl ?_
    cases message with
    | regionReleaseReq region sessionId => exact absurd rfl (plain region sessionId)
    | _ => rfl
  have refused (reason : Int8) : Silent s (send env none (.onLoginFailedAck sessionId reason) s) :=
    told _ (by simp)
  have names (player : Object) (connected : s.loginServerContext.isConnected = true)
      (reached : (find accountName s.playerContextByName).or s.playerContextPool.allocate.1 = some player) :
      ∀ server ∈ some (0 : UInt8), (player,server) ∈ shut env s (.onLoginReq sessionId accountName) := by
    intro server reads
    obtain rfl := Option.some.inj reads
    rw [shut,if_pos connected,reached]
    exact List.mem_singleton_self _
  generalize shut env s (.onLoginReq sessionId accountName) = shuts at *
  rw [onCommandOnLoginReq]
  split
  next absent => exact same_obeys _ s _ early rfl (refused 1)
  next connected =>
    have opened : s.loginServerContext.isConnected = true := by simpa using connected
    split
    next player found =>
      apply obeys_before _ s (send env none (.onLoginFailedAck sessionId 2) s) _ rfl rfl (refused 2)
      refine acts_obeys player (some 0) _ _ _ early (shutdownPlayer_acts env player _ (early player) running)
        (does_contexts env False player _ _ (shutdownPlayer_does env False player _ ⟨False.elim,running⟩))
        fun _ => names player opened ?_
      rw [found]
      rfl
    next unnamed =>
      split
      next => exact same_obeys _ s _ early rfl (refused 2)
      next player pool allocated =>
        let t := placed player pool sessionId accountName s
        apply obeys_before _ s t _ rfl rfl (silent_cons s t (.allocated player) rfl rfl)
        refine acts_obeys player (some 0) _ t _ early ?_
          (onLoginReq_others env player t sessionId accountName running) fun _ => names player opened ?_
        · exact handler_acts env player t _ (early player) running
            (onLoginReq_pending env player t sessionId accountName)
            (onLoginReq_spared env player t t sessionId accountName)
        · rw [unnamed,allocated]
          rfl

theorem onCommandGateAllocAck_obeys (s : Loop) (gate : UInt8) (loginSessionId : UInt32)
    (accountName : WString) (gateSessionId : UInt32) (early : ∀ player, Early (s.contexts player))
    (running : s.shutdownStatus ≠ .readyForShutdown) :
    Obeys (shut env s (.gateAllocAck gate loginSessionId accountName gateSessionId)) s
      (onCommandGateAllocAck env gate loginSessionId accountName gateSessionId s) := by
  rw [onCommandGateAllocAck]
  split
  next player found =>
    split
    next own =>
      refine acts_obeys player (some 0) _ s _ early ?_
        (gateAllocAck_others env player s gate gateSessionId running) fun _ server reads => ?_
      · exact handler_acts env player s _ (early player) running
          (gateAllocAck_pending env player s gate gateSessionId)
          (gateAllocAck_spared env player s s gate gateSessionId)
      · obtain rfl := Option.some.inj reads
        have session : sessionOf s player = loginSessionId := own
        rw [shut,found,Option.filter_some,if_pos (decide_eq_true session)]
        exact List.mem_singleton_self _
    next => exact same_obeys _ s s early rfl (silent_same s s rfl)
  next => exact same_obeys _ s s early rfl (silent_same s s rfl)

theorem onCommand_obeys (s : Loop) (command : Command) (early : ∀ player, Early (s.contexts player))
    (opened : s.shutdownStatus = .notShutdown) : Obeys (shut env s command) s (onCommand env command s) := by
  have running : s.shutdownStatus ≠ .readyForShutdown := by rw [opened]; simp
  have found (sessionId : UInt32) : ∀ player ∈ find sessionId s.playerContextBySessionId,
      ∀ server ∈ some (0 : UInt8), (player,server) ∈
        (find sessionId s.playerContextBySessionId).toList.map fun player => (player,(0 : UInt8)) := by
    intro player here server reads
    obtain rfl := Option.some.inj reads
    rw [Option.mem_def.mp here]
    exact List.mem_singleton_self _
  rw [onCommand.eq_def,if_neg (by simp [opened])]
  cases command with
  | shutdown => exact onCommandShutdown_obeys env s early
  | onLoginReport => exact same_obeys _ s _ early rfl (silent_same s _ rfl)
  | onGateReport serverId sessionCount =>
    dsimp only [onCommandOnGateReport]
    split
    · exact same_obeys _ s _ early rfl (silent_same s _ rfl)
    · exact same_obeys _ s _ early rfl (silent_same s _ rfl)
  | onLoginReq sessionId accountName => exact onCommandOnLoginReq_obeys env s sessionId accountName early running
  | gateAllocAck gate loginSessionId accountName gateSessionId =>
    exact onCommandGateAllocAck_obeys env s gate loginSessionId accountName gateSessionId early running
  | onGateLoginReq sessionId =>
    refine forSession_obeys env s sessionId _ (fun _ => some 0) _ early
      (fun player => onGateLoginReq_does env False player s ⟨False.elim,running⟩) (fun player => ?_)
      (found sessionId)
    exact handler_acts env player s _ (early player) running (onGateLoginReq_pending env player s)
      (onGateLoginReq_upheld env player _ (spared_upheld env player s) s)
  | onRegionAllocAck sessionId region result =>
    refine forSession_obeys env s sessionId _ (fun player =>
      if (s.contexts player).state = .regionAllocReq then
        if ackFails env s result = true then some (if result = 0 then region else 0) else none
      else some 0) _ early
      (fun player => onRegionAllocAck_does env False player s region result ⟨False.elim,running⟩)
      (fun player => ?_) ?_
    · apply onRegionAllocAck_acts env player s region result _ (early player) running
      · exact fun other => if_neg other
      · exact fun asked fails => (if_pos asked).trans (if_pos fails)
    · intro player here server reads
      rw [shut,Option.mem_def.mp here]
      simp only [Option.toList_some,List.flatMap_singleton]
      split at reads
      next asked =>
        split at reads
        next fails =>
          obtain rfl := Option.some.inj reads
          rw [if_pos asked,if_pos fails]
          exact List.mem_singleton_self _
        · cases reads
      next other =>
        obtain rfl := Option.some.inj reads
        rw [if_neg other]
        exact List.mem_singleton_self _
  | onRegionLeaveReq sessionId =>
    refine forSession_obeys env s sessionId _ (fun _ => some 0) _ early
      (fun player => onRegionLeaveReq_does env False player s running) (fun player => ?_) (found sessionId)
    exact handler_acts env player s _ (early player) running (onRegionLeaveReq_pending env player s)
      (onRegionLeaveReq_upheld env player _ (spared_upheld env player s) s)
  | onRegionPlayerFailReq sessionId =>
    refine forSession_obeys env s sessionId _ (fun _ => none) _ early
      (fun player => onRegionPlayerFailReq_does env False player s)
      (fun player => onRegionPlayerFailReq_acts env player s none (early player)) ?_
    exact fun _ _ _ reads => absurd reads (by simp)
  | onSessionDisconnect sessionId =>
    refine forSession_obeys env s sessionId _ (fun _ => some 0) _ early
      (fun player => shutdownPlayer_does env False player s ⟨False.elim,running⟩) (fun player => ?_)
      (found sessionId)
    exact shutdownPlayer_acts env player s (early player) running
  | packetForward sessionId typeId data =>
    have delayed (player : Object) : Does env False player s (delaySendData typeId data s) :=
      .single (.note s (.received typeId data) (s.undefined || maxInputBuffer < data.length))
    refine forSession_obeys env s sessionId _ (fun _ =>
      if harmless (env.onPacketReceived typeId data) = true then none else some 0) _ early
      (fun player => (delayed player).trans (handlePacket_does env False player _ _ ⟨False.elim,running⟩))
      (fun player => ?_) ?_
    · have acts := handlePacket_acts env player (delaySendData typeId data s)
        (env.onPacketReceived typeId data)
        (if harmless (env.onPacketReceived typeId data) = true then none else some 0) (early player) running
        fun heard => if_neg (by rw [heard]; exact Bool.false_ne_true)
      exact ⟨acts.early,acts.log,acts.maps⟩
    · rw [shut]
      split
      · exact fun _ _ _ reads => absurd reads (by simp)
      · exact found sessionId
  | other => exact same_obeys _ s s early rfl (silent_same s s rfl)

theorem step_early (s : Loop) (action : Action) (early : ∀ player, Early (s.contexts player)) :
    ∀ player, Early ((step env s action).contexts player) := by
  cases action with
  | pass =>
    have deleted (player : Object) (t : Loop) (early : ∀ other, Early (t.contexts other)) :
        ∀ other, Early ((deletePlayer player t).contexts other) := by
      intro other
      rw [(deletePlayer_deleted player t).contexts]
      by_cases same : other = player
      · rw [same,Function.update_self]
        exact clear_early
      · rw [Function.update_of_ne same]
        exact early other
    have drained := drainBack_invariant deletePlayer (fun t => ∀ other, Early (t.contexts other))
      s.finalizingQueue (fun player _ t early => deleted player t early) s early
    rw [step,loopPass]
    split
    · exact drained
    · exact drained
  | command command =>
    by_cases opened : s.shutdownStatus = .notShutdown
    · exact (onCommand_obeys env s command early opened).early
    · rw [step,onCommand.eq_def,if_pos opened]
      exact early

theorem loopPass_unreleased (s : Loop) (player : Option Object) (server : UInt8) (sessionId : UInt32)
    (success : Bool) : .sent player (.regionReleaseReq server sessionId) success ∉ since s.log (loopPass s).log := by
  have drained : Silent s (drainBack deletePlayer s.finalizingQueue s) := by
    apply drainBack_invariant deletePlayer (fun t => Silent s t) s.finalizingQueue _ s (silent_same s s rfl)
    intro player _ t silent
    exact silent_trans s t _ silent (silent_cons t _ (.deleted player) (deletePlayer_deleted player t).log rfl)
  obtain ⟨events,wrote,plain⟩ := drained
  have log : (loopPass s).log = events ++ s.log := by
    rw [loopPass]
    split
    · exact wrote
    · exact wrote
  rw [log,since_append]
  intro member
  cases plain _ (List.mem_reverse.mp member)

theorem loopPass_finalizing (s : Loop) (player : Object)
    (finalizing : ((loopPass s).contexts player).finalizing = true) :
    (s.contexts player).finalizing = true := by
  have drained : ((drainBack deletePlayer s.finalizingQueue s).contexts player).finalizing = true →
      (s.contexts player).finalizing = true := by
    apply drainBack_invariant deletePlayer
      (fun t => (t.contexts player).finalizing = true → (s.contexts player).finalizing = true)
      s.finalizingQueue _ s id
    intro other _ t kept finalizing
    rw [(deletePlayer_deleted other t).contexts] at finalizing
    by_cases same : player = other
    · rw [same,Function.update_self] at finalizing
      cases finalizing
    · rw [Function.update_of_ne same] at finalizing
      exact kept finalizing
  apply drained
  rw [loopPass] at finalizing
  split at finalizing
  · exact finalizing
  · exact finalizing

theorem step_proper (s : Loop) (action : Action) (early : ∀ player, Early (s.contexts player))
    (aimed : Aimed env s action) : Proper s (step env s action) := by
  cases action with
  | pass =>
    refine ⟨fun player region sessionId success member => ?_,fun player pending finalizing => ?_⟩
    · exact absurd member (loopPass_unreleased s _ _ _ _)
    · exact absurd (pending.1.symm.trans (loopPass_finalizing s player finalizing)) Bool.false_ne_true
  | command command =>
    by_cases opened : s.shutdownStatus = .notShutdown
    · obtain ⟨-,⟨events,wrote,released⟩,maps⟩ := onCommand_obeys env s command early opened
      have aims := aimed opened
      refine ⟨fun player region sessionId success member => ?_,fun player pending finalizing => ?_⟩
      · rw [step,wrote,since_append,List.mem_reverse] at member
        obtain ⟨owner,whose,pending,shuts⟩ := released _ _ _ _ member
        obtain rfl := Option.some.inj whose
        exact (aims _ shuts pending).asked
      · intro channel region key other found free
        rcases maps player pending finalizing channel region key other found with stays | lost
        · exact stays
        · obtain ⟨owner,shut,shuts,rfl,rfl⟩ := lost
          exact absurd ((aims _ shuts shut).alone other found) free
    · rw [step,onCommand.eq_def,if_pos opened]
      refine ⟨fun player region sessionId success member => ?_,fun player pending finalizing => ?_⟩
      · have nothing : since s.log s.log = [] := since_append s.log []
        rw [nothing] at member
        cases member
      · exact absurd (pending.1.symm.trans finalizing) Bool.false_ne_true

end

/-- In a run that shuts down players between the list and a region only as the condition says, every
release goes where the request went, and nobody else is taken out of a region. -/
theorem run_released (env : Env) (actions : List Action)
    (aimed : Guarded (step env) (Aimed env) (.init env.config) actions) :
    Guarded (step env) (fun s action => Proper s (step env s action)) (.init env.config) actions := by
  apply guarded_invariant (step env) (Aimed env) _ (fun s => ∀ player, Early (s.contexts player))
    (fun s action early _ => step_early env s action early)
    (fun s action early aimed => step_proper env s action early aimed) _ actions aimed
  intro player
  rw [(init_unused env.config).core.contexts]
  exact clear_early

/-- A player selects a channel, and region 2 is asked for him. -/
def askRegion : List Action := enterChannels ++ ([.command (.packetForward gateSession 5 [])] : List Action)

/-- Region 2 accepts, and the answer does not reach the client. -/
theorem run_released_failing :
    let env := sampleEnv fun n => n ≠ 12
    let actions := askRegion ++ [.command (.onRegionAllocAck gateSession 2 0)]
    .sent (some 0) (.regionReleaseReq 2 gateSession) true ∈ (run (step env) (.init env.config) actions).log ∧
      Guarded (step env) (fun s action => Proper s (step env s action)) (.init env.config) actions :=
  ⟨by decide +kernel,run_released (sampleEnv fun n => n ≠ 12) _ (by decide +kernel)⟩

/-- The client disconnects before region 2 answers, and server 0 is told to release him. -/
theorem run_released_disconnected :
    let env := sampleEnv fun _ => true
    ¬ Guarded (step env) (fun s action => Proper s (step env s action)) (.init env.config)
      (askRegion ++ [.command (.onSessionDisconnect gateSession)]) := by
  intro env proper
  obtain ⟨-,last,-⟩ := guarded_append (step env) _ (.init env.config) askRegion _ [] proper
  have region := last.released 0 0 gateSession true (by decide +kernel)
  revert region
  decide +kernel

end Fantuan.MasterServer.RegionReleases
