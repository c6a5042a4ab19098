import Fantuan.MasterServer.PlayerSteps

/-! Every handler of a player is a chain of player steps: one rule for each way of
going on, then one theorem for each handler.
-/
namespace Fantuan.MasterServer.Handlers
open Lib.Table ServerBase.ServerCommon Tool.ObjectPool PlayerFsm Context ServerLoop Player Commands PlayerSteps

variable (env : Env) (guarded : Prop) (player : Object)

theorem write_contexts (s : Loop) (packet : ClientPacket) :
    (write env player packet s).contexts = s.contexts := by
  rw [write]
  split <;> rfl

theorem write_does (s : Loop) (packet : ClientPacket) :
    Does env guarded player s (write env player packet s) := by
  rw [write]
  split
  · exact .tail (.single (.say s _ rfl)) (.note _ _ _)
  · exact .single (.say s _ rfl)

theorem write_status (s : Loop) (packet : ClientPacket) :
    (write env player packet s).shutdownStatus = s.shutdownStatus :=
  does_status env True player _ _ (write_does env True player s packet)

theorem expect_does (s : Loop) (event : PlayerEvent) (expected : PlayerState) (next : Loop → Loop)
    (calm : Open guarded player s) (plain : plainEvent event = true)
    (continues : ∀ t, Open guarded player t →
      t.contexts player = {s.contexts player with state := expected} → Does env guarded player t (next t)) :
    Does env guarded player s (expect env player event expected next s) := by
  have moved := transition_does env guarded player s event plain
  have still := transition_open guarded player s event plain calm
  rw [expect]
  split
  next reached =>
    refine moved.trans (continues _ still ?_)
    rw [stateTransition_reached player s event expected reached,setState,update_same]
  next => exact moved.trans (shutdownPlayer_does env guarded player _ still)

theorem attempt_does (s : Loop) (message : Loop → Message) (next : Loop → Loop)
    (calm : Open guarded player s) (silent : ∀ success, quiet (message s) success = true)
    (continues : ∀ t, Open guarded player t → t.contexts = s.contexts →
      Does env guarded player t (next t)) :
    Does env guarded player s (attempt env player message next s) := by
  have said : Does env guarded player s (send env (some player) (message s) s) :=
    .single (.say s _ (silent _))
  have still := open_same guarded player s (send env (some player) (message s) s) rfl rfl calm
  rw [attempt]
  split
  · exact said.trans (continues _ still rfl)
  · exact said.trans (shutdownPlayer_does env guarded player _ still)

theorem attemptWrite_does (s : Loop) (packet : ClientPacket) (next : Loop → Loop)
    (calm : Open guarded player s)
    (continues : ∀ t, Open guarded player t → t.contexts = s.contexts →
      Does env guarded player t (next t)) :
    Does env guarded player s (attemptWrite env player packet next s) := by
  have written := write_does env guarded player s packet
  have same := write_contexts env player s packet
  have still := open_same guarded player s _ (congrFun same player) (write_status env player s packet) calm
  rw [attemptWrite]
  split
  · exact written.trans (continues _ still same)
  · exact written.trans (shutdownPlayer_does env guarded player _ still)

theorem shutdownPlayer_finalizing (s : Loop) (running : s.shutdownStatus ≠ .readyForShutdown)
    (stays : (shutdownNeeds (s.contexts player).state).regionLeave = false) :
    ((shutdownPlayer env player s).contexts player).finalizing = true := by
  cases active : (s.contexts player).finalizing with
  | true =>
    rw [shutdownPlayer,if_pos active]
    exact active
  | false =>
    rw [shutdownPlayer_running env player s active running]
    simp only [stays,Bool.false_eq_true,if_false,finishShutdown,addPlayerToFinalizingQueue,update_same]

theorem attemptThen_does (s : Loop) (message : Loop → Message) (next : Loop → Loop)
    (calm : Open guarded player s) (silent : ∀ success, quiet (message s) success = true)
    (stays : (shutdownNeeds (s.contexts player).state).regionLeave = false)
    (continues : ∀ t, Open guarded player t → Does env guarded player t (next t)) :
    Does env guarded player s (attemptThen env player message next s) := by
  let sent := send env (some player) (message s) s
  have said : Does env guarded player s sent := .single (.say s _ (silent _))
  have still : Open guarded player sent := open_same guarded player s sent rfl rfl calm
  have closed := shutdownPlayer_does env guarded player sent still
  rw [attemptThen]
  split
  · exact said.trans (continues _ still)
  · refine (said.trans closed).trans (continues _ ⟨fun _ => .inl ?_,?_⟩)
    · exact shutdownPlayer_finalizing env player sent still.running stays
    · rw [does_status env guarded player _ _ closed]
      exact still.running

theorem sendChannelList_contexts (s : Loop) :
    (sendChannelList env player s).2.contexts = s.contexts := by
  rw [sendChannelList]
  split
  · rfl
  · rfl
  · dsimp only
    split
    · exact write_contexts env player s _
    · exact write_contexts env player s _

theorem sendChannelList_does (s : Loop) :
    Does env guarded player s (sendChannelList env player s).2 := by
  rw [sendChannelList]
  split
  · exact .single (.note s s.delay true)
  · exact .refl
  · dsimp only
    split
    · exact write_does env guarded player s _
    · exact (write_does env guarded player s _).tail (.say _ _ rfl)

theorem notifyChannels_does (s : Loop) (calm : Open guarded player s) :
    Does env guarded player s (notifyChannels env player s) := by
  have listed := sendChannelList_does env guarded player s
  have still := open_same guarded player s (sendChannelList env player s).2
    (congrFun (sendChannelList_contexts env player s) player)
    (does_status env guarded player _ _ listed) calm
  rw [notifyChannels]
  dsimp only
  split
  · exact listed.trans (transition_does env guarded player _ _ rfl)
  · exact listed.trans (shutdownPlayer_does env guarded player _ still)

theorem change_does (s : Loop) (change : MasterPlayerContext → MasterPlayerContext)
    (kept : Kept (s.contexts player) (change (s.contexts player))) (next : Loop → Loop)
    (calm : Open guarded player s)
    (continues : ∀ t, Open guarded player t → t.contexts player = change (s.contexts player) →
      Does env guarded player t (next t)) :
    Does env guarded player s (next (s.update player change)) := by
  refine .trans (.single (.change s change kept)) (continues _ ⟨?_,calm.running⟩ (update_same ..))
  rw [update_same,kept.finalizing,kept.state]
  exact calm.settled

theorem onAvatarListReq_does (s : Loop) (calm : Open guarded player s) :
    Does env guarded player s (onAvatarListReq env player s) := by
  rw [onAvatarListReq]
  split
  · exact .refl
  · apply expect_does env guarded player s _ _ _ calm rfl
    intro t calm _
    apply attempt_does env guarded player t _ _ calm fun _ => rfl
    intro t calm _
    apply expect_does env guarded player t _ _ _ calm rfl
    intro t _ _
    exact .refl

theorem onAvatarListAck_does (s : Loop) (result : Int32) (avatars : List PrdAvatar)
    (calm : Open guarded player s) :
    Does env guarded player s (onAvatarListAck env player result avatars s) := by
  rw [onAvatarListAck]
  split
  · exact .refl
  · apply expect_does env guarded player s _ _ _ calm rfl
    intro t calm same
    split
    · exact shutdownPlayer_does env guarded player t calm
    · apply change_does env guarded player t _ ⟨rfl,rfl,rfl,rfl,fun _ => rfl,fun _ => ⟨rfl,rfl⟩⟩
        (fun s => attemptThen env player (toClient player) (stateTransition .avatarListAck player)
          (holdAvatars avatars s)) calm
      intro u calm changed
      have held : Does env guarded player u (holdAvatars avatars u) :=
        .single (.note u u.delay (u.undefined || avatarCountMax < avatars.length))
      have still : Open guarded player (holdAvatars avatars u) := ⟨calm.settled,calm.running⟩
      refine held.trans ?_
      apply attemptThen_does env guarded player _ _ _ still fun _ => rfl
      · change (shutdownNeeds (u.contexts player).state).regionLeave = false
        rw [changed,same]
        rfl
      · exact fun v _ => transition_does env guarded player v _ rfl

theorem onAvatarCreateReq_does (s : Loop) (calm : Open guarded player s) :
    Does env guarded player s (onAvatarCreateReq env player s) := by
  rw [onAvatarCreateReq]
  split
  · exact .refl
  · apply expect_does env guarded player s _ _ _ calm rfl
    intro t calm _
    split
    · exact shutdownPlayer_does env guarded player t calm
    · apply attempt_does env guarded player t _ _ calm fun _ => rfl
      exact fun u _ _ => transition_does env guarded player u _ rfl

theorem onAvatarCreateAck_does (s : Loop) (result : Int32) (newAvatar : PrdAvatar)
    (calm : Open guarded player s) :
    Does env guarded player s (onAvatarCreateAck env player result newAvatar s) := by
  rw [onAvatarCreateAck]
  split
  · exact .refl
  · apply expect_does env guarded player s _ _ _ calm rfl
    intro t calm same
    split
    · exact shutdownPlayer_does env guarded player t calm
    · split
      · exact .refl
      · apply change_does env guarded player t _ ⟨rfl,rfl,rfl,rfl,fun _ => rfl,fun _ => ⟨rfl,rfl⟩⟩
          (attemptThen env player (toClient player) (stateTransition .avatarCreateAck player)) calm
        intro u calm changed
        apply attemptThen_does env guarded player u _ _ calm fun _ => rfl
        · rw [changed,same]
          rfl
        · exact fun v _ => transition_does env guarded player v _ rfl

theorem onAvatarSelectReq_does (s : Loop) (avatarName : WString) (calm : Open guarded player s) :
    Does env guarded player s (onAvatarSelectReq env player avatarName s) := by
  rw [onAvatarSelectReq]
  split
  · exact .refl
  · apply expect_does env guarded player s _ _ _ calm rfl
    intro t calm _
    split
    · apply attempt_does env guarded player t _ _ calm fun _ => rfl
      exact fun u _ _ => transition_does env guarded player u _ rfl
    · exact shutdownPlayer_does env guarded player t calm

theorem onAvatarSelectAck_does (s : Loop) (result : Int32) (avatarName : WString)
    (avatarId : UInt64) (lastChannelId : UInt8) (calm : Open guarded player s) :
    Does env guarded player s
      (onAvatarSelectAck env player result avatarName avatarId lastChannelId s) := by
  rw [onAvatarSelectAck]
  split
  · exact .refl
  · apply expect_does env guarded player s _ _ _ calm rfl
    intro t calm same
    have outside : inRegion (t.contexts player).state = false := by rw [same]; rfl
    dsimp only
    split
    · exact shutdownPlayer_does env guarded player t calm
    · apply change_does env guarded player t
        (fun context => {context with
          avatarName := avatarName, avatarId := avatarId, lastChannelId := lastChannelId})
        ⟨rfl,rfl,rfl,rfl,fun _ => rfl,fun inside => by rw [outside] at inside; cases inside⟩ _ calm
      intro u calm changed
      apply attemptThen_does env guarded player u _ _ calm fun _ => rfl
      · rw [changed,same]
        rfl
      · intro v calm
        have moved := transition_does env guarded player v .avatarSelectAck rfl
        have still := transition_open guarded player v .avatarSelectAck rfl calm
        split
        · exact moved.trans (notifyChannels_does env guarded player _ still)
        · exact moved

theorem onChannelSelectReq_does (s : Loop) (channelName : WString) (calm : Open guarded player s) :
    Does env guarded player s (onChannelSelectReq env player channelName s) := by
  rw [onChannelSelectReq]
  split
  · exact .refl
  · apply expect_does env guarded player s _ _ _ calm rfl
    intro t calm same
    dsimp only
    split
    · split
      · exact (write_does env guarded player t _).tail (.say _ _ rfl)
      · exact write_does env guarded player t _
    · apply attempt_does env guarded player t _ _ calm fun _ => rfl
      intro u calm sameAgain
      have outside : inRegion (u.contexts player).state = false := by rw [sameAgain,same]; rfl
      apply change_does env guarded player u
        (fun context => {context with lastChannelId := getChannelId channelName t})
        ⟨rfl,rfl,rfl,rfl,fun _ => rfl,fun inside => by rw [outside] at inside; cases inside⟩
        (stateTransition .regionAllocReq player) calm
      exact fun v _ _ => transition_does env guarded player v _ rfl

theorem onRegionAllocAck_does (s : Loop) (region : UInt8) (result : Int32)
    (calm : Open guarded player s) :
    Does env guarded player s (onRegionAllocAck env player region result s) := by
  rw [onRegionAllocAck]
  split
  · exact .refl
  · apply expect_does env guarded player s _ _ _ calm rfl
    intro t calm same
    have outside : inRegion (t.contexts player).state = false := by rw [same]; rfl
    dsimp only
    split
    · have moved := transition_does env guarded player t .onRegionAllocFailAck rfl
      have still := transition_open guarded player t .onRegionAllocFailAck rfl calm
      refine moved.trans (attemptWrite_does env guarded player _ _ _ still ?_)
      intro u calm _
      apply attempt_does env guarded player u _ _ calm fun _ => rfl
      intro v calm _
      exact (transition_does env guarded player v .channelSelectAck rfl).trans
        (notifyChannels_does env guarded player _ (transition_open guarded player v _ rfl calm))
    · apply change_does env guarded player t (fun context => {context with regionServerId := region})
        ⟨rfl,rfl,rfl,rfl,fun _ => rfl,fun inside => by rw [outside] at inside; cases inside⟩ _ calm
      intro u calm _
      apply attemptWrite_does env guarded player u _ _ calm
      intro v calm _
      apply attempt_does env guarded player v _ _ calm fun _ => rfl
      intro w calm _
      have acked := transition_does env guarded player w .channelSelectAck rfl
      have still := transition_open guarded player w .channelSelectAck rfl calm
      split
      · refine acked.trans (attempt_does env guarded player _ _ _ still (fun _ => rfl) ?_)
        intro x calm _
        have entered := transition_does env guarded player x .regionEnterReq rfl
        split
        next reached =>
          refine entered.tail (.enter _ ?_)
          rw [stateTransition_reached player x _ _ reached,setState,update_same]
        next => exact entered
      · exact acked

theorem onGateLoginReq_does (s : Loop) (calm : Open guarded player s) :
    Does env guarded player s (onGateLoginReq env player s) := by
  rw [onGateLoginReq]
  split
  · exact .refl
  next active =>
    apply expect_does env guarded player s _ _ _ calm rfl
    intro t calm same
    have still : (t.contexts player).finalizing = false := by simpa [same] using active
    have asked : (t.contexts player).state = .onGateLoginReq := by rw [same]
    rw [attempt]
    split
    next success =>
      have step : PlayerStep env guarded player t _ := .login t still asked success
      rw [stateTransition_reached player _ .cacheLoginReq .cacheLoginReq]
      · exact .single step
      · change transition (t.contexts player).state .cacheLoginReq = some .cacheLoginReq
        rw [asked]
        rfl
    next failure =>
      have failed : quiet (.cacheOnLoginReq (t.contexts player).sessionId
          (t.contexts player).accountName) (sends env t) = true := by simpa [quiet] using failure
      exact .trans (.single (.say t _ failed))
        (shutdownPlayer_does env guarded player _ (open_same guarded player t _ rfl rfl calm))

theorem leave_transition (state next : PlayerState)
    (reached : transition state .onRegionLeaveReq = some next) :
    state = .onChannelLeave_regionLeaveAck ∧ next = .onChannelLeave_onRegionLeaveReq ∨
      state = .finalizing_regionLeaveAck ∧ next = .finalizing_onRegionLeaveReq := by
  have rows : ∀ row ∈ initStateMachine state, row.1 = .onRegionLeaveReq →
      state = .onChannelLeave_regionLeaveAck ∧ row.2 = .onChannelLeave_onRegionLeaveReq ∨
        state = .finalizing_regionLeaveAck ∧ row.2 = .finalizing_onRegionLeaveReq := by
    cases state <;> decide
  exact rows _ (transition_mem state next .onRegionLeaveReq reached) rfl

theorem waiting_answered (state : PlayerState) (unreached : transition state .onRegionLeaveReq = none) :
    waiting state = false := by
  cases state <;> first | rfl | cases unreached

theorem onRegionLeaveReq_does (s : Loop) (running : s.shutdownStatus ≠ .readyForShutdown) :
    Does env guarded player s (onRegionLeaveReq env player s) := by
  rw [onRegionLeaveReq]
  cases reached : reaches .onRegionLeaveReq player s with
  | none =>
    rw [if_pos rfl,stateTransition_none player s _ reached]
    exact shutdownPlayer_does env guarded player s
      ⟨fun _ => .inr (waiting_answered _ reached),running⟩
  | some next =>
    rw [if_neg (by simp),stateTransition_reached player s _ next reached]
    let left := deletePlayerFromRegionServerContext player (setState player next s)
    have answered : Does env guarded player s left := .single (.answer s next reached)
    have state : (left.contexts player).state = next := by
      simp only [left,deletePlayerFromRegionServerContext,updateRegion,setState,update_same]
    have targets := leave_transition _ _ reached
    have still : Open guarded player left := by
      refine ⟨fun _ => .inr ?_,running⟩
      rw [state]
      rcases targets with ⟨-,rfl⟩ | ⟨-,rfl⟩ <;> rfl
    refine answered.trans (attemptWrite_does env guarded player left _ _ still ?_)
    intro t calm same
    apply attempt_does env guarded player t _ _ calm fun _ => rfl
    intro u calm sameAgain
    have here : (u.contexts player).state = next := by rw [sameAgain,same,state]
    rcases targets with ⟨-,rfl⟩ | ⟨-,rfl⟩
    · simp only [here]
      exact (sendChannelList_does env guarded player u).trans
        (transition_does env guarded player _ _ rfl)
    · simp only [here]
      exact .refl

theorem onRegionPlayerFailReq_does (s : Loop) :
    Does env guarded player s (onRegionPlayerFailReq env player s) := by
  rw [onRegionPlayerFailReq]
  split
  · exact .refl
  next active =>
    let left := send env (some player) (.disconnect (s.contexts player).gateServerId
      (s.contexts player).sessionId) s
    have still : (left.contexts player).finalizing = false := by simpa [left,send] using active
    exact .tail (.single (.say s _ rfl)) (.retire left true still fun _ _ => rfl)

theorem handlePacket_does (s : Loop) (packet : Packet) (calm : Open guarded player s) :
    Does env guarded player s (handlePacket env player packet s) := by
  cases packet with
  | avatarListReq => exact onAvatarListReq_does env guarded player s calm
  | avatarListAck result avatars =>
    have held : Does env guarded player s (holdAvatars avatars s) :=
      .single (.note s s.delay (s.undefined || avatarCountMax < avatars.length))
    exact held.trans (onAvatarListAck_does env guarded player _ result avatars
      ⟨calm.settled,calm.running⟩)
  | avatarCreateReq => exact onAvatarCreateReq_does env guarded player s calm
  | avatarCreateAck result newAvatar =>
    exact onAvatarCreateAck_does env guarded player s result newAvatar calm
  | avatarSelectReq avatarName => exact onAvatarSelectReq_does env guarded player s avatarName calm
  | avatarSelectAck result avatarName avatarId lastChannelId =>
    exact onAvatarSelectAck_does env guarded player s result avatarName avatarId lastChannelId calm
  | channelSelectReq channelName =>
    exact onChannelSelectReq_does env guarded player s channelName calm
  | channelLeaveReq => exact .refl
  | other => exact .refl

def named (sessionId : UInt32) (accountName : WString) (s : Loop) : Loop :=
  (setState player .onLoginReq s).update player fun context =>
    {context with sessionId := sessionId, accountName := accountName}

theorem gateAllocReq_does (s : Loop) : Does env guarded player s (ServerLoop.gateAllocReq s).2 := by
  rw [ServerLoop.gateAllocReq]
  split
  next gate context found =>
    exact .single (.count s gate (fun context =>
      {context with sessionCount := context.sessionCount + 1}) fun _ => rfl)
  next => exact .refl

theorem gateAllocReq_contexts (s : Loop) : (ServerLoop.gateAllocReq s).2.contexts = s.contexts := by
  rw [ServerLoop.gateAllocReq]
  split <;> rfl

theorem onLoginReq_fresh (s : Loop) (sessionId : UInt32) (accountName : WString)
    (fresh : (s.contexts player).state = .none) : onLoginReq env player sessionId accountName s =
      match ServerLoop.gateAllocReq (named player sessionId accountName s) with
      | (none,full) => full
      | (some gate,counted) =>
        let chosen := counted.update player fun context => {context with gateServerId := gate}
        let sent := send env (some player) (.gateAllocReq gate sessionId accountName) chosen
        if sends env chosen then expect env player .gateAllocReq .gateAllocReq id sent else sent := by
  have reached : reaches .onLoginReq player s = some .onLoginReq := by
    rw [reaches,fresh]
    rfl
  rw [onLoginReq,expect]
  dsimp only
  rw [if_pos reached,stateTransition_reached player s _ _ reached]
  rfl

theorem onLoginReq_does (s : Loop) (sessionId : UInt32) (accountName : WString)
    (fresh : (s.contexts player).state = .none) (running : s.shutdownStatus ≠ .readyForShutdown) :
    Does env guarded player (named player sessionId accountName s)
      (onLoginReq env player sessionId accountName s) := by
  rw [onLoginReq_fresh env player s sessionId accountName fresh]
  have state : ((named player sessionId accountName s).contexts player).state = .onLoginReq := by
    simp only [named,setState,update_same]
  have counts := gateAllocReq_does env guarded player (named player sessionId accountName s)
  have same := congrFun (gateAllocReq_contexts (named player sessionId accountName s)) player
  have status : (ServerLoop.gateAllocReq (named player sessionId accountName s)).2.shutdownStatus =
      s.shutdownStatus :=
    does_status env guarded player (named player sessionId accountName s) _ counts
  split
  next full allocated =>
    rw [allocated] at counts
    exact counts
  next gate counted allocated =>
    rw [allocated] at counts same status
    have here : (counted.contexts player).state = .onLoginReq := by rw [same,state]
    refine counts.trans ?_
    apply change_does env guarded player counted (fun context => {context with gateServerId := gate})
      ⟨rfl,rfl,rfl,rfl,fun gated => by simp [here,home,deletePlace] at gated,fun _ => ⟨rfl,rfl⟩⟩
      (fun chosen =>
        let sent := send env (some player) (.gateAllocReq gate sessionId accountName) chosen
        if sends env chosen then expect env player .gateAllocReq .gateAllocReq id sent else sent)
    · refine ⟨fun _ => .inr ?_,?_⟩
      · rw [here]
        rfl
      · rw [status]
        exact running
    · intro t calm _
      have said : Does env guarded player t
          (send env (some player) (.gateAllocReq gate sessionId accountName) t) := .single (.say t _ rfl)
      dsimp only
      split
      · refine said.trans (expect_does env guarded player _ _ _ _
          (open_same guarded player t _ rfl rfl calm) rfl fun u _ _ => .refl)
      · exact said

theorem onLoginReq_busy (s : Loop) (sessionId : UInt32) (accountName : WString)
    (busy : (s.contexts player).state ≠ .none) :
    onLoginReq env player sessionId accountName s = shutdownPlayer env player s := by
  have unreached : reaches .onLoginReq player s = none := by
    have rows : ∀ state : PlayerState, state ≠ .none → transition state .onLoginReq = none := by
      intro state other
      cases state <;> first | rfl | exact absurd rfl other
    exact rows _ busy
  rw [onLoginReq,expect]
  dsimp only
  rw [if_neg (by rw [unreached]; simp),stateTransition_none player s _ unreached]

/-- The answer of a gate goes through: the player is moved to the session of the gate. -/
structure Switches (gate : UInt8) (s : Loop) : Prop where
  accepted : gate ≠ 0
  asked : (s.contexts player).state = .gateAllocReq
  configured : (env.config.getGateConfigItem gate).isSome
  written : env.net s.log.length = true
  forwarded : env.net (s.log.length + 1) = true

theorem gateAllocAck_transition (state : PlayerState)
    (reached : transition state .gateAllocAck = some .gateAllocAck) : state = .gateAllocReq := by
  have rows : ∀ row ∈ initStateMachine state, row.1 = .gateAllocAck → state = .gateAllocReq := by
    cases state <;> decide
  exact rows _ (transition_mem state .gateAllocAck .gateAllocAck reached) rfl

theorem gateAllocAck_does (s : Loop) (gate : UInt8) (gateSessionId : UInt32)
    (calm : Open guarded player s) :
    Does env guarded player s (gateAllocAck env player gate gateSessionId s) ∨
      Switches env player gate s ∧ ∃ t, Does env guarded player s t ∧
        t.contexts player = {s.contexts player with state := .gateAllocAck, gateServerId := gate} ∧
        gateAllocAck env player gate gateSessionId s =
          loginSession2GateSession player (s.contexts player).sessionId gateSessionId
            (setState player .gateAllocNtf t) := by
  rw [gateAllocAck]
  by_cases refused : gate = 0
  · rw [if_pos refused]
    exact .inl ((transition_does env guarded player s _ rfl).trans (shutdownPlayer_does env guarded
      player _ (transition_open guarded player s _ rfl calm)))
  rw [if_neg refused,expect]
  dsimp only
  have moved := transition_does env guarded player s .gateAllocAck rfl
  have movedOpen := transition_open guarded player s .gateAllocAck rfl calm
  by_cases reached : reaches .gateAllocAck player s = some .gateAllocAck
  case neg =>
    rw [if_neg reached]
    exact .inl (moved.trans (shutdownPlayer_does env guarded player _ movedOpen))
  rw [if_pos reached]
  rw [stateTransition_reached player s _ _ reached] at moved movedOpen ⊢
  let acked := setState player .gateAllocAck s
  let chosen := acked.update player fun context => {context with gateServerId := gate}
  have ackedState : (acked.contexts player).state = .gateAllocAck := by
    simp only [acked,setState,update_same]
  have chosenContext : chosen.contexts player =
      {s.contexts player with state := .gateAllocAck, gateServerId := gate} := by
    simp only [chosen,acked,setState,update_same]
  have chose : Does env guarded player s chosen := by
    refine moved.tail (.change acked _ ⟨rfl,rfl,rfl,rfl,fun gated => ?_,fun _ => ⟨rfl,rfl⟩⟩)
    simp [ackedState,home] at gated
  have chosenOpen : Open guarded player chosen := by
    refine ⟨fun _ => .inr ?_,calm.running⟩
    rw [chosenContext]
    rfl
  cases configured : env.config.getGateConfigItem gate with
  | none => exact .inl (chose.trans (shutdownPlayer_does env guarded player chosen chosenOpen))
  | some item =>
    let written := write env player (.loginNtf item.serverIp item.serverPort) chosen
    have wrote : Does env guarded player s written := chose.trans (write_does env guarded player chosen _)
    have writtenContexts : written.contexts = chosen.contexts := write_contexts env player chosen _
    have writtenOpen : Open guarded player written :=
      open_same guarded player chosen written (congrFun writtenContexts player)
        (write_status env player chosen _) chosenOpen
    change Does env guarded player s (if sends env chosen then attempt env player (toLogin player) _ written
      else shutdownPlayer env player written) ∨ _
    by_cases wrotePacket : sends env chosen = true
    case neg =>
      rw [if_neg wrotePacket]
      exact .inl (wrote.trans (shutdownPlayer_does env guarded player written writtenOpen))
    rw [if_pos wrotePacket,attempt]
    let sent := send env (some player) (toLogin player written) written
    have forwarded : Does env guarded player s sent := wrote.tail (.say written _ rfl)
    have sentOpen : Open guarded player sent :=
      open_same guarded player written sent rfl rfl writtenOpen
    by_cases sentPacket : sends env written = true
    case neg =>
      rw [if_neg sentPacket]
      exact .inl (forwarded.trans (shutdownPlayer_does env guarded player sent sentOpen))
    have sentContext : sent.contexts player =
        {s.contexts player with state := .gateAllocAck, gateServerId := gate} :=
      (congrFun writtenContexts player).trans chosenContext
    have next : reaches .gateAllocNtf player sent = some .gateAllocNtf := by
      rw [reaches,sentContext]
      rfl
    refine .inr ⟨⟨refused,gateAllocAck_transition _ reached,?_,wrotePacket,?_⟩,sent,forwarded,
      sentContext,?_⟩
    · simp [configured]
    · have length : written.log.length = s.log.length + 1 := by
        simp only [written,write]
        split <;> rfl
      rw [sends,length] at sentPacket
      exact sentPacket
    · change (if sends env chosen then attempt env player (toLogin player) _ written
        else shutdownPlayer env player written) = _
      rw [if_pos wrotePacket,attempt,if_pos sentPacket,expect]
      change (if reaches .gateAllocNtf player sent = _ then _ else _) = _
      rw [if_pos next,stateTransition_reached player sent _ _ next,setState,update_same,sentContext]

/-- The switch to the gate changes no context but the player's session. -/
structure SwitchFrame (gateSessionId : UInt32) (s t : Loop) : Prop where
  log : t.log = s.log
  queue : t.finalizingQueue = s.finalizingQueue
  pool : t.playerContextPool = s.playerContextPool
  others : ∀ other, other ≠ player → t.contexts other = s.contexts other
  own : t.contexts player = s.contexts player ∨
    t.contexts player = {s.contexts player with sessionId := gateSessionId}

theorem switch_frame (s : Loop) (loginSessionId gateSessionId : UInt32) :
    SwitchFrame player gateSessionId s
      (loginSession2GateSession player loginSessionId gateSessionId s) := by
  rw [loginSession2GateSession]
  dsimp only
  split
  · exact ⟨rfl,rfl,rfl,fun _ _ => rfl,.inl rfl⟩
  · have moved (t : Loop) (log : t.log = s.log) (queue : t.finalizingQueue = s.finalizingQueue)
        (pool : t.playerContextPool = s.playerContextPool)
        (contexts : t.contexts = (s.update player fun context =>
          {context with sessionId := gateSessionId}).contexts) :
        SwitchFrame player gateSessionId s t := by
      refine ⟨log,queue,pool,fun other different => ?_,.inr ?_⟩
      · rw [contexts]
        exact update_other s player other _ different
      · rw [contexts,update_same]
    split
    · exact moved _ rfl rfl rfl rfl
    · exact moved _ rfl rfl rfl rfl

end Fantuan.MasterServer.Handlers
