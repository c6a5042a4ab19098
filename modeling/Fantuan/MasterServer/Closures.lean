import Fantuan.MasterServer.Handlers

/-! Properties of the state that a handler keeps when its sends, its transitions, its changes of the
player's context, the queue and ShutdownPlayer do. Asking a gate or a region for a player, and taking that
back, are left out, and so is the transition behind it.
-/
namespace Fantuan.MasterServer.Closures
open Lib.Table ServerBase.ServerCommon Tool.ObjectPool PlayerFsm Context ServerLoop Player Commands
  PlayerSteps Handlers

def common : Message → Bool
  | .onLoginFailedAck _ _ | .loginPacketForward _ _ | .gateAllocReq _ _ _ | .regionAllocReq _ _ _ _
  | .regionReleaseReq _ _ => false
  | _ => true

/-- The events of the stay but the request of a region and the one that would leave a channel, which no
handler raises. -/
def routine : PlayerEvent → Bool
  | .regionAllocReq | .onChannelLeaveReq => false
  | _ => true

/-- A change of a context that spares the player's stay. -/
structure Alike (old new : MasterPlayerContext) : Prop where
  sessionId : new.sessionId = old.sessionId
  accountName : new.accountName = old.accountName
  finalizing : new.finalizing = old.finalizing
  state : new.state = old.state
  avatars : new.avatars = old.avatars
  regionServerId : new.regionServerId = old.regionServerId

structure Upheld (env : Env) (player : Object) (holds : Loop → Prop) : Prop where
  same : ∀ s, holds s → ∀ t : Loop, t.contexts = s.contexts →
    t.gateServerContext = s.gateServerContext → t.log = s.log → holds t
  sent : ∀ s message, common message = true → holds s → holds (send env (some player) message s)
  moved : ∀ s event, routine event = true → holds s → holds (stateTransition event player s)
  changed : ∀ s change, Alike (s.contexts player) (change (s.contexts player)) → holds s →
    holds (s.update player change)
  queued : ∀ s, holds s → holds (addPlayerToFinalizingQueue player s)
  shut : ∀ s, holds s → holds (shutdownPlayer env player s)

section
variable (env : Env) (player : Object) (holds : Loop → Prop) (upheld : Upheld env player holds)
include upheld

theorem expect_upheld (s : Loop) (event : PlayerEvent) (expected : PlayerState) (next : Loop → Loop)
    (plain : routine event = true) (start : holds s) (continues : ∀ t, holds t → holds (next t)) :
    holds (expect env player event expected next s) := by
  have moved := upheld.moved s event plain start
  rw [expect]
  split
  · exact continues _ moved
  · exact upheld.shut _ moved

theorem attempt_upheld (s : Loop) (message : Loop → Message) (next : Loop → Loop)
    (sent : holds (send env (some player) (message s) s)) (continues : ∀ t, holds t → holds (next t)) :
    holds (attempt env player message next s) := by
  rw [attempt]
  split
  · exact continues _ sent
  · exact upheld.shut _ sent

theorem attemptThen_upheld (s : Loop) (message : Loop → Message) (next : Loop → Loop)
    (sent : holds (send env (some player) (message s) s)) (continues : ∀ t, holds t → holds (next t)) :
    holds (attemptThen env player message next s) := by
  rw [attemptThen]
  apply continues
  split
  · exact sent
  · exact upheld.shut _ sent

theorem write_upheld (s : Loop) (packet : ClientPacket) (start : holds s) :
    holds (write env player packet s) := by
  have sent := upheld.sent s (.client packet) rfl start
  rw [write]
  split
  · exact upheld.same _ sent _ rfl rfl rfl
  · exact sent

theorem attemptWrite_upheld (s : Loop) (packet : ClientPacket) (next : Loop → Loop) (start : holds s)
    (continues : ∀ t, holds t → holds (next t)) : holds (attemptWrite env player packet next s) := by
  have written := write_upheld env player holds upheld s packet start
  rw [attemptWrite]
  split
  · exact continues _ written
  · exact upheld.shut _ written

theorem sendChannelList_upheld (s : Loop) (start : holds s) : holds (sendChannelList env player s).2 := by
  rw [sendChannelList]
  split
  · exact upheld.same s start _ rfl rfl rfl
  · exact start
  · dsimp only
    split
    · exact write_upheld env player holds upheld s _ start
    · exact upheld.sent _ _ rfl (write_upheld env player holds upheld s _ start)

theorem notifyChannels_upheld (s : Loop) (start : holds s) : holds (notifyChannels env player s) := by
  have listed := sendChannelList_upheld env player holds upheld s start
  rw [notifyChannels]
  dsimp only
  split
  · exact upheld.moved _ _ rfl listed
  · exact upheld.shut _ listed

theorem onGateLoginReq_upheld (s : Loop) (start : holds s) : holds (onGateLoginReq env player s) := by
  rw [onGateLoginReq]
  split
  · exact start
  · refine expect_upheld env player holds upheld s _ _ _ rfl start fun t start => ?_
    refine attempt_upheld env player holds upheld t _ _ (upheld.sent t _ rfl start) fun u start => ?_
    exact upheld.moved u _ rfl start

theorem onRegionLeaveReq_upheld (s : Loop) (start : holds s) : holds (onRegionLeaveReq env player s) := by
  have moved := upheld.moved s .onRegionLeaveReq rfl start
  rw [onRegionLeaveReq]
  split
  · exact upheld.shut _ moved
  · refine attemptWrite_upheld env player holds upheld _ _ _ (upheld.same _ moved _ rfl rfl rfl)
      fun u start => ?_
    refine attempt_upheld env player holds upheld u _ _ (upheld.sent u _ rfl start) fun v start => ?_
    split
    · exact upheld.moved _ _ rfl (sendChannelList_upheld env player holds upheld v start)
    · refine attempt_upheld env player holds upheld v _ _ (upheld.sent v _ rfl start) fun w start => ?_
      exact upheld.shut _ (upheld.moved w _ rfl start)
    · exact start

theorem onRegionPlayerFailReq_upheld (s : Loop) (start : holds s) :
    holds (onRegionPlayerFailReq env player s) := by
  rw [onRegionPlayerFailReq]
  split
  · exact start
  · exact upheld.queued _ (upheld.sent _ _ rfl (upheld.sent s _ rfl start))

theorem handlePacket_upheld (s : Loop) (packet : Packet) (start : holds s)
    (unselected : ∀ channelName, packet ≠ .channelSelectReq channelName)
    (listed : ∀ result avatars t, packet = .avatarListAck result avatars → holds t →
      holds (t.update player fun context => {context with avatars := avatars}))
    (created : ∀ newAvatar t, holds t → (t.contexts player).avatars.length < avatarCountMax →
      holds (t.update player fun context => {context with avatars := context.avatars ++ [newAvatar]})) :
    holds (handlePacket env player packet s) := by
  have active (next : Loop → Loop) (continues : holds (next s)) :
      holds (if (s.contexts player).finalizing = true then s else next s) := by
    split
    · exact start
    · exact continues
  cases packet with
  | avatarListReq =>
    apply active
    refine expect_upheld env player holds upheld s _ _ _ rfl start fun t start => ?_
    refine attempt_upheld env player holds upheld t _ _ (upheld.sent t _ rfl start) fun u start => ?_
    exact expect_upheld env player holds upheld u _ _ _ rfl start fun _ start => start
  | avatarListAck result avatars =>
    have held : holds (holdAvatars avatars s) := upheld.same s start _ rfl rfl rfl
    rw [handlePacket,onAvatarListAck]
    split
    · exact held
    · refine expect_upheld env player holds upheld _ _ _ _ rfl held fun t start => ?_
      split
      · exact upheld.shut t start
      · refine attemptThen_upheld env player holds upheld _ _ _ (upheld.sent _ _ rfl ?_) fun u start => ?_
        · exact upheld.same _ (listed result avatars t rfl start) _ rfl rfl rfl
        · exact upheld.moved u _ rfl start
  | avatarCreateReq =>
    apply active
    refine expect_upheld env player holds upheld s _ _ _ rfl start fun t start => ?_
    split
    · exact upheld.shut t start
    · refine attempt_upheld env player holds upheld t _ _ (upheld.sent t _ rfl start) fun u start => ?_
      exact upheld.moved u _ rfl start
  | avatarCreateAck result newAvatar =>
    apply active
    refine expect_upheld env player holds upheld s _ _ _ rfl start fun t start => ?_
    split
    · exact upheld.shut t start
    · split
      · exact start
      next room =>
        refine attemptThen_upheld env player holds upheld _ _ _ (upheld.sent _ _ rfl ?_) fun u start => ?_
        · exact created newAvatar t start (by omega)
        · exact upheld.moved u _ rfl start
  | avatarSelectReq avatarName =>
    apply active
    refine expect_upheld env player holds upheld s _ _ _ rfl start fun t start => ?_
    split
    · refine attempt_upheld env player holds upheld t _ _ (upheld.sent t _ rfl start) fun u start => ?_
      exact upheld.moved u _ rfl start
    · exact upheld.shut t start
  | avatarSelectAck result avatarName avatarId lastChannelId =>
    apply active
    refine expect_upheld env player holds upheld s _ _ _ rfl start fun t start => ?_
    dsimp only
    split
    · exact upheld.shut t start
    · refine attemptThen_upheld env player holds upheld _ _ _ (upheld.sent _ _ rfl ?_) fun u start => ?_
      · exact upheld.changed t _ ⟨rfl,rfl,rfl,rfl,rfl,rfl⟩ start
      · have moved := upheld.moved u .avatarSelectAck rfl start
        split
        · exact notifyChannels_upheld env player holds upheld _ moved
        · exact moved
  | channelSelectReq channelName => exact absurd rfl (unselected channelName)
  | channelLeaveReq => exact start
  | other => exact start

end

end Fantuan.MasterServer.Closures
