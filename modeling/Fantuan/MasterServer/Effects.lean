import Fantuan.MasterServer.Closures

/-! Properties of the state that the effects of a handler keep: sends, transitions, changes of the
player's context, the queue and ShutdownPlayer. Then the handlers keep them.
-/
namespace Fantuan.MasterServer.Effects
open Lib.Table ServerBase.ServerCommon Tool.ObjectPool PlayerFsm Context ServerLoop Player Commands
  PlayerSteps Handlers Closures

/-- The messages that neither answer a login nor ask a gate for a session. -/
def mute : Message → Bool
  | .onLoginFailedAck _ _ | .loginPacketForward _ _ | .gateAllocReq _ _ _ => false
  | _ => true

/-- A change of a context that spares what identifies the player, his state and his avatars. -/
structure Spares (old new : MasterPlayerContext) : Prop where
  sessionId : new.sessionId = old.sessionId
  accountName : new.accountName = old.accountName
  finalizing : new.finalizing = old.finalizing
  state : new.state = old.state
  avatars : new.avatars = old.avatars

structure Steps (env : Env) (player : Object) (holds : Loop → Prop) : Prop where
  same : ∀ s, holds s → ∀ t : Loop, t.contexts = s.contexts →
    t.gateServerContext = s.gateServerContext → t.log = s.log → holds t
  sent : ∀ s message, mute message = true → holds s → holds (send env (some player) message s)
  moved : ∀ s event, holds s → holds (stateTransition event player s)
  changed : ∀ s change, Spares (s.contexts player) (change (s.contexts player)) → holds s →
    holds (s.update player change)
  queued : ∀ s, holds s → holds (addPlayerToFinalizingQueue player s)

structure Closed (env : Env) (player : Object) (holds : Loop → Prop) : Prop extends
    Steps env player holds where
  shut : ∀ s, holds s → holds (shutdownPlayer env player s)

section
variable (env : Env) (player : Object) (holds : Loop → Prop) (steps : Steps env player holds)
include steps

theorem sendIf_holds (s : Loop) (need : Bool) (message : Message) (start : holds s)
    (heard : need = true → mute message = true) : holds (sendIf env need player message s) := by
  cases need with
  | false => exact start
  | true => exact steps.sent s message (heard rfl) start

theorem shutdownPlayer_holds (s : Loop) (start : holds s)
    (refused : (s.contexts player).finalizing = false →
      (shutdownNeeds (s.contexts player).state).loginFailedAck = true →
        ∀ t sessionId, holds t → holds (send env (some player) (.onLoginFailedAck sessionId 3) t)) :
    holds (shutdownPlayer env player s) := by
  rw [shutdownPlayer]
  split
  · exact start
  next active =>
    have refuses := refused (Bool.eq_false_of_not_eq_true active)
    generalize shutdownNeeds (s.contexts player).state = needs at *
    have begun : holds (if (s.contexts player).state = .regionEnterReq then
        stateTransition .finalize player s else s) := by
      split
      · exact steps.moved s _ start
      · exact start
    dsimp only
    generalize (if (s.contexts player).state = .regionEnterReq then stateTransition .finalize player s
      else s) = t at *
    have finished (u : Loop) (before : holds u) : holds (finishShutdown env needs player u) := by
      have told : holds (sendIf env (needs.loginFailedAck && !isReadyForShutdown u) player
          (.onLoginFailedAck (u.contexts player).sessionId 3) u) := by
        rw [sendIf]
        split
        next tells => exact refuses ((Bool.and_eq_true _ _).mp tells).1 u _ before
        · exact before
      apply steps.queued
      apply sendIf_holds env player holds steps _ _ _ _ fun _ => rfl
      apply sendIf_holds env player holds steps _ _ _ _ fun _ => rfl
      exact sendIf_holds env player holds steps _ _ _ told fun _ => rfl
    have released (need : Bool) : holds (if need = true then
        deletePlayerFromRegionServerContext player (send env (some player)
          (.regionReleaseReq (t.contexts player).regionServerId (t.contexts player).sessionId) t)
        else t) := by
      split
      · exact steps.same _ (steps.sent t _ rfl begun) _ rfl rfl rfl
      · exact begun
    have leaves (u : Loop) (sent : Bool) (before : holds u) : holds (if sent = true then
        stateTransition .regionLeaveAck player u else finishShutdown env needs player u) := by
      split
      · exact steps.moved u _ before
      · exact finished u before
    split
    · exact leaves _ _ (steps.sent _ _ rfl (released _))
    · exact finished _ (released _)

end

section
variable (env : Env) (player : Object) (holds : Loop → Prop) (closed : Closed env player holds)
include closed

theorem expect_holds (s : Loop) (event : PlayerEvent) (expected : PlayerState) (next : Loop → Loop)
    (start : holds s) (continues : ∀ t, holds t → holds (next t)) :
    holds (expect env player event expected next s) := by
  have moved := closed.moved s event start
  rw [expect]
  split
  · exact continues _ moved
  · exact closed.shut _ moved

theorem closed_upheld : Upheld env player holds where
  same := closed.same
  sent s message heard := closed.sent s message (by cases message <;> first | rfl | cases heard)
  moved s event _ := closed.moved s event
  changed s change alike := closed.changed s change
    ⟨alike.sessionId,alike.accountName,alike.finalizing,alike.state,alike.avatars⟩
  queued := closed.queued
  shut := closed.shut

theorem attempt_holds (s : Loop) (message : Loop → Message) (next : Loop → Loop)
    (sent : holds (send env (some player) (message s) s)) (continues : ∀ t, holds t → holds (next t)) :
    holds (attempt env player message next s) :=
  attempt_upheld env player holds (closed_upheld env player holds closed) s message next sent continues

theorem write_holds (s : Loop) (packet : ClientPacket) (start : holds s) :
    holds (write env player packet s) :=
  write_upheld env player holds (closed_upheld env player holds closed) s packet start

theorem attemptWrite_holds (s : Loop) (packet : ClientPacket) (next : Loop → Loop) (start : holds s)
    (continues : ∀ t, holds t → holds (next t)) : holds (attemptWrite env player packet next s) :=
  attemptWrite_upheld env player holds (closed_upheld env player holds closed) s packet next start continues

theorem notifyChannels_holds (s : Loop) (start : holds s) : holds (notifyChannels env player s) :=
  notifyChannels_upheld env player holds (closed_upheld env player holds closed) s start

theorem onGateLoginReq_holds (s : Loop) (start : holds s) : holds (onGateLoginReq env player s) :=
  onGateLoginReq_upheld env player holds (closed_upheld env player holds closed) s start

theorem onRegionAllocAck_holds (s : Loop) (region : UInt8) (result : Int32) (start : holds s) :
    holds (onRegionAllocAck env player region result s) := by
  rw [onRegionAllocAck]
  split
  · exact start
  · refine expect_holds env player holds closed s _ _ _ start fun t start => ?_
    have entered := closed.changed t (fun context => {context with regionServerId := region})
      ⟨rfl,rfl,rfl,rfl,rfl⟩ start
    dsimp only
    split
    · refine attemptWrite_holds env player holds closed _ _ _ (closed.moved t _ start) fun u start => ?_
      refine attempt_holds env player holds closed u _ _ (closed.sent u _ rfl start) fun v start => ?_
      exact notifyChannels_holds env player holds closed _ (closed.moved v _ start)
    · refine attemptWrite_holds env player holds closed _ _ _ entered fun u start => ?_
      refine attempt_holds env player holds closed u _ _ (closed.sent u _ rfl start) fun v start => ?_
      have acked := closed.moved v .channelSelectAck start
      split
      · refine attempt_holds env player holds closed _ _ _ (closed.sent _ _ rfl acked) fun w start => ?_
        have asked := closed.moved w .regionEnterReq start
        split
        · exact closed.same _ asked _ rfl rfl rfl
        · exact asked
      · exact acked

theorem onRegionLeaveReq_holds (s : Loop) (start : holds s) : holds (onRegionLeaveReq env player s) :=
  onRegionLeaveReq_upheld env player holds (closed_upheld env player holds closed) s start

theorem onRegionPlayerFailReq_holds (s : Loop) (start : holds s) :
    holds (onRegionPlayerFailReq env player s) :=
  onRegionPlayerFailReq_upheld env player holds (closed_upheld env player holds closed) s start

/-- What the property says about avatars decides whether a list or a new avatar keeps it. -/
theorem handlePacket_holds (s : Loop) (packet : Packet) (start : holds s)
    (listed : ∀ result avatars t, packet = .avatarListAck result avatars → holds t →
      holds (t.update player fun context => {context with avatars := avatars}))
    (created : ∀ newAvatar t, holds t → (t.contexts player).avatars.length < avatarCountMax →
      holds (t.update player fun context => {context with avatars := context.avatars ++ [newAvatar]})) :
    holds (handlePacket env player packet s) := by
  by_cases selects : ∃ channelName, packet = .channelSelectReq channelName
  · obtain ⟨channelName,rfl⟩ := selects
    rw [handlePacket,onChannelSelectReq]
    split
    · exact start
    · refine expect_holds env player holds closed s _ _ _ start fun t start => ?_
      dsimp only
      split
      · have written := write_holds env player holds closed t (.channelSelectAck (-1)) start
        split
        · exact closed.sent _ _ rfl written
        · exact written
      · refine attempt_holds env player holds closed t _ _ (closed.sent t _ rfl start) fun u start => ?_
        exact closed.moved _ _ (closed.changed u _ ⟨rfl,rfl,rfl,rfl,rfl⟩ start)
  · exact handlePacket_upheld env player holds (closed_upheld env player holds closed) s packet start
      (fun channelName same => selects ⟨channelName,same⟩) listed created

end

end Fantuan.MasterServer.Effects
