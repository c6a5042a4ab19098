import Mathlib.Data.List.Basic

/-! The state machine of a player on the master server. The rows of a state are its
AddTransition calls in source order; a second row for an event would change nothing.
-/
namespace Fantuan.MasterServer.PlayerFsm

inductive PlayerState where
  | none | onLoginReq | gateAllocReq | gateAllocAck | gateAllocFailAck | gateAllocNtf
  | onGateLoginReq | cacheLoginReq | onAvatarListReq | avatarListReq | onAvatarListAck
  | avatarListAck | onAvatarCreateReq | avatarCreateReq | onAvatarCreateAck
  | onAvatarSelectReq | avatarSelectReq | onAvatarSelectAck | avatarSelectAck
  | channelListNtf | onChannelSelectReq | regionAllocReq | onRegionAllocAck
  | onRegionAllocFailAck | channelSelectAck | channelSelectFailAck | regionEnterReq
  | onChannelLeaveReq | onChannelLeave_onRegionLeaveReq | onChannelLeave_regionLeaveAck
  | finalizing | finalizing_onRegionLeaveReq | finalizing_regionLeaveAck | logout
  deriving DecidableEq

inductive PlayerEvent where
  | onLoginReq | gateAllocReq | gateAllocAck | gateAllocFailAck | gateAllocNtf
  | onGateLoginReq | onSessionDisconnect | cacheLoginReq | onAvatarListReq | avatarListReq
  | onAvatarListAck | avatarListAck | onAvatarCreateReq | avatarCreateReq | onAvatarCreateAck
  | avatarCreateAck | onAvatarSelectReq | avatarSelectReq | onAvatarSelectAck | avatarSelectAck
  | channelListNtf | onChannelSelectReq | regionAllocReq | onRegionAllocAck
  | onRegionAllocFailAck | channelSelectAck | regionEnterReq | onChannelLeaveReq
  | onRegionLeaveReq | regionLeaveAck | finalize | logout
  deriving DecidableEq

def initStateMachine : PlayerState → List (PlayerEvent × PlayerState)
  | .none => [(.onLoginReq,.onLoginReq)]
  | .onLoginReq => [(.gateAllocReq,.gateAllocReq),(.onSessionDisconnect,.gateAllocReq)]
  | .gateAllocReq => [(.gateAllocAck,.gateAllocAck),(.gateAllocFailAck,.gateAllocFailAck),
      (.onSessionDisconnect,.gateAllocAck)]
  | .gateAllocAck => [(.gateAllocNtf,.gateAllocNtf),(.onSessionDisconnect,.gateAllocAck)]
  | .gateAllocFailAck => [(.onSessionDisconnect,.gateAllocFailAck)]
  | .gateAllocNtf => [(.onGateLoginReq,.onGateLoginReq),(.onSessionDisconnect,.gateAllocNtf)]
  | .onGateLoginReq => [(.onSessionDisconnect,.onGateLoginReq),(.cacheLoginReq,.cacheLoginReq)]
  | .cacheLoginReq => [(.onSessionDisconnect,.cacheLoginReq),(.onAvatarListReq,.onAvatarListReq)]
  | .onAvatarListReq => [(.avatarListReq,.avatarListReq),(.onSessionDisconnect,.onAvatarListReq)]
  | .avatarListReq => [(.onAvatarListAck,.onAvatarListAck),(.onSessionDisconnect,.avatarListReq)]
  | .onAvatarListAck => [(.avatarListAck,.avatarListAck),(.onSessionDisconnect,.onAvatarListAck)]
  | .avatarListAck => [(.onAvatarCreateReq,.onAvatarCreateReq),
      (.onAvatarSelectReq,.onAvatarSelectReq),(.onSessionDisconnect,.avatarListAck)]
  | .onAvatarCreateReq => [(.avatarCreateReq,.avatarCreateReq),(.avatarCreateAck,.avatarListAck),
      (.onSessionDisconnect,.onAvatarCreateReq)]
  | .avatarCreateReq => [(.onAvatarCreateAck,.onAvatarCreateAck),
      (.onSessionDisconnect,.avatarCreateReq)]
  | .onAvatarCreateAck => [(.avatarCreateAck,.avatarListAck),
      (.onSessionDisconnect,.onAvatarCreateAck)]
  | .onAvatarSelectReq => [(.avatarSelectReq,.avatarSelectReq),
      (.onSessionDisconnect,.avatarSelectReq)]
  | .avatarSelectReq => [(.onAvatarSelectAck,.onAvatarSelectAck),
      (.onSessionDisconnect,.avatarSelectReq)]
  | .onAvatarSelectAck => [(.avatarSelectAck,.avatarSelectAck),
      (.onSessionDisconnect,.onAvatarSelectAck)]
  | .avatarSelectAck => [(.channelListNtf,.channelListNtf),(.onSessionDisconnect,.avatarSelectAck)]
  | .channelListNtf => [(.onChannelSelectReq,.onChannelSelectReq),
      (.onAvatarListReq,.onAvatarListReq),(.onSessionDisconnect,.channelListNtf)]
  | .onChannelSelectReq => [(.regionAllocReq,.regionAllocReq),
      (.onSessionDisconnect,.onChannelSelectReq)]
  | .regionAllocReq => [(.onRegionAllocAck,.onRegionAllocAck),
      (.onRegionAllocFailAck,.onRegionAllocFailAck),(.onSessionDisconnect,.regionAllocReq)]
  | .onRegionAllocAck => [(.channelSelectAck,.channelSelectAck),
      (.onSessionDisconnect,.onRegionAllocAck)]
  | .onRegionAllocFailAck => [(.channelSelectAck,.channelSelectFailAck),
      (.onSessionDisconnect,.onRegionAllocFailAck)]
  | .channelSelectAck => [(.regionEnterReq,.regionEnterReq),(.onSessionDisconnect,.channelSelectAck)]
  | .channelSelectFailAck => [(.channelListNtf,.channelListNtf),
      (.onSessionDisconnect,.channelSelectFailAck)]
  | .regionEnterReq => [(.onChannelLeaveReq,.onChannelLeaveReq),(.finalize,.finalizing),
      (.onSessionDisconnect,.finalizing)]
  -- the source names the event PLAYER_EVENT_ONCHANNELLEAVEREQ as the target: both are number 27
  | .onChannelLeaveReq => [(.regionLeaveAck,.onChannelLeave_regionLeaveAck),
      (.onSessionDisconnect,.onChannelLeaveReq)]
  | .onChannelLeave_regionLeaveAck => [(.onRegionLeaveReq,.onChannelLeave_onRegionLeaveReq),
      (.onSessionDisconnect,.finalizing_regionLeaveAck)]
  | .onChannelLeave_onRegionLeaveReq => [(.channelListNtf,.channelListNtf),
      (.onSessionDisconnect,.onChannelLeave_onRegionLeaveReq)]
  | .finalizing => [(.regionLeaveAck,.finalizing_regionLeaveAck),(.onSessionDisconnect,.finalizing)]
  | .finalizing_regionLeaveAck => [(.onRegionLeaveReq,.finalizing_onRegionLeaveReq),
      (.onSessionDisconnect,.finalizing_regionLeaveAck)]
  | .finalizing_onRegionLeaveReq => [(.logout,.logout),
      (.onSessionDisconnect,.finalizing_onRegionLeaveReq)]
  | .logout => [(.onSessionDisconnect,.logout)]

def transition (state : PlayerState) (event : PlayerEvent) : Option PlayerState :=
  ((initStateMachine state).find? fun row => row.1 = event).map Prod.snd

theorem transition_mem (state next : PlayerState) (event : PlayerEvent)
    (reached : transition state event = some next) : (event,next) ∈ initStateMachine state := by
  obtain ⟨row,found,rfl⟩ := Option.map_eq_some_iff.mp reached
  have same : row.1 = event := by simpa using List.find?_some found
  rw [← same]
  exact List.mem_of_find?_eq_some found

end Fantuan.MasterServer.PlayerFsm
