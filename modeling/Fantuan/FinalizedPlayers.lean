import Fantuan.CacheServer.FinalizedPlayers
import Fantuan.RegionServer.FinalizedPlayers

/-! The players in the finalizing queues of the regions and of the cache, until they are deleted. -/
namespace Fantuan.FinalizedPlayers
open Lib.Run

/-- In a region everything that is still handled for a player in the queue leaves it alone but its chats. In the
cache only what is refused by its state, or would change nothing, does. -/
theorem finalized_alone_iff (regionEnv : RegionServer.Player.Env)
    (regionActions : List RegionServer.Commands.Action) (cacheEnv : CacheServer.Player.Env)
    (cacheActions : List CacheServer.Commands.Action) :
    (Guarded (RegionServer.Commands.step regionEnv) (RegionServer.FinalizedPlayers.Framed regionEnv)
        (RegionServer.Commands.init regionEnv.config) regionActions ↔
      Guarded (RegionServer.Commands.step regionEnv) (RegionServer.FinalizedPlayers.Spared regionEnv)
        (RegionServer.Commands.init regionEnv.config) regionActions) ∧
    (Guarded (CacheServer.Commands.step cacheEnv) (CacheServer.FinalizedPlayers.Framed cacheEnv)
        (CacheServer.Commands.init cacheEnv.config) cacheActions ↔
      Guarded (CacheServer.Commands.step cacheEnv) (CacheServer.FinalizedPlayers.Spared cacheEnv)
        (CacheServer.Commands.init cacheEnv.config) cacheActions) :=
  ⟨RegionServer.FinalizedPlayers.region_framed_iff regionEnv regionActions,
    CacheServer.FinalizedPlayers.cache_framed_iff cacheEnv cacheActions⟩

section
open RegionServer.Commands

/-- A player has left the region before it got its initial data. -/
def left : List Action :=
  [.onRegionAllocReq firstSession 7 [97],.onRegionEnterReq firstSession,.onRegionEnterAck firstSession 0,
    .onRegionLeaveReq firstSession]

end

section
open CacheServer.Commands

/-- A player has logged out, and another avatar is asked for under its session; the finalizing comes first. -/
def loggedOut : List Action :=
  ([.onLoginReq firstSession [97],.onLogoutReq firstSession,
      .packetForward firstSession (.avatarCreateReq [98])] : List Action) ++
    answered ++ ([.work 0,.work 0,.work 0,.work 0,.work 0] : List Action)

end

/-- The chat of a player that has left is sent to the others, and the cache sends the result of a player that has
logged out to the master. -/
theorem finalized_alone_chat :
    ¬ Guarded (RegionServer.Commands.step RegionServer.Commands.sampleEnv)
      (RegionServer.FinalizedPlayers.Framed RegionServer.Commands.sampleEnv)
      (RegionServer.Commands.init RegionServer.Commands.sampleEnv.config)
      (left ++ [.packetForward RegionServer.Commands.firstSession (.regionChatReq [104])]) ∧
    ¬ Guarded (CacheServer.Commands.step CacheServer.Commands.sampleEnv)
      (CacheServer.FinalizedPlayers.Framed CacheServer.Commands.sampleEnv)
      (CacheServer.Commands.init CacheServer.Commands.sampleEnv.config) (loggedOut ++ [.result]) := by
  constructor
  · intro guarded
    obtain ⟨-,framed,-⟩ := guarded_append _ _ _ left _ [] guarded
    have frame := framed 0 (by decide +kernel) (by decide +kernel)
    exact absurd (congrArg List.length frame.silent) (by decide +kernel)
  · intro guarded
    obtain ⟨-,framed,-⟩ := guarded_append _ _ _ loggedOut _ [] guarded
    have frame := framed 0 (by decide +kernel) (by decide +kernel)
    exact absurd frame.silent (by decide +kernel)

end Fantuan.FinalizedPlayers
