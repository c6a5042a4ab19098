import Fantuan.CacheServer.ServerLoop
import Fantuan.GateServer.ServerLoop
import Fantuan.Lib.Run
import Fantuan.MasterServer.Deletion
import Fantuan.RegionServer.ServerLoop

/-! The finalizing queues of the four servers. Each loop takes the last entry of its queue
but pops the first one, so a pass is right for at most one entry.
-/
namespace Fantuan.FinalizingQueues
open Lib.Run MasterServer.Context MasterServer.Commands

/-- A pass of the master, the region, the cache and the gate deletes every queued player or
session once exactly if there is at most one, and the maps have it only where the deletion
looks. -/
theorem loops_passed (master : Loop) (region : RegionServer.ServerLoop.Loop) (DBEvent : Type)
    (onDBEventResult : DBEvent → CacheServer.ServerLoop.Loop → CacheServer.ServerLoop.Loop)
    (returnList : List DBEvent) (cache : CacheServer.ServerLoop.Loop)
    (gate : GateServer.ServerLoop.Loop) :
    (MasterServer.Deletion.Passed master (loopPass master) ↔
      master.finalizingQueue.length ≤ 1 ∧
        ∀ player ∈ master.finalizingQueue, MasterServer.Deletion.Placed player master) ∧
    (RegionServer.ServerLoop.Passed region (RegionServer.ServerLoop.loopPass region) ↔
      region.finalizingQueue.length ≤ 1 ∧
        ∀ player ∈ region.finalizingQueue, RegionServer.ServerLoop.Placed player region) ∧
    (CacheServer.ServerLoop.Passed
        (CacheServer.ServerLoop.applyResults onDBEventResult returnList cache)
        (CacheServer.ServerLoop.loopPass onDBEventResult returnList cache) ↔
      (CacheServer.ServerLoop.applyResults onDBEventResult returnList
        cache).finalizingQueue.length ≤ 1 ∧
        ∀ player ∈ (CacheServer.ServerLoop.applyResults onDBEventResult returnList
          cache).finalizingQueue,
          CacheServer.ServerLoop.Placed player
            (CacheServer.ServerLoop.applyResults onDBEventResult returnList cache)) ∧
    (GateServer.ServerLoop.Passed gate (GateServer.ServerLoop.loopPass gate) ↔
      gate.finalizingQueue.length ≤ 1 ∧
        ∀ session ∈ gate.finalizingQueue, GateServer.ServerLoop.Placed session gate) := by
  refine ⟨?_,?_,?_,?_⟩
  · exact MasterServer.Deletion.loopPass_passed master
  · exact RegionServer.ServerLoop.loopPass_passed region
  · exact CacheServer.ServerLoop.loopPass_passed onDBEventResult returnList cache
  · exact GateServer.ServerLoop.loopPass_passed gate

/-- Two players are at the gate when both of their sessions are disconnected. -/
def twoDisconnects : List Action :=
  [.command (.onLoginReport 1),.command (.onLoginReq 10 [99]),.command (.onLoginReq 11 [100]),
    .command (.gateAllocAck 1 10 [99] 16777216),.command (.gateAllocAck 1 11 [100] 16777472),
    .command (.onGateLoginReq 16777216),.command (.onGateLoginReq 16777472),
    .command (.onSessionDisconnect 16777216),.command (.onSessionDisconnect 16777472)]

/-- The pass deletes the second player twice and the first one not at all. -/
theorem loops_passed_twoDisconnects :
    let env := sampleEnv fun _ => true
    let s := run (step env) (.init env.config) twoDisconnects
    s.finalizingQueue = [0,1] ∧ (loopPass s).playerContextPool.objectList = [1,1] ∧
      ¬ MasterServer.Deletion.Passed s (loopPass s) := by
  have queue : (run (step (sampleEnv fun _ => true)) (.init (sampleEnv fun _ => true).config)
    twoDisconnects).finalizingQueue = [0,1] := by decide +kernel
  have freed : (loopPass (run (step (sampleEnv fun _ => true))
    (.init (sampleEnv fun _ => true).config) twoDisconnects)).playerContextPool.objectList = [1,1] := by
    decide +kernel
  refine ⟨queue,freed,fun passed => ?_⟩
  have once := passed.2.once 0
  rw [queue,freed] at once
  have before : (run (step (sampleEnv fun _ => true)) (.init (sampleEnv fun _ => true).config)
    twoDisconnects).playerContextPool.objectList = [] := by decide +kernel
  rw [before] at once
  revert once
  decide

end Fantuan.FinalizingQueues
