import Fantuan.GateServer.ConnectionTimes
import Fantuan.ServerBase.SessionTimes

/-! The timeouts of the sessions. The deadline is computed on a clock that begins again after 2^32
milliseconds, and the gate checks only a part of its sessions.
-/
namespace Fantuan.Timeouts
open Lib.Clock

/-- In every timed run the checks of the servers tell just the sessions that have reached their timeout, if
and only if the deadlines are in order with the present on the clock, and the gate comes to the session or
its timeout has not been reached. -/
theorem timeouts_timely_iff (env : ServerBase.Sessions.Env) (actions : List ServerBase.SessionServerLoop.Action)
    (gate : GateServer.Session.Env) (gateActions : List GateServer.Commands.Action) (session : Nat) :
    (let t := ServerBase.SessionTimes.timedRun env actions
     ServerBase.SessionTimes.Checked env t session ↔ ServerBase.SessionTimes.Timely env t session) ∧
    (let t := GateServer.ConnectionTimes.timedRun gate gateActions
     GateServer.ConnectionTimes.Checked gate t session ↔ GateServer.ConnectionTimes.Timely gate t session) :=
  ⟨ServerBase.SessionTimes.checked_iff env actions session,
    GateServer.ConnectionTimes.checked_iff gate gateActions session⟩

/-- A client connects half a second before the clock begins again. -/
def wrapping : List ServerBase.SessionServerLoop.Action := [.tick 4294966796,.onConnect 0,.tick 100]

/-- Six accounts are allocated, a client gets the seventh session, and ten seconds pass. -/
def crowded : List GateServer.Commands.Action :=
  [.gateAllocReq 1 [97],.gateAllocReq 2 [98],.gateAllocReq 3 [99],.gateAllocReq 4 [100],.gateAllocReq 5 [101],
    .gateAllocReq 6 [102],.onConnect 1,.tick 10000]

/-- The first client is told after a tenth of a second, the second one never. -/
theorem timeouts_wrong :
    (let env := ServerBase.SessionServerLoop.sampleEnv .login
     ¬ ServerBase.SessionTimes.Checked env (ServerBase.SessionTimes.timedRun env wrapping) 0) ∧
    (let gate := GateServer.Commands.sampleEnv
     ¬ GateServer.ConnectionTimes.Checked gate (GateServer.ConnectionTimes.timedRun gate crowded) 6) := by
  constructor
  · intro env checked
    have timely := (ServerBase.SessionTimes.checked_iff env wrapping 0).mp checked
    have order := timely (by decide +kernel) 1000 (by decide +kernel)
    revert order
    rw [InOrder]
    decide +kernel
  · intro gate checked
    have timely := (GateServer.ConnectionTimes.checked_iff gate crowded 6).mp checked
    have early := (timely (by decide +kernel) (by decide +kernel)).2 fun visited => absurd visited.1 (by decide +kernel)
    revert early
    decide +kernel

end Fantuan.Timeouts
