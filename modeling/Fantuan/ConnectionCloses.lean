import Fantuan.GateServer.SessionCloses
import Fantuan.ServerBase.SessionCloses

/-! The connections of the session servers and Connection::Close, which gives them back to the
acceptor. A refused connection is asked to disconnect, and nobody closes it after that.
-/
namespace Fantuan.ConnectionCloses
open Lib.Run ServerBase.Sessions ServerBase.SessionServerLoop ServerBase.SessionCloses

/-- In a run of a login, a chat or a gate server each connection whose end is reported is closed once,
and no other, if and only if each of them has an owner at that time. -/
theorem connections_closed (env : Env) (actions : List Action) (gate : GateServer.Session.Env)
    (gateActions : List GateServer.Commands.Action) :
    (Guarded (step env) (ClosesOnce env) (init env.config) actions ↔
      Guarded (step env) (fun s action => ∀ connection ∈ reported s action, Owned s connection)
        (init env.config) actions) ∧
    (Guarded (GateServer.Commands.step gate) (GateServer.SessionCloses.ClosesOnce gate)
        (GateServer.Commands.init gate.config) gateActions ↔
      Guarded (GateServer.Commands.step gate)
        (fun s action => ∀ connection ∈ GateServer.SessionCloses.reported s action,
          GateServer.SessionCloses.Owned s connection)
        (GateServer.Commands.init gate.config) gateActions) := by
  constructor
  · exact guarded_congr (step env) _ _ (ServerBase.SessionSteps.Sound env.config)
      (fun s action sound _ => ServerBase.SessionSteps.step_sound env s action sound)
      (fun s action sound => step_closesOnce env s action sound) _ actions
      (ServerBase.SessionSteps.init_sound env)
  · exact guarded_congr (GateServer.Commands.step gate) _ _ (fun _ => True) (fun _ _ _ _ => trivial)
      (fun s action _ => GateServer.SessionCloses.step_closesOnce gate s action) _ gateActions trivial

/-- The third client of a login server with two sessions, and the fifth of a gate with four temporary
ones, are not closed when their end is reported. -/
theorem connections_lost :
    let env := sampleEnv .login
    let s := run (step env) (init env.config) [.onConnect 0,.onConnect 1,.onConnect 2]
    let gate := GateServer.Commands.sampleEnv
    let t := run (GateServer.Commands.step gate) (GateServer.Commands.init gate.config)
      [.onConnect 0,.onConnect 1,.onConnect 2,.onConnect 3,.onConnect 4]
    ((s.connections 2).live = true ∧ ¬ ClosesOnce env s (.onDisconnect 2)) ∧
      (t.connections 4).live = true ∧ ¬ GateServer.SessionCloses.ClosesOnce gate t (.onDisconnect 4) := by
  intro env s gate t
  refine ⟨⟨by decide +kernel,fun closes => ?_⟩,by decide +kernel,fun closes => ?_⟩
  · have here := closes 2
    revert here
    decide +kernel
  · have here := closes 4
    revert here
    decide +kernel

end Fantuan.ConnectionCloses
