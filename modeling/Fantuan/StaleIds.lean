import Fantuan.GateServer.SessionIds
import Fantuan.ServerBase.SessionIds

/-! Old session ids. The sequence of an id has eight bits: a login or a chat session moves it on
twice for each connection, and a gate session once for each use, when the use begins.
-/
namespace Fantuan.StaleIds
open Lib.Run ServerBase.Sessions ServerBase.SessionServerLoop ServerBase.SessionIds

/-- What GetSession makes of an id at every later time. The connection that had it is still there
where the session is connected and has been given to no other connection. -/
theorem staleIds_unknown (env : Env) (earlier later : List Action) (session : Nat)
    (gate : GateServer.Session.Env) (gateEarlier gateLater : List GateServer.Commands.Action)
    (gateSession : Nat) (inside : gateSession < GateServer.Commands.poolMax gate.config)
    (has : connected session (run (step env) (init env.config) earlier) = true) :
    (let s := run (step env) (init env.config) earlier
     let t := run (step env) s later
     let connections := count (step env) (begins session) s later
     getSession env.config (s.sessions session).sessionId t = none ↔
       connected session t = false ∨ ¬ 128 ∣ connections) ∧
    (let s := run (GateServer.Commands.step gate) (GateServer.Commands.init gate.config) gateEarlier
     let t := run (GateServer.Commands.step gate) s gateLater
     let uses := count (GateServer.Commands.step gate) (GateServer.SessionIds.takes gateSession) s gateLater
     GateServer.Session.getSession (s.sessions gateSession).sessionId t = none ↔ ¬ 256 ∣ uses) := by
  constructor
  · intro s t connections
    rw [getSession_stale env earlier later session has]
    change ¬ (connected session t = true ∧ 128 ∣ connections) ↔ _
    rw [not_and_or,Bool.not_eq_true]
  · exact GateServer.SessionIds.getSession_stale gate gateEarlier gateLater gateSession inside

theorem staleIds_unknown_left :
    let s := run (step (sampleEnv .login)) (init (sampleEnv .login).config) [.onConnect 0]
    getSession (sampleEnv .login).config (s.sessions 0).sessionId
      (run (step (sampleEnv .login)) s [.onDisconnect 0]) = none :=
  (staleIds_unknown (sampleEnv .login) [.onConnect 0] [.onDisconnect 0] 0 GateServer.Commands.sampleEnv
    [] [] 0 (by decide) (by decide +kernel)).1.mpr (by decide +kernel)

/-- With a single session, the 128th client after the first one has its id. At the gate an id is
found after the session has been cleared. -/
theorem staleIds_known :
    let env : Env := ⟨{(sampleEnv .login).config with sessionMax := 1},fun _ => true,fun _ => true,fun _ => false⟩
    let s := run (step env) (init env.config) [.onConnect 0]
    let later := (List.replicate 128 [Action.onDisconnect 0,.onConnect 0]).flatten
    let gate := GateServer.Commands.sampleEnv
    let u := run (GateServer.Commands.step gate) (GateServer.Commands.init gate.config) [.gateAllocReq 7 [97]]
    let v := run (GateServer.Commands.step gate) u [.gateReleaseReq 7 [97],.pass]
    (count (step env) (begins 0) s later = 128 ∧
      getSession env.config (s.sessions 0).sessionId (run (step env) s later) = some 0) ∧
    GateServer.SessionIds.inUse 0 u = true ∧ GateServer.SessionIds.inUse 0 v = false ∧
      GateServer.Session.getSession (u.sessions 0).sessionId v = some 0 := by
  decide +kernel

end Fantuan.StaleIds
