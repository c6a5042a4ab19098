import Fantuan.ServerBase.SessionSteps

/-! The connections that a session loop closes. A connection that was refused has no client_, so
that the command for its end has no session to close it.
-/
namespace Fantuan.ServerBase.SessionCloses
open Lib.Run ServerCommon Tool.ObjectPool Sessions SessionServerLoop SessionSteps

/-- The connections whose end the action reports. -/
def reported (s : Loop) : Action → List Nat
  | .onDisconnect connection => if (s.connections connection).live then [connection] else []
  | _ => []

def ClosesOnce (env : Env) (s : Loop) (action : Action) : Prop :=
  ∀ connection, (step env s action).log.count (.close connection) =
    s.log.count (.close connection) + (reported s action).count connection

def Owned (s : Loop) (connection : Nat) : Prop := (s.connections connection).client ≠ none

theorem onDisconnect_closesOnce (env : Env) (s : Loop) (connection : Nat) (sound : Sound env.config s) :
    ClosesOnce env s (.onDisconnect connection) ↔
      ∀ other ∈ reported s (.onDisconnect connection), Owned s other := by
  cases live : (s.connections connection).live with
  | false =>
    rw [ClosesOnce,reported,step,live]
    simp
  | true =>
    rw [ClosesOnce,reported,if_pos live,List.forall_mem_singleton,Owned]
    cases client : (s.connections connection).client with
    | none =>
      refine iff_of_false (fun closes => ?_) (by simp)
      have here := closes connection
      rw [onDisconnect_clientless env s connection client,if_pos live,List.count_singleton_self] at here
      change s.log.count _ = _ at here
      omega
    | some session =>
      refine iff_of_true (fun other => ?_) (by simp)
      rw [(onDisconnect_ended env s connection session sound live client).log,List.count_cons,
        List.count_singleton]
      simp

theorem step_closesOnce (env : Env) (s : Loop) (action : Action) (sound : Sound env.config s) :
    ClosesOnce env s action ↔ ∀ connection ∈ reported s action, Owned s connection := by
  have still (none : reported s action = [])
      (closes : ∀ connection, (step env s action).log.count (.close connection) =
        s.log.count (.close connection)) :
      ClosesOnce env s action ↔ ∀ connection ∈ reported s action, Owned s connection := by
    rw [ClosesOnce,none]
    exact iff_of_true closes (by simp)
  by_cases plain : plainAction action = true
  · refine still ?_ (step_steady env s action plain sound.sane).closes
    cases action with
    | onDisconnect => cases plain
    | _ => rfl
  · cases action with
    | onConnect connection =>
      have connects := onConnect_connects env s connection sound
      generalize step env s (.onConnect connection) = t at connects still
      apply still rfl
      intro other
      cases connects with
      | busy => rfl
      | stopped => rfl
      | refused => exact List.count_cons_of_ne (by simp)
      | given session t dead gives => rw [gives.log]
    | onDisconnect connection => exact onDisconnect_closesOnce env s connection sound
    | clearSession session =>
      apply still rfl
      intro other
      rw [step]
      split
      · rfl
      · rfl
    | _ => exact absurd rfl plain

end Fantuan.ServerBase.SessionCloses
