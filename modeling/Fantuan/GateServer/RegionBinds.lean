import Fantuan.GateServer.SessionFrames
import Mathlib.Data.List.Induction

/-! The region that a session is bound to. RegionBindReq binds whatever session has the id, so that one
that comes late binds a session of which the next user inherits the region.
-/
namespace Fantuan.GateServer.RegionBinds
open Lib.Run ServerBase.ServerCommon Tool.ObjectPool ServerLoop Session Commands SessionFrames

def isLoggedIn : SessionState → Bool
  | .loggedIn | .gateLoginReq => true
  | _ => false

/-- A RegionBindReq with the id of the session came while the account was logged in on it, and since then
the session has kept the id and has not come to another user. -/
def Bound (env : Env) (actions : List Action) (session : Object) : Prop :=
  ∃ before sessionId regionServerId after, actions = before ++ .regionBindReq sessionId regionServerId :: after ∧
    isLoggedIn ((run (step env) (init env.config) before).sessions session).state = true ∧
    ((run (step env) (init env.config) before).sessions session).sessionId = sessionId ∧
    ∀ soon, soon <+: after →
      let data := (run (step env) (init env.config)
        (before ++ .regionBindReq sessionId regionServerId :: soon)).sessions session
      data.sessionId = sessionId ∧ isEarly data.state = false

/-- A session has a region only if it was bound to it, and none before an account has logged in on it. -/
structure Faithful (env : Env) (actions : List Action) (session : Object) : Prop where
  bound : ((run (step env) (init env.config) actions).sessions session).regionServer ≠ none →
    Bound env actions session
  fresh : isEarly ((run (step env) (init env.config) actions).sessions session).state = true →
    ((run (step env) (init env.config) actions).sessions session).regionServer = none

/-- A RegionBindReq for a region that is there finds an account logged in on the session. -/
def Bindable (env : Env) (s : Gate) : Action → Prop
  | .regionBindReq sessionId regionServerId => s.shutdownStatus = .notShutdown →
    env.hasPeerServer regionServerId = true → ∀ session, getSession sessionId s = some session →
      (s.sessions session).finalizing = false → isLoggedIn (s.sessions session).state = true
  | _ => True

theorem loggedIn_late (state : SessionState) (loggedIn : isLoggedIn state = true) : isEarly state = false := by
  cases state <;> first | rfl | cases loggedIn

theorem getSession_id (sessionId : UInt32) (s : Gate) (session : Object)
    (found : getSession sessionId s = some session) : (s.sessions session).sessionId = sessionId := by
  rw [getSession,Option.ite_none_right_eq_some] at found
  obtain ⟨own,same⟩ := found
  rw [← Option.some.inj same]
  exact own.2

section
variable (env : Env)

theorem run_snoc (actions : List Action) (action : Action) :
    run (step env) (init env.config) (actions ++ [action]) =
      step env (run (step env) (init env.config) actions) action := run_append ..

/-- A session that keeps its id stays bound until another use of it begins. -/
theorem bound_snoc (actions : List Action) (action : Action) (session : Object)
    (bound : Bound env actions session)
    (sessionId : ((run (step env) (init env.config) (actions ++ [action])).sessions session).sessionId =
      ((run (step env) (init env.config) actions).sessions session).sessionId)
    (late : isEarly ((run (step env) (init env.config) (actions ++ [action])).sessions session).state = false) :
    Bound env (actions ++ [action]) session := by
  obtain ⟨before,id,regionServerId,after,rfl,loggedIn,own,since⟩ := bound
  refine ⟨before,id,regionServerId,after ++ [action],by simp,loggedIn,own,fun soon first => ?_⟩
  rcases List.prefix_concat_iff.mp first with rfl | earlier
  · have last := (since after List.prefix_rfl).1
    rw [List.append_assoc,List.cons_append] at sessionId late
    exact ⟨sessionId.trans last,late⟩
  · exact since soon earlier

theorem snoc_faithful (actions : List Action) (action : Action) (session : Object)
    (faithful : Faithful env actions session)
    (bindable : Bindable env (run (step env) (init env.config) actions) action) :
    Faithful env (actions ++ [action]) session := by
  have next := run_snoc env actions action
  have becomes := step_becomes env (run (step env) (init env.config) actions) session action
  rw [← next] at becomes
  rcases becomes with frame | ⟨state,regionServer⟩ | begun | ⟨sessionId,regionServerId,rfl,running,found,active,data⟩
  · constructor
    · intro has
      rw [frame.regionServer] at has
      refine bound_snoc env actions action session (faithful.bound has) frame.sessionId ?_
      by_contra early
      exact has (faithful.fresh (frame.early (Bool.eq_true_of_not_eq_false early)))
    · intro early
      rw [frame.regionServer]
      exact faithful.fresh (frame.early early)
  · exact ⟨fun has => absurd regionServer has,fun _ => regionServer⟩
  · have none : ((run (step env) (init env.config) (actions ++ [action])).sessions session).regionServer = none := by
      rw [begun.regionServer]
      exact faithful.fresh (by rw [begun.free]; rfl)
    exact ⟨fun has => absurd none has,fun _ => none⟩
  · have own := getSession_id sessionId _ session found
    by_cases peer : env.hasPeerServer regionServerId = true
    · have loggedIn := bindable running peer session found active
      have late : isEarly ((run (step env) (init env.config)
          (actions ++ [Action.regionBindReq sessionId regionServerId])).sessions session).state = false := by
        rw [data]
        exact loggedIn_late _ loggedIn
      refine ⟨fun _ => ⟨actions,sessionId,regionServerId,[],rfl,loggedIn,own,fun soon first => ?_⟩,fun early => ?_⟩
      · rw [List.prefix_nil.mp first]
        refine ⟨?_,late⟩
        rw [data]
        exact own
      · rw [late] at early
        cases early
    · have none : ((run (step env) (init env.config)
          (actions ++ [Action.regionBindReq sessionId regionServerId])).sessions session).regionServer = none := by
        rw [data]
        exact if_neg peer
      exact ⟨fun has => absurd none has,fun _ => none⟩

end

/-- In a run in which RegionBindReq only finds sessions on which an account is logged in, a session has a
region only if it has been bound to it for the account, and none when its use begins. -/
theorem regionServer_bound (env : Env) (actions : List Action)
    (guarded : Guarded (step env) (Bindable env) (init env.config) actions) (session : Object) :
    Faithful env actions session := by
  induction actions using List.reverseRecOn with
  | nil => exact ⟨fun has => absurd rfl has,fun _ => rfl⟩
  | append_singleton actions action ih =>
    obtain ⟨before,bindable,-⟩ := guarded_append (step env) (Bindable env) _ actions action [] guarded
    exact snoc_faithful env actions action session (ih before) bindable

/-- An account logs in, and its region binds the session. -/
def loginAndBind : List Action :=
  [.onConnect 1,.gateAllocReq 10 [97],.onData 1 (.token [97]) 0,.pass,.regionBindReq 16777473 2]

theorem regionServer_bound_login :
    ((run (step sampleEnv) (init sampleEnv.config) loginAndBind).sessions 1).regionServer = some 2 ∧
      Bound sampleEnv loginAndBind 1 := by
  have guarded : Guarded (step sampleEnv) (Bindable sampleEnv) (init sampleEnv.config) loginAndBind := by
    refine ⟨trivial,trivial,trivial,trivial,fun _ _ session found _ => ?_,trivial⟩
    have known : getSession 16777473 (run (step sampleEnv) (init sampleEnv.config)
      [.onConnect 1,.gateAllocReq 10 [97],.onData 1 (.token [97]) 0,.pass]) = some 1 := by decide +kernel
    rw [← Option.some.inj (known.symm.trans found)]
    decide +kernel
  exact ⟨by decide +kernel,
    (regionServer_bound sampleEnv loginAndBind guarded 1).bound (by decide +kernel)⟩

/-- A session is allocated, released and bound, and comes to a client once the others are in use. -/
def bindReleased : List Action :=
  [.gateAllocReq 7 [97],.gateReleaseReq 7 [97],.pass,.regionBindReq 16777217 3,
    .gateAllocReq 1 [98],.gateAllocReq 2 [99],.gateAllocReq 3 [100],.gateAllocReq 4 [101],
    .gateAllocReq 5 [102],.gateAllocReq 6 [103],.onConnect 1,.onConnect 2,.onConnect 3,.onConnect 4]

/-- The client has just connected, and is bound to the region. -/
theorem regionServer_bound_late : ¬ ∀ session, Faithful sampleEnv bindReleased session := by
  intro faithful
  have fresh := (faithful 0).fresh (by decide +kernel)
  revert fresh
  decide +kernel

end Fantuan.GateServer.RegionBinds
