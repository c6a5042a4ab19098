import Fantuan.ServerBase.SessionSteps

/-! The ids of the sessions of a loop. A step leaves the id of a session alone, or it begins or
ends a connection of it and moves the sequence on by one.
-/
namespace Fantuan.ServerBase.SessionIds
open Lib.Table Lib.Run ServerCommon Tool.ObjectPool Sessions SessionServerLoop SessionSteps

def connected (session : Object) (s : Loop) : Bool := (s.sessions session).connection.isSome

/-- The step from s to t gives the session to a connection. -/
def begins (session : Object) (s t : Loop) : Bool := !connected session s && connected session t

/-- What a step does to the id of a session and to its connection. -/
inductive Moves (session : Object) (s t : Loop) : Prop
  | same (sessionId : (t.sessions session).sessionId = (s.sessions session).sessionId)
      (line : connected session t = connected session s)
  | begun (sessionId : (t.sessions session).sessionId = nextSequence (s.sessions session).sessionId)
      (before : connected session s = false) (after : connected session t = true)
  | ended (sessionId : (t.sessions session).sessionId = nextSequence (s.sessions session).sessionId)
      (before : connected session s = true) (after : connected session t = false)

theorem moves_refl (session : Object) (s : Loop) : Moves session s s := .same rfl rfl

theorem step_moves (env : Env) (session : Object) (s : Loop) (action : Action) (sound : Sound env.config s) :
    Moves session s (step env s action) := by
  by_cases plain : plainAction action = true
  · have steady := step_steady env s action plain sound.sane
    exact .same (steady.sessionId session) (by rw [connected,steady.connection,connected])
  · cases action with
    | onConnect connection =>
      have connects := onConnect_connects env s connection sound
      generalize step env s (.onConnect connection) = t at connects
      cases connects with
      | busy => exact moves_refl session s
      | stopped => exact .same rfl rfl
      | refused => exact .same rfl rfl
      | given owner t dead gives =>
        by_cases same : session = owner
        · rw [same]
          refine .begun ?_ ?_ ?_
          · rw [gives.own]
          · rw [connected,(sound.free owner (by rw [gives.pool]; exact List.mem_cons_self)).2]
            rfl
          · rw [connected,gives.own]
            rfl
        · refine .same ?_ ?_
          · rw [gives.others session same]
          · rw [connected,gives.others session same,connected]
    | onDisconnect connection =>
      cases live : (s.connections connection).live with
      | false =>
        rw [step,live]
        exact moves_refl session s
      | true =>
        cases client : (s.connections connection).client with
        | none =>
          rw [onDisconnect_clientless env s connection client,if_pos live]
          exact .same rfl rfl
        | some owner =>
          have ended := onDisconnect_ended env s connection owner sound live client
          by_cases same : session = owner
          · rw [same]
            refine .ended ended.sessionId ?_ ?_
            · rw [connected,sound.clients connection owner live client]
              rfl
            · rw [connected,ended.bare]
              rfl
          · refine .same ?_ ?_
            · rw [ended.others session same]
            · rw [connected,ended.others session same,connected]
    | clearSession cleared =>
      rw [step]
      split
      · exact .same rfl rfl
      · exact moves_refl session s
    | _ => exact absurd rfl plain

/-- A connection moves the sequence on where it begins and where it ends. -/
theorem run_sequence (env : Env) (session : Object) (s : Loop) (actions : List Action)
    (sound : Sound env.config s) :
    ((run (step env) s actions).sessions session).sessionId.toNat / 256 =
        (s.sessions session).sessionId.toNat / 256 ∧
      (((run (step env) s actions).sessions session).sessionId.toNat +
          (connected session (run (step env) s actions)).toNat) % 256 =
        ((s.sessions session).sessionId.toNat + (connected session s).toNat +
          2 * count (step env) (begins session) s actions) % 256 := by
  induction actions generalizing s with
  | nil => exact ⟨rfl,rfl⟩
  | cons action actions ih =>
    obtain ⟨high,low⟩ := ih _ (step_sound env s action sound)
    rw [run,count]
    cases step_moves env session s action sound with
    | same sessionId line =>
      rw [sessionId,line] at low
      rw [sessionId] at high
      refine ⟨high,low.trans ?_⟩
      rw [begins,line]
      cases connected session s <;> simp
    | begun sessionId before after =>
      have next := nextSequence_toNat (s.sessions session).sessionId
      rw [sessionId,next] at high low
      rw [after] at low
      refine ⟨high.trans (by omega),low.trans ?_⟩
      rw [begins,before,after]
      simp only [Bool.toNat_true,Bool.toNat_false,Bool.not_false,Bool.and_self,if_true]
      omega
    | ended sessionId before after =>
      have next := nextSequence_toNat (s.sessions session).sessionId
      rw [sessionId,next] at high low
      rw [after] at low
      refine ⟨high.trans (by omega),low.trans ?_⟩
      rw [begins,before,after]
      simp only [Bool.toNat_true,Bool.toNat_false,Bool.not_true,Bool.and_self,Bool.false_eq_true,if_false]
      omega

theorem init_sessionId (config : Config) (session : Nat) (inside : session < config.sessionMax.toNat) :
    ((init config).sessions session).sessionId.toNat = config.serverId.toNat * 16777216 + session * 256 := by
  have few : session < 65536 := Nat.lt_trans inside config.sessionMax.toNat_lt
  have server := config.serverId.toNat_lt
  change (blankSession (if session < config.sessionMax.toNat then initialSessionId config session else 0)
    ).sessionId.toNat = _
  rw [if_pos inside]
  change (initialSessionId config session).toNat = _
  rw [initialSessionId]
  simp only [UInt32.toNat_add,UInt32.toNat_mul,UInt8.toNat_toUInt32,UInt32.toNat_ofNat,UInt32.toNat_ofNat']
  omega

/-- The sequence of a session is odd while it has a connection. -/
theorem run_numbered (env : Env) (actions : List Action) (session : Nat)
    (inside : session < env.config.sessionMax.toNat) :
    let s := run (step env) (init env.config) actions
    (s.sessions session).sessionId.toNat / 256 = env.config.serverId.toNat * 65536 + session ∧
      (s.sessions session).sessionId.toNat % 2 = (connected session s).toNat := by
  intro s
  obtain ⟨high,low⟩ := run_sequence env session _ actions (init_sound env)
  rw [init_sessionId env.config session inside,show connected session (init env.config) = false from rfl] at low
  rw [init_sessionId env.config session inside] at high
  refine ⟨high.trans (by omega),?_⟩
  change ((s.sessions session).sessionId.toNat + (connected session s).toNat) % 256 = _ at low
  rw [Bool.toNat_false] at low
  cases line : connected session s
  all_goals
    rw [line] at low
    simp only [Bool.toNat_true,Bool.toNat_false] at low ⊢
    omega

theorem run_index (env : Env) (actions : List Action) (session : Nat)
    (inside : session < env.config.sessionMax.toNat) :
    (sessionIndex ((run (step env) (init env.config) actions).sessions session).sessionId).toNat = session := by
  have few := env.config.sessionMax.toNat_lt
  rw [sessionIndex_toNat,(run_numbered env actions session inside).1]
  omega

theorem getSession_none (config : Config) (s : Loop) (sessionId : UInt32) (session : Object)
    (inside : session < config.sessionMax.toNat) (index : (sessionIndex sessionId).toNat = session) :
    getSession config sessionId s = none ↔ (s.sessions session).sessionId ≠ sessionId := by
  rw [getSession,index]
  simp [inside]

/-- An id comes back with every 128th connection of its session. -/
theorem getSession_stale (env : Env) (earlier later : List Action) (session : Nat) :
    let s := run (step env) (init env.config) earlier
    let t := run (step env) s later
    connected session s = true →
      (getSession env.config (s.sessions session).sessionId t = none ↔
        ¬ (connected session t = true ∧ 128 ∣ count (step env) (begins session) s later)) := by
  intro s t has
  have sound := run_sound env earlier
  obtain ⟨connection,own⟩ := Option.isSome_iff_exists.mp has
  have inside := (sound.owners session connection own).1
  have sequence : (t.sessions session).sessionId.toNat / 256 = (s.sessions session).sessionId.toNat / 256 ∧
      ((t.sessions session).sessionId.toNat + (connected session t).toNat) % 256 =
        ((s.sessions session).sessionId.toNat + (connected session s).toNat +
          2 * count (step env) (begins session) s later) % 256 :=
    run_sequence env session s later sound
  have index : (sessionIndex (s.sessions session).sessionId).toNat = session :=
    run_index env earlier session inside
  rw [getSession_none env.config t _ session inside index,not_iff_not,← UInt32.toNat_inj]
  clear_value t s
  rw [has] at sequence
  cases line : connected session t
  all_goals
    rw [line] at sequence
    simp only [Bool.toNat_true,Bool.toNat_false,Bool.false_eq_true,false_and,true_and,iff_false] at sequence ⊢
    omega

end Fantuan.ServerBase.SessionIds
