import Fantuan.GateServer.Indexes

/-! The ids of the sessions of a gate. The sequence moves on where a session is taken for a
connection or for an account; neither its end nor ClearSession changes the id.
-/
namespace Fantuan.GateServer.SessionIds
open Lib.Drain Lib.Run ServerBase.ServerCommon Tool.ObjectPool ServerLoop Session Commands SessionSteps
  Indexes

def inUse (session : Object) (s : Gate) : Bool := (s.sessions session).state ≠ .none

def takes (session : Object) (s t : Gate) : Bool := !inUse session s && inUse session t

/-- What a step does to the id of a session and to its use. -/
inductive Moves (session : Object) (s t : Gate) : Prop
  | same (sessionId : (t.sessions session).sessionId = (s.sessions session).sessionId)
      (unused : inUse session s = false → inUse session t = false)
  | taken (sessionId : (t.sessions session).sessionId = nextSequence (s.sessions session).sessionId)
      (before : inUse session s = false) (after : inUse session t = true)

theorem moves_refl (session : Object) (s : Gate) : Moves session s s := .same rfl id

theorem moves_congr (session : Object) (s t : Gate) (same : t.sessions session = s.sessions session) :
    Moves session s t := by
  refine .same (by rw [same]) ?_
  rw [inUse,inUse,same]
  exact id

structure Same (session : Object) (s t : Gate) : Prop where
  sessionId : (t.sessions session).sessionId = (s.sessions session).sessionId
  inUse : inUse session t = inUse session s

theorem sessionStep_same (session : Object) (s t : Gate) (step : SessionStep s t) : Same session s t := by
  have kept (other : Object) (change : GateSession → GateSession)
      (kept : Kept s.sessionMapByName other (s.sessions other) (change (s.sessions other))) :
      Same session s (s.update other change) := by
    by_cases same : session = other
    · rw [same]
      refine ⟨?_,?_⟩
      · rw [update_same,kept.sessionId]
      · simp only [inUse,update_same,ne_eq,kept.used]
    · refine ⟨?_,?_⟩
      · rw [update_other s other session change same]
      · rw [inUse,inUse,update_other s other session change same]
  cases step with
  | change other change still keeps => exact kept other change keeps
  | queue other => exact {kept other (fun data => {data with finalizing := true}) ⟨rfl,rfl,.rfl,id,.inl rfl⟩ with}
  | _ => exact ⟨rfl,rfl⟩

theorem does_same (session : Object) (s t : Gate) (does : Does s t) : Same session s t := by
  induction does with
  | refl => exact ⟨rfl,rfl⟩
  | tail _ step ih =>
    have last := sessionStep_same session _ _ step
    exact ⟨last.sessionId.trans ih.sessionId,last.inUse.trans ih.inUse⟩

theorem does_moves (session : Object) (s t : Gate) (does : Does s t) : Moves session s t := by
  have same := does_same session s t does
  exact .same same.sessionId fun unused => same.inUse.trans unused

theorem onConnection_moves (session owner : Object) (connection : Nat) (s : Gate) :
    Moves session s (onConnection owner connection s) := by
  by_cases same : session = owner
  · rw [same]
    by_cases unused : (s.sessions owner).state = .none
    · rw [onConnection_unused owner connection s unused]
      refine .taken ?_ ?_ ?_
      · rw [update_same]
        rfl
      · simp [inUse,unused]
      · rw [inUse,update_same]
        rfl
    · have unreached : reaches .onConnection owner s ≠ some .onConnection := by
        intro reached
        exact unused (fresh_none s owner _ _ rfl reached)
      rw [onConnection,if_neg unreached]
      refine .same ?_ ?_
      · rw [update_same]
      · rw [inUse,inUse,update_same]
        exact id
  · apply moves_congr
    rw [onConnection,update_other _ owner session _ same]
    split
    · exact Function.update_of_ne same ..
    · rfl

theorem onGateAllocReq_moves (env : Env) (session owner : Object) (loginSessionId : UInt32)
    (accountName : WString) (s : Gate) :
    Moves session s (onGateAllocReq env owner loginSessionId accountName s) := by
  by_cases unused : (s.sessions owner).state = .none
  · rw [onGateAllocReq_unused env owner loginSessionId accountName s unused]
    dsimp only
    by_cases same : session = owner
    · rw [same]
      refine .taken ?_ ?_ ?_
      · split
        · rw [setState,update_same]
          simp [Gate.note,allocated]
        · simp [Gate.note,allocated]
      · simp [inUse,unused]
      · split
        · rw [inUse,setState,update_same]
          rfl
        · simp [inUse,Gate.note,allocated]
    · apply moves_congr
      have first : (s.update owner (allocated loginSessionId accountName)).sessions session =
          s.sessions session := update_other s owner session _ same
      split
      · rw [setState,update_other _ owner session _ same]
        exact first
      · exact first
  · have unreached : reaches .onGateAllocReq owner s ≠ some .onGateAllocReq := by
      intro reached
      exact unused (fresh_none s owner _ _ rfl reached)
    rw [onGateAllocReq,if_neg unreached]
    exact moves_refl session s

theorem pass_moves (session : Object) (s : Gate) :
    Moves session s {s with toLoop := loopPass s.toLoop} := by
  have drained : ((drainBack clearSession s.finalizingQueue s.toLoop).sessions session).sessionId =
        (s.sessions session).sessionId ∧
      ((s.sessions session).state = .none →
        ((drainBack clearSession s.finalizingQueue s.toLoop).sessions session).state = .none) := by
    refine drainBack_invariant clearSession (fun loop =>
      (loop.sessions session).sessionId = (s.sessions session).sessionId ∧
        ((s.sessions session).state = .none → (loop.sessions session).state = .none))
      s.finalizingQueue ?_ s.toLoop ⟨rfl,id⟩
    rintro owner - loop ⟨sessionId,unused⟩
    dsimp only [clearSession]
    by_cases same : session = owner
    · subst same
      rw [Function.update_self]
      exact ⟨sessionId,fun _ => rfl⟩
    · rw [Function.update_of_ne same]
      exact ⟨sessionId,unused⟩
  obtain ⟨sessionId,unused⟩ := drained
  refine .same ?_ ?_
  · rw [loopPass]
    split
    · exact sessionId
    · exact sessionId
  · simp only [inUse,ne_eq,decide_not,Bool.not_eq_false',decide_eq_true_eq]
    rw [loopPass]
    split
    · exact unused
    · exact unused

theorem step_moves (env : Env) (session : Object) (s : Gate) (action : Action)
    (indexed : Indexed env.config s) : Moves session s (step env s action) := by
  by_cases plain : plainAction action = true
  · exact does_moves session s _ (step_does env s action indexed plain)
  · cases action with
    | onConnect connection =>
      rcases onConnect_cases env connection s indexed with
        does | ⟨owner,rest,-,-,-,-,result⟩
      · exact does_moves session s _ does
      · rw [result]
        cases onConnection_moves session owner connection (take rest (accept connection s)) with
        | same sessionId unused => exact .same sessionId unused
        | taken sessionId before after => exact .taken sessionId before after
    | gateAllocReq loginSessionId accountName =>
      have asks := gateAllocReq_asks env loginSessionId accountName s indexed
      generalize step env s (.gateAllocReq loginSessionId accountName) = t at asks ⊢
      cases asks with
      | stopped => exact moves_refl session s
      | duplicate => exact .same rfl id
      | full => exact .same rfl id
      | crash => exact .same rfl id
      | allocated owner rest =>
        cases onGateAllocReq_moves env session owner loginSessionId accountName
          (allot accountName owner rest (s.note (.gateAllocReq loginSessionId accountName))) with
        | same sessionId unused => exact .same sessionId unused
        | taken sessionId before after => exact .taken sessionId before after
    | pass => exact pass_moves session s
    | _ => exact absurd rfl plain

theorem run_sequence (env : Env) (session : Object) (s : Gate) (actions : List Action)
    (indexed : Indexed env.config s) :
    ((run (step env) s actions).sessions session).sessionId.toNat / 256 =
        (s.sessions session).sessionId.toNat / 256 ∧
      ((run (step env) s actions).sessions session).sessionId.toNat % 256 =
        ((s.sessions session).sessionId.toNat + count (step env) (takes session) s actions) % 256 := by
  induction actions generalizing s with
  | nil => exact ⟨rfl,rfl⟩
  | cons action actions ih =>
    obtain ⟨high,low⟩ := ih _ (step_indexed env s action indexed)
    rw [run,count]
    cases step_moves env session s action indexed with
    | same sessionId unused =>
      rw [sessionId] at high low
      have still : takes session s (step env s action) = false := by
        rw [takes]
        cases before : inUse session s with
        | true => rfl
        | false => rw [unused before]; rfl
      rw [still]
      simpa using ⟨high,low⟩
    | taken sessionId before after =>
      have next := nextSequence_toNat (s.sessions session).sessionId
      rw [sessionId,next] at high low
      refine ⟨high.trans (by omega),low.trans ?_⟩
      rw [takes,before,after]
      simp only [Bool.not_false,Bool.and_self,if_true]
      omega

/-- An id stays until its session is taken again, and comes back with every 256th use. -/
theorem getSession_stale (env : Env) (earlier later : List Action) (session : Nat)
    (inside : session < poolMax env.config) :
    let s := run (step env) (init env.config) earlier
    let t := run (step env) s later
    getSession (s.sessions session).sessionId t = none ↔
      ¬ 256 ∣ count (step env) (takes session) s later := by
  intro s t
  have indexed : Indexed env.config s := run_indexed env earlier
  have size : t.sessionPool.maxSize = poolMax env.config := by
    have ends := run_indexed env (earlier ++ later)
    rw [run_append] at ends
    exact ends.maxSize
  have index : (sessionIndex (s.sessions session).sessionId).toNat = session :=
    (indexed.ids session inside).1
  have sequence : (t.sessions session).sessionId.toNat / 256 = (s.sessions session).sessionId.toNat / 256 ∧
      (t.sessions session).sessionId.toNat % 256 =
        ((s.sessions session).sessionId.toNat + count (step env) (takes session) s later) % 256 :=
    run_sequence env session s later indexed
  rw [getSession,index,size]
  simp only [inside,true_and,ite_eq_right_iff,reduceCtorEq,imp_false,not_iff_not]
  rw [← UInt32.toNat_inj]
  clear_value t s
  omega

end Fantuan.GateServer.SessionIds
