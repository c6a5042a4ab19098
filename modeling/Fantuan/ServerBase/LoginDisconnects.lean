import Fantuan.ServerBase.SessionEffects

/-! A client that leaves while the master handles its login request. The session is cleared before
its state is read, so that the master is never told.
-/
namespace Fantuan.ServerBase.LoginDisconnects
open Lib.Table Lib.Run ServerCommon Tool.ObjectPool Sessions SessionServerLoop SessionEffects

/-- Only events that do not tell the master are logged. -/
def Silent (s t : Loop) : Prop := ∃ events, t.log = events ++ s.log ∧ ∀ event ∈ events, informs event = false

/-- The connection of a session whose request is pending ends, and no shutdown has started. -/
structure EndsPending (s : Loop) (connection : Nat) (session : Object) : Prop where
  live : (s.connections connection).live = true
  client : (s.connections connection).client = some session
  pending : (s.sessions session).state = .onLoginReq
  running : s.shutdownStatus = .notShutdown

/-- OnSessionDisconnect for the id of the session, whether the master gets it or not. -/
def informsOf (sessionId : UInt32) : Event → Bool
  | .sent (.onSessionDisconnect other) _ => other = sessionId
  | _ => false

/-- The request was made under the id of the session, for which the master is told once after s. -/
def Notified (session : Object) (s t : Loop) : Prop :=
  ∃ accountName, .sent (.onLoginReq (s.sessions session).sessionId accountName) true ∈ s.log ∧
    t.log.countP (informsOf (s.sessions session).sessionId) =
      s.log.countP (informsOf (s.sessions session).sessionId) + 1

section
variable (env : Env) (s : Loop)

theorem silent_refl : Silent s s := ⟨[],rfl,by simp⟩

theorem silent_trans (t u : Loop) (first : Silent s t) (second : Silent t u) : Silent s u := by
  obtain ⟨early,wrote,quiet⟩ := first
  obtain ⟨late,wroteLate,quietLate⟩ := second
  refine ⟨late ++ early,?_,fun event member => ?_⟩
  · rw [wroteLate,wrote,List.append_assoc]
  · rcases List.mem_append.mp member with new | old
    · exact quietLate event new
    · exact quiet event old

theorem silent_same (t : Loop) (log : t.log = s.log) : Silent s t := ⟨[],log,by simp⟩

theorem note_silent (event : Event) (quiet : informs event = false) : Silent s (s.note event) := by
  refine ⟨[event],rfl,fun other member => ?_⟩
  rw [List.mem_singleton.mp member]
  exact quiet

theorem does_silent (t : Loop) (does : Does env s t) : Silent s t := by
  induction does with
  | refl => exact silent_refl s
  | tail _ step ih =>
    refine silent_trans s _ _ ih ?_
    cases step with
    | beside _ _ log _ => exact silent_same _ _ log
    | note event quiet => exact note_silent _ event quiet
    | _ => exact silent_same _ _ rfl

theorem onCommandOnConnect_silent (connection : Nat) : Silent s (onCommandOnConnect env connection s) := by
  rw [onCommandOnConnect]
  split
  · exact note_silent s _ rfl
  · rw [onConnection]
    split
    · exact silent_same s _ rfl
    · exact silent_same s _ rfl

theorem step_silent (action : Action) : Silent s (step env s action) := by
  cases action with
  | onConnect connection =>
    rw [step]
    split
    · exact silent_refl s
    · have accepted : Silent s (accept connection s) := silent_same s _ rfl
      refine silent_trans s _ _ accepted ?_
      rw [whileRunning]
      split
      · exact onCommandOnConnect_silent env _ connection
      · exact silent_refl _
  | tick => exact silent_same s _ rfl
  | _ => exact does_silent env s _ (step_does env s _ (by simp) (by simp))

theorem run_silent (actions : List Action) : Silent s (run (step env) s actions) := by
  induction actions generalizing s with
  | nil => exact silent_refl s
  | cons action actions ih => exact silent_trans s _ _ (step_silent env s action) (ih _)

/-- No later state of the loop is one in which the master has been told. -/
theorem silent_unnotified (session : Object) (t : Loop) (silent : Silent s t) : ¬ Notified session s t := by
  rintro ⟨-,-,once⟩
  obtain ⟨events,wrote,quiet⟩ := silent
  have none : events.countP (informsOf (s.sessions session).sessionId) = 0 := by
    rw [List.countP_eq_zero]
    intro event member tells
    have dumb := quiet event member
    cases event with
    | sent message success => cases message <;> simp [informs,informsOf] at dumb tells
    | _ => cases tells
  rw [wrote,List.countP_append,none] at once
  omega

end

/-- Whenever a connection ends in the run while the request of its session is pending, the master is
told once from there on. -/
def Notifies (env : Env) (actions : List Action) : Prop :=
  ∀ before connection after session, actions = before ++ .onDisconnect connection :: after →
    let s := run (step env) (init env.config) before
    EndsPending s connection session →
      ∃ soon, soon <+: after ∧ Notified session s (run (step env) s (.onDisconnect connection :: soon))

/-- The master is told once of each client that leaves with its request pending if and only if no client
does. -/
theorem run_notifies (env : Env) (actions : List Action) :
    Notifies env actions ↔
      ∀ before connection after session, actions = before ++ .onDisconnect connection :: after →
        ¬ EndsPending (run (step env) (init env.config) before) connection session := by
  constructor
  · intro notifies before connection after session split pending
    obtain ⟨soon,-,notified⟩ := notifies before connection after session split pending
    exact silent_unnotified _ session _ (run_silent env _ _) notified
  · intro never before connection after session split s pending
    exact absurd pending (never before connection after session split)

/-- The client asks with the right version and leaves before the master answers. -/
theorem run_notifies_left :
    ¬ Notifies (sampleEnv .login)
      [.onConnect 0,.onData 0 (.token [97]) [],.onData 0 .waiting [.versionReq clientVersion],.onDisconnect 0] := by
  intro notifies
  let asked : List Action :=
    [.onConnect 0,.onData 0 (.token [97]) [],.onData 0 .waiting [.versionReq clientVersion]]
  have pending : EndsPending (run (step (sampleEnv .login)) (init (sampleEnv .login).config) asked) 0 0 :=
    ⟨by decide +kernel,by decide +kernel,by decide +kernel,by decide +kernel⟩
  obtain ⟨soon,-,notified⟩ := notifies asked 0 [] 0 rfl pending
  exact silent_unnotified _ 0 _ (run_silent (sampleEnv .login) _ _) notified

end Fantuan.ServerBase.LoginDisconnects
