import Fantuan.ServerBase.SessionIds

/-! The session map of a loop, which shutdown walks over. OnConnection and OnDisconnect move the
id on after the map has been written, so an entry stays under the id before the connection.
-/
namespace Fantuan.ServerBase.SessionMaps
open Lib.Table Lib.Run ServerCommon Tool.ObjectPool Sessions SessionServerLoop SessionSteps SessionIds

/-- The map holds the connected sessions under their ids, and a walk over it meets just these. -/
structure Exact (s : Loop) : Prop where
  entries : ∀ sessionId session, find sessionId s.sessionMap = some session ↔
    connected session s = true ∧ sessionId = (s.sessions session).sessionId
  walked : ∀ session, session ∈ values s.sessionMap ↔ connected session s = true

/-- The action gives no session to a connection. -/
def Unused (s : Loop) : Action → Prop
  | .onConnect connection =>
    (s.connections connection).live = true ∨ s.shutdownStatus ≠ .notShutdown ∨
      s.sessionPool.allocate.1 = none
  | _ => True

structure Idle (config : Config) (s : Loop) : Prop where
  sound : Sound config s
  map : s.sessionMap = ∅
  bare : ∀ session, connected session s = false

theorem idle_exact (config : Config) (s : Loop) (idle : Idle config s) : Exact s := by
  refine ⟨fun sessionId session => ?_,fun session => ?_⟩
  · rw [idle.map,idle.bare session,find_empty]
    simp
  · rw [idle.map,idle.bare session,mem_values]
    simp

theorem init_idle (env : Env) : Idle env.config (init env.config) := ⟨init_sound env,rfl,fun _ => rfl⟩

section
variable (env : Env) (s : Loop)

theorem given_inexact (session : Object) (connection : Nat) (t : Loop) (gives : Given session connection s t)
    (idle : Idle env.config s) : ¬ Exact t := by
  intro exact
  have listed : find (s.sessions session).sessionId t.sessionMap = some session := by
    rw [gives.map,idle.map]
    exact find_insert_same _ session ∅ (find_empty _)
  obtain ⟨-,same⟩ := (exact.entries _ session).mp listed
  have next := nextSequence_toNat (s.sessions session).sessionId
  have own : (t.sessions session).sessionId = nextSequence (s.sessions session).sessionId := by
    rw [gives.own]
  rw [own] at same
  rw [← same] at next
  omega

theorem given_used (session : Object) (connection : Nat) (t : Loop)
    (dead : (s.connections connection).live = false) (gives : Given session connection s t)
    (sound : Sound env.config s) : ¬ Unused s (.onConnect connection) := by
  rintro (live | ending | exhausted)
  · rw [dead] at live
    cases live
  · exact ending gives.running
  · have list := gives.pool
    rcases s.sessionPool.allocate_cases (sound.used.trans sound.maxSize.symm) with
      ⟨empty,-⟩ | ⟨object,rest,-,-,taken⟩
    · rw [empty] at list
      cases list
    · rw [taken] at exhausted
      cases exhausted

theorem step_idle (action : Action) (idle : Idle env.config s) :
    (Unused s action ∧ Idle env.config (step env s action)) ∨
      (¬ Unused s action ∧ ¬ Exact (step env s action)) := by
  have sound := step_sound env s action idle.sound
  by_cases plain : plainAction action = true
  · have steady := step_steady env s action plain idle.sound.sane
    refine .inl ⟨?_,sound,steady.map.trans idle.map,fun session => ?_⟩
    · cases action with
      | onConnect => cases plain
      | _ => trivial
    · rw [connected,steady.connection]
      exact idle.bare session
  · cases action with
    | onConnect connection =>
      have connects := onConnect_connects env s connection idle.sound
      generalize step env s (.onConnect connection) = t at connects sound
      cases connects with
      | busy live => exact .inl ⟨.inl live,idle⟩
      | stopped dead ending => exact .inl ⟨.inr (.inl ending),sound,idle.map,idle.bare⟩
      | refused dead empty =>
        refine .inl ⟨.inr (.inr ?_),sound,idle.map,idle.bare⟩
        rcases s.sessionPool.allocate_cases (idle.sound.used.trans idle.sound.maxSize.symm) with
          ⟨-,none⟩ | ⟨object,rest,list,-,-⟩
        · rw [none]
        · rw [empty] at list
          cases list
      | given session t dead gives =>
        exact .inr ⟨given_used env s session connection t dead gives idle.sound,
          given_inexact env s session connection t gives idle⟩
    | onDisconnect connection =>
      suffices frame : (step env s (.onDisconnect connection)).sessionMap = ∅ ∧
          ∀ session, connected session (step env s (.onDisconnect connection)) = false from
        .inl ⟨trivial,sound,frame.1,frame.2⟩
      cases client : (s.connections connection).client with
      | none =>
        rw [onDisconnect_clientless env s connection client]
        split
        · exact ⟨idle.map,idle.bare⟩
        · exact ⟨idle.map,idle.bare⟩
      | some session =>
        cases live : (s.connections connection).live with
        | false =>
          rw [step,live]
          exact ⟨idle.map,idle.bare⟩
        | true =>
          have bare := idle.bare session
          rw [connected,idle.sound.clients connection session live client] at bare
          cases bare
    | clearSession session =>
      refine .inl ⟨trivial,sound,?_,fun other => ?_⟩
      · rw [step]
        split
        · change erase _ s.sessionMap = ∅
          rw [idle.map]
          exact empty_of_find _ fun sessionId => by rw [find_erase,find_empty,ite_self]
        · exact idle.map
      · rw [step]
        split
        · exact idle.bare other
        · exact idle.bare other
    | _ => exact absurd rfl plain

/-- The map is right in every state that a run reaches if and only if no session is given out. -/
theorem run_exact (actions : List Action) :
    Guarded (step env) (fun s action => Exact (step env s action)) (init env.config) actions ↔
      Guarded (step env) Unused (init env.config) actions := by
  refine guarded_congr (step env) Unused _ (Idle env.config) ?_ ?_ _ actions (init_idle env)
  · intro s action idle unused
    rcases step_idle env s action idle with ⟨-,kept⟩ | ⟨used,-⟩
    · exact kept
    · exact absurd unused used
  · intro s action idle
    rcases step_idle env s action idle with ⟨unused,kept⟩ | ⟨used,inexact⟩
    · exact iff_of_true (idle_exact env.config _ kept) unused
    · exact iff_of_false inexact used

end

/-- A client of the login server is not under its id; one that has left the chat server is still listed. -/
theorem map_inexact :
    let s := run (step (sampleEnv .login)) (init (sampleEnv .login).config) [.onConnect 0]
    let t := run (step (sampleEnv .chat)) (init (sampleEnv .chat).config) [.onConnect 0,.onDisconnect 0]
    ¬ Exact s ∧ ¬ Exact t := by
  intro s t
  constructor
  · intro exact
    have listed := (exact.entries 16777217 0).mpr (by decide +kernel)
    have missing : find 16777217 s.sessionMap = none := by decide +kernel
    rw [missing] at listed
    cases listed
  · intro exact
    have left := (exact.walked 0).mp (by decide +kernel)
    have gone : connected 0 t = false := by decide +kernel
    rw [gone] at left
    cases left

end Fantuan.ServerBase.SessionMaps
