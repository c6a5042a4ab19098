import Fantuan.RegionServer.FailReports

/-! The answers to RegionAllocReq. An answer is sent only for a player that was allocated, and it
always reports success: a request that is refused is not answered, and one whose slot is taken is
answered as if it had been indexed.
-/
namespace Fantuan.RegionServer.AllocAnswers
open Lib.Table Lib.Run ServerBase.ServerCommon Tool.ObjectPool ServerLoop Player Commands
  PlayerSteps Indexes SendScripts FailReports

/-- The results of the acks that were sent for a session. -/
def acks (sessionId : UInt32) (log : List Event) : List Int32 :=
  log.filterMap fun event => match event.message with
    | .onRegionAllocAck id _ result => if id = sessionId ∧ event.success = true then some result else none
    | _ => none

/-- A player was taken from the pool, and is in the map and in the slot. -/
structure Indexed (s t : Region) (sessionId : UInt32) (avatarId : UInt64) (player : Object) : Prop where
  allocated : s.playerContextPool.allocate = (some player,t.playerContextPool)
  avatar : find avatarId t.playerContextByAvatarId = some player
  slot : slotOf sessionId t.toLoop = some player

/-- The id is invalid, the pool is exhausted, or the slot is taken. -/
def Refused (s : Region) (sessionId : UInt32) : Prop :=
  validSession sessionId s = false ∨ s.playerContextPool.allocate.1 = none ∨
    slotOf sessionId s.toLoop ≠ none

structure Unchanged (s t : Region) : Prop where
  playerCount : t.playerCount = s.playerCount
  pool : t.playerContextPool = s.playerContextPool
  avatars : ∀ avatarId, find avatarId t.playerContextByAvatarId = find avatarId s.playerContextByAvatarId
  slots : ∀ gate index, slotAt gate index t.toLoop = slotAt gate index s.toLoop

/-- Between s and t a request of the session and the avatar was answered once. -/
structure Answers (s t : Region) (sessionId : UInt32) (avatarId : UInt64) (result : Int32) : Prop where
  once : acks sessionId t.log = result :: acks sessionId s.log
  success : result = 0 ↔ ∃ player, Indexed s t sessionId avatarId player
  refused : Refused s sessionId → result ≠ 0 ∧ Unchanged s t

def Answered (env : Env) (s : Region) (sessionId : UInt32) (avatarId : UInt64)
    (avatarName : WString) : Prop :=
  ∃ result, Answers s (step env s (.onRegionAllocReq sessionId avatarId avatarName)) sessionId avatarId
    result

/-- The id is valid, the slot is free, the ack can be sent, and the pool gives an unused player; nobody
else is in the map under the avatar. -/
structure Takes (env : Env) (s : Region) (sessionId : UInt32) (avatarId : UInt64) : Prop where
  valid : validSession sessionId s = true
  free : slotOf sessionId s.toLoop = none
  sent : env.net s.log.length = true
  spare : ∃ player, s.playerContextPool.allocate.1 = some player ∧ (s.contexts player).state = .none ∧
    ∀ other, find avatarId s.playerContextByAvatarId = some other → other = player

theorem does_indexes (s t : Region) (does : Does s t) :
    t.playerContextPool = s.playerContextPool ∧
      t.playerContextByAvatarId = s.playerContextByAvatarId ∧
      t.gateServerContext = s.gateServerContext := by
  induction does with
  | refl => exact ⟨rfl,rfl,rfl⟩
  | tail _ step ih => cases step <;> exact ih

section
variable (env : Env) (s : Region) (sessionId : UInt32) (avatarId : UInt64) (avatarName : WString)

theorem send_acks (serverId : UInt8) (result : Int32) :
    acks sessionId (send env (.onRegionAllocAck sessionId serverId result) s).log =
      if env.net s.log.length then result :: acks sessionId s.log else acks sessionId s.log := by
  rw [send,sends,acks,List.filterMap_cons]
  cases env.net s.log.length <;> simp [acks]

theorem onRegionAllocReq_acks (player : Object) (unused : (s.contexts player).state = .none) :
    acks sessionId (onRegionAllocReq env player sessionId avatarId avatarName s).log =
      if env.net s.log.length then 0 :: acks sessionId s.log else acks sessionId s.log := by
  have sent := send_acks env (allocation env player sessionId avatarId avatarName s) sessionId
    env.config.serverId 0
  rw [onRegionAllocReq_sends env player sessionId avatarId avatarName s unused,attempt]
  split
  · rw [stateTransition_log]
    exact sent
  · rw [shutdownPlayer_log]
    exact sent

theorem onRegionAllocReq_indexes (player : Object) (unused : (s.contexts player).state = .none) :
    (onRegionAllocReq env player sessionId avatarId avatarName s).playerContextPool = s.playerContextPool ∧
      (onRegionAllocReq env player sessionId avatarId avatarName s).playerContextByAvatarId =
        s.playerContextByAvatarId ∧
      (onRegionAllocReq env player sessionId avatarId avatarName s).gateServerContext =
        s.gateServerContext :=
  does_indexes (s.update player (allocated env sessionId avatarId avatarName)) _
    (onRegionAllocReq_unused env player sessionId avatarId avatarName s unused)

theorem step_refused (refused : validSession sessionId s = false ∨ s.playerContextPool.allocate.1 = none) :
    step env s (.onRegionAllocReq sessionId avatarId avatarName) = s := by
  rcases alloc_cases env sessionId avatarId avatarName s with same | ⟨player,pool,-,valid,taken,-⟩
  · exact same
  · rcases refused with invalid | exhausted
    · rw [valid] at invalid
      cases invalid
    · rw [taken] at exhausted
      cases exhausted

theorem step_enrolled (player : Object) (pool : Pool) (running : s.shutdownStatus = .notShutdown)
    (valid : validSession sessionId s = true) (taken : s.playerContextPool.allocate = (some player,pool)) :
    step env s (.onRegionAllocReq sessionId avatarId avatarName) =
      onRegionAllocReq env player sessionId avatarId avatarName
        (enrolled sessionId avatarId player pool s) := by
  rw [step,whileRunning,if_pos running,onCommandOnRegionAllocReq,valid,taken]
  rfl

theorem answers_once (t : Region) (result : Int32) (answers : Answers s t sessionId avatarId result) :
    acks sessionId t.log ≠ acks sessionId s.log := by
  rw [answers.once]
  exact List.cons_ne_self _ _

theorem refused_unanswered
    (refused : validSession sessionId s = false ∨ s.playerContextPool.allocate.1 = none) :
    ¬ Answered env s sessionId avatarId avatarName := by
  rintro ⟨result,answers⟩
  apply answers_once s sessionId avatarId _ result answers
  rw [step_refused env s sessionId avatarId avatarName refused]

theorem enrolled_answers (player : Object) (pool : Pool) (result : Int32)
    (answers : Answers s (onRegionAllocReq env player sessionId avatarId avatarName
      (enrolled sessionId avatarId player pool s)) sessionId avatarId result) :
    (s.contexts player).state = .none ∧ env.net s.log.length = true ∧ result = 0 := by
  have different := answers_once s sessionId avatarId _ result answers
  have unused : (s.contexts player).state = .none := by
    by_contra used
    rw [onRegionAllocReq_used env player sessionId avatarId avatarName
      (enrolled sessionId avatarId player pool s) used] at different
    exact different rfl
  have logged := onRegionAllocReq_acks env (enrolled sessionId avatarId player pool s) sessionId avatarId
    avatarName player unused
  rw [logged] at different
  have sent : env.net s.log.length = true := by
    by_contra lost
    exact different (if_neg lost)
  have once := answers.once
  rw [logged,show env.net (enrolled sessionId avatarId player pool s).log.length = true from sent,
    if_pos rfl] at once
  exact ⟨unused,sent,(List.cons.inj once).1.symm⟩

theorem answers_takes (player : Object) (pool : Pool) (result : Int32)
    (valid : validSession sessionId s = true) (taken : s.playerContextPool.allocate = (some player,pool))
    (answers : Answers s (onRegionAllocReq env player sessionId avatarId avatarName
      (enrolled sessionId avatarId player pool s)) sessionId avatarId result) :
    Takes env s sessionId avatarId := by
  obtain ⟨unused,sent,rfl⟩ := enrolled_answers env s sessionId avatarId avatarName player pool result answers
  have free : slotOf sessionId s.toLoop = none := by
    by_contra full
    exact (answers.refused (.inr (.inr full))).1 rfl
  refine ⟨valid,free,sent,player,by rw [taken],unused,fun other found => ?_⟩
  obtain ⟨-,avatars,-⟩ := onRegionAllocReq_indexes env (enrolled sessionId avatarId player pool s)
    sessionId avatarId avatarName player unused
  obtain ⟨given,indexed⟩ := answers.success.mp rfl
  obtain rfl : player = given := Option.some.inj (congrArg Prod.fst (taken.symm.trans indexed.allocated))
  have present := indexed.avatar
  rw [avatars] at present
  have kept := find_insert_kept avatarId avatarId player other s.playerContextByAvatarId found
  exact Option.some.inj (kept.symm.trans present)

theorem enrolled_indexed (player : Object) (pool : Pool)
    (taken : s.playerContextPool.allocate = (some player,pool)) (unused : (s.contexts player).state = .none)
    (free : slotOf sessionId s.toLoop = none)
    (own : ∀ other, find avatarId s.playerContextByAvatarId = some other → other = player) :
    Indexed s (onRegionAllocReq env player sessionId avatarId avatarName
      (enrolled sessionId avatarId player pool s)) sessionId avatarId player := by
  obtain ⟨pools,avatars,slots⟩ := onRegionAllocReq_indexes env (enrolled sessionId avatarId player pool s)
    sessionId avatarId avatarName player unused
  have listed : find avatarId (insert avatarId player s.playerContextByAvatarId) = some player := by
    cases found : find avatarId s.playerContextByAvatarId with
    | none => exact find_insert_same avatarId player _ found
    | some other =>
      rw [own other found] at found
      exact find_insert_kept avatarId avatarId player player _ found
  constructor
  · rw [pools]
    exact taken
  · rw [avatars]
    exact listed
  · rw [slotOf,slotAt,slots]
    exact (push_slots sessionId player _ free _ _).trans (if_pos ⟨rfl,rfl⟩)

theorem takes_answers (player : Object) (pool : Pool) (valid : validSession sessionId s = true)
    (free : slotOf sessionId s.toLoop = none) (sent : env.net s.log.length = true)
    (taken : s.playerContextPool.allocate = (some player,pool)) (unused : (s.contexts player).state = .none)
    (own : ∀ other, find avatarId s.playerContextByAvatarId = some other → other = player) :
    Answers s (onRegionAllocReq env player sessionId avatarId avatarName
      (enrolled sessionId avatarId player pool s)) sessionId avatarId 0 := by
  have logged := onRegionAllocReq_acks env (enrolled sessionId avatarId player pool s) sessionId avatarId
    avatarName player unused
  rw [show env.net (enrolled sessionId avatarId player pool s).log.length = true from sent,
    if_pos rfl] at logged
  have indexed := enrolled_indexed env s sessionId avatarId avatarName player pool taken unused free own
  refine ⟨logged,⟨fun _ => ⟨player,indexed⟩,fun _ => rfl⟩,fun refused => ?_⟩
  rcases refused with invalid | exhausted | full
  · rw [valid] at invalid
    cases invalid
  · rw [taken] at exhausted
    cases exhausted
  · exact absurd free full

end

/-- A request is answered once, and with its result, exactly if the player is taken in. -/
theorem regionAllocReq_answered_iff (env : Env) (s : Region) (sessionId : UInt32) (avatarId : UInt64)
    (avatarName : WString) (running : s.shutdownStatus = .notShutdown) :
    Answered env s sessionId avatarId avatarName ↔ Takes env s sessionId avatarId := by
  constructor
  · intro answered
    have valid : validSession sessionId s = true := by
      by_contra invalid
      exact refused_unanswered env s sessionId avatarId avatarName (.inl (by simpa using invalid)) answered
    cases taken : s.playerContextPool.allocate with
    | mk object pool =>
      cases object with
      | none =>
        exact absurd answered
          (refused_unanswered env s sessionId avatarId avatarName (.inr (congrArg Prod.fst taken)))
      | some player =>
        obtain ⟨result,answers⟩ := answered
        rw [step_enrolled env s sessionId avatarId avatarName player pool running valid taken] at answers
        exact answers_takes env s sessionId avatarId avatarName player pool result valid taken answers
  · rintro ⟨valid,free,sent,player,given,unused,own⟩
    have taken : s.playerContextPool.allocate = (some player,s.playerContextPool.allocate.2) :=
      Prod.ext given rfl
    refine ⟨0,?_⟩
    rw [step_enrolled env s sessionId avatarId avatarName player _ running valid taken]
    exact takes_answers env s sessionId avatarId avatarName player _ valid free sent taken unused own

theorem regionAllocReq_answered_first : Answered sampleEnv (init sampleEnv.config) firstSession 7 [97] :=
  (regionAllocReq_answered_iff sampleEnv (init sampleEnv.config) firstSession 7 [97] rfl).mpr
    ⟨by decide,by decide,rfl,0,by decide,rfl,fun other found => by cases found⟩

/-- A region for one player, to which a second one comes. -/
theorem regionAllocReq_unanswered_full : ¬ Answered {sampleEnv with config := ⟨2,1,1000⟩}
    (run (step {sampleEnv with config := ⟨2,1,1000⟩}) (init ⟨2,1,1000⟩)
      [.onRegionAllocReq firstSession 7 [97]]) secondSession 8 [98] :=
  refused_unanswered _ _ secondSession 8 [98] (.inr (by decide +kernel))

end Fantuan.RegionServer.AllocAnswers
