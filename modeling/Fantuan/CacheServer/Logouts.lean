import Fantuan.CacheServer.LoginMarks

/-! Logging out of the cache. A logout asks for Finalize, whose result queues the player, and the
next pass deletes it; a player that waits for its avatar list or for the choice of its avatar
ignores the logout.
-/
namespace Fantuan.CacheServer.Logouts
open Lib.Table Lib.Run Tool.ObjectPool CacheDBEvent ServerLoop Player Commands PlayerSteps Sessions
  PoolEvents OpenEvents Settling LoginMarks

/-- A pass deletes at most one player, the pool returns an event once, and a logout that is
accepted does not ask for Finalize twice. -/
def Proper (env : Env) (s : Cache) : Action → Prop
  | .onLogoutReq sessionId => s.shutdownStatus = .notShutdown →
    ∀ player ∈ find sessionId s.playerContextBySessionId,
      (transition (s.contexts player).state .onLogoutReq).isSome = true →
        finalizeEvents env s player ≤ 1
  | .result => ∀ event ∈ s.dbConnPool.returnList.head?, .handled event ∉ s.log
  | .drain => s.finalizingQueue.length ≤ 1
  | _ => True

instance (env : Env) (s : Cache) : DecidablePred (Proper env s)
  | .onLogoutReq sessionId => inferInstanceAs (Decidable (_ →
      ∀ player ∈ find sessionId s.playerContextBySessionId, _ → _ ≤ _))
  | .result => inferInstanceAs (Decidable (∀ event ∈ s.dbConnPool.returnList.head?, _))
  | .drain => inferInstanceAs (Decidable (_ ≤ _))
  | .shutdown | .onLoginReq _ _ | .onRegionEnterReq _ _ _ | .packetForward _ _ | .saveData | .tick _
  | .work _ => inferInstanceAs (Decidable True)

/-- What a step of the loop is, as long as it is proper. -/
inductive Moves (env : Env) (s : Cache) : Cache → Prop
  | settled (t : Cache) (settled : Settled env s t) : Moves env s t
  | handled (event : Nat) (rest : List Nat) (t : Cache)
      (returned : s.dbConnPool.returnList = event :: rest) (fresh : .handled event ∉ s.log)
      (other : (s.dbEvents event).data = .avatarFinalize →
        find (s.dbEvents event).sessionId s.playerContextBySessionId = none)
      (settled : Settled env (taken event s) t) : Moves env s t
  | queued (event : Nat) (rest : List Nat) (player : Object)
      (returned : s.dbConnPool.returnList = event :: rest) (fresh : .handled event ∉ s.log)
      (found : find (s.dbEvents event).sessionId s.playerContextBySessionId = some player)
      (data : (s.dbEvents event).data = .avatarFinalize) :
      Moves env s (addPlayerToFinalizingQueue player (taken event s))
  | login (sessionId : UInt32) (accountName : List UInt16) (player : Object) (pool : Pool)
      (allocated : s.playerContextPool.allocate = (some player,pool)) :
      Moves env s (enrolled sessionId accountName player pool s)
  | drained (status : ServerBase.ServerCommon.ShutdownStatus) (empty : s.finalizingQueue = []) :
      Moves env s {s with shutdownStatus := status}
  | deleted (player : Object) (status : ServerBase.ServerCommon.ShutdownStatus)
      (queue : s.finalizingQueue = [player]) :
      Moves env s {deleted player s with shutdownStatus := status}

theorem result_moves (env : Env) (s : Cache) (sound : Sound s) (waiting : Waiting s)
    (proper : Proper env s .result) : Moves env s (step env s .result) := by
  rw [step,onDBEventResult]
  split
  next event rest returned =>
    have fresh : .handled event ∉ s.log := proper event (by rw [returned]; rfl)
    obtain ⟨stays,frees⟩ := taken_waiting s event rest returned waiting
    change Moves env s (forSession _ _ (taken event s))
    cases found : find (s.dbEvents event).sessionId s.playerContextBySessionId with
    | none =>
      rw [forSession_none _ _ (taken event s) found]
      exact .handled event rest _ returned fresh (fun _ => found) .refl
    | some player =>
      have session := sound_keyed s sound _ player found
      have listed : Listed (taken event s) player := by
        rw [Listed]
        change find (s.contexts player).sessionId s.playerContextBySessionId = _
        rw [session]
        exact found
      rw [forSession_some _ _ (taken event s) player found]
      cases data : (s.dbEvents event).data with
      | avatarFinalize =>
        rw [onPlayerEventResult,data]
        exact .queued event rest player returned fresh found data
      | avatarSelectData avatarId avatarName lastChannelId =>
        have deciding : decides (s.dbEvents event).data = true := by rw [data]; rfl
        have known := waiting.pool.returned event (by simp [returned])
        obtain ⟨waiter,found',awaited,-⟩ := waiting.waits event ⟨known,fresh,deciding⟩
        rw [found] at found'
        obtain rfl := Option.some.inj found'
        rw [data] at awaited
        have free := frees fresh deciding
        rw [← session] at free
        rw [onPlayerEventResult,data]
        refine .handled event rest _ returned fresh (fun same => ?_) ?_
        · rw [data] at same
          cases same
        · exact onPlayerEventAvatarSelectResult_settled env player _ _ avatarId avatarName lastChannelId
            listed free (Option.some.inj awaited).symm
      | _ =>
        refine .handled event rest _ returned fresh (fun same => ?_) (does_settled env _ _ ?_)
        · rw [data] at same
          cases same
        · exact onPlayerEventResult_does env False False player _ listed _
            (by simp [data,decides,awaits]) False.elim
  · exact .settled s .refl

theorem step_moves (env : Env) (s : Cache) (action : Action) (sound : Sound s) (waiting : Waiting s)
    (proper : Proper env s action) : Moves env s (step env s action) := by
  have keyed := sound_keyed s sound
  have plays (plain : plainAction action = true) (quiet : loudAction action = false) :
      Moves env s (step env s action) :=
    .settled _ (does_settled env _ _
      (step_does env False False s action plain keyed (by simp [quiet])))
  cases action with
  | onLoginReq sessionId accountName =>
    rcases onLoginReq_cases env s sessionId accountName (unused s sound) with
      same | ⟨player,pool,-,allocated,result⟩
    · rw [same]
      exact .settled s .refl
    · rw [result]
      exact .login sessionId accountName player pool allocated
  | onLogoutReq sessionId =>
    rw [step,whileRunning]
    split
    next running =>
      rw [forSession]
      split
      next player found =>
        have listed : Listed s player := by
          rw [Listed,keyed sessionId player found]
          exact found
        exact .settled _ (onLogoutReq_settled env player s listed waiting (proper running player found))
      · exact .settled s .refl
    · exact .settled s .refl
  | packetForward sessionId packet =>
    cases packet with
    | avatarSelectReq avatarName =>
      rw [step,whileRunning]
      split
      · rw [forSession]
        split
        next player found =>
          have listed : Listed s player := by
            rw [Listed,keyed sessionId player found]
            exact found
          rw [onPacketReceived]
          split
          · exact .settled _ (onAvatarSelectReq_settled env player s _ listed waiting)
          · exact .settled s .refl
        · exact .settled s .refl
      · exact .settled s .refl
    | _ => exact plays rfl rfl
  | result => exact result_moves env s sound waiting proper
  | drain =>
    obtain ⟨status,⟨empty,result⟩ | ⟨player,queue,result⟩⟩ := drain_cases s proper
    · rw [step,result]
      exact .drained status empty
    · rw [step,result]
      exact .deleted player status queue
  | _ => exact plays rfl rfl

structure Tidy (s : Cache) : Prop where
  sound : Sound s
  waiting : Waiting s
  ledger : Ledger s

theorem init_tidy (config : Config) : Tidy (init config) :=
  ⟨init_sound config,init_waiting config,init_ledger config⟩

theorem settled_tidy (env : Env) (s t : Cache) (settled : Settled env s t) (tidy : Tidy s) : Tidy t where
  sound := does_sound env True False s t (settled_does env s t settled) tidy.sound
  waiting := settled_waiting env s t settled tidy.sound tidy.waiting
  ledger := steady_ledger s t (settled_steady env s t settled) tidy.ledger

theorem taken_tidy (event : Nat) (rest : List Nat) (s : Cache)
    (returned : s.dbConnPool.returnList = event :: rest) (tidy : Tidy s) : Tidy (taken event s) where
  sound := ⟨tidy.sound.pool,tidy.sound.sessions,tidy.sound.blank,tidy.sound.queued⟩
  waiting := (taken_waiting s event rest returned tidy.waiting).1
  ledger := steady_ledger s _ (taken_steady event s) tidy.ledger

theorem returned_open (s : Cache) (event : Nat) (rest : List Nat) (waiting : Waiting s)
    (returned : s.dbConnPool.returnList = event :: rest) (fresh : .handled event ∉ s.log)
    (deciding : decides (s.dbEvents event).data = true) : Open s event :=
  ⟨waiting.pool.returned event (by simp [returned]),fresh,deciding⟩

theorem queued_tidy (s : Cache) (event : Nat) (rest : List Nat) (player : Object)
    (returned : s.dbConnPool.returnList = event :: rest) (fresh : .handled event ∉ s.log)
    (found : find (s.dbEvents event).sessionId s.playerContextBySessionId = some player)
    (data : (s.dbEvents event).data = .avatarFinalize) (tidy : Tidy s) :
    Tidy (addPlayerToFinalizingQueue player (taken event s)) := by
  have deciding : decides (s.dbEvents event).data = true := by rw [data]; rfl
  obtain ⟨waiter,found',awaited,active⟩ := tidy.waiting.waits event
    (returned_open s event rest tidy.waiting returned fresh deciding)
  rw [found] at found'
  obtain rfl := Option.some.inj found'
  have popped := taken_tidy event rest s returned tidy
  have session := sound_keyed s tidy.sound _ player found
  have listed : Listed (taken event s) player := by
    rw [← session] at found
    exact found
  have free := (taken_waiting s event rest returned tidy.waiting).2 fresh deciding
  rw [← session] at free
  have state : (s.contexts player).state = .onLogoutReq := by
    rw [data] at awaited
    exact (Option.some.inj awaited).symm
  exact ⟨addPlayerToFinalizingQueue_sound _ player listed popped.sound,
    addPlayerToFinalizingQueue_waiting player _ free state (sound_keyed _ popped.sound) popped.waiting,
    addPlayerToFinalizingQueue_ledger _ player popped.ledger (sound_live _ popped.sound player listed)
      active⟩

section
variable (s : Cache) (player : Object) (tidy : Tidy s)
include tidy

theorem enrolled_tidy (sessionId : UInt32) (accountName : List UInt16) (pool : Pool)
    (allocated : s.playerContextPool.allocate = (some player,pool)) :
    Tidy (enrolled sessionId accountName player pool s) := by
  have fresh := (allocate_sound _ _ player tidy.sound.pool allocated).2.1
  refine ⟨enrolled_sound s sessionId accountName player pool allocated tidy.sound,?_,
    enrolled_ledger s player tidy.ledger sessionId accountName pool allocated tidy.sound⟩
  refine narrows_waiting s _ (narrows_same s _ rfl rfl fun _ => .rfl) ?_ ?_ tidy.waiting
  · intro event other opened found active
    have different : other ≠ player := by
      rintro rfl
      exact fresh (tidy.sound.sessions _ other found).1
    refine ⟨find_insert_kept sessionId _ player other _ found,?_⟩
    rw [enrolled_other _ _ player other _ _ different]
    exact ⟨rfl,active⟩
  · intro other finalizing
    by_cases same : other = player
    · rw [same,enrolled_same,tidy.sound.blank player fresh] at finalizing
      cases finalizing
    · rw [enrolled_other _ _ player other _ _ same] at finalizing ⊢
      exact tidy.waiting.leaving other finalizing

theorem deleted_tidy (queue : s.finalizingQueue = [player]) : Tidy (deleted player s) := by
  obtain ⟨listed,marked⟩ := tidy.sound.queued player (by simp [queue])
  refine ⟨deleted_sound s player queue tidy.sound,?_,deleted_ledger s player tidy.ledger queue tidy.sound⟩
  have narrows : Narrows s (deleted player s) := by
    refine narrows_same s _ rfl rfl fun event => ?_
    exact ⟨fun member => (List.mem_cons.mp member).resolve_left (by simp),List.mem_cons_of_mem _⟩
  refine narrows_waiting s _ narrows ?_ ?_ tidy.waiting
  · intro event other opened found active
    have different : other ≠ player := by
      rintro rfl
      rw [marked] at active
      cases active
    refine ⟨?_,?_⟩
    · have elsewhere : (s.dbEvents event).sessionId ≠ (s.contexts player).sessionId := by
        intro same
        rw [same,listed] at found
        exact different (Option.some.inj found).symm
      change find _ (erase (s.contexts player).sessionId s.playerContextBySessionId) = some other
      rw [find_erase,if_neg elsewhere]
      exact found
    · rw [deleted_other player other s different]
      exact ⟨rfl,active⟩
  · intro other finalizing
    by_cases same : other = player
    · rw [same,deleted_same] at finalizing
      cases finalizing
    · rw [deleted_other player other s same] at finalizing ⊢
      exact tidy.waiting.leaving other finalizing

end

theorem moves_tidy (env : Env) (s t : Cache) (moves : Moves env s t) (tidy : Tidy s) : Tidy t := by
  cases moves with
  | settled _ settled => exact settled_tidy env s t settled tidy
  | handled event rest _ returned _ _ settled =>
    exact settled_tidy env _ t settled (taken_tidy event rest s returned tidy)
  | queued event rest player returned fresh found data =>
    exact queued_tidy s event rest player returned fresh found data tidy
  | login sessionId accountName player pool allocated =>
    exact enrolled_tidy s player tidy sessionId accountName pool allocated
  | drained status empty =>
    obtain ⟨sound,waiting,ledger⟩ := tidy
    exact ⟨⟨sound.pool,sound.sessions,sound.blank,sound.queued⟩,
      ⟨waiting.pool,waiting.handled,waiting.waits,waiting.single,waiting.leaving⟩,
      ⟨ledger.known,ledger.distinct,ledger.marked,ledger.queued,ledger.undeleted,ledger.past,
        ledger.future⟩⟩
  | deleted player status queue =>
    obtain ⟨sound,waiting,ledger⟩ := deleted_tidy s player tidy queue
    exact ⟨⟨sound.pool,sound.sessions,sound.blank,sound.queued⟩,
      ⟨waiting.pool,waiting.handled,waiting.waits,waiting.single,waiting.leaving⟩,
      ⟨ledger.known,ledger.distinct,ledger.marked,ledger.queued,ledger.undeleted,ledger.past,
        ledger.future⟩⟩

theorem run_tidy (env : Env) (s : Cache) (actions : List Action)
    (guarded : Guarded (step env) (Proper env) s actions) (tidy : Tidy s) :
    Tidy (run (step env) s actions) :=
  run_invariant (step env) (Proper env) Tidy
    (fun s action tidy proper => moves_tidy env s _ (step_moves env s action tidy.sound tidy.waiting proper)
      tidy) s actions guarded tidy

/-- The login is waiting for the event to be queued, or it has been queued. -/
def Leaves (player : Object) (login event : Nat) (s : Cache) : Prop :=
  (Open s event ∧ find (s.dbEvents event).sessionId s.playerContextBySessionId = some player ∧
      awaits (s.dbEvents event).data = some .onLogoutReq ∧ s.logins player = login) ∨
    1 ≤ s.log.count (.queued login)

theorem awaits_finalize (data : EventData) (awaited : awaits data = some .onLogoutReq) :
    data = .avatarFinalize := by
  cases data with
  | avatarFinalize => rfl
  | avatarSelectData => cases awaited
  | _ => cases awaited

theorem settled_leaves (env : Env) (s t : Cache) (player : Object) (login event : Nat)
    (settled : Settled env s t) (leaves : Leaves player login event s) : Leaves player login event t := by
  have steady := settled_steady env s t settled
  rcases leaves with ⟨opened,found,awaited,current⟩ | queued
  · obtain ⟨still,session,same⟩ := settled_stays env s t settled event opened
    rw [Leaves,session,same,steady.sessions,steady.logins]
    exact .inl ⟨still,found,awaited,current⟩
  · rw [Leaves,steady.queued]
    exact .inr queued

theorem taken_leaves (s : Cache) (player : Object) (login event other : Nat) (different : event ≠ other)
    (leaves : Leaves player login event s) : Leaves player login event (taken other s) := by
  rcases leaves with ⟨⟨inside,unhandled,deciding⟩,found,awaited,current⟩ | queued
  · refine .inl ⟨⟨inside,fun member => ?_,deciding⟩,found,awaited,current⟩
    rcases List.mem_cons.mp member with same | before
    · exact different (Mark.handled.inj same)
    · exact unhandled before
  · refine .inr ?_
    rw [(taken_steady other s).queued]
    exact queued

theorem addPlayerToFinalizingQueue_leaves (s : Cache) (player other : Object) (login event : Nat)
    (leaves : Leaves player login event s) :
    Leaves player login event (addPlayerToFinalizingQueue other s) := by
  rcases leaves with ⟨⟨inside,unhandled,deciding⟩,found,awaited,current⟩ | queued
  · refine .inl ⟨⟨inside,fun member => ?_,deciding⟩,found,awaited,current⟩
    exact unhandled ((List.mem_cons.mp member).resolve_left (by simp))
  · exact .inr (queued.trans (List.count_le_count_cons))

theorem moves_leaves (env : Env) (s t : Cache) (player : Object) (login event : Nat)
    (moves : Moves env s t) (tidy : Tidy s) (leaves : Leaves player login event s) :
    Leaves player login event t := by
  cases moves with
  | settled _ settled => exact settled_leaves env s t player login event settled leaves
  | handled other rest _ returned fresh unfound settled =>
    refine settled_leaves env _ t player login event settled ?_
    by_cases same : event = other
    · subst same
      rcases leaves with ⟨-,found,awaited,-⟩ | queued
      · rw [unfound (awaits_finalize _ awaited)] at found
        cases found
      · refine .inr ?_
        rw [(taken_steady event s).queued]
        exact queued
    · exact taken_leaves s player login event other same leaves
  | queued other rest waiter returned fresh found' data =>
    by_cases same : event = other
    · subst same
      refine .inr ?_
      rcases leaves with ⟨-,found,-,rfl⟩ | queued
      · rw [found] at found'
        obtain rfl := Option.some.inj found'
        change 1 ≤ (Mark.queued (s.logins player) :: (taken event s).log).count _
        rw [List.count_cons_self]
        omega
      · rw [← (taken_steady event s).queued] at queued
        exact queued.trans List.count_le_count_cons
    · exact addPlayerToFinalizingQueue_leaves _ player waiter login event
        (taken_leaves s player login event other same leaves)
  | login sessionId accountName fresh pool allocated =>
    rcases leaves with ⟨opened,found,awaited,current⟩ | queued
    · have unheld := (allocate_sound _ _ fresh tidy.sound.pool allocated).2.1
      have different : player ≠ fresh := by
        rintro rfl
        exact unheld (tidy.sound.sessions _ player found).1
      refine .inl ⟨opened,find_insert_kept sessionId _ fresh player _ found,awaited,?_⟩
      rw [← current]
      exact Function.update_of_ne different ..
    · exact .inr queued
  | drained => exact leaves
  | deleted other status queue =>
    rcases leaves with ⟨⟨inside,unhandled,deciding⟩,found,awaited,current⟩ | queued
    · obtain ⟨listed,marked⟩ := tidy.sound.queued other (by simp [queue])
      obtain ⟨waiter,found',-,active⟩ := tidy.waiting.waits event ⟨inside,unhandled,deciding⟩
      rw [found] at found'
      obtain rfl := Option.some.inj found'
      have elsewhere : (s.dbEvents event).sessionId ≠ (s.contexts other).sessionId := by
        intro same
        rw [same,listed] at found
        obtain rfl := Option.some.inj found
        rw [marked] at active
        cases active
      refine .inl ⟨⟨inside,fun member => ?_,deciding⟩,?_,awaited,current⟩
      · exact unhandled ((List.mem_cons.mp member).resolve_left (by simp))
      · change find (s.dbEvents event).sessionId
          (erase (s.contexts other).sessionId s.playerContextBySessionId) = some player
        rw [find_erase,if_neg elsewhere]
        exact found
    · exact .inr (queued.trans List.count_le_count_cons)

theorem run_leaves (env : Env) (s : Cache) (actions : List Action) (player : Object)
    (login event : Nat) (guarded : Guarded (step env) (Proper env) s actions) (tidy : Tidy s)
    (leaves : Leaves player login event s) :
    Leaves player login event (run (step env) s actions) :=
  (run_invariant (step env) (Proper env) (fun s => Tidy s ∧ Leaves player login event s)
    (fun s action whole proper => by
      have moves := step_moves env s action whole.1.sound whole.1.waiting proper
      exact ⟨moves_tidy env s _ moves whole.1,
        moves_leaves env s _ player login event moves whole.1 whole.2⟩)
    s actions guarded ⟨tidy,leaves⟩).2

/-- The state has a row for the logout, the pool takes the session for a sequence, and there is
memory for one Finalize. -/
structure Accepted (env : Env) (s : Cache) (player : Object) : Prop where
  row : (transition (s.contexts player).state .onLogoutReq).isSome = true
  sequence : (s.contexts player).sessionId ≠ 0
  finalizes : finalizeEvents env s player = 1

/-- What follows the logout of a player: it is not ignored, the login is queued and deleted at
most once, and exactly once when the events that the logout has pushed have been handled and
the queue is empty. -/
structure LogsOut (env : Env) (s : Cache) (sessionId : UInt32) (player : Object)
    (later : List Action) : Prop where
  state : ((step env s (.onLogoutReq sessionId)).contexts player).state = .onLogoutReq
  once : (run (step env) (step env s (.onLogoutReq sessionId)) later).log.count
      (.queued (s.logins player)) ≤ 1 ∧
    (run (step env) (step env s (.onLogoutReq sessionId)) later).log.count
      (.deleted (s.logins player)) ≤ 1
  done : (∀ event, s.dbConnPool.pushed ≤ event →
      event < (step env s (.onLogoutReq sessionId)).dbConnPool.pushed →
      .handled event ∈ (run (step env) (step env s (.onLogoutReq sessionId)) later).log) →
    (run (step env) (step env s (.onLogoutReq sessionId)) later).finalizingQueue = [] →
      (run (step env) (step env s (.onLogoutReq sessionId)) later).log.count
        (.queued (s.logins player)) = 1 ∧
      (run (step env) (step env s (.onLogoutReq sessionId)) later).log.count
        (.deleted (s.logins player)) = 1

theorem settled_pushed (env : Env) (s t : Cache) (settled : Settled env s t) :
    s.dbConnPool.pushed ≤ t.dbConnPool.pushed := by
  induction settled with
  | refl => exact le_rfl
  | tail _ step ih =>
    refine ih.trans ?_
    cases settles_step env _ _ step with
    | work worker =>
      rw [(work_same env _ worker 0).2.2.1,workerStep_pushed]
    | push player data returnable =>
      rcases push_pushed _ player data returnable with ⟨same,-⟩ | more
      · rw [same]
      · omega
    | _ => exact le_rfl

theorem asks_leaves (env : Env) (player : Object) (s t : Cache) (sound : Sound s)
    (waiting : Waiting s) (sequence : (s.contexts player).sessionId ≠ 0)
    (asks : Asks env player s 1 t) : ∃ event, s.dbConnPool.pushed ≤ event ∧
      event < t.dbConnPool.pushed ∧ Leaves player (s.logins player) event t ∧
      (t.contexts player).state = .onLogoutReq := by
  obtain ⟨before,settled,ready,⟨zero,-⟩ | ⟨-,finalized⟩⟩ := asks
  · cases zero
  have steady := settled_steady env s before settled
  have later := settled_waiting env s before settled sound waiting
  have state : (before.contexts player).state = .onLogoutReq := (Option.some.inj ready.awaited).symm
  have session : (before.contexts player).sessionId = (s.contexts player).sessionId := by
    have found := ready.listed
    rw [Listed,steady.sessions] at found
    exact (sound_keyed s sound _ player found).symm
  have inside : before.dbConnPool.pushed <
      (pushSequenceEvent player .avatarFinalize true before).dbConnPool.pushed := by
    rcases push_pushed before player .avatarFinalize true with ⟨-,zero⟩ | more
    · exact absurd (session.symm.trans zero) sequence
    · omega
  have event : (pushSequenceEvent player .avatarFinalize true before).dbEvents
      before.dbConnPool.pushed = ⟨(before.contexts player).sessionId,0,.avatarFinalize⟩ :=
    Function.update_self ..
  have leaves : Leaves player (s.logins player) before.dbConnPool.pushed
      (pushSequenceEvent player .avatarFinalize true before) := by
    rw [Leaves,Open,event]
    refine .inl ⟨⟨inside,fun member => ?_,rfl⟩,ready.listed,rfl,?_⟩
    · exact Nat.lt_irrefl _ (later.handled _ member)
    · exact congrFun steady.logins player
  refine ⟨before.dbConnPool.pushed,settled_pushed env s before settled,?_⟩
  rcases finalized with rfl | rfl
  · exact ⟨inside,leaves,state⟩
  · exact ⟨inside,settled_leaves env _ _ player _ _ (allocation_settled env _ false) leaves,state⟩

/-- A logout that the state accepts is never lost: in every run the player is deleted once the
events that it has pushed have been handled. -/
theorem onLogoutReq_logsOut (env : Env) (earlier later : List Action) (sessionId : UInt32)
    (player : Object) (guarded : Guarded (step env) (Proper env) (init env.config)
      (earlier ++ .onLogoutReq sessionId :: later))
    (running : (run (step env) (init env.config) earlier).shutdownStatus = .notShutdown)
    (found : find sessionId
      (run (step env) (init env.config) earlier).playerContextBySessionId = some player)
    (accepted : Accepted env (run (step env) (init env.config) earlier) player) :
    LogsOut env (run (step env) (init env.config) earlier) sessionId player later := by
  obtain ⟨before,proper,after⟩ := guarded_append (step env) (Proper env) (init env.config) earlier
    (.onLogoutReq sessionId) later guarded
  have tidy := run_tidy env _ earlier before (init_tidy env.config)
  generalize run (step env) (init env.config) earlier = s at *
  have session := sound_keyed s tidy.sound sessionId player found
  have listed : Listed s player := by
    rw [Listed,session]
    exact found
  have result : step env s (.onLogoutReq sessionId) = onLogoutReq env player s := by
    rw [step,whileRunning,if_pos running,forSession,found]
  obtain ⟨next,reached⟩ := Option.isSome_iff_exists.mp accepted.row
  have asks := onLogoutReq_asks env player s next listed tidy.waiting reached
    accepted.finalizes.le
  rw [accepted.finalizes,← result] at asks
  obtain ⟨event,least,inside,leaves,state⟩ := asks_leaves env player s _ tidy.sound tidy.waiting
    accepted.sequence asks
  have moved := step_moves env s _ tidy.sound tidy.waiting proper
  have still := moves_tidy env s _ moved tidy
  have last := run_tidy env _ later after still
  have left := run_leaves env _ later player _ event after still leaves
  refine ⟨state,ledger_once _ last.ledger _,fun handled empty => ?_⟩
  apply ledger_drained _ last.ledger _ _ empty
  rcases left with ⟨opened,-⟩ | queued
  · exact absurd (handled event least inside) opened.2.1
  · exact queued

/-- The player enters a region, logs out and is deleted. -/
theorem onLogoutReq_logsOut_region :
    LogsOut sampleEnv (run (step sampleEnv) (init sampleEnv.config) (entering firstSession))
      firstSession 0 (answered ++ answered ++ [.drain]) :=
  onLogoutReq_logsOut sampleEnv (entering firstSession) (answered ++ answered ++ [.drain]) firstSession 0
    (by decide +kernel) (by decide +kernel) (by decide +kernel)
    ⟨by decide +kernel,by decide +kernel,by decide +kernel⟩

/-- The logout comes while the avatar list is read. -/
def listing : List Action := [.onLoginReq firstSession [97],.packetForward firstSession .avatarListReq]

theorem onLogoutReq_logsOut_listing :
    find firstSession
        (run (step sampleEnv) (init sampleEnv.config) listing).playerContextBySessionId = some 0 ∧
      ¬ LogsOut sampleEnv (run (step sampleEnv) (init sampleEnv.config) listing) firstSession 0
        (answered ++ [.drain]) := by
  refine ⟨by decide +kernel,fun left => ?_⟩
  have done := left.done
  revert done
  decide +kernel

end Fantuan.CacheServer.Logouts
