import Fantuan.CacheServer.Frames
import Fantuan.CacheServer.PoolDelivery

/-! The end of the cache server. Stop asks the loop and the threads of the DB connections to leave;
when they have been joined, Destroy frees what the lists of the pool hold. FreeEvent has no other
caller than Destroy and PostFireEvent.
-/
namespace Fantuan.CacheServer.PoolShutdown
open Lib.Table Lib.Run PoolRuns PoolDelivery
open DbConnPool (Pool Mark pushSequenceEvent popFromDBEventReturnList workerStep)

/-- Where the thread of a connection is; m_bQuit is read at the head of its loop. -/
inductive Thread where
  | looking | inside | exited
  deriving DecidableEq

/-- handled has the events whose results the loop has taken; quits is m_bQuit of the connections. -/
structure Server where
  cache : Player.Cache
  loopQuit : Bool
  loopExited : Bool
  quits : List Bool
  threads : List Thread
  handled : List Nat
  destroyed : Bool

def init (config : Player.Config) : Server where
  cache := Commands.init config
  loopQuit := false
  loopExited := false
  quits := List.replicate config.dbConnCount false
  threads := List.replicate config.dbConnCount .looking
  handled := []
  destroyed := false

/-- What the lists hold is freed; of the map only the entries are dropped. -/
def destroyPool (s : Pool) : Pool :=
  let held := s.processingList ++ (s.waitingList ++ s.returnList)
  {s with
    workers := []
    processingList := []
    waitingList := []
    returnList := []
    sequenceMap := ∅
    log := (held.map .freed).reverse ++ s.log}

def takes (action : Commands.Action) (s : Pool) : List Nat :=
  match action with
  | .result => s.returnList.take 1
  | _ => []

inductive Action where
  | cache (action : Commands.Action)
  | stopLoop
  | stopConn (worker : Nat)
  | exitLoop
  | destroy

/-- A thread that has come to the head of its loop looks at m_bQuit before it goes on. -/
def work (env : Player.Env) (worker : Nat) (s : Server) : Server :=
  match s.threads[worker]? with
  | some .looking =>
    let thread := if s.quits[worker]? = some true then Thread.exited else .inside
    {s with threads := s.threads.set worker thread}
  | some .inside =>
    let cache := Commands.work env worker s.cache
    let thread := match cache.dbConnPool.workers[worker]? with
      | some (.idle _) => Thread.looking
      | _ => .inside
    {s with cache := cache, threads := s.threads.set worker thread}
  | _ => s

def loop (env : Player.Env) (action : Commands.Action) (s : Server) : Server :=
  if s.loopExited then s
  else {s with
    cache := Commands.step env s.cache action
    handled := s.handled ++ takes action s.cache.dbConnPool}

def Joined (s : Server) : Prop := s.loopExited = true ∧ ∀ thread ∈ s.threads, thread = .exited

instance (s : Server) : Decidable (Joined s) := inferInstanceAs (Decidable (_ ∧ ∀ thread ∈ s.threads, _))

def step (env : Player.Env) (s : Server) (action : Action) : Server :=
  if s.destroyed then s
  else match action with
    | .cache (.work worker) => work env worker s
    | .cache action => loop env action s
    | .stopLoop => {s with loopQuit := true}
    | .stopConn worker => {s with quits := s.quits.set worker true}
    | .exitLoop => {s with loopExited := s.loopExited || s.loopQuit}
    | .destroy =>
      if Joined s then {s with
        cache := {s.cache with dbConnPool := destroyPool s.cache.dbConnPool}
        quits := []
        threads := []
        destroyed := true}
      else s

/-- How often FreeEvent was called for an event. -/
def freed (s : Server) (event : Nat) : Nat := s.cache.dbConnPool.log.count (.freed event)

structure Unreferenced (s : Pool) (event : Nat) : Prop where
  waiting : event ∉ s.waitingList
  processing : event ∉ s.processingList
  returned : event ∉ s.returnList
  mapped : ∀ key, find key s.sequenceMap ≠ some event
  chained : ∀ other, (s.events other).nextEvent ≠ some event
  outside : ∀ worker ∈ s.workers, worker.inside ≠ some event

/-- Each event is released at most once, and not while something leads to it: after firing if it is not
returnable, after its result has been handled, and when the pool is destroyed. -/
structure Released (s : Server) : Prop where
  once : ∀ event, freed s event ≤ 1
  fired : ∀ event, event < s.cache.dbConnPool.pushed →
    (s.cache.dbConnPool.events event).returnable = false → .fired event ∈ s.cache.dbConnPool.log →
    (∀ worker ∈ s.cache.dbConnPool.workers, worker.inside ≠ some event) → freed s event = 1
  handled : ∀ event ∈ s.handled, freed s event = 1
  destroyed : s.destroyed = true → ∀ event, event < s.cache.dbConnPool.pushed → freed s event = 1
  unreferenced : ∀ event, 0 < freed s event → Unreferenced s.cache.dbConnPool event

/-- A thread that pops meets no other event under an id. -/
def Fits (s : Server) : Action → Prop
  | .cache (.work worker) => s.threads[worker]? = some .inside →
    Flushes Fresh s.cache.dbConnPool (.work worker)
  | _ => True

/-- The loop finds no result to handle. -/
def Unhandled (s : Server) : Action → Prop
  | .cache action => s.destroyed = false → s.loopExited = false → takes action s.cache.dbConnPool = []
  | _ => True

instance (s : Server) : DecidablePred (Fits s)
  | .cache (.work worker) => inferInstanceAs (Decidable (_ → Flushes Fresh s.cache.dbConnPool (.work worker)))
  | .cache .shutdown | .cache (.onLoginReq _ _) | .cache (.onLogoutReq _) | .cache (.onRegionEnterReq _ _ _)
  | .cache (.packetForward _ _) | .cache .saveData | .cache (.tick _) | .cache .result | .cache .drain
  | .stopLoop | .stopConn _ | .exitLoop | .destroy => inferInstanceAs (Decidable True)

/-- Every returned event is in the return list or has been taken from it. -/
structure Owned (handled : List Nat) (s : Pool) : Prop where
  tracked : Tracked s.waitingList s
  returns : ∀ event, s.returnList.count event + handled.count event = s.log.count (.returned event)

section
variable {handled : List Nat} {s : Pool}

theorem pushSequenceEvent_owned (sequenceId : UInt64) (eventId : UInt32) (returnable : Bool)
    (owned : Owned handled s) : Owned handled (pushSequenceEvent sequenceId eventId returnable s) := by
  rw [pushSequenceEvent]
  split
  · exact owned
  · exact ⟨pushBack_tracked owned.tracked sequenceId eventId returnable,owned.returns⟩

theorem popFromDBEventReturnList_owned (owned : Owned handled s) :
    Owned (handled ++ s.returnList.take 1) (popFromDBEventReturnList s) := by
  refine ⟨keeps_tracked.takeReturned _ s owned.tracked,fun event => ?_⟩
  have returns := owned.returns event
  have split := congrArg (List.count event) (List.take_append_drop 1 s.returnList)
  rw [List.count_append,List.drop_one] at split
  rw [List.count_append]
  change s.returnList.tail.count event + _ = s.log.count (.returned event)
  omega

end

theorem workerStep_returns (worker : Nat) (s : Pool) (event : Nat) :
    (workerStep worker s).returnList.count event + s.log.count (.returned event) =
      s.returnList.count event + (workerStep worker s).log.count (.returned event) := by
  cases here : s.workers[worker]? with
  | none => rw [workerStep_none worker s here]
  | some old =>
    have outcomes := (workerStep_moves worker s old here).outcome
    have returnList : (workerStep worker s).returnList = (outcome s old).1 := congrArg Prod.fst outcomes
    have log : (workerStep worker s).log = (outcome s old).2 := congrArg Prod.snd outcomes
    rw [returnList,log]
    cases old with
    | posted other =>
      rw [outcome]
      split
      · dsimp only
        rw [List.count_append,List.count_singleton,List.count_cons]
        simp only [beq_iff_eq,Mark.returned.injEq]
        omega
      · simp
    | popped other => simp [outcome]
    | _ => rfl

theorem workerStep_owned (handled : List Nat) (s : Pool) (worker : Nat) (owned : Owned handled s)
    (fresh : Flushes Fresh s (.work worker)) : Owned handled (workerStep worker s) := by
  refine ⟨workerStep_kept keeps_tracked.toWorkKeeps s worker owned.tracked fresh,fun event => ?_⟩
  have returns := owned.returns event
  have moved := workerStep_returns worker s event
  omega

/-- Every connection has a thread, and one that is not inside its loop holds no event. -/
structure Stationed (threads : List Thread) (workers : List DbConnPool.Worker) : Prop where
  length : threads.length = workers.length
  idle : ∀ (worker : Nat) (thread : Thread), threads[worker]? = some thread → thread ≠ .inside →
    ∃ last, workers[worker]? = some (.idle last)

theorem replicate_stationed (count : Nat) :
    Stationed (List.replicate count .looking) (List.replicate count (.idle 0)) := by
  refine ⟨by simp,fun worker thread here _ => ⟨0,?_⟩⟩
  have bound := (List.getElem?_eq_some_iff.mp here).1
  rw [List.length_replicate] at bound
  exact List.getElem?_replicate_of_lt bound

theorem set_stationed (threads : List Thread) (workers : List DbConnPool.Worker) (worker : Nat)
    (thread : Thread) (new : DbConnPool.Worker) (stationed : Stationed threads workers)
    (fits : thread ≠ .inside → worker < workers.length → ∃ last, (workers.set worker new)[worker]? = some (.idle last)) :
    Stationed (threads.set worker thread) (workers.set worker new) := by
  refine ⟨by simp [stationed.length],fun other found here outside => ?_⟩
  by_cases same : other = worker
  · subst other
    have bound := (List.getElem?_eq_some_iff.mp here).1
    rw [List.length_set] at bound
    rw [List.getElem?_set_self bound] at here
    obtain rfl := Option.some.inj here
    have length := stationed.length
    exact fits outside (by omega)
  · rw [List.getElem?_set_ne (Ne.symm same)] at here ⊢
    exact stationed.idle other found here outside

theorem stationed_outside (threads : List Thread) (workers : List DbConnPool.Worker)
    (stationed : Stationed threads workers) (exited : ∀ thread ∈ threads, thread = .exited) :
    ∀ worker ∈ workers, worker.inside = none := by
  intro worker member
  obtain ⟨index,bound,rfl⟩ := List.getElem_of_mem member
  have within : index < threads.length := by
    rw [stationed.length]
    exact bound
  have here : threads[index]? = some threads[index] := List.getElem?_eq_getElem within
  have gone := exited _ (List.mem_of_getElem? here)
  obtain ⟨last,idle⟩ := stationed.idle index _ here (by rw [gone]; decide)
  rw [List.getElem?_eq_getElem bound] at idle
  rw [Option.some.inj idle]
  rfl

/-- Destroy has run: what was not taken from the return list has been freed. -/
structure Settled (handled : List Nat) (s : Pool) : Prop where
  once : ∀ event, s.log.count (.freed event) + handled.count event = if event < s.pushed then 1 else 0
  waiting : s.waitingList = []
  processing : s.processingList = []
  returned : s.returnList = []
  mapped : s.sequenceMap = ∅
  workers : s.workers = []
  unlinked : ∀ event, (s.events event).nextEvent = none

/-- When no thread holds an event, each is in one list, freed or taken. -/
theorem destroyPool_settled (handled : List Nat) (s : Pool) (owned : Owned handled s)
    (outside : ∀ worker ∈ s.workers, worker.inside = none) : Settled handled (destroyPool s) := by
  refine ⟨fun event => ?_,rfl,rfl,rfl,rfl,rfl,owned.tracked.unlinked⟩
  have absent (worker : DbConnPool.Worker) (inside : worker.inside ≠ none) : s.workers.count worker = 0 :=
    List.count_eq_zero.mpr fun member => inside (outside worker member)
  have popped := absent (.popped event) (by simp [DbConnPool.Worker.inside])
  have firing := absent (.firing event) (by simp [DbConnPool.Worker.inside])
  have fired := absent (.fired event) (by simp [DbConnPool.Worker.inside])
  have posted := absent (.posted event) (by simp [DbConnPool.Worker.inside])
  have place := owned.tracked.place event
  have finish := owned.tracked.finish event
  have returns := owned.returns event
  rw [popped] at place
  rw [firing,fired,posted,handedBack] at finish
  have injective : Function.Injective Mark.freed := fun _ _ => Mark.freed.inj
  have counted : ((s.processingList ++ (s.waitingList ++ s.returnList)).map Mark.freed).reverse.count (.freed event) =
      s.processingList.count event + (s.waitingList.count event + s.returnList.count event) := by
    rw [List.count_reverse,List.count_map_of_injective _ _ injective,List.count_append,List.count_append]
  change (_ ++ s.log).count _ + _ = if event < s.pushed then 1 else 0
  rw [List.count_append,counted,← place]
  omega

def Kept (s : Server) : Prop :=
  s.destroyed = false ∧ Owned s.handled s.cache.dbConnPool ∧ Stationed s.threads s.cache.dbConnPool.workers ∨
    s.destroyed = true ∧ Settled s.handled s.cache.dbConnPool

theorem init_kept (config : Player.Config) : Kept (init config) := by
  refine .inl ⟨rfl,⟨new_tracked config.dbConnCount,fun event => rfl⟩,?_⟩
  exact replicate_stationed config.dbConnCount

theorem work_pool (env : Player.Env) (worker : Nat) (s : Player.Cache) :
    (Commands.work env worker s).dbConnPool = workerStep worker s.dbConnPool := by
  rw [Commands.work]
  split
  · rfl
  · rfl

theorem work_kept (env : Player.Env) (worker : Nat) (s : Server) (running : s.destroyed = false)
    (owned : Owned s.handled s.cache.dbConnPool)
    (stationed : Stationed s.threads s.cache.dbConnPool.workers)
    (fits : Fits s (.cache (.work worker))) : Kept (work env worker s) := by
  rw [work]
  split
  next here =>
    refine .inl ⟨running,owned,?_⟩
    have same := set_stationed s.threads s.cache.dbConnPool.workers worker
      (if s.quits[worker]? = some true then Thread.exited else .inside)
    obtain ⟨last,idle⟩ := stationed.idle worker .looking here (by decide)
    have kept := same (.idle last) stationed fun _ bound => ⟨last,List.getElem?_set_self bound⟩
    obtain ⟨bound,found⟩ := List.getElem?_eq_some_iff.mp idle
    rw [← found,List.set_getElem_self] at kept
    exact kept
  next here =>
    refine .inl ⟨running,?_,?_⟩
    · rw [work_pool]
      exact workerStep_owned s.handled s.cache.dbConnPool worker owned (fits here)
    · obtain ⟨new,moved⟩ := workerStep_workers worker s.cache.dbConnPool
      dsimp only
      rw [work_pool,moved]
      apply set_stationed s.threads s.cache.dbConnPool.workers worker _ new stationed
      intro outside bound
      split at outside
      next last idle => exact ⟨last,idle⟩
      · exact absurd rfl outside
  · exact .inl ⟨running,owned,stationed⟩

theorem takes_none (action : Commands.Action) (s : Pool) (other : action ≠ .result) : takes action s = [] := by
  cases action with
  | result => exact absurd rfl other
  | _ => rfl

theorem pushSequenceEvent_workers (sequenceId : UInt64) (eventId : UInt32) (returnable : Bool) (s : Pool) :
    (pushSequenceEvent sequenceId eventId returnable s).workers = s.workers := by
  rw [pushSequenceEvent]
  split
  · rfl
  · rfl

theorem loop_kept (env : Player.Env) (action : Commands.Action) (s : Server) (running : s.destroyed = false)
    (own : ∀ worker, action ≠ .work worker) (owned : Owned s.handled s.cache.dbConnPool)
    (stationed : Stationed s.threads s.cache.dbConnPool.workers) : Kept (loop env action s) := by
  rw [loop]
  split
  · exact .inl ⟨running,owned,stationed⟩
  · have kept := Frames.step_pool
      (fun pool => Owned (s.handled ++ takes action s.cache.dbConnPool) pool ∧
        Stationed s.threads pool.workers)
      (fun pool sequenceId eventId returnable kept =>
        ⟨pushSequenceEvent_owned sequenceId eventId returnable kept.1,by
          rw [pushSequenceEvent_workers]
          exact kept.2⟩)
      env s.cache action own (fun other => by
        rw [takes_none action _ other,List.append_nil]
        exact ⟨owned,stationed⟩)
      (fun result => by
        rw [result]
        exact ⟨popFromDBEventReturnList_owned owned,stationed⟩)
    exact .inl ⟨running,kept⟩

theorem step_kept (env : Player.Env) (s : Server) (action : Action) (kept : Kept s) (fits : Fits s action) :
    Kept (step env s action) := by
  rw [step.eq_def]
  obtain ⟨running,owned,stationed⟩ | ⟨destroyed,settled⟩ := kept
  · rw [if_neg (by simp [running])]
    cases action with
    | cache action =>
      by_cases own : ∃ worker, action = .work worker
      · obtain ⟨worker,rfl⟩ := own
        exact work_kept env worker s running owned stationed fits
      · have other (worker : Nat) : action ≠ .work worker := fun same => own ⟨worker,same⟩
        have kept := loop_kept env action s running other owned stationed
        cases action with
        | work worker => exact absurd rfl (other worker)
        | _ => exact kept
    | stopLoop => exact .inl ⟨running,owned,stationed⟩
    | stopConn => exact .inl ⟨running,owned,stationed⟩
    | exitLoop => exact .inl ⟨running,owned,stationed⟩
    | destroy =>
      dsimp only
      split
      next joined =>
        exact .inr ⟨rfl,destroyPool_settled s.handled s.cache.dbConnPool owned
          (stationed_outside s.threads s.cache.dbConnPool.workers stationed joined.2)⟩
      · exact .inl ⟨running,owned,stationed⟩
  · rw [if_pos destroyed]
    exact .inr ⟨destroyed,settled⟩

/-- An event that has been freed is not returned, and nothing leads to it. -/
theorem owned_freed (handled : List Nat) (s : Pool) (owned : Owned handled s) (event : Nat)
    (freed : 0 < s.log.count (.freed event)) :
    s.log.count (.freed event) = 1 ∧ handled.count event = 0 ∧ Unreferenced s event := by
  have tracked := owned.tracked
  have flagged := tracked.flagged event
  have unreturned : s.log.count (.returned event) = 0 := by
    apply List.count_eq_zero.mpr
    intro returned
    have yes := flagged.1 returned
    rw [flagged.2 (List.count_pos_iff.mp freed)] at yes
    cases yes
  have returns := owned.returns event
  have once := handedBack_fired tracked event
  have place := tracked.place event
  have finish := tracked.finish event
  have handed : handedBack s event = s.log.count (.freed event) := by rw [handedBack,unreturned,Nat.zero_add]
  rw [handed] at once finish
  have single : (if event < s.pushed then 1 else 0) ≤ 1 := by split <;> omega
  have outside : ¬ Active s event := by
    rw [Active]
    omega
  refine ⟨by omega,by omega,?_,?_,?_,?_,?_,?_⟩
  · exact List.count_eq_zero.mp (by omega)
  · exact List.count_eq_zero.mp (by omega)
  · exact List.count_eq_zero.mp (by omega)
  · intro key found
    exact outside ((tracked.indexed key event).mp found).1
  · intro other linked
    rw [tracked.unlinked other] at linked
    cases linked
  · intro worker member inside
    have present := List.count_pos_iff.mpr member
    cases worker with
    | idle | blocked => cases inside
    | popped | firing | fired | posted =>
      obtain rfl := Option.some.inj inside
      omega

theorem owned_released (s : Server) (running : s.destroyed = false) (owned : Owned s.handled s.cache.dbConnPool) :
    Released s ↔ s.handled = [] := by
  constructor
  · intro released
    apply List.eq_nil_iff_forall_not_mem.mpr
    intro event member
    have freed := released.handled event member
    have taken := List.count_pos_iff.mpr member
    have never := (owned_freed s.handled s.cache.dbConnPool owned event (by
      rw [← PoolShutdown.freed,freed]
      decide)).2.1
    omega
  · intro unhandled
    have tracked := owned.tracked
    refine ⟨fun event => ?_,fun event pushed unreturnable fired outside => ?_,?_,?_,fun event freed => ?_⟩
    · have once := handedBack_fired tracked event
      rw [handedBack] at once
      rw [freed]
      omega
    · have flagged := (tracked.flagged event).1
      have unreturned : s.cache.dbConnPool.log.count (.returned event) = 0 := by
        apply List.count_eq_zero.mpr
        intro returned
        have yes := flagged returned
        rw [unreturnable] at yes
        cases yes
      have absent (worker : DbConnPool.Worker) (inside : worker.inside = some event) :
          s.cache.dbConnPool.workers.count worker = 0 :=
        List.count_eq_zero.mpr fun member => outside worker member inside
      have first := absent (.firing event) rfl
      have second := absent (.fired event) rfl
      have third := absent (.posted event) rfl
      have finish := tracked.finish event
      have once := handedBack_fired tracked event
      have marked := List.count_pos_iff.mpr fired
      rw [handedBack] at finish once
      rw [freed]
      omega
    · rw [unhandled]
      intro event member
      cases member
    · rw [running]
      intro destroyed
      cases destroyed
    · exact (owned_freed s.handled s.cache.dbConnPool owned event freed).2.2

theorem settled_released (s : Server) (settled : Settled s.handled s.cache.dbConnPool) :
    Released s ↔ s.handled = [] := by
  constructor
  · intro released
    apply List.eq_nil_iff_forall_not_mem.mpr
    intro event member
    have freed := released.handled event member
    have taken := List.count_pos_iff.mpr member
    have once := settled.once event
    rw [PoolShutdown.freed] at freed
    split at once
    · omega
    · omega
  · intro unhandled
    have once := settled.once
    rw [unhandled] at once
    simp only [List.count_nil,Nat.add_zero] at once
    refine ⟨fun event => ?_,fun event pushed _ _ _ => ?_,?_,fun _ event pushed => ?_,fun event _ => ?_⟩
    · rw [freed,once]
      split
      · exact Nat.le_refl _
      · exact Nat.zero_le _
    · rw [freed,once,if_pos pushed]
    · rw [unhandled]
      intro event member
      cases member
    · rw [freed,once,if_pos pushed]
    · refine ⟨by simp [settled.waiting],by simp [settled.processing],by simp [settled.returned],?_,?_,?_⟩
      · intro key
        rw [settled.mapped,find_empty]
        simp
      · intro other
        rw [settled.unlinked other]
        simp
      · simp [settled.workers]

theorem kept_released (s : Server) (kept : Kept s) : Released s ↔ s.handled = [] := by
  obtain ⟨running,owned,-⟩ | ⟨-,settled⟩ := kept
  · exact owned_released s running owned
  · exact settled_released s settled

theorem step_handled (env : Player.Env) (s : Server) (action : Action) :
    (step env s action).handled = [] ↔ s.handled = [] ∧ Unhandled s action := by
  rw [step.eq_def]
  cases destroyed : s.destroyed with
  | true =>
    rw [if_pos rfl]
    refine (and_iff_left ?_).symm
    cases action with
    | cache =>
      intro running
      rw [destroyed] at running
      cases running
    | _ => trivial
  | false =>
    rw [if_neg (by decide)]
    cases action with
    | stopLoop => exact (and_iff_left trivial).symm
    | stopConn => exact (and_iff_left trivial).symm
    | exitLoop => exact (and_iff_left trivial).symm
    | destroy =>
      refine Iff.trans ?_ (and_iff_left trivial).symm
      dsimp only
      split
      · rfl
      · rfl
    | cache action =>
      have looped : (loop env action s).handled = [] ↔ s.handled = [] ∧ Unhandled s (.cache action) := by
        rw [loop]
        cases exited : s.loopExited with
        | true =>
          rw [if_pos rfl]
          refine (and_iff_left ?_).symm
          intro _ running
          rw [exited] at running
          cases running
        | false =>
          rw [if_neg (by decide)]
          exact List.append_eq_nil_iff.trans (and_congr_right fun _ =>
            ⟨fun none _ _ => none,fun none => none destroyed exited⟩)
      cases action with
      | work worker =>
        refine Iff.trans ?_ (and_iff_left fun _ _ => rfl).symm
        dsimp only
        rw [work]
        split
        · rfl
        · rfl
        · rfl
      | _ => exact looped

theorem run_handled (env : Player.Env) (s : Server) (actions : List Action) :
    (run (step env) s actions).handled = [] ↔ s.handled = [] ∧ Guarded (step env) Unhandled s actions := by
  induction actions generalizing s with
  | nil => exact (and_iff_left trivial).symm
  | cons action actions ih => rw [run,ih,step_handled,Guarded,and_assoc]

/-- In a run whose threads meet no other event under an id, every event is released as it should be
exactly if the loop finds no result to handle. -/
theorem events_released (env : Player.Env) (actions : List Action)
    (fits : Guarded (step env) Fits (init env.config) actions) :
    Released (run (step env) (init env.config) actions) ↔
      Guarded (step env) Unhandled (init env.config) actions := by
  have kept := run_invariant (step env) Fits Kept (step_kept env) (init env.config) actions fits
    (init_kept env.config)
  rw [kept_released _ kept,run_handled]
  exact and_iff_right rfl

/-- A player asks for its avatars; the thread fires the event and hands it back. -/
def firing : List Action :=
  ([.cache (.onLoginReq Commands.firstSession [97]),
      .cache (.packetForward Commands.firstSession .avatarListReq)] : List Action) ++
    List.replicate 6 (.cache (.work 0) : Action)

/-- The loop and the thread leave, and the pool is destroyed. -/
def ending : List Action := [.stopLoop,.stopConn 0,.exitLoop,.cache (.work 0),.destroy]

theorem events_released_returned :
    Released (run (step Commands.sampleEnv) (init Commands.sampleEnv.config) (firing ++ ending)) ↔
      Guarded (step Commands.sampleEnv) Unhandled (init Commands.sampleEnv.config) (firing ++ ending) :=
  events_released Commands.sampleEnv (firing ++ ending) (by decide +kernel)

/-- The result is handled, and nobody frees the event. -/
theorem events_released_handled : ¬ Released (run (step Commands.sampleEnv) (init Commands.sampleEnv.config)
    (firing ++ [.cache .result] ++ ending)) := by
  intro released
  have freed := released.destroyed (by decide +kernel) 0 (by decide +kernel)
  revert freed
  decide +kernel

end Fantuan.CacheServer.PoolShutdown
