import Fantuan.CacheServer.PoolEvents

/-! The firings of the pool: an event is marked when its firing ends, and only what has been fired is handed
back.
-/
namespace Fantuan.CacheServer.PoolFirings
open Lib.Table DbConnPool PoolRuns PoolEvents

theorem change_fired (s : Pool) (event other : Nat) (change : DBEvent → DBEvent)
    (kept : ∀ data, (change data).fired = data.fired) :
    ((s.change event change).events other).fired = (s.events other).fired := by
  change (Function.update s.events event _ other).fired = _
  by_cases same : other = event
  · rw [same,Function.update_self,kept]
  · rw [Function.update_of_ne same]

theorem flushEvent_fired (s : Pool) (event other : Nat) :
    ((flushEvent s event).events other).fired = (s.events other).fired := by
  rw [flushEvent]
  split
  · split
    · exact change_fired s event other (fun data => {data with lastEvent := none, nextEvent := none}) fun _ => rfl
    next head _ =>
      let last := linkEnd s s.pushed head
      have linked := change_fired s last other (fun data => {data with nextEvent := some event}) fun _ => rfl
      have closed := change_fired (s.change last fun data => {data with nextEvent := some event}) event other
        (fun data => {data with lastEvent := some last, nextEvent := none}) fun _ => rfl
      exact closed.trans linked
  · rfl

theorem flushEventWaitingList_fired (s : Pool) (event : Nat) :
    ((flushEventWaitingList s).events event).fired = (s.events event).fired := by
  have each (events : List Nat) (t : Pool) :
      ((events.foldl flushEvent t).events event).fired = (t.events event).fired := by
    induction events generalizing t with
    | nil => rfl
    | cons first events ih => rw [List.foldl_cons,ih,flushEvent_fired]
  exact each s.waitingList s

theorem takeFront_events (worker : Nat) (last : UInt64) (s : Pool) :
    (takeFront worker last s).events = s.events := by
  rw [takeFront]
  split <;> rfl

theorem workerStep_mark (worker event : Nat) (s : Pool) :
    ((workerStep worker s).events event).fired =
      ((s.events event).fired || decide (s.workers[worker]? = some (.firing event))) := by
  rw [workerStep]
  split
  next here =>
    rw [here,decide_eq_false (by simp),Bool.or_false,popFromDBEventProcessingList]
    split
    · rfl
    · split
      · split
        · rfl
        · rw [takeFront_events,flushEventWaitingList_fired]
      · rw [takeFront_events]
  next here => rw [here,decide_eq_false (by simp),Bool.or_false,takeFront_events]
  next here =>
    rw [here,decide_eq_false (by simp),Bool.or_false]
    rfl
  next fired here =>
    change (Function.update s.events fired _ event).fired = _
    rw [here]
    by_cases same : event = fired
    · rw [same,Function.update_self,decide_eq_true rfl,Bool.or_true]
    · rw [Function.update_of_ne same,decide_eq_false (by simpa using Ne.symm same),Bool.or_false]
  next here =>
    rw [here,decide_eq_false (by simp),Bool.or_false,postFireEvent]
    split
    · split
      · rfl
      · dsimp only
        refine (change_fired _ _ event (fun data => {data with lastEvent := none, nextEvent := none})
          fun _ => rfl).trans ?_
        split
        next next _ => exact change_fired s next event (fun data => {data with lastEvent := none}) fun _ => rfl
        · rfl
    · rfl
  next here =>
    rw [here,decide_eq_false (by simp),Bool.or_false,handBack]
    dsimp only
    split <;> rfl
  next here =>
    rw [here,decide_eq_false (by simp),Bool.or_false]

def ended : Worker → Option Nat
  | .fired event | .posted event => some event
  | _ => none

theorem workerStep_ended (worker : Nat) (s : Pool) (other : Worker) (event : Nat)
    (member : other ∈ (workerStep worker s).workers) (holds : ended other = some event) :
    other ∈ s.workers ∨ s.workers[worker]? = some (.firing event) ∨ s.workers[worker]? = some (.fired event) := by
  cases here : s.workers[worker]? with
  | none =>
    rw [workerStep_none worker s here] at member
    exact .inl member
  | some old =>
    obtain ⟨new,next,workers⟩ := (workerStep_moves worker s old here).workers
    rw [workers] at member
    rcases List.mem_or_eq_of_mem_set member with before | rfl
    · exact .inl before
    right
    have inside : other.inside = some event := by
      cases other with
      | fired | posted => exact holds
      | _ => cases holds
    cases old with
    | idle | blocked =>
      rw [next event inside] at holds
      cases holds
    | popped fired =>
      rw [next] at holds
      cases holds
    | firing fired =>
      rw [next] at holds
      rw [Option.some.inj holds]
      exact .inl rfl
    | fired fired =>
      rcases next with rfl | rfl
      · rw [Option.some.inj holds]
        exact .inr rfl
      · cases holds
    | posted fired =>
      rw [Next,inside] at next
      cases next

theorem workerStep_returned (worker : Nat) (s : Pool) (event : Nat)
    (member : event ∈ (workerStep worker s).returnList) :
    event ∈ s.returnList ∨ s.workers[worker]? = some (.posted event) := by
  cases here : s.workers[worker]? with
  | none =>
    rw [workerStep_none worker s here] at member
    exact .inl member
  | some old =>
    have returned : (workerStep worker s).returnList = (outcome s old).1 :=
      congrArg Prod.fst (workerStep_moves worker s old here).outcome
    rw [returned] at member
    cases old with
    | posted posted =>
      rw [outcome] at member
      split at member
      · rcases List.mem_append.mp member with before | last
        · exact .inl before
        · rw [List.mem_singleton.mp last]
          exact .inr rfl
      · exact .inl member
    | _ => exact .inl member

structure Marked (s : Pool) : Prop where
  known : Known s
  inside : ∀ worker ∈ s.workers, ∀ event, ended worker = some event → (s.events event).fired = true
  returned : ∀ event ∈ s.returnList, (s.events event).fired = true

theorem new_marked (connCount : Nat) : Marked (new connCount) := by
  refine ⟨new_known connCount,?_,?_⟩
  · intro worker member event holds
    obtain rfl := List.eq_of_mem_replicate member
    cases holds
  · intro event member
    cases member

theorem workerStep_marked (s : Pool) (marked : Marked s) (worker : Nat) : Marked (workerStep worker s) := by
  have held (other : Worker) (event : Nat) (here : s.workers[worker]? = some other) (holds : ended other = some event) :
      (s.events event).fired = true :=
    marked.inside other (List.mem_of_getElem? here) event holds
  refine ⟨workerStep_known s marked.known worker,?_,?_⟩
  · intro other member event holds
    rw [workerStep_mark]
    rcases workerStep_ended worker s other event member holds with before | firing | fired
    · rw [marked.inside other before event holds,Bool.true_or]
    · rw [decide_eq_true firing,Bool.or_true]
    · rw [held _ event fired rfl,Bool.true_or]
  · intro event member
    rw [workerStep_mark]
    rcases workerStep_returned worker s event member with before | posted
    · rw [marked.returned event before,Bool.true_or]
    · rw [held _ event posted rfl,Bool.true_or]

theorem pushSequenceEvent_events (sequenceId : UInt64) (eventId : UInt32) (returnable : Bool) (s : Pool)
    (event : Nat) (before : event < s.pushed) :
    (pushSequenceEvent sequenceId eventId returnable s).events event = s.events event := by
  rw [pushSequenceEvent]
  split
  · rfl
  · exact Function.update_of_ne (Nat.ne_of_lt before) ..

theorem pushSequenceEvent_new (sequenceId : UInt64) (eventId : UInt32) (returnable : Bool) (s : Pool)
    (event : Nat) (pushed : event < (pushSequenceEvent sequenceId eventId returnable s).pushed)
    (new : ¬ event < s.pushed) :
    event = s.pushed ∧ ((pushSequenceEvent sequenceId eventId returnable s).events event).fired = false := by
  rw [pushSequenceEvent] at pushed ⊢
  split at pushed
  · exact absurd pushed new
  next paired =>
    obtain rfl : event = s.pushed := Nat.le_antisymm (Nat.le_of_lt_succ pushed) (Nat.le_of_not_lt new)
    rw [if_neg paired,pushBack]
    dsimp only
    rw [Function.update_self]
    exact ⟨rfl,rfl⟩

theorem pushSequenceEvent_marked (s : Pool) (marked : Marked s) (sequenceId : UInt64) (eventId : UInt32)
    (returnable : Bool) : Marked (pushSequenceEvent sequenceId eventId returnable s) := by
  have workers : (pushSequenceEvent sequenceId eventId returnable s).workers = s.workers := by
    rw [pushSequenceEvent]
    split <;> rfl
  have returnList : (pushSequenceEvent sequenceId eventId returnable s).returnList = s.returnList := by
    rw [pushSequenceEvent]
    split <;> rfl
  refine ⟨pushSequenceEvent_known s marked.known sequenceId eventId returnable,?_,?_⟩
  · intro worker member event holds
    rw [workers] at member
    have inside : worker.inside = some event := by
      cases worker with
      | fired => exact holds
      | posted => exact holds
      | _ => cases holds
    rw [pushSequenceEvent_events _ _ _ s event (marked.known.inside worker member event inside)]
    exact marked.inside worker member event holds
  · intro event member
    rw [returnList] at member
    rw [pushSequenceEvent_events _ _ _ s event (marked.known.returned event member)]
    exact marked.returned event member

theorem popFromDBEventReturnList_marked (s : Pool) (marked : Marked s) : Marked (popFromDBEventReturnList s) :=
  ⟨popFromDBEventReturnList_known s marked.known,marked.inside,
    fun event member => marked.returned event (List.mem_of_mem_tail member)⟩

end Fantuan.CacheServer.PoolFirings
