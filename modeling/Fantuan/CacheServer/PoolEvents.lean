import Fantuan.CacheServer.PoolRuns

/-! Every event in the pool has been pushed: whatever the threads do, the pool returns no other
one. Nothing is assumed about the ids.
-/
namespace Fantuan.CacheServer.PoolEvents
open Lib.Table DbConnPool PoolRuns

structure Known (s : Pool) : Prop where
  waiting : ∀ event ∈ s.waitingList, event < s.pushed
  processing : ∀ event ∈ s.processingList, event < s.pushed
  mapped : ∀ key event, find key s.sequenceMap = some event → event < s.pushed
  linked : ∀ event next, (s.events event).nextEvent = some next → next < s.pushed
  inside : ∀ worker ∈ s.workers, ∀ event, worker.inside = some event → event < s.pushed
  returned : ∀ event ∈ s.returnList, event < s.pushed

theorem new_known (connCount : Nat) : Known (new connCount) where
  waiting := by simp [new]
  processing := by simp [new]
  mapped := by simp [new]
  linked := by simp [new]
  inside := by
    intro worker member event inside
    obtain rfl := List.eq_of_mem_replicate member
    cases inside
  returned := by simp [new]

theorem workerStep_pushed (worker : Nat) (s : Pool) : (workerStep worker s).pushed = s.pushed := by
  cases here : s.workers[worker]? with
  | none => rw [workerStep_none worker s here]
  | some old => exact (workerStep_moves worker s old here).pushed

section
variable (s : Pool) (known : Known s)
include known

theorem pushSequenceEvent_known (sequenceId : UInt64) (eventId : UInt32) (returnable : Bool) :
    Known (pushSequenceEvent sequenceId eventId returnable s) := by
  have later (event : Nat) (before : event < s.pushed) : event < s.pushed + 1 :=
    Nat.lt_succ_of_lt before
  rw [pushSequenceEvent]
  split
  · exact known
  · refine ⟨?_,?_,?_,?_,?_,?_⟩
    · intro event member
      rcases List.mem_append.mp member with before | last
      · exact later event (known.waiting event before)
      · obtain rfl := List.mem_singleton.mp last
        exact Nat.lt_succ_self _
    · exact fun event member => later event (known.processing event member)
    · exact fun key event found => later event (known.mapped key event found)
    · intro event next link
      dsimp only [pushBack] at link
      by_cases same : event = s.pushed
      · rw [same,Function.update_self] at link
        cases link
      · rw [Function.update_of_ne same] at link
        exact later next (known.linked event next link)
    · exact fun worker member event inside => later event (known.inside worker member event inside)
    · exact fun event member => later event (known.returned event member)

theorem popFromDBEventReturnList_known : Known (popFromDBEventReturnList s) :=
  {known with returned := fun event member => known.returned event (List.mem_of_mem_tail member)}

theorem change_known (event : Nat) (change : DBEvent → DBEvent)
    (link : ∀ next, (change (s.events event)).nextEvent = some next → next < s.pushed) :
    Known (s.change event change) := by
  refine {known with linked := fun other next linked => ?_}
  dsimp only [Pool.change] at linked
  by_cases same : other = event
  · rw [same,Function.update_self] at linked
    exact link next linked
  · rw [Function.update_of_ne same] at linked
    exact known.linked other next linked

theorem worker_known (worker : Nat) (new : Worker)
    (fine : ∀ event, new.inside = some event → event < s.pushed) :
    Known {s with workers := s.workers.set worker new} := by
  refine {known with inside := fun other member event inside => ?_}
  rcases List.mem_or_eq_of_mem_set member with before | rfl
  · exact known.inside other before event inside
  · exact fine event inside

theorem flushEvent_known (event : Nat) (pushed : event < s.pushed) : Known (flushEvent s event) := by
  have listed : ∀ other ∈ s.processingList ++ [event], other < s.pushed := by
    intro other member
    rcases List.mem_append.mp member with before | last
    · exact known.processing other before
    · obtain rfl := List.mem_singleton.mp last
      exact pushed
  rw [flushEvent]
  split
  · split
    next fresh =>
      have unlinked := change_known s known event
        (fun data => {data with lastEvent := none, nextEvent := none}) (by simp)
      refine ⟨unlinked.waiting,listed,fun key other found => ?_,unlinked.linked,unlinked.inside,
        unlinked.returned⟩
      rcases find_insert_elim _ key event other _ found with before | ⟨-,rfl,-⟩
      · exact known.mapped key other before
      · exact pushed
    next head found =>
      have behind := change_known s known (linkEnd s s.pushed head)
        (fun data => {data with nextEvent := some event}) (by
          intro next same
          obtain rfl := Option.some.inj same
          exact pushed)
      exact change_known _ behind event
        (fun data => {data with lastEvent := some (linkEnd s s.pushed head), nextEvent := none}) (by simp)
  · exact {known with processing := listed}

theorem flushEventWaitingList_known : Known (flushEventWaitingList s) := by
  have each (events : List Nat) (t : Pool) (known : Known t) (pushed : ∀ event ∈ events, event < t.pushed) :
      Known (events.foldl flushEvent t) := by
    induction events generalizing t with
    | nil => exact known
    | cons event events ih =>
      obtain ⟨first,rest⟩ := List.forall_mem_cons.mp pushed
      apply ih _ (flushEvent_known t known event first)
      rw [(flushEvent_aside t event).pushed]
      exact rest
  exact {each s.waitingList s known known.waiting with waiting := by simp [flushEventWaitingList]}

theorem takeFront_known (worker : Nat) (lastSequenceId : UInt64) :
    Known (takeFront worker lastSequenceId s) := by
  rw [takeFront]
  split
  · exact worker_known s known worker _ fun event inside => by cases inside
  next event rest list =>
    have front : event < s.pushed := known.processing event (by simp [list])
    have popped := worker_known s known worker (.popped event) fun other inside => by
      obtain rfl := Option.some.inj inside
      exact front
    exact {popped with processing := fun other member => known.processing other (by simp [list,member])}

theorem popFromDBEventProcessingList_known (worker : Nat) (lastSequenceId : UInt64) :
    Known (popFromDBEventProcessingList worker lastSequenceId s) := by
  rw [popFromDBEventProcessingList]
  split
  next event found =>
    have mapped : event < s.pushed := by
      rw [continued] at found
      split at found
      · cases found
      · exact known.mapped _ event found
    refine worker_known s known worker (.popped event) fun other inside => ?_
    obtain rfl := Option.some.inj inside
    exact mapped
  · split
    · split
      · exact worker_known s known worker _ fun event inside => by cases inside
      · exact takeFront_known _ (flushEventWaitingList_known s known) worker lastSequenceId
    · exact takeFront_known s known worker lastSequenceId

theorem postFireEvent_known (worker event : Nat) (pushed : event < s.pushed) :
    Known (postFireEvent worker event s) := by
  have posted (t : Pool) (known : Known t) (pushed : event < t.pushed) :
      Known {t.change event fun data => {data with lastEvent := none, nextEvent := none} with
        workers := t.workers.set worker (.posted event)} := by
    refine worker_known _ (change_known t known event _ (by simp)) worker (.posted event) fun other inside => ?_
    obtain rfl := Option.some.inj inside
    exact pushed
  have idle := worker_known s known worker (.idle 0) fun other inside => by cases inside
  rw [postFireEvent]
  split
  · split
    · exact idle
    next head found =>
      dsimp only
      cases link : (s.events event).nextEvent with
      | none =>
        refine posted _ {known with mapped := fun key other found => ?_} pushed
        exact known.mapped key other (find_erase_elim _ key other _ found).2
      | some next =>
        have behind : next < s.pushed := known.linked event next link
        have freed := change_known s known next (fun data => {data with lastEvent := none}) fun other =>
          known.linked next other
        refine posted _ {freed with mapped := fun key other found => ?_} pushed
        rcases find_insert_elim _ key next other _ found with before | ⟨-,rfl,-⟩
        · exact known.mapped key other before
        · exact behind
  · exact idle

theorem handBack_known (worker event : Nat) (pushed : event < s.pushed) :
    Known (handBack worker event s) := by
  have idle := worker_known s known worker (.idle (s.events event).sequenceId) fun other inside => by
    cases inside
  rw [handBack]
  dsimp only
  split
  · refine ⟨idle.waiting,idle.processing,idle.mapped,idle.linked,idle.inside,fun other member => ?_⟩
    rcases List.mem_append.mp member with before | last
    · exact known.returned other before
    · obtain rfl := List.mem_singleton.mp last
      exact pushed
  · exact ⟨idle.waiting,idle.processing,idle.mapped,idle.linked,idle.inside,idle.returned⟩

theorem workerStep_known (worker : Nat) : Known (workerStep worker s) := by
  have carried (data : Worker) (here : s.workers[worker]? = some data) (event : Nat)
      (inside : data.inside = some event) : event < s.pushed :=
    known.inside data (List.mem_of_getElem? here) event inside
  rw [workerStep]
  split
  · exact popFromDBEventProcessingList_known s known worker _
  · exact takeFront_known s known worker _
  next event here =>
    have fires := worker_known s known worker (.firing event) fun other inside => by
      obtain rfl := Option.some.inj inside
      exact carried _ here event rfl
    exact {fires with}
  next event here =>
    refine worker_known _ (change_known s known event _ (known.linked event)) worker (.fired event)
      fun other inside => ?_
    obtain rfl := Option.some.inj inside
    exact carried _ here event rfl
  next event here => exact postFireEvent_known s known worker event (carried _ here event rfl)
  next event here => exact handBack_known s known worker event (carried _ here event rfl)
  · exact known

end

end Fantuan.CacheServer.PoolEvents
