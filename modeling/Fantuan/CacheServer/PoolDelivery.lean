import Fantuan.CacheServer.PoolRuns
import Fantuan.Lib.Index

/-! Delivery by the pool. Every pushed event is in one place, and none is lost as long as
a flushed event finds no other one under its id and no worker finds one under the id of
its last sequence.
-/
namespace Fantuan.CacheServer.PoolDelivery
open Lib.Table Lib.Index Lib.Run DbConnPool PoolRuns

def handedBack (s : Pool) (event : Nat) : Nat :=
  s.log.count (.returned event) + s.log.count (.freed event)

/-- No event is fired twice, handed back before it is fired, lost, or linked behind one
that is handed back; when none is left to fire, all are fired and handed back. -/
structure Delivered (s : Pool) : Prop where
  once : ∀ event, s.log.count (.fired event) ≤ 1
  after : ∀ event, handedBack s event ≤ s.log.count (.fired event)
  flagged : ∀ event, (.returned event ∈ s.log → (s.events event).returnable = true) ∧
    (.freed event ∈ s.log → (s.events event).returnable = false)
  kept : ∀ event, event < s.pushed → handedBack s event = 1 ∨ event ∈ s.waitingList ∨
    event ∈ s.processingList ∨ ∃ worker ∈ s.workers, worker.inside = some event
  linked : ∀ event next, (s.events event).nextEvent = some next → handedBack s event = 0
  quiet : s.waitingList = [] → (∀ worker ∈ s.workers, worker.inside = none) →
    (∀ event ∈ s.processingList, .fired event ∈ s.log) →
    s.processingList = [] ∧ s.sequenceMap = ∅ ∧
      ∀ event, event < s.pushed → s.log.count (.fired event) = 1 ∧ handedBack s event = 1

/-- The map has no event under the id of this one. -/
def Fresh (s : Pool) (event : Nat) : Prop := find (s.key event) s.sequenceMap = none

instance (s : Pool) : DecidablePred (Fresh s) := fun event =>
  inferInstanceAs (Decidable (find (s.key event) s.sequenceMap = none))

/-- The event is in the processing list, or with a worker that has not post-fired it. -/
def Active (s : Pool) (event : Nat) : Prop :=
  0 < s.processingList.count event + s.workers.count (.popped event) +
    s.workers.count (.firing event) + s.workers.count (.fired event)

/-- Where every event is, with these events waiting. -/
structure Tracked (waiting : List Nat) (s : Pool) : Prop where
  place : ∀ event, waiting.count event + s.processingList.count event +
    s.workers.count (.popped event) + s.log.count (.fired event) = if event < s.pushed then 1 else 0
  finish : ∀ event, s.log.count (.fired event) = s.workers.count (.firing event) +
    s.workers.count (.fired event) + s.workers.count (.posted event) + handedBack s event
  flagged : ∀ event, (.returned event ∈ s.log → (s.events event).returnable = true) ∧
    (.freed event ∈ s.log → (s.events event).returnable = false)
  indexed : Indexes s.sequenceMap (Active s) s.key
  sequenced : ∀ event, event < s.pushed → (s.events event).sequence = true
  unlinked : ∀ event, (s.events event).nextEvent = none

section
variable {waiting : List Nat} {s : Pool}

theorem tracked_pushed (tracked : Tracked waiting s) (event : Nat)
    (present : 0 < waiting.count event + s.processingList.count event +
      s.workers.count (.popped event) + s.log.count (.fired event)) : event < s.pushed := by
  have place := tracked.place event
  split at place
  · assumption
  · omega

theorem active_pushed (tracked : Tracked waiting s) (event : Nat) (active : Active s event) :
    event < s.pushed := by
  have finish := tracked.finish event
  apply tracked_pushed tracked
  unfold Active at active
  omega

theorem handedBack_pushed (tracked : Tracked waiting s) (event : Nat)
    (done : 0 < handedBack s event) : event < s.pushed := by
  have finish := tracked.finish event
  apply tracked_pushed tracked
  omega

theorem handedBack_fired (tracked : Tracked waiting s) (event : Nat) :
    handedBack s event ≤ s.log.count (.fired event) ∧ s.log.count (.fired event) ≤ 1 := by
  have finish := tracked.finish event
  have place := tracked.place event
  constructor
  · omega
  · split at place <;> omega

theorem count_worker (workers : List Worker) (worker : Nat) (old new : Worker)
    (here : workers[worker]? = some old) (other : Worker) :
    (workers.set worker new).count other + (if old = other then 1 else 0) =
      workers.count other + (if new = other then 1 else 0) := by
  obtain ⟨bound,rfl⟩ := List.getElem?_eq_some_iff.mp here
  have positive : workers[worker] = other → 0 < workers.count other := by
    rintro rfl
    exact List.count_pos_iff.mpr (List.getElem_mem bound)
  rw [List.count_set bound]
  simp only [beq_iff_eq]
  split
  next same =>
    have := positive same
    omega
  next => omega

theorem tracked_moved {t : Pool} (tracked : Tracked waiting s) (pushed : t.pushed = s.pushed)
    (map : t.sequenceMap = s.sequenceMap)
    (data : ∀ event, (t.events event).eventId = (s.events event).eventId ∧
      (t.events event).sequence = (s.events event).sequence ∧
      (t.events event).returnable = (s.events event).returnable ∧
      (t.events event).nextEvent = (s.events event).nextEvent)
    (place : ∀ event, t.processingList.count event + t.workers.count (.popped event) +
      t.log.count (.fired event) = s.processingList.count event +
      s.workers.count (.popped event) + s.log.count (.fired event))
    (finish : ∀ event, t.log.count (.fired event) = t.workers.count (.firing event) +
      t.workers.count (.fired event) + t.workers.count (.posted event) + handedBack t event)
    (active : ∀ event, Active t event ↔ Active s event)
    (flagged : ∀ event, (.returned event ∈ t.log → (s.events event).returnable = true) ∧
      (.freed event ∈ t.log → (s.events event).returnable = false)) : Tracked waiting t := by
  refine ⟨fun event => ?_,finish,fun event => ?_,?_,fun event inside => ?_,fun event => ?_⟩
  · have before := tracked.place event
    have same := place event
    rw [pushed]
    omega
  · rw [(data event).2.2.1]
    exact flagged event
  · rw [map]
    apply indexes_congr tracked.indexed active
    intro event _
    unfold Pool.key
    rw [(data event).1]
  · rw [(data event).2.1]
    exact tracked.sequenced event (by omega)
  · rw [(data event).2.2.2]
    exact tracked.unlinked event

theorem count_phases (workers : List Worker) (worker : Nat) (old new : Worker)
    (here : workers[worker]? = some old) (event : Nat) :
    let after := workers.set worker new
    after.count (.popped event) + (if old = .popped event then 1 else 0) =
        workers.count (.popped event) + (if new = .popped event then 1 else 0) ∧
      after.count (.firing event) + (if old = .firing event then 1 else 0) =
        workers.count (.firing event) + (if new = .firing event then 1 else 0) ∧
      after.count (.fired event) + (if old = .fired event then 1 else 0) =
        workers.count (.fired event) + (if new = .fired event then 1 else 0) ∧
      after.count (.posted event) + (if old = .posted event then 1 else 0) =
        workers.count (.posted event) + (if new = .posted event then 1 else 0) :=
  ⟨count_worker workers worker old new here _,count_worker workers worker old new here _,
    count_worker workers worker old new here _,count_worker workers worker old new here _⟩

theorem takeFront_tracked (tracked : Tracked waiting s) (worker : Nat) (last : UInt64)
    (old : Worker) (here : s.workers[worker]? = some old) (outside : old.inside = none) :
    Tracked waiting (takeFront worker last s) := by
  have phases (new : Worker) := count_phases s.workers worker old new here
  have away (event : Nat) : old ≠ .popped event ∧ old ≠ .firing event ∧ old ≠ .fired event ∧
      old ≠ .posted event := by
    refine ⟨?_,?_,?_,?_⟩ <;>
      (rintro rfl; cases outside)
  unfold takeFront
  split
  next empty =>
    refine tracked_moved tracked rfl rfl (fun _ => ⟨rfl,rfl,rfl,rfl⟩) (fun event => ?_) (fun event => ?_)
      (fun event => ?_) tracked.flagged
    all_goals
      obtain ⟨popped,firing,fired,posted⟩ := phases (.idle last) event
      simp [away event] at popped firing fired posted
    · dsimp only
      omega
    · have finish := tracked.finish event
      unfold handedBack at finish ⊢
      dsimp only
      omega
    · unfold Active
      dsimp only
      omega
  next front rest same =>
    have counts (event : Nat) : s.processingList.count event =
        rest.count event + if front = event then 1 else 0 := by
      rw [same,List.count_cons]
      simp
    refine tracked_moved tracked rfl rfl (fun _ => ⟨rfl,rfl,rfl,rfl⟩) (fun event => ?_) (fun event => ?_)
      (fun event => ?_) tracked.flagged
    all_goals
      have listed := counts event
      obtain ⟨popped,firing,fired,posted⟩ := phases (.popped front) event
      simp [away event] at popped firing fired posted
    · dsimp only
      omega
    · have finish := tracked.finish event
      unfold handedBack at finish ⊢
      dsimp only
      omega
    · unfold Active
      dsimp only
      omega

theorem fireEvent_tracked (tracked : Tracked waiting s) (worker event : Nat)
    (here : s.workers[worker]? = some (.popped event)) :
    Tracked waiting (fireEvent worker event s) := by
  refine tracked_moved tracked rfl rfl (fun _ => ⟨rfl,rfl,rfl,rfl⟩) (fun other => ?_) (fun other => ?_)
      (fun other => ?_) (fun other => ?_)
  all_goals
    have phases := count_phases s.workers worker (.popped event) (.firing event) here other
    obtain ⟨popped,firing,fired,posted⟩ := phases
    simp at popped firing fired posted
    unfold fireEvent
  · simp only [List.count_cons]
    simp
    omega
  · have finish := tracked.finish other
    unfold handedBack at finish ⊢
    simp only [List.count_cons]
    simp
    omega
  · unfold Active
    dsimp only
    omega
  · simpa using tracked.flagged other

theorem endFire_tracked (tracked : Tracked waiting s) (worker event : Nat)
    (here : s.workers[worker]? = some (.firing event)) :
    Tracked waiting (endFire worker event s) := by
  refine tracked_moved tracked rfl rfl (fun other => ?_) (fun other => ?_) (fun other => ?_)
    (fun other => ?_) tracked.flagged
  · by_cases same : other = event
    · subst other
      simp [endFire,Pool.change]
    · simp [endFire,Pool.change,same]
  all_goals
    have phases := count_phases s.workers worker (.firing event) (.fired event) here other
    obtain ⟨popped,firing,fired,posted⟩ := phases
    simp at popped firing fired posted
    unfold endFire
  · dsimp only [Pool.change]
    omega
  · have finish := tracked.finish other
    unfold handedBack at finish ⊢
    dsimp only [Pool.change]
    omega
  · unfold Active
    dsimp only [Pool.change]
    omega

private theorem handed_tracked (tracked : Tracked waiting s) (worker event : Nat)
    (here : s.workers[worker]? = some (.posted event)) (returnList : List Nat) (mark : Mark)
    (fits : mark = .returned event ∧ (s.events event).returnable = true ∨
      mark = .freed event ∧ (s.events event).returnable = false) :
    Tracked waiting {s with
      workers := s.workers.set worker (.idle (s.events event).sequenceId)
      returnList := returnList
      log := mark :: s.log} := by
  let idle := Worker.idle (s.events event).sequenceId
  have phases := count_phases s.workers worker (.posted event) idle here
  refine tracked_moved tracked rfl rfl (fun _ => ⟨rfl,rfl,rfl,rfl⟩) (fun other => ?_) (fun other => ?_)
    (fun other => ?_) (fun other => ?_)
  · obtain ⟨popped,-⟩ := phases other
    simp [idle] at popped
    rcases fits with ⟨rfl,-⟩ | ⟨rfl,-⟩ <;> simp [popped]
  · obtain ⟨-,firing,fired,posted⟩ := phases other
    simp [idle] at firing fired posted
    have finish := tracked.finish other
    unfold handedBack at finish ⊢
    rcases fits with ⟨rfl,-⟩ | ⟨rfl,-⟩ <;> (simp [List.count_cons]; omega)
  · obtain ⟨popped,firing,fired,-⟩ := phases other
    simp [idle] at popped firing fired
    simp [Active,popped,firing,fired]
  · have flagged := tracked.flagged other
    rcases fits with ⟨rfl,flag⟩ | ⟨rfl,flag⟩
    · refine ⟨fun member => ?_,by simpa using flagged.2⟩
      rcases List.mem_cons.mp member with same | before
      · obtain rfl := Mark.returned.inj same
        exact flag
      · exact flagged.1 before
    · refine ⟨by simpa using flagged.1,fun member => ?_⟩
      rcases List.mem_cons.mp member with same | before
      · obtain rfl := Mark.freed.inj same
        exact flag
      · exact flagged.2 before

theorem handBack_tracked (tracked : Tracked waiting s) (worker event : Nat)
    (here : s.workers[worker]? = some (.posted event)) :
    Tracked waiting (handBack worker event s) := by
  unfold handBack
  split
  next returnable => exact handed_tracked tracked worker event here _ _ (.inl ⟨rfl,returnable⟩)
  next freed => exact handed_tracked tracked worker event here _ _ (.inr ⟨rfl,by simpa using freed⟩)

private theorem unlinked_update (event : Nat) (tracked : Tracked waiting s) (other : Nat) :
    Function.update s.events event {s.events event with lastEvent := none, nextEvent := none} other =
      {s.events other with lastEvent := if other = event then none else (s.events other).lastEvent} := by
  have unlinked := tracked.unlinked other
  by_cases same : other = event
  · subst other
    simp [← unlinked]
  · simp [same]

theorem postFireEvent_tracked (tracked : Tracked waiting s) (worker event : Nat)
    (here : s.workers[worker]? = some (.fired event)) :
    Tracked waiting (postFireEvent worker event s) := by
  have member : 0 < s.workers.count (.fired event) := by
    apply List.count_pos_iff.mpr
    exact List.mem_of_getElem? here
  have active : Active s event := by
    unfold Active
    omega
  have pushed := active_pushed tracked event active
  have found := indexes_found tracked.indexed event active
  have phases := count_phases s.workers worker (.fired event) (.posted event) here
  have place := tracked.place event
  have finish := tracked.finish event
  rw [if_pos pushed] at place
  rw [postFireEvent,if_pos (tracked.sequenced event pushed),found,tracked.unlinked event]
  have data := unlinked_update event tracked
  refine ⟨fun other => ?_,fun other => ?_,fun other => ?_,?_,fun other inside => ?_,fun other => ?_⟩
  · obtain ⟨popped,-⟩ := phases other
    simp at popped
    refine Eq.trans ?_ (tracked.place other)
    dsimp only [Pool.change]
    omega
  · obtain ⟨-,firing,fired,posted⟩ := phases other
    simp at firing fired posted
    have finish := tracked.finish other
    unfold handedBack at finish ⊢
    dsimp only [Pool.change]
    omega
  · dsimp only [Pool.change]
    rw [data other]
    exact tracked.flagged other
  · apply indexes_erase tracked.indexed event active
    · intro other
      obtain ⟨popped,firing,fired,-⟩ := phases other
      simp at popped firing fired
      unfold Active
      dsimp only [Pool.change]
      by_cases same : other = event
      · subst other
        simp at fired
        omega
      · rw [if_neg (Ne.symm same)] at fired
        omega
    · intro other _
      dsimp only [Pool.key,Pool.change]
      rw [data other]
  · dsimp only [Pool.change] at inside ⊢
    rw [data other]
    exact tracked.sequenced other inside
  · dsimp only [Pool.change]
    rw [data other]
    exact tracked.unlinked other

theorem pushBack_tracked (tracked : Tracked s.waitingList s) (sequenceId : UInt64)
    (eventId : UInt32) (returnable : Bool) :
    Tracked (s.waitingList ++ [s.pushed]) (pushBack sequenceId eventId returnable s) := by
  unfold pushBack
  have older (event : Nat) (below : event < s.pushed) : Function.update s.events s.pushed
      ⟨eventId,sequenceId,true,returnable,false,none,none⟩ event = s.events event :=
    Function.update_of_ne (by omega) _ _
  refine ⟨fun event => ?_,tracked.finish,fun event => ?_,?_,fun event inside => ?_,fun event => ?_⟩
  · have place := tracked.place event
    dsimp only at place ⊢
    rw [List.count_append,List.count_singleton]
    by_cases same : event = s.pushed
    · subst event
      simp at place ⊢
      omega
    · simp [Ne.symm same] at place ⊢
      split at place <;> split <;> omega
  · have flagged := tracked.flagged event
    have returned : .returned event ∈ s.log → event < s.pushed := by
      intro member
      apply handedBack_pushed tracked
      have := List.count_pos_iff.mpr member
      unfold handedBack
      omega
    have freed : .freed event ∈ s.log → event < s.pushed := by
      intro member
      apply handedBack_pushed tracked
      have := List.count_pos_iff.mpr member
      unfold handedBack
      omega
    constructor
    · intro member
      dsimp only
      rw [older event (returned member)]
      exact flagged.1 member
    · intro member
      dsimp only
      rw [older event (freed member)]
      exact flagged.2 member
  · apply indexes_congr tracked.indexed
    · exact fun _ => Iff.rfl
    · intro event active
      dsimp only [Pool.key]
      rw [older event (active_pushed tracked event active)]
  · dsimp only at inside ⊢
    by_cases same : event = s.pushed
    · rw [same,Function.update_self]
    · have below : event < s.pushed := by omega
      rw [older event below]
      exact tracked.sequenced event below
  · dsimp only
    by_cases same : event = s.pushed
    · rw [same,Function.update_self]
    · rw [Function.update_of_ne same]
      exact tracked.unlinked event

theorem flushEvent_tracked (event : Nat) (tracked : Tracked (event :: waiting) s)
    (fresh : Fresh s event) : Tracked waiting (flushEvent s event) := by
  have place := tracked.place event
  have finish := tracked.finish event
  have pushed : event < s.pushed := by
    apply tracked_pushed tracked
    rw [List.count_cons_self]
    omega
  rw [if_pos pushed,List.count_cons_self] at place
  have inactive : ¬ Active s event := by
    unfold Active
    omega
  rw [flushEvent,if_pos (tracked.sequenced event pushed),fresh]
  have data := unlinked_update event tracked
  refine ⟨fun other => ?_,tracked.finish,fun other => ?_,?_,fun other inside => ?_,fun other => ?_⟩
  · refine Eq.trans ?_ (tracked.place other)
    dsimp only [Pool.change]
    rw [List.count_append,List.count_singleton,List.count_cons]
    omega
  · dsimp only [Pool.change]
    rw [data other]
    exact tracked.flagged other
  · apply indexes_insert tracked.indexed (s.key event) event fresh inactive
    · intro other
      unfold Active
      dsimp only [Pool.change]
      rw [List.count_append,List.count_singleton]
      by_cases same : other = event
      · rw [same,beq_self_eq_true,if_pos rfl]
        constructor
        · exact fun _ => .inr rfl
        · intro _
          omega
      · simp [same,Ne.symm same]
    · dsimp only [Pool.key,Pool.change]
      rw [data event]
    · intro other _
      dsimp only [Pool.key,Pool.change]
      rw [data other]
  · dsimp only [Pool.change] at inside ⊢
    rw [data other]
    exact tracked.sequenced other inside
  · dsimp only [Pool.change]
    rw [data other]
    exact tracked.unlinked other

theorem block_tracked (tracked : Tracked waiting s) (worker : Nat) (last : UInt64)
    (here : s.workers[worker]? = some (.idle last)) :
    Tracked waiting {s with workers := s.workers.set worker (.blocked last)} := by
  have phases := count_phases s.workers worker (.idle last) (.blocked last) here
  refine tracked_moved tracked rfl rfl (fun _ => ⟨rfl,rfl,rfl,rfl⟩) (fun event => ?_)
    (fun event => ?_) (fun event => ?_) tracked.flagged
  all_goals
    obtain ⟨popped,firing,fired,posted⟩ := phases event
    simp at popped firing fired posted
  · simp [popped]
  · simpa [firing,fired,posted,handedBack] using tracked.finish event
  · simp [Active,popped,firing,fired]

theorem keeps_tracked : Keeps Fresh Tracked where
  push _ sequenceId eventId returnable tracked :=
    pushBack_tracked tracked sequenceId eventId returnable
  takeReturned _ _ tracked := tracked_moved tracked rfl rfl (fun _ => ⟨rfl,rfl,rfl,rfl⟩)
    (fun _ => rfl) tracked.finish (fun _ => Iff.rfl) tracked.flagged
  flush _ _ event tracked fresh := flushEvent_tracked event tracked fresh
  flushed _ _ tracked := tracked_moved tracked rfl rfl (fun _ => ⟨rfl,rfl,rfl,rfl⟩)
    (fun _ => rfl) tracked.finish (fun _ => Iff.rfl) tracked.flagged
  block _ _ worker last tracked here := block_tracked tracked worker last here
  takeFront _ _ worker last old tracked here waits :=
    takeFront_tracked tracked worker last old here (lastSequenceId_outside old last waits)
  fire _ _ worker event tracked here := fireEvent_tracked tracked worker event here
  endFire _ _ worker event tracked here := endFire_tracked tracked worker event here
  postFire _ _ worker event tracked here := postFireEvent_tracked tracked worker event here
  handBack _ _ worker event tracked here := handBack_tracked tracked worker event here

theorem new_tracked (connCount : Nat) : Tracked (new connCount).waitingList (new connCount) := by
  have away (other : Worker) (inside : other ≠ .idle 0) : (new connCount).workers.count other = 0 := by
    apply List.count_eq_zero.mpr
    intro member
    exact inside (List.eq_of_mem_replicate member)
  refine ⟨fun event => ?_,fun event => ?_,fun event => by simp [new],?_,fun event below => ?_,
    fun event => rfl⟩
  · rw [away (.popped event) (by simp)]
    simp [new]
  · rw [away (.firing event) (by simp),away (.fired event) (by simp),away (.posted event) (by simp)]
    simp [new,handedBack]
  · apply indexes_empty
    intro event
    unfold Active
    rw [away (.popped event) (by simp),away (.firing event) (by simp),away (.fired event) (by simp)]
    simp [new]
  · simp [new] at below

theorem tracked_kept (tracked : Tracked s.waitingList s) (event : Nat) (pushed : event < s.pushed) :
    handedBack s event = 1 ∨ event ∈ s.waitingList ∨ event ∈ s.processingList ∨
      ∃ worker ∈ s.workers, worker.inside = some event := by
  have place := tracked.place event
  have finish := tracked.finish event
  rw [if_pos pushed] at place
  by_contra lost
  simp only [not_or,not_exists,not_and] at lost
  obtain ⟨unreturned,unwaiting,unlisted,outside⟩ := lost
  have absent (worker : Worker) (inside : worker.inside = some event) : s.workers.count worker = 0 :=
    List.count_eq_zero.mpr fun member => outside worker member inside
  have popped := absent (.popped event) rfl
  have firing := absent (.firing event) rfl
  have fired := absent (.fired event) rfl
  have posted := absent (.posted event) rfl
  have waiting := List.count_eq_zero.mpr unwaiting
  have listed := List.count_eq_zero.mpr unlisted
  omega

theorem tracked_quiet (tracked : Tracked s.waitingList s) (waiting : s.waitingList = [])
    (outside : ∀ worker ∈ s.workers, worker.inside = none)
    (unfired : ∀ event ∈ s.processingList, .fired event ∈ s.log) :
    s.processingList = [] ∧ s.sequenceMap = ∅ ∧
      ∀ event, event < s.pushed → s.log.count (.fired event) = 1 ∧ handedBack s event = 1 := by
  have absent (worker : Worker) (inside : worker.inside ≠ none) : s.workers.count worker = 0 :=
    List.count_eq_zero.mpr fun member => inside (outside worker member)
  have popped (event : Nat) := absent (.popped event) (by simp [Worker.inside])
  have firing (event : Nat) := absent (.firing event) (by simp [Worker.inside])
  have fired (event : Nat) := absent (.fired event) (by simp [Worker.inside])
  have posted (event : Nat) := absent (.posted event) (by simp [Worker.inside])
  have empty : s.processingList = [] := by
    apply List.eq_nil_iff_forall_not_mem.mpr
    intro event member
    have listed := List.count_pos_iff.mpr member
    have marked := List.count_pos_iff.mpr (unfired event member)
    have place := tracked.place event
    split at place <;> omega
  refine ⟨empty,?_,fun event pushed => ?_⟩
  · apply empty_of_find
    intro key
    apply Option.eq_none_iff_forall_ne_some.mpr
    intro event found
    have active := ((tracked.indexed key event).mp found).1
    unfold Active at active
    rw [empty,popped event,firing event,fired event] at active
    simp at active
  · have place := tracked.place event
    have finish := tracked.finish event
    rw [if_pos pushed,waiting,empty,popped event] at place
    rw [firing event,fired event,posted event] at finish
    simp at place finish
    omega

theorem tracked_delivered (tracked : Tracked s.waitingList s) : Delivered s where
  once event := (handedBack_fired tracked event).2
  after event := (handedBack_fired tracked event).1
  flagged := tracked.flagged
  kept := tracked_kept tracked
  linked event next link := by
    rw [tracked.unlinked event] at link
    cases link
  quiet := tracked_quiet tracked

end

/-- Every event is fired once and handed back once in every run whose flushed events and
popping workers find no other event under their ids. -/
theorem run_delivered (connCount : Nat) (actions : List Action)
    (fresh : Guarded step (Flushes Fresh) (new connCount) actions) :
    Delivered (run step (new connCount) actions) := by
  apply tracked_delivered
  exact run_kept keeps_tracked (new connCount) actions (new_tracked connCount) fresh

/-- Two events of two types, with two workers at once. -/
def twoTypes : List Action :=
  [.push 5 1 true,.push 6 2 false,.work 0,.work 1,.work 0,.work 1,.work 1,.work 1,.work 1,
    .work 0,.work 0,.work 0]

def oneType : List Action :=
  [.push 5 1 true,.push 6 1 true,.work 0,.work 0,.work 0,.work 0,.work 0]

theorem run_delivered_twoTypes :
    let run := run step (new 2) twoTypes
    run.log.count (.freed 1) = 1 ∧ Delivered run :=
  ⟨by decide +kernel,run_delivered 2 twoTypes (by decide +kernel)⟩

/-- The second event is put behind the first, which stays in the map; it is never fired. -/
theorem run_delivered_oneType : ¬ Delivered (run step (new 1) oneType) := by
  intro delivered
  have kept := delivered.kept 1 (by decide +kernel)
  revert kept
  decide +kernel

end Fantuan.CacheServer.PoolDelivery
