import Fantuan.CacheServer.DbConnPool

/-! Invariants of the pool. They speak about the events that wait as a list of its own,
so that a flush is a run over that list; what every operation keeps is kept by every run
whose pops flush fitting events only.
-/
namespace Fantuan.CacheServer.PoolRuns
open Lib.Table Lib.Run DbConnPool

/-- The last sequence of a worker that is about to pop. -/
def lastSequence (s : Pool) (worker : Nat) : Option UInt64 :=
  match s.workers[worker]? with
  | some (.idle lastSequenceId) => some lastSequenceId
  | _ => none

/-- iLastEventSequenceId of a worker that is about to pop, or waits in the pop. -/
def lastSequenceId : Worker → Option UInt64
  | .idle lastSequenceId | .blocked lastSequenceId => some lastSequenceId
  | .popped _ | .firing _ | .fired _ | .posted _ => none

theorem lastSequenceId_outside (worker : Worker) (last : UInt64) (waits : lastSequenceId worker = some last) :
    worker.inside = none := by
  cases worker with
  | idle | blocked => rfl
  | popped | firing | fired | posted => cases waits

section
variable (Fits : Pool → Nat → Prop)

/-- A pop continues with no event of the map, and each event it flushes fits. -/
def Pops (lastSequenceId : UInt64) (s : Pool) : Prop :=
  continued lastSequenceId s = none ∧
    (s.processingList = [] → Guarded flushEvent Fits s s.waitingList)

def Flushes (s : Pool) : Action → Prop
  | .work worker => ∀ last ∈ lastSequence s worker, Pops Fits last s
  | .push _ _ _ | .takeReturned => True

instance [∀ s, DecidablePred (Fits s)] (last : UInt64) (s : Pool) : Decidable (Pops Fits last s) :=
  inferInstanceAs (Decidable (_ ∧ (_ → Guarded flushEvent Fits s s.waitingList)))

instance [∀ s, DecidablePred (Fits s)] (s : Pool) : DecidablePred (Flushes Fits s)
  -- not by trying every UInt64
  | .work worker => (lastSequence s worker).decidableForallMem
  | .push _ _ _ | .takeReturned => inferInstanceAs (Decidable True)

/-- Every operation of a worker keeps the invariant. -/
structure WorkKeeps (invariant : List Nat → Pool → Prop) : Prop where
  flush : ∀ waiting s event, invariant (event :: waiting) s → Fits s event →
    invariant waiting (flushEvent s event)
  flushed : ∀ waiting s, invariant waiting s → invariant waiting {s with waitingList := []}
  block : ∀ waiting s worker last, invariant waiting s → s.workers[worker]? = some (.idle last) →
    invariant waiting {s with workers := s.workers.set worker (.blocked last)}
  takeFront : ∀ waiting s worker last old, invariant waiting s → s.workers[worker]? = some old →
    lastSequenceId old = some last → invariant waiting (takeFront worker last s)
  fire : ∀ waiting s worker event, invariant waiting s → s.workers[worker]? = some (.popped event) →
    invariant waiting (fireEvent worker event s)
  endFire : ∀ waiting s worker event, invariant waiting s →
    s.workers[worker]? = some (.firing event) → invariant waiting (endFire worker event s)
  postFire : ∀ waiting s worker event, invariant waiting s →
    s.workers[worker]? = some (.fired event) → invariant waiting (postFireEvent worker event s)
  handBack : ∀ waiting s worker event, invariant waiting s →
    s.workers[worker]? = some (.posted event) → invariant waiting (handBack worker event s)

structure Keeps (invariant : List Nat → Pool → Prop) : Prop extends WorkKeeps Fits invariant where
  push : ∀ s sequenceId eventId returnable, invariant s.waitingList s →
    invariant (s.waitingList ++ [s.pushed]) (pushBack sequenceId eventId returnable s)
  takeReturned : ∀ waiting s, invariant waiting s → invariant waiting (popFromDBEventReturnList s)

end

section
variable {Fits : Pool → Nat → Prop} {invariant : List Nat → Pool → Prop}

structure Aside (s t : Pool) : Prop where
  pushed : t.pushed = s.pushed
  workers : t.workers = s.workers
  returnList : t.returnList = s.returnList
  log : t.log = s.log

theorem flushEvent_aside (s : Pool) (event : Nat) : Aside s (flushEvent s event) := by
  unfold flushEvent
  split
  · split <;> exact ⟨rfl,rfl,rfl,rfl⟩
  · exact ⟨rfl,rfl,rfl,rfl⟩

theorem flushEventWaitingList_aside (s : Pool) : Aside s (flushEventWaitingList s) := by
  have each (events : List Nat) (s : Pool) : Aside s (events.foldl flushEvent s) := by
    induction events generalizing s with
    | nil => exact ⟨rfl,rfl,rfl,rfl⟩
    | cons event events ih =>
      have first := flushEvent_aside s event
      have rest := ih (flushEvent s event)
      exact ⟨rest.pushed.trans first.pushed,rest.workers.trans first.workers,
        rest.returnList.trans first.returnList,rest.log.trans first.log⟩
  obtain ⟨pushed,workers,returnList,log⟩ := each s.waitingList s
  exact ⟨pushed,workers,returnList,log⟩

def Next (old new : Worker) : Prop :=
  match old with
  | .idle _ | .blocked _ => ∀ event, new.inside = some event → new = .popped event
  | .popped event => new = .firing event
  | .firing event => new = .fired event
  | .fired event => new = .posted event ∨ new = .idle 0
  | .posted _ => new.inside = none

/-- What is returned and what is marked when a worker goes on. -/
def outcome (s : Pool) : Worker → List Nat × List Mark
  | .popped event => (s.returnList,.fired event :: s.log)
  | .posted event =>
    if (s.events event).returnable then (s.returnList ++ [event],.returned event :: s.log)
    else (s.returnList,.freed event :: s.log)
  | .idle _ | .blocked _ | .firing _ | .fired _ => (s.returnList,s.log)

/-- What a step of a worker does beside the events and where they wait. -/
structure Moves (worker : Nat) (old : Worker) (s t : Pool) : Prop where
  pushed : t.pushed = s.pushed
  outcome : (t.returnList,t.log) = outcome s old
  workers : ∃ new, Next old new ∧ t.workers = s.workers.set worker new

theorem takeFront_moves (worker : Nat) (last : UInt64) (s t : Pool) (aside : Aside s t) (old : Worker)
    (waits : lastSequenceId old = some last) : Moves worker old s (takeFront worker last t) := by
  obtain ⟨pushed,workers,returnList,log⟩ := aside
  have quiet : outcome s old = (t.returnList,t.log) := by
    rw [returnList,log]
    cases old with
    | idle | blocked => rfl
    | popped | firing | fired | posted => cases waits
  have next (new : Worker) (takes : ∀ event, new.inside = some event → new = .popped event) : Next old new := by
    cases old with
    | idle | blocked => exact takes
    | popped | firing | fired | posted => cases waits
  rw [takeFront]
  split
  · exact ⟨pushed,quiet.symm,.idle last,next _ (fun _ inside => by cases inside),by rw [← workers]⟩
  next event _ _ =>
    refine ⟨pushed,quiet.symm,.popped event,next _ ?_,by rw [← workers]⟩
    exact fun other inside => congrArg _ (Option.some.inj inside)

theorem workerStep_moves (worker : Nat) (s : Pool) (old : Worker) (here : s.workers[worker]? = some old) :
    Moves worker old s (workerStep worker s) := by
  rw [workerStep,here]
  cases old with
  | idle last =>
    dsimp only
    rw [popFromDBEventProcessingList]
    split
    next event _ => exact ⟨rfl,rfl,.popped event,fun _ inside => congrArg _ (Option.some.inj inside),rfl⟩
    · split
      · split
        · exact ⟨rfl,rfl,.blocked last,(fun _ inside => by cases inside),rfl⟩
        · exact takeFront_moves worker last s _ (flushEventWaitingList_aside s) (.idle last) rfl
      · exact takeFront_moves worker last s s ⟨rfl,rfl,rfl,rfl⟩ (.idle last) rfl
  | blocked last => exact takeFront_moves worker last s s ⟨rfl,rfl,rfl,rfl⟩ (.blocked last) rfl
  | popped event => exact ⟨rfl,rfl,.firing event,rfl,rfl⟩
  | firing event => exact ⟨rfl,rfl,.fired event,rfl,rfl⟩
  | fired event =>
    dsimp only
    rw [postFireEvent]
    split
    · split
      · exact ⟨rfl,rfl,.idle 0,.inr rfl,rfl⟩
      · dsimp only [Pool.change]
        split <;> exact ⟨rfl,rfl,.posted event,.inl rfl,rfl⟩
    · exact ⟨rfl,rfl,.idle 0,.inr rfl,rfl⟩
  | posted event =>
    dsimp only
    rw [handBack]
    dsimp only
    split
    next returnable => exact ⟨rfl,(if_pos returnable).symm,.idle _,rfl,rfl⟩
    next kept => exact ⟨rfl,(if_neg kept).symm,.idle _,rfl,rfl⟩

theorem workerStep_none (worker : Nat) (s : Pool) (none : s.workers[worker]? = none) : workerStep worker s = s := by
  rw [workerStep,none]

theorem workerStep_workers (worker : Nat) (s : Pool) :
    ∃ new, (workerStep worker s).workers = s.workers.set worker new := by
  cases here : s.workers[worker]? with
  | none =>
    rw [workerStep_none worker s here]
    exact ⟨.idle 0,(List.set_eq_of_length_le (List.getElem?_eq_none_iff.mp here)).symm⟩
  | some old =>
    obtain ⟨new,-,workers⟩ := (workerStep_moves worker s old here).workers
    exact ⟨new,workers⟩

theorem takeFront_waitingList (worker : Nat) (last : UInt64) (s : Pool) :
    (takeFront worker last s).waitingList = s.waitingList := by
  unfold takeFront
  split <;> rfl

theorem postFireEvent_waitingList (worker event : Nat) (s : Pool) :
    (postFireEvent worker event s).waitingList = s.waitingList := by
  unfold postFireEvent
  split
  · split
    · rfl
    · dsimp only [Pool.change]
      split <;> rfl
  · rfl

theorem handBack_waitingList (worker event : Nat) (s : Pool) :
    (handBack worker event s).waitingList = s.waitingList := by
  unfold handBack
  dsimp only
  split <;> rfl

theorem flushes_kept (keeps : WorkKeeps Fits invariant) (waiting : List Nat) (s : Pool)
    (start : invariant waiting s) (fits : Guarded flushEvent Fits s waiting) :
    invariant [] (waiting.foldl flushEvent s) := by
  induction waiting generalizing s with
  | nil => exact start
  | cons event waiting ih =>
    obtain ⟨first,rest⟩ := fits
    exact ih _ (keeps.flush waiting s event start first) rest

theorem popFromDBEventProcessingList_kept (keeps : WorkKeeps Fits invariant) (s : Pool) (worker : Nat)
    (last : UInt64) (start : invariant s.waitingList s)
    (here : s.workers[worker]? = some (.idle last)) (pops : Pops Fits last s) :
    let popped := popFromDBEventProcessingList worker last s
    invariant popped.waitingList popped := by
  obtain ⟨alone,flushes⟩ := pops
  dsimp only
  rw [popFromDBEventProcessingList,alone]
  dsimp only
  split
  next empty =>
    split
    · exact keeps.block s.waitingList s worker last start here
    · rw [takeFront_waitingList]
      apply keeps.takeFront [] _ worker last (.idle last)
      · exact keeps.flushed [] _ (flushes_kept keeps _ s start (flushes (by simpa using empty)))
      · rw [(flushEventWaitingList_aside s).workers,here]
      · rfl
  next =>
    rw [takeFront_waitingList]
    exact keeps.takeFront _ s worker last (.idle last) start here rfl

theorem workerStep_kept (keeps : WorkKeeps Fits invariant) (s : Pool) (worker : Nat)
    (start : invariant s.waitingList s) (flushes : Flushes Fits s (.work worker)) :
    invariant (workerStep worker s).waitingList (workerStep worker s) := by
  unfold workerStep
  split
  next last here =>
    apply popFromDBEventProcessingList_kept keeps s worker last start here
    exact flushes last (by simp [lastSequence,here])
  next last here =>
    rw [takeFront_waitingList]
    exact keeps.takeFront _ s worker last _ start here rfl
  next event here => exact keeps.fire _ s worker event start here
  next event here => exact keeps.endFire _ s worker event start here
  next event here =>
    rw [postFireEvent_waitingList]
    exact keeps.postFire _ s worker event start here
  next event here =>
    rw [handBack_waitingList]
    exact keeps.handBack _ s worker event start here
  next => exact start

theorem step_kept (keeps : Keeps Fits invariant) (s : Pool) (action : Action)
    (start : invariant s.waitingList s) (flushes : Flushes Fits s action) :
    invariant (step s action).waitingList (step s action) := by
  cases action with
  | push sequenceId eventId returnable =>
    unfold step pushSequenceEvent
    dsimp only
    split
    · exact start
    · exact keeps.push s sequenceId eventId returnable start
  | takeReturned => exact keeps.takeReturned _ s start
  | work worker => exact workerStep_kept keeps.toWorkKeeps s worker start flushes

theorem run_kept (keeps : Keeps Fits invariant) (s : Pool) (actions : List Action)
    (start : invariant s.waitingList s) (flushes : Guarded step (Flushes Fits) s actions) :
    invariant (run step s actions).waitingList (run step s actions) :=
  run_invariant step (Flushes Fits) (fun s => invariant s.waitingList s)
    (step_kept keeps) s actions flushes start

end

end Fantuan.CacheServer.PoolRuns
