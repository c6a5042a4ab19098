import Fantuan.CacheServer.PoolRuns
import Fantuan.Lib.Reservations

/-! The order of a sequence. Its events are fired as they were pushed, by one worker at a
time, as long as an event is linked only behind one of its sequence and, with several
workers, no event of a sequence is flushed while another of it is to be fired.
-/
namespace Fantuan.CacheServer.PoolOrder
open Lib.Table Lib.Reservations Lib.Run DbConnPool PoolRuns

/-- The event that a worker fires or will fire. -/
def toFire : Worker → Option Nat
  | .popped event | .firing event => some event
  | .idle _ | .blocked _ | .fired _ | .posted _ => none

def running (s : Pool) (worker : Nat) : Option Nat := s.workers[worker]?.bind toFire

def sequenceOf (s : Pool) (event : Nat) : UInt64 := (s.events event).sequenceId

/-- Of one sequence, an event that is fired later was pushed later. -/
def FiredInOrder (s : Pool) : Prop :=
  s.log.Pairwise fun later earlier => ∀ event before, later = .fired event → earlier = .fired before →
    sequenceOf s event = sequenceOf s before → before < event

structure InOrder (s : Pool) : Prop where
  fired : FiredInOrder s
  alone : ∀ first second event other : Nat, first ≠ second → s.workers[first]? = some (.firing event) →
    s.workers[second]? = some (.firing other) → sequenceOf s event ≠ sequenceOf s other
  linked : ∀ event next, (s.events event).nextEvent = some next →
    sequenceOf s event = sequenceOf s next

/-- An event is linked in its own sequence, or joins no event of it that is to be fired
when there is another worker. -/
def Orderly (s : Pool) (event : Nat) : Prop :=
  (∀ head ∈ find (s.key event) s.sequenceMap, sequenceOf s head = sequenceOf s event) ∧
    (find (s.key event) s.sequenceMap = none → 2 ≤ s.workers.length →
      (∀ other ∈ s.processingList, sequenceOf s other ≠ sequenceOf s event) ∧
        ∀ worker ∈ s.workers, ∀ other ∈ toFire worker, sequenceOf s other ≠ sequenceOf s event)

instance (s : Pool) : DecidablePred (Orderly s) := fun event =>
  inferInstanceAs (Decidable ((∀ head ∈ find (s.key event) s.sequenceMap, _ = _) ∧
    (find (s.key event) s.sequenceMap = none → 2 ≤ s.workers.length →
      (∀ other ∈ s.processingList, _ ≠ _) ∧ ∀ worker ∈ s.workers, ∀ other ∈ toFire worker, _ ≠ _)))

/-- Events that left the processing list to be fired. -/
def Past (s : Pool) (event : Nat) : Prop :=
  (∃ worker, running s worker = some event) ∨ .fired event ∈ s.log

/-- Events leave the waiting list and the processing list in the order of their pushes,
and sequences that are to be fired by several workers differ. -/
structure Ordered (waiting : List Nat) (s : Pool) : Prop where
  waitingOrder : waiting.Pairwise (· < ·)
  listOrder : s.processingList.Pairwise (· < ·)
  listBefore : ∀ event ∈ waiting, ∀ other ∈ s.processingList, other < event
  pastBefore : ∀ event, event ∈ waiting ∨ event ∈ s.processingList → ∀ other, Past s other →
    other < event
  pushed : ∀ event, event ∈ waiting ∨ event ∈ s.processingList ∨ Past s event → event < s.pushed
  sequenced : ∀ event, event < s.pushed → (s.events event).sequence = true
  fired : FiredInOrder s
  popped : ∀ worker event before : Nat, s.workers[worker]? = some (.popped event) → .fired before ∈ s.log →
    sequenceOf s event = sequenceOf s before → before < event
  apart : ∀ first second event other, first ≠ second → running s first = some event →
    running s second = some other → sequenceOf s event ≠ sequenceOf s other
  listApart : 2 ≤ s.workers.length →
    s.processingList.Pairwise (fun event other => sequenceOf s event ≠ sequenceOf s other) ∧
      ∀ event ∈ s.processingList, ∀ worker other, running s worker = some other →
        sequenceOf s event ≠ sequenceOf s other
  linked : ∀ event next, (s.events event).nextEvent = some next →
    sequenceOf s event = sequenceOf s next ∧ next < s.pushed

/-- The events keep their sequences and get no new links. -/
structure Unlinked (s t : Pool) : Prop where
  sequenceId : ∀ event, sequenceOf t event = sequenceOf s event
  sequence : ∀ event, (t.events event).sequence = (s.events event).sequence
  links : ∀ event next, (t.events event).nextEvent = some next → (s.events event).nextEvent = some next

section
variable {waiting : List Nat} {s : Pool}

theorem running_set (worker : Nat) (old new : Worker) (here : s.workers[worker]? = some old)
    (other : Nat) : (s.workers.set worker new)[other]?.bind toFire =
      if other = worker then toFire new else running s other :=
  holds_set s.workers toFire worker old new here other

theorem unlinked_events {t : Pool} (events : t.events = s.events) : Unlinked s t := by
  refine ⟨fun event => ?_,fun event => ?_,fun event next => ?_⟩
  · rw [sequenceOf,events,sequenceOf]
  · rw [events]
  · rw [events]
    exact id

theorem unlinked_trans {middle t : Pool} (first : Unlinked s middle) (second : Unlinked middle t) :
    Unlinked s t where
  sequenceId event := (second.sequenceId event).trans (first.sequenceId event)
  sequence event := (second.sequence event).trans (first.sequence event)
  links event next link := first.links event next (second.links event next link)

theorem unlinked_change {t : Pool} (event : Nat) (change : DBEvent → DBEvent)
    (events : t.events = Function.update s.events event (change (s.events event)))
    (sequenceId : ∀ data, (change data).sequenceId = data.sequenceId)
    (sequence : ∀ data, (change data).sequence = data.sequence)
    (links : ∀ data next, (change data).nextEvent = some next → data.nextEvent = some next) :
    Unlinked s t := by
  have data (other : Nat) : t.events other = s.events other ∨
      other = event ∧ t.events other = change (s.events other) := by
    by_cases same : other = event
    · subst other
      right
      rw [events,Function.update_self]
      exact ⟨rfl,rfl⟩
    · left
      rw [events,Function.update_of_ne same]
  refine ⟨fun other => ?_,fun other => ?_,fun other next => ?_⟩
  · unfold sequenceOf
    rcases data other with same | ⟨-,changed⟩
    · rw [same]
    · rw [changed,sequenceId]
  · rcases data other with same | ⟨-,changed⟩
    · rw [same]
    · rw [changed,sequence]
  · rcases data other with same | ⟨-,changed⟩
    · rw [same]
      exact id
    · rw [changed]
      exact links _ next

theorem ordered_moved {t : Pool} (ordered : Ordered waiting s)
    (list : t.processingList = s.processingList) (pushed : t.pushed = s.pushed)
    (length : t.workers.length = s.workers.length)
    (same : ∀ event, sequenceOf t event = sequenceOf s event)
    (sequence : ∀ event, (t.events event).sequence = (s.events event).sequence)
    (linked : ∀ event next, (t.events event).nextEvent = some next →
      sequenceOf s event = sequenceOf s next ∧ next < s.pushed)
    (popped : ∀ worker event : Nat, t.workers[worker]? = some (.popped event) →
      s.workers[worker]? = some (.popped event))
    (runs : ∀ worker event, running t worker = some event → running s worker = some event)
    (marks : ∀ event, .fired event ∈ t.log → .fired event ∈ s.log) (fired : FiredInOrder t) :
    Ordered waiting t := by
  have past (event : Nat) (gone : Past t event) : Past s event := by
    rcases gone with ⟨worker,gone⟩ | gone
    · exact .inl ⟨worker,runs worker event gone⟩
    · exact .inr (marks event gone)
  refine ⟨ordered.waitingOrder,?_,?_,?_,?_,?_,fired,?_,?_,?_,?_⟩
  · rw [list]
    exact ordered.listOrder
  · rw [list]
    exact ordered.listBefore
  · rw [list]
    exact fun event place other gone => ordered.pastBefore event place other (past other gone)
  · rw [list,pushed]
    exact fun event place => ordered.pushed event (place.imp_right fun place => place.imp_right (past event))
  · rw [pushed]
    intro event below
    rw [sequence event]
    exact ordered.sequenced event below
  · intro worker event before here mark
    rw [same,same]
    exact ordered.popped worker event before (popped worker event here) (marks before mark)
  · intro first second event other different one two
    rw [same,same]
    exact ordered.apart first second event other different (runs first event one) (runs second other two)
  · rw [length,list]
    simp only [same]
    intro several
    obtain ⟨pairs,others⟩ := ordered.listApart several
    exact ⟨pairs,fun event member worker other here => others event member worker other (runs worker other here)⟩
  · intro event next link
    rw [same,same,pushed]
    exact linked event next link

theorem firedInOrder_congr {t : Pool} (log : t.log = s.log)
    (same : ∀ event, sequenceOf t event = sequenceOf s event) (fired : FiredInOrder s) :
    FiredInOrder t := by
  unfold FiredInOrder
  simp only [log,same]
  exact fired

theorem firedInOrder_cons {t : Pool} (mark : Mark) (log : t.log = mark :: s.log)
    (same : ∀ event, sequenceOf t event = sequenceOf s event) (fired : FiredInOrder s)
    (above : ∀ event before, mark = .fired event → .fired before ∈ s.log →
      sequenceOf s event = sequenceOf s before → before < event) : FiredInOrder t := by
  unfold FiredInOrder
  simp only [log,same]
  apply List.Pairwise.cons
  · rintro earlier member event before now rfl sequence
    exact above event before now member sequence
  · exact fired

theorem worker_ordered {t : Pool} (ordered : Ordered waiting s) (worker : Nat) (old new : Worker)
    (here : s.workers[worker]? = some old) (free : toFire new = none)
    (workers : t.workers = s.workers.set worker new)
    (list : t.processingList = s.processingList) (pushed : t.pushed = s.pushed)
    (unlinked : Unlinked s t)
    (marks : ∀ event, .fired event ∈ t.log → .fired event ∈ s.log) (fired : FiredInOrder t) :
    Ordered waiting t := by
  have runs (other event : Nat) (run : running t other = some event) :
      other ≠ worker ∧ running s other = some event := by
    unfold running at run
    rw [workers,running_set worker old new here] at run
    split at run
    · rw [free] at run
      cases run
    next different => exact ⟨different,run⟩
  apply ordered_moved ordered list pushed (by rw [workers,List.length_set]) unlinked.sequenceId
    unlinked.sequence
  · exact fun event next link => ordered.linked event next (unlinked.links event next link)
  · intro other event popped
    have different := (runs other event (by simp [running,popped,toFire])).1
    rw [workers,List.getElem?_set_ne (Ne.symm different)] at popped
    exact popped
  · exact fun other event run => (runs other event run).2
  · exact marks
  · exact fired

theorem takeFront_ordered (ordered : Ordered waiting s) (worker : Nat) (last : UInt64) (old : Worker)
    (here : s.workers[worker]? = some old) : Ordered waiting (takeFront worker last s) := by
  unfold takeFront
  split
  next =>
    exact worker_ordered ordered worker old (.idle last) here rfl rfl rfl rfl (unlinked_events rfl)
      (fun _ mark => mark) ordered.fired
  next front rest same =>
    have first : front ∈ s.processingList := by simp [same]
    have others (event : Nat) (member : event ∈ rest) : event ∈ s.processingList := by simp [same,member]
    obtain ⟨above,restOrder⟩ := List.pairwise_cons.mp (same ▸ ordered.listOrder)
    obtain ⟨bound,-⟩ := List.getElem?_eq_some_iff.mp here
    have runs (other event : Nat) : ((s.workers.set worker (.popped front))[other]?.bind toFire) = some event →
        other = worker ∧ event = front ∨ other ≠ worker ∧ running s other = some event := by
      rw [running_set worker old (.popped front) here]
      split
      next equal => exact fun run => .inl ⟨equal,(Option.some.inj run).symm⟩
      next different => exact fun run => .inr ⟨different,run⟩
    have several (other event : Nat) (different : other ≠ worker) (run : running s other = some event) :
        2 ≤ s.workers.length := by
      obtain ⟨state,inside,-⟩ := Option.bind_eq_some_iff.mp run
      obtain ⟨inside,-⟩ := List.getElem?_eq_some_iff.mp inside
      omega
    have past (event : Nat)
        (gone : Past {s with processingList := rest, workers := s.workers.set worker (.popped front)} event) :
        event = front ∨ Past s event := by
      rcases gone with ⟨other,gone⟩ | gone
      · rcases runs other event gone with ⟨-,equal⟩ | ⟨-,gone⟩
        · exact .inl equal
        · exact .inr (.inl ⟨other,gone⟩)
      · exact .inr (.inr gone)
    refine ⟨ordered.waitingOrder,restOrder,?_,?_,?_,ordered.sequenced,ordered.fired,?_,?_,?_,ordered.linked⟩
    · exact fun event waits other member => ordered.listBefore event waits other (others other member)
    · intro event place other gone
      rcases past other gone with rfl | gone
      · rcases place with waits | member
        · exact ordered.listBefore event waits other first
        · exact above event member
      · exact ordered.pastBefore event (place.imp_right (others event)) other gone
    · rintro event (waits | member | gone)
      · exact ordered.pushed event (.inl waits)
      · exact ordered.pushed event (.inr (.inl (others event member)))
      · rcases past event gone with rfl | gone
        · exact ordered.pushed event (.inr (.inl first))
        · exact ordered.pushed event (.inr (.inr gone))
    · intro other event before popped mark sequence
      dsimp only at popped mark
      by_cases equal : other = worker
      · subst other
        rw [List.getElem?_set_self bound] at popped
        obtain rfl := Worker.popped.inj (Option.some.inj popped)
        exact ordered.pastBefore front (.inr first) before (.inr mark)
      · rw [List.getElem?_set_ne (Ne.symm equal)] at popped
        exact ordered.popped other event before popped mark sequence
    · intro one two event other different left right
      rcases runs one event left with ⟨rfl,rfl⟩ | ⟨away,before⟩
      · rcases runs two other right with ⟨rfl,-⟩ | ⟨away,before⟩
        · exact absurd rfl different
        · exact (ordered.listApart (several two other away before)).2 event first two other before
      · rcases runs two other right with ⟨rfl,rfl⟩ | ⟨-,beside⟩
        · exact ((ordered.listApart (several one event away before)).2 other first one event before).symm
        · exact ordered.apart one two event other different before beside
    · dsimp only
      rw [List.length_set]
      intro length
      obtain ⟨pairs,away⟩ := ordered.listApart length
      obtain ⟨frontApart,restApart⟩ := List.pairwise_cons.mp (same ▸ pairs)
      refine ⟨restApart,fun event member other running run => ?_⟩
      rcases runs other running run with ⟨-,rfl⟩ | ⟨-,run⟩
      · exact (frontApart event member).symm
      · exact away event (others event member) other running run

theorem fireEvent_ordered (ordered : Ordered waiting s) (worker event : Nat)
    (here : s.workers[worker]? = some (.popped event)) :
    Ordered waiting (fireEvent worker event s) := by
  have run : running s worker = some event := by simp [running,here,toFire]
  have same (other : Nat) : running (fireEvent worker event s) other = running s other := by
    refine Eq.trans (running_set worker _ (.firing event) here other) ?_
    split
    next equal =>
      subst other
      exact run.symm
    next => rfl
  have past (other : Nat) (gone : Past (fireEvent worker event s) other) : Past s other := by
    rcases gone with ⟨holder,gone⟩ | gone
    · rw [same holder] at gone
      exact .inl ⟨holder,gone⟩
    · rcases List.mem_cons.mp gone with equal | gone
      · obtain rfl := Mark.fired.inj equal
        exact .inl ⟨worker,run⟩
      · exact .inr gone
  refine ⟨ordered.waitingOrder,ordered.listOrder,ordered.listBefore,?_,?_,ordered.sequenced,?_,?_,?_,?_,
    ordered.linked⟩
  · exact fun event place other gone => ordered.pastBefore event place other (past other gone)
  · exact fun event place => ordered.pushed event (place.imp_right fun place => place.imp_right (past event))
  · refine firedInOrder_cons (.fired event) rfl (fun _ => rfl) ordered.fired fun now before equal => ?_
    obtain rfl := Mark.fired.inj equal
    exact ordered.popped worker event before here
  · intro other now before popped mark sequence
    have away : other ≠ worker := by
      rintro rfl
      obtain ⟨bound,-⟩ := List.getElem?_eq_some_iff.mp here
      unfold fireEvent at popped
      dsimp only at popped
      rw [List.getElem?_set_self bound] at popped
      cases popped
    unfold fireEvent at popped mark
    dsimp only at popped mark
    rw [List.getElem?_set_ne (Ne.symm away)] at popped
    rcases List.mem_cons.mp mark with equal | mark
    · obtain rfl := Mark.fired.inj equal
      exact absurd sequence
        (ordered.apart other worker now before away (by simp [running,popped,toFire]) run)
    · exact ordered.popped other now before popped mark sequence
  · intro first second now other different one two
    rw [same] at one two
    exact ordered.apart first second now other different one two
  · simp only [same]
    unfold fireEvent
    dsimp only
    rw [List.length_set]
    exact ordered.listApart

theorem endFire_ordered (ordered : Ordered waiting s) (worker event : Nat)
    (here : s.workers[worker]? = some (.firing event)) :
    Ordered waiting (endFire worker event s) := by
  have unlinked : Unlinked s (endFire worker event s) :=
    unlinked_change event (fun data => {data with fired := true}) rfl (fun _ => rfl) (fun _ => rfl)
      (fun _ _ => id)
  have log : (endFire worker event s).log = s.log := rfl
  exact worker_ordered ordered worker _ (.fired event) here rfl rfl rfl rfl unlinked
    (fun _ mark => mark) (firedInOrder_congr log unlinked.sequenceId ordered.fired)

theorem postFireEvent_ordered (ordered : Ordered waiting s) (worker event : Nat)
    (here : s.workers[worker]? = some (.fired event)) :
    Ordered waiting (postFireEvent worker event s) := by
  have idle : Ordered waiting {s with workers := s.workers.set worker (.idle 0)} :=
    worker_ordered ordered worker _ (.idle 0) here rfl rfl rfl rfl (unlinked_events rfl)
      (fun _ mark => mark) ordered.fired
  have posted (t : Pool) (workers : t.workers = s.workers.set worker (.posted event))
      (list : t.processingList = s.processingList) (pushed : t.pushed = s.pushed)
      (log : t.log = s.log) (unlinked : Unlinked s t) : Ordered waiting t :=
    worker_ordered ordered worker _ (.posted event) here rfl workers list pushed unlinked
      (by simp [log]) (firedInOrder_congr log unlinked.sequenceId ordered.fired)
  unfold postFireEvent
  split
  · split
    · exact idle
    · dsimp only
      apply posted
      · rfl
      · dsimp only [Pool.change]
        split <;> rfl
      · dsimp only [Pool.change]
        split <;> rfl
      · dsimp only [Pool.change]
        split <;> rfl
      · refine unlinked_trans ?_ (unlinked_change event (fun data =>
          {data with lastEvent := none, nextEvent := none}) rfl (fun _ => rfl) (fun _ => rfl) (by simp))
        split
        next next _ =>
          exact unlinked_change next (fun data => {data with lastEvent := none}) rfl (fun _ => rfl)
            (fun _ => rfl) (fun _ _ => id)
        next => exact unlinked_events rfl
  · exact idle

theorem handBack_ordered (ordered : Ordered waiting s) (worker event : Nat)
    (here : s.workers[worker]? = some (.posted event)) :
    Ordered waiting (handBack worker event s) := by
  unfold handBack
  dsimp only
  split
  · exact worker_ordered ordered worker _ _ here rfl rfl rfl rfl (unlinked_events rfl) (by simp)
      (firedInOrder_cons (.returned event) rfl (fun _ => rfl) ordered.fired (by simp))
  · exact worker_ordered ordered worker _ _ here rfl rfl rfl rfl (unlinked_events rfl) (by simp)
      (firedInOrder_cons (.freed event) rfl (fun _ => rfl) ordered.fired (by simp))

theorem pushBack_ordered (ordered : Ordered s.waitingList s) (sequenceId : UInt64)
    (eventId : UInt32) (returnable : Bool) :
    Ordered (s.waitingList ++ [s.pushed]) (pushBack sequenceId eventId returnable s) := by
  have older (event : Nat) (below : event < s.pushed) : Function.update s.events s.pushed
      ⟨eventId,sequenceId,true,returnable,false,none,none⟩ event = s.events event :=
    Function.update_of_ne (by omega) _ _
  have same (event : Nat) (below : event < s.pushed) :
      sequenceOf (pushBack sequenceId eventId returnable s) event = sequenceOf s event := by
    unfold sequenceOf pushBack
    dsimp only
    rw [older event below]
  have known (event : Nat) (place : event ∈ s.processingList ∨ Past s event) : event < s.pushed :=
    ordered.pushed event (.inr place)
  refine ⟨?_,ordered.listOrder,?_,?_,?_,?_,?_,?_,?_,?_,?_⟩
  · rw [List.pairwise_append]
    refine ⟨ordered.waitingOrder,by simp,fun event member other last => ?_⟩
    obtain rfl := List.mem_singleton.mp last
    exact ordered.pushed event (.inl member)
  · intro event member other listed
    rcases List.mem_append.mp member with waits | last
    · exact ordered.listBefore event waits other listed
    · obtain rfl := List.mem_singleton.mp last
      exact known other (.inl listed)
  · intro event place other gone
    rcases place with member | listed
    · rcases List.mem_append.mp member with waits | last
      · exact ordered.pastBefore event (.inl waits) other gone
      · obtain rfl := List.mem_singleton.mp last
        exact known other (.inr gone)
    · exact ordered.pastBefore event (.inr listed) other gone
  · intro event place
    unfold pushBack
    dsimp only
    rcases place with member | place
    · rcases List.mem_append.mp member with waits | last
      · have := ordered.pushed event (.inl waits)
        omega
      · obtain rfl := List.mem_singleton.mp last
        omega
    · have := known event place
      omega
  · intro event below
    unfold pushBack at below ⊢
    dsimp only at below ⊢
    by_cases last : event = s.pushed
    · rw [last,Function.update_self]
    · rw [older event (by omega)]
      exact ordered.sequenced event (by omega)
  · apply List.Pairwise.imp_of_mem ?_ ordered.fired
    intro later earlier one two before event other now then_ sequence
    subst later earlier
    rw [same event (known event (.inr (.inr one))),same other (known other (.inr (.inr two)))] at sequence
    exact before event other rfl rfl sequence
  · intro worker event before popped mark sequence
    unfold pushBack at popped mark
    dsimp only at popped mark
    have run : Past s event := .inl ⟨worker,by simp [running,popped,toFire]⟩
    rw [same event (known event (.inr run)),same before (known before (.inr (.inr mark)))] at sequence
    exact ordered.popped worker event before popped mark sequence
  · intro first second event other different one two
    rw [same event (known event (.inr (.inl ⟨first,one⟩))),same other (known other (.inr (.inl ⟨second,two⟩)))]
    exact ordered.apart first second event other different one two
  · intro several
    obtain ⟨pairs,others⟩ := ordered.listApart several
    constructor
    · apply List.Pairwise.imp_of_mem ?_ pairs
      intro event other one two apart
      rw [same event (known event (.inl one)),same other (known other (.inl two))]
      exact apart
    · intro event member worker other run
      rw [same event (known event (.inl member)),same other (known other (.inr (.inl ⟨worker,run⟩)))]
      exact others event member worker other run
  · intro event next link
    unfold pushBack at link
    dsimp only at link
    by_cases last : event = s.pushed
    · rw [last,Function.update_self] at link
      cases link
    · rw [Function.update_of_ne last] at link
      obtain ⟨sequence,below⟩ := ordered.linked event next link
      constructor
      · rw [same next below]
        refine Eq.trans ?_ sequence
        unfold sequenceOf pushBack
        dsimp only
        rw [Function.update_of_ne last]
      · exact Nat.lt_succ_of_lt below

theorem ordered_tail (event : Nat) (ordered : Ordered (event :: waiting) s) : Ordered waiting s := by
  obtain ⟨-,waits⟩ := List.pairwise_cons.mp ordered.waitingOrder
  have later (other : Nat) (member : other ∈ waiting) : other ∈ event :: waiting :=
    List.mem_cons_of_mem event member
  exact {ordered with
    waitingOrder := waits
    listBefore := fun other member => ordered.listBefore other (later other member)
    pastBefore := fun other place => ordered.pastBefore other (place.imp_left (later other))
    pushed := fun other place => ordered.pushed other (place.imp_left (later other))}

theorem linkEnd_sequence (ordered : Ordered waiting s) (fuel head : Nat) :
    sequenceOf s (linkEnd s fuel head) = sequenceOf s head := by
  induction fuel generalizing head with
  | zero => rfl
  | succ fuel ih =>
    unfold linkEnd
    split
    next next linked =>
      rw [ih next]
      exact (ordered.linked head next linked).1.symm
    next => rfl

theorem link_ordered (ordered : Ordered waiting s) (last event : Nat) (pushed : event < s.pushed)
    (sequence : sequenceOf s last = sequenceOf s event) :
    Ordered waiting ((s.change last fun data => {data with nextEvent := some event}).change event
      fun data => {data with lastEvent := some last, nextEvent := none}) := by
  let linked := s.change last fun data => {data with nextEvent := some event}
  have unlinked : Unlinked linked (linked.change event fun data =>
      {data with lastEvent := some last, nextEvent := none}) :=
    unlinked_change event (fun data => {data with lastEvent := some last, nextEvent := none}) rfl
      (fun _ => rfl) (fun _ => rfl) (by simp)
  have data (other : Nat) : sequenceOf linked other = sequenceOf s other ∧
      (linked.events other).sequence = (s.events other).sequence := by
    unfold linked sequenceOf Pool.change
    by_cases same : other = last
    · subst other
      simp
    · simp [same]
  have same (other : Nat) := (unlinked.sequenceId other).trans (data other).1
  refine ordered_moved ordered rfl rfl rfl same (fun other => ?_) (fun other next link => ?_)
    (fun _ _ => id) (fun _ _ => id) (fun _ => id) (firedInOrder_congr ?_ same ordered.fired)
  · exact (unlinked.sequence other).trans (data other).2
  · have link := unlinked.links other next link
    unfold linked Pool.change at link
    dsimp only at link
    by_cases equal : other = last
    · subst other
      rw [Function.update_self] at link
      obtain rfl := Option.some.inj link
      exact ⟨sequence,pushed⟩
    · rw [Function.update_of_ne equal] at link
      exact ordered.linked other next link
  · rfl

theorem list_ordered (event : Nat) (ordered : Ordered (event :: waiting) s)
    (clear : 2 ≤ s.workers.length →
      (∀ other ∈ s.processingList, sequenceOf s other ≠ sequenceOf s event) ∧
        ∀ worker ∈ s.workers, ∀ other ∈ toFire worker, sequenceOf s other ≠ sequenceOf s event) :
    Ordered waiting {s with processingList := s.processingList ++ [event]} := by
  have here : event ∈ event :: waiting := List.mem_cons_self
  have tail := ordered_tail event ordered
  obtain ⟨first,-⟩ := List.pairwise_cons.mp ordered.waitingOrder
  have listed (other : Nat) (member : other ∈ s.processingList ++ [event]) :
      other ∈ s.processingList ∨ other = event := by simpa using member
  refine {tail with listOrder := ?_, listBefore := ?_, pastBefore := ?_, pushed := ?_, listApart := ?_}
  · rw [List.pairwise_append]
    refine ⟨ordered.listOrder,by simp,fun other member last added => ?_⟩
    obtain rfl := List.mem_singleton.mp added
    exact ordered.listBefore last here other member
  · intro later waits other member
    rcases listed other member with member | rfl
    · exact tail.listBefore later waits other member
    · exact first later waits
  · rintro later (waits | member) other gone
    · exact tail.pastBefore later (.inl waits) other gone
    · rcases listed later member with member | rfl
      · exact tail.pastBefore later (.inr member) other gone
      · exact ordered.pastBefore later (.inl here) other gone
  · rintro other (waits | member | gone)
    · exact tail.pushed other (.inl waits)
    · rcases listed other member with member | rfl
      · exact tail.pushed other (.inr (.inl member))
      · exact ordered.pushed other (.inl here)
    · exact tail.pushed other (.inr (.inr gone))
  · intro several
    obtain ⟨pairs,others⟩ := ordered.listApart several
    obtain ⟨list,workers⟩ := clear several
    constructor
    · rw [List.pairwise_append]
      refine ⟨pairs,by simp,fun other member last added => ?_⟩
      obtain rfl := List.mem_singleton.mp added
      exact list other member
    · intro other member worker run holds
      rcases listed other member with member | rfl
      · exact others other member worker run holds
      · obtain ⟨state,inside,fires⟩ := Option.bind_eq_some_iff.mp holds
        exact (workers state (List.mem_of_getElem? inside) run fires).symm

theorem flushEvent_ordered (event : Nat) (ordered : Ordered (event :: waiting) s)
    (orderly : Orderly s event) : Ordered waiting (flushEvent s event) := by
  have here : event ∈ event :: waiting := List.mem_cons_self
  have pushed := ordered.pushed event (.inl here)
  have tail := ordered_tail event ordered
  obtain ⟨follows,joins⟩ := orderly
  rw [flushEvent,if_pos (ordered.sequenced event pushed)]
  cases found : find (s.key event) s.sequenceMap with
  | some head =>
    apply link_ordered tail _ event pushed
    rw [linkEnd_sequence ordered s.pushed head]
    exact follows head found
  | none =>
    have listed := list_ordered event ordered (joins found)
    let list : Pool := {s with processingList := s.processingList ++ [event]}
    have unlinked : Unlinked list {list.change event fun data =>
        {data with lastEvent := none, nextEvent := none} with
          sequenceMap := insert (s.key event) event s.sequenceMap} :=
      unlinked_change event (fun data => {data with lastEvent := none, nextEvent := none}) rfl
        (fun _ => rfl) (fun _ => rfl) (by simp)
    exact ordered_moved listed rfl rfl rfl unlinked.sequenceId unlinked.sequence
      (fun other next link => listed.linked other next (unlinked.links other next link))
      (fun _ _ => id) (fun _ _ => id) (fun _ => id)
      (firedInOrder_congr (s := list) rfl unlinked.sequenceId listed.fired)

theorem keeps_ordered : Keeps Orderly Ordered where
  push _ sequenceId eventId returnable ordered := pushBack_ordered ordered sequenceId eventId returnable
  takeReturned _ _ ordered := {ordered with}
  flush _ _ event ordered orderly := flushEvent_ordered event ordered orderly
  flushed _ _ ordered := {ordered with}
  block _ _ worker last ordered here := worker_ordered ordered worker _ (.blocked last) here rfl rfl rfl
    rfl (unlinked_events rfl) (fun _ => id) ordered.fired
  takeFront _ _ worker last old ordered here _ := takeFront_ordered ordered worker last old here
  fire _ _ worker event ordered here := fireEvent_ordered ordered worker event here
  endFire _ _ worker event ordered here := endFire_ordered ordered worker event here
  postFire _ _ worker event ordered here := postFireEvent_ordered ordered worker event here
  handBack _ _ worker event ordered here := handBack_ordered ordered worker event here

theorem new_ordered (connCount : Nat) : Ordered (new connCount).waitingList (new connCount) := by
  have idle (worker event : Nat) : running (new connCount) worker ≠ some event := by
    intro run
    obtain ⟨state,inside,fires⟩ := Option.bind_eq_some_iff.mp run
    obtain rfl := List.eq_of_mem_replicate (List.mem_of_getElem? inside)
    cases fires
  have fresh (event : Nat) : ¬ Past (new connCount) event := by
    rintro (⟨worker,run⟩ | mark)
    · exact idle worker event run
    · cases mark
  refine ⟨by simp [new],by simp [new],by simp [new],fun event place => ?_,fun event place => ?_,
    fun event below => ?_,by simp [FiredInOrder,new],fun worker event before _ mark => ?_,
    fun first second event other _ run => absurd run (idle first event),fun _ => by simp [new],
    fun event next link => ?_⟩
  · simp [new] at place
  · rcases place with waits | listed | gone
    · simp [new] at waits
    · simp [new] at listed
    · exact absurd gone (fresh event)
  · simp [new] at below
  · cases mark
  · cases link

theorem ordered_inOrder (ordered : Ordered s.waitingList s) : InOrder s where
  fired := ordered.fired
  alone first second event other different one two := by
    apply ordered.apart first second event other different
    · simp [running,one,toFire]
    · simp [running,two,toFire]
  linked event next link := (ordered.linked event next link).1

end

/-- The events of a sequence are fired in order and by one worker at a time, and only they
are linked, in every run whose flushes are orderly. -/
theorem run_inOrder (connCount : Nat) (actions : List Action)
    (orderly : Guarded step (Flushes Orderly) (new connCount) actions) :
    InOrder (run step (new connCount) actions) := by
  apply ordered_inOrder
  exact run_kept keeps_ordered (new connCount) actions (new_ordered connCount) orderly

/-- Two events of one sequence and one of another, with two workers at once. -/
def twoSequences : List Action :=
  [.push 5 1 true,.push 5 1 true,.push 6 2 true,.work 0,.work 1,.work 0,.work 1,.work 1,.work 0,
    .work 0,.work 0]

/-- Two events of one sequence and of two types, with two workers at once. -/
def oneSequence : List Action :=
  [.push 5 1 true,.push 5 2 true,.work 0,.work 1,.work 0,.work 1]

theorem run_inOrder_twoSequences :
    let run := run step (new 2) twoSequences
    (run.log = [.returned 0,.fired 2,.fired 0] ∧ (run.events 0).nextEvent = none) ∧ InOrder run :=
  ⟨by decide +kernel,run_inOrder 2 twoSequences (by decide +kernel)⟩

theorem run_inOrder_oneSequence : ¬ InOrder (run step (new 2) oneSequence) := by
  intro ordered
  have first : (run step (new 2) oneSequence).workers[0]? = some (.firing 0) := by decide +kernel
  have second : (run step (new 2) oneSequence).workers[1]? = some (.firing 1) := by decide +kernel
  apply ordered.alone 0 1 0 1 (by decide) first second
  decide +kernel

end Fantuan.CacheServer.PoolOrder
