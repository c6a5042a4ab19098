import Fantuan.CacheServer.CacheDBEvent
import Fantuan.CacheServer.PoolEvents
import Fantuan.CacheServer.Procedures
import Mathlib.Algebra.Group.Nat.Defs

/-! The procedures that the DB workers call for the events that the pool gives them. The pool keys its events
by their event id, so that one event of an id is fired at a time and no two workers are in one procedure.
-/
namespace Fantuan.CacheServer.ProcedureCalls
open Lib.Table Lib.Run Lib.Reservations ServerBase.ServerCommon CacheDBEvent DbConnPool PoolRuns PoolEvents Procedures

/-- A session of a gate, or 0. To the master a gate server id of 0 means a failed allocation, so that the cache
hears of no other sessions. -/
structure Session where
  sessionId : UInt32
  ofGate : sessionId = 0 ∨ serverId sessionId ≠ 0

/-- What is asked of the database, by the number of the event: its members, and what the database makes of the
statement that FireEvent writes with them, a call of the event's procedure with some names or none where the
query fails or calls neither procedure. -/
structure Requests (Name : Type) where
  data : Nat → EventData
  call : Nat → Option (Call Name)
  own : ∀ event found, call event = some found → found.eventId = (data event).eventId

/-- With a thread of the database for each worker. -/
structure System (Name : Type) where
  pool : Pool
  server : Server Name

inductive Action where
  | push (session : Session) (returnable : Bool)
  | takeReturned
  | work (worker : Nat)
  | fail (worker : Nat)

section
variable {Name Key : Type} [DecidableEq Key] (key : Name → Key) (requests : Requests Name)

def push (session : Session) (returnable : Bool) (s : System Name) : System Name :=
  {s with pool := pushSequenceEvent session.sessionId.toUInt64 (requests.data s.pool.pushed).eventId returnable s.pool}

def answer (worker : Nat) (state : Thread Name) (s : Server Name) : Server Name :=
  {s with threads := s.threads.set worker state}

/-- A worker that begins FireEvent calls its procedure, and ends it when the call has returned. -/
def work (worker : Nat) (s : System Name) : System Name :=
  match s.server.threads[worker]? with
  | some thread =>
    if thread.free then
      match s.pool.workers[worker]? with
      | some (.popped event) =>
        match requests.call event with
        | some call => ⟨workerStep worker s.pool,answer worker (.called call) s.server⟩
        | none => {s with pool := workerStep worker s.pool}
      | _ => {s with pool := workerStep worker s.pool}
    else {s with server := execute key worker s.server}
  | none => s

def fail (worker : Nat) (s : System Name) : System Name :=
  match s.server.threads[worker]? with
  | some thread => if thread.free then s else {s with server := answer worker (.returned .error) s.server}
  | none => s

def step (s : System Name) : Action → System Name
  | .push session returnable => push requests session returnable s
  | .takeReturned => {s with pool := popFromDBEventReturnList s.pool}
  | .work worker => work key requests worker s
  | .fail worker => fail worker s

def init (connCount : Nat) : System Name := ⟨new connCount,Procedures.init connCount⟩

end

/-- The event that a worker has popped and not yet post-fired. -/
def taken : Worker → Option Nat
  | .popped event | .firing event | .fired event => some event
  | .idle _ | .blocked _ | .posted _ => none

section
variable (data : Nat → EventData)

def keyOf (event : Nat) : UInt64 := (data event).eventId.toUInt64

/-- The ids of the events that are to be fired: of those in the processing list, and of each worker's. -/
def lane (s : Pool) : Lib.Reservations.Table UInt64 :=
  tableOf (s.processingList.map (keyOf data)) s.workers fun worker => (taken worker).map (keyOf data)

def Held (key : UInt64) (s : Pool) : Prop :=
  key ∈ (lane data s).rows ∨ ∃ worker, (lane data s).pending worker = some key

structure Filed (event : Nat) (e : DBEvent) : Prop where
  eventId : e.eventId = (data event).eventId
  sequenceId : 2^24 ≤ e.sequenceId.toNat
  sequence : e.sequence = true

/-- No id is to be fired twice, and the map has it as long. No event id is a last sequence of a worker. -/
structure Serial (waiting : List Nat) (s : Pool) : Prop where
  known : Known s
  waiting : ∀ event ∈ waiting, event < s.pushed
  filed : ∀ event < s.pushed, Filed data event (s.events event)
  lane : (lane data s).Reserved
  mapped : ∀ key, Held data key s → find key s.sequenceMap ≠ none
  keys : ∀ key, find key s.sequenceMap ≠ none → key.toNat < 2^24
  lasts : ∀ worker ∈ s.workers, ∀ last, lastSequenceId worker = some last → last = 0 ∨ 2^24 ≤ last.toNat

variable {data} {waiting : List Nat} {s : Pool}

theorem keyOf_small (event : Nat) : (keyOf data event).toNat < 2^24 := by
  rw [keyOf]
  cases data event <;> simp [EventData.eventId]

theorem filed_change (pushed : Nat) (filed : ∀ event < pushed, Filed data event (s.events event)) (event : Nat)
    (change : DBEvent → DBEvent)
    (kept : ∀ e, (change e).eventId = e.eventId ∧ (change e).sequenceId = e.sequenceId ∧
      (change e).sequence = e.sequence) :
    ∀ other < pushed, Filed data other ((s.change event change).events other) := by
  intro other before
  obtain ⟨eventId,sequenceId,sequence⟩ := filed other before
  by_cases same : other = event
  · obtain ⟨first,second,third⟩ := kept (s.events event)
    rw [same] at eventId sequenceId sequence ⊢
    change Filed data event (Function.update s.events event _ event)
    rw [Function.update_self]
    exact ⟨first.trans eventId,second ▸ sequenceId,third.trans sequence⟩
  · change Filed data other (Function.update s.events event _ other)
    rw [Function.update_of_ne same]
    exact ⟨eventId,sequenceId,sequence⟩

theorem filed_key (serial : Serial data waiting s) (event : Nat) (before : event < s.pushed) :
    s.key event = keyOf data event := by
  rw [Pool.key,(serial.filed event before).eventId,keyOf]

theorem worker_serial {t : Pool} (serial : Serial data waiting s) (known : Known t) (pushed : t.pushed = s.pushed)
    (filed : ∀ event < s.pushed, Filed data event (t.events event)) (list : t.processingList = s.processingList)
    (map : t.sequenceMap = s.sequenceMap) (worker : Nat) (old new : Worker) (here : s.workers[worker]? = some old)
    (workers : t.workers = s.workers.set worker new) (fewer : ∀ event, taken new = some event → taken old = some event)
    (lasts : ∀ last, lastSequenceId new = some last → last = 0 ∨ 2^24 ≤ last.toNat) : Serial data waiting t := by
  have keyed (key : UInt64) (holds : (taken new).map (keyOf data) = some key) :
      (taken old).map (keyOf data) = some key := by
    obtain ⟨event,takes,same⟩ := Option.map_eq_some_iff.mp holds
    rw [fewer event takes]
    exact congrArg some same
  refine ⟨known,by rw [pushed]; exact serial.waiting,by rw [pushed]; exact filed,?_,?_,
    by rw [map]; exact serial.keys,?_⟩
  · rw [lane,list,workers]
    exact fewer_reserved _ _ _ worker old new here keyed serial.lane
  · rw [map]
    intro key held
    rw [Held,lane,list,workers] at held
    apply serial.mapped key (held.imp_right _)
    rintro ⟨other,holds⟩
    refine ⟨other,?_⟩
    change (s.workers.set worker new)[other]?.bind _ = _ at holds
    rw [holds_set s.workers _ worker old new here] at holds
    split at holds
    next same =>
      change s.workers[other]?.bind _ = _
      rw [same,here]
      exact keyed key holds
    · exact holds
  · rw [workers]
    intro state member last waits
    rcases List.mem_or_eq_of_mem_set member with before | rfl
    · exact serial.lasts state before last waits
    · exact lasts last waits

theorem takeFront_serial (serial : Serial data waiting s) (worker : Nat) (last : UInt64) (old : Worker)
    (here : s.workers[worker]? = some old) (waits : lastSequenceId old = some last) :
    Serial data waiting (takeFront worker last s) := by
  have known := takeFront_known s serial.known worker last
  rw [takeFront] at known ⊢
  split at known
  next =>
    refine worker_serial serial known rfl serial.filed rfl rfl worker old (.idle last) here rfl
      (fun _ takes => by cases takes) ?_
    intro other equal
    rw [← Option.some.inj equal]
    exact serial.lasts old (List.mem_of_getElem? here) last waits
  next event rest list =>
    have lanes : (tableOf (keyOf data event :: rest.map (keyOf data)) s.workers fun worker =>
        (taken worker).map (keyOf data)) = lane data s := by
      rw [lane,list,List.map_cons]
    refine ⟨known,serial.waiting,serial.filed,?_,?_,serial.keys,?_⟩
    · apply take_reserved _ s.workers _ worker old (.popped event) here (keyOf data event) rfl
      rw [lanes]
      exact serial.lane
    · intro key held
      apply serial.mapped key
      rw [Held,← lanes]
      rcases held with listed | ⟨other,holds⟩
      · exact .inl (List.mem_cons_of_mem _ listed)
      · change (s.workers.set worker (.popped event))[other]?.bind _ = _ at holds
        rw [holds_set s.workers _ worker old _ here] at holds
        split at holds
        · rw [← Option.some.inj holds]
          exact .inl List.mem_cons_self
        · exact .inr ⟨other,holds⟩
    · intro state member other holds
      rcases List.mem_or_eq_of_mem_set member with before | rfl
      · exact serial.lasts state before other holds
      · cases holds

theorem postFireEvent_serial (serial : Serial data waiting s) (worker event : Nat)
    (here : s.workers[worker]? = some (.fired event)) : Serial data waiting (postFireEvent worker event s) := by
  have pushed := serial.known.inside _ (List.mem_of_getElem? here) event rfl
  have known := postFireEvent_known s serial.known worker event pushed
  have mine : (lane data s).pending worker = some (keyOf data event) := by
    change s.workers[worker]?.bind _ = _
    rw [here]
    rfl
  have posted (t : Pool) (known : Known t) (before : t.pushed = s.pushed)
      (filed : ∀ other < s.pushed, Filed data other (t.events other)) (list : t.processingList = s.processingList)
      (map : t.sequenceMap = s.sequenceMap) (workers : t.workers = s.workers.set worker (.posted event)) :
      Serial data waiting t :=
    worker_serial serial known before filed list map worker _ (.posted event) here workers
      (fun _ takes => by cases takes) fun _ waits => by cases waits
  rw [postFireEvent,if_pos (serial.filed event pushed).sequence] at known ⊢
  cases found : find (s.key event) s.sequenceMap with
  | none =>
    rw [filed_key serial event pushed] at found
    exact absurd found (serial.mapped _ (.inr ⟨worker,mine⟩))
  | some head =>
    rw [found] at known
    dsimp only at known ⊢
    cases link : (s.events event).nextEvent with
    | some next =>
      rw [link] at known
      refine posted _ known rfl ?_ rfl ?_ rfl
      · exact filed_change s.pushed (filed_change s.pushed serial.filed next (fun e => {e with lastEvent := none})
          fun _ => ⟨rfl,rfl,rfl⟩) event (fun e => {e with lastEvent := none, nextEvent := none}) fun _ => ⟨rfl,rfl,rfl⟩
      · change Lib.Table.insert (s.key event) next s.sequenceMap = s.sequenceMap
        rw [Lib.Table.insert,found,Option.isSome_some,if_pos rfl]
    | none =>
      rw [link] at known
      -- the event's id leaves the map, and no other event of it is to be fired
      let kept : Pool := {s.change event fun e => {e with lastEvent := none, nextEvent := none} with
        workers := s.workers.set worker (.posted event)}
      have calm : Known kept := worker_known _ (change_known s serial.known event _ (by simp)) worker (.posted event)
        fun other inside => by
          rw [← Option.some.inj inside]
          exact pushed
      have filed := filed_change s.pushed serial.filed event (fun e => {e with lastEvent := none, nextEvent := none})
        fun _ => ⟨rfl,rfl,rfl⟩
      have serial' : Serial data waiting kept := posted kept calm rfl filed rfl rfl rfl
      have free (key : UInt64) (held : Held data key kept) : key ≠ keyOf data event := by
        rintro rfl
        rcases held with listed | ⟨other,holds⟩
        · exact serial.lane.absent worker _ mine listed
        · change (s.workers.set worker (.posted event))[other]?.bind _ = _ at holds
          rw [holds_set s.workers _ worker _ _ here] at holds
          split at holds
          · cases holds
          next different => exact different (serial.lane.alone other worker _ holds mine)
      refine ⟨known,serial.waiting,filed,serial'.lane,?_,?_,serial'.lasts⟩
      · intro key held
        change find key (erase (s.key event) s.sequenceMap) ≠ none
        rw [find_erase,filed_key serial event pushed,if_neg (free key held)]
        exact serial'.mapped key held
      · intro key present
        apply serial.keys key
        change find key (erase (s.key event) s.sequenceMap) ≠ none at present
        rw [find_erase] at present
        split at present
        · exact absurd rfl present
        · exact present

theorem handBack_serial (serial : Serial data waiting s) (worker event : Nat)
    (here : s.workers[worker]? = some (.posted event)) : Serial data waiting (handBack worker event s) := by
  have pushed := serial.known.inside _ (List.mem_of_getElem? here) event rfl
  have known := handBack_known s serial.known worker event pushed
  have done (t : Pool) (known : Known t) (events : t.events = s.events) (before : t.pushed = s.pushed)
      (list : t.processingList = s.processingList) (map : t.sequenceMap = s.sequenceMap)
      (workers : t.workers = s.workers.set worker (.idle (s.events event).sequenceId)) : Serial data waiting t := by
    refine worker_serial serial known before (by rw [events]; exact serial.filed) list map worker _ _ here workers
      (fun _ takes => by cases takes) ?_
    intro last equal
    rw [← Option.some.inj equal]
    exact .inr (serial.filed event pushed).sequenceId
  rw [handBack] at known ⊢
  dsimp only at known ⊢
  by_cases returnable : (s.events event).returnable
  · rw [if_pos returnable] at known ⊢
    exact done _ known rfl rfl rfl rfl rfl
  · rw [if_neg returnable] at known ⊢
    exact done _ known rfl rfl rfl rfl rfl

theorem flushEvent_serial (event : Nat) (serial : Serial data (event :: waiting) s) :
    Serial data waiting (flushEvent s event) := by
  have pushed := serial.waiting event List.mem_cons_self
  have known := flushEvent_known s serial.known event pushed
  have waits (other : Nat) (member : other ∈ waiting) : other < s.pushed :=
    serial.waiting other (List.mem_cons_of_mem event member)
  rw [flushEvent,if_pos (serial.filed event pushed).sequence] at known ⊢
  cases found : find (s.key event) s.sequenceMap with
  | some head =>
    rw [found] at known
    let last := linkEnd s s.pushed head
    exact ⟨known,waits,filed_change s.pushed (filed_change s.pushed serial.filed last
      (fun e => {e with nextEvent := some event}) fun _ => ⟨rfl,rfl,rfl⟩) event
      (fun e => {e with lastEvent := some last, nextEvent := none}) fun _ => ⟨rfl,rfl,rfl⟩,
      serial.lane,serial.mapped,serial.keys,serial.lasts⟩
  | none =>
    rw [found] at known
    have absent := found
    rw [filed_key serial event pushed] at absent
    have free : ¬ Held data (keyOf data event) s := fun held => serial.mapped _ held absent
    have lanes : lane data {s with processingList := s.processingList ++ [event]} =
        ⟨(lane data s).rows ++ [keyOf data event],(lane data s).pending⟩ := by
      rw [lane,List.map_append]
      rfl
    refine ⟨known,waits,filed_change s.pushed serial.filed event
      (fun e => {e with lastEvent := none, nextEvent := none}) fun _ => ⟨rfl,rfl,rfl⟩,?_,?_,?_,serial.lasts⟩
    · change (lane data {s with processingList := s.processingList ++ [event]}).Reserved
      rw [lanes]
      exact add_reserved _ _ (fun member => free (.inl member)) (fun worker holds => free (.inr ⟨worker,holds⟩))
        serial.lane
    · intro key held
      change Held data key {s with processingList := s.processingList ++ [event]} at held
      rw [Held,lanes,List.mem_append,List.mem_singleton] at held
      change find key (Lib.Table.insert (s.key event) event s.sequenceMap) ≠ none
      rw [find_insert _ _ _ _ found,filed_key serial event pushed]
      split
      · exact Option.some_ne_none _
      next other => exact serial.mapped key (held.imp_left fun listed => listed.resolve_right other)
    · intro key present
      change find key (Lib.Table.insert (s.key event) event s.sequenceMap) ≠ none at present
      rw [find_insert _ _ _ _ found,filed_key serial event pushed] at present
      split at present
      next equal =>
        rw [equal]
        exact keyOf_small event
      · exact serial.keys key present

theorem keeps_serial : WorkKeeps (fun _ _ => True) (Serial data) where
  flush _ _ event serial _ := flushEvent_serial event serial
  flushed _ _ serial :=
    {serial with known := {serial.known with waiting := fun _ member => (List.not_mem_nil member).elim}}
  block _ s worker last serial here := worker_serial serial
    (worker_known s serial.known worker _ fun _ inside => by cases inside) rfl serial.filed rfl rfl worker _
    (.blocked last) here rfl (fun _ takes => takes) (serial.lasts (.idle last) (List.mem_of_getElem? here))
  takeFront _ _ worker last old serial here waits := takeFront_serial serial worker last old here waits
  fire _ s worker event serial here := worker_serial serial
    {worker_known s serial.known worker (.firing event)
      (serial.known.inside (.popped event) (List.mem_of_getElem? here)) with}
    rfl serial.filed rfl rfl worker _ (.firing event) here rfl (fun _ takes => takes) fun _ waits => by cases waits
  endFire _ s worker event serial here := worker_serial serial
    (worker_known _ (change_known s serial.known event _ (serial.known.linked event)) worker (.fired event)
      (serial.known.inside (.firing event) (List.mem_of_getElem? here))) rfl
    (filed_change s.pushed serial.filed event (fun e => {e with fired := true}) fun _ => ⟨rfl,rfl,rfl⟩) rfl rfl worker _
    (.fired event) here rfl (fun _ takes => takes) fun _ waits => by cases waits
  postFire _ _ worker event serial here := postFireEvent_serial serial worker event here
  handBack _ _ worker event serial here := handBack_serial serial worker event here

theorem new_serial (connCount : Nat) : Serial data [] (new connCount) := by
  have idle (worker : Worker) (member : worker ∈ (new connCount).workers) : worker = .idle 0 :=
    List.eq_of_mem_replicate member
  have nobody (worker : Nat) (key : UInt64) : (lane data (new connCount)).pending worker ≠ some key := by
    intro holds
    obtain ⟨state,inside,takes⟩ := Option.bind_eq_some_iff.mp holds
    rw [idle state (List.mem_of_getElem? inside)] at takes
    cases takes
  refine ⟨new_known connCount,fun _ member => (List.not_mem_nil member).elim,
    fun _ before => (Nat.not_lt_zero _ before).elim,⟨.nil,fun worker key holds => absurd holds (nobody worker key),
      fun worker _ key holds => absurd holds (nobody worker key)⟩,?_,fun _ present => absurd (find_empty _) present,?_⟩
  · rintro key (listed | ⟨worker,holds⟩)
    · cases listed
    · exact absurd holds (nobody worker key)
  · intro worker member last waits
    rw [idle worker member] at waits
    exact .inl (Option.some.inj waits).symm

theorem push_serial (serial : Serial data s.waitingList s) (session : Session) (returnable : Bool) :
    Serial data (pushSequenceEvent session.sessionId.toUInt64 (data s.pushed).eventId returnable s).waitingList
      (pushSequenceEvent session.sessionId.toUInt64 (data s.pushed).eventId returnable s) := by
  have known := pushSequenceEvent_known s serial.known session.sessionId.toUInt64 (data s.pushed).eventId returnable
  rw [pushSequenceEvent] at known ⊢
  by_cases refused : session.sessionId.toUInt64 = 0
  · rw [if_pos refused]
    exact serial
  · rw [if_neg refused] at known ⊢
    refine ⟨known,known.waiting,?_,serial.lane,serial.mapped,serial.keys,serial.lasts⟩
    intro event before
    change Filed data event (Function.update s.events s.pushed _ event)
    obtain below | rfl := Nat.lt_succ_iff_lt_or_eq.mp before
    · rw [Function.update_of_ne (Nat.ne_of_lt below)]
      exact serial.filed event below
    · rw [Function.update_self]
      refine ⟨rfl,?_,rfl⟩
      have gate : serverId session.sessionId ≠ 0 := by
        refine session.ofGate.resolve_left fun zero => refused ?_
        rw [zero]
        rfl
      have byte := serverId_toNat session.sessionId
      have positive : (serverId session.sessionId).toNat ≠ 0 := fun zero => gate (UInt8.toNat_inj.mp zero)
      change 2^24 ≤ session.sessionId.toUInt64.toNat
      rw [UInt32.toNat_toUInt64]
      omega

theorem serial_flushes (serial : Serial data s.waitingList s) (worker : Nat) :
    Flushes (fun _ _ => True) s (.work worker) := by
  intro last waits
  refine ⟨?_,fun _ => guarded_true flushEvent s _⟩
  have idle : Worker.idle last ∈ s.workers := by
    rw [lastSequence] at waits
    split at waits
    next here =>
      rw [← Option.some.inj waits]
      exact List.mem_of_getElem? here
    · cases waits
  rw [continued]
  split
  · rfl
  next nonzero =>
    by_contra found
    have large := (serial.lasts _ idle last rfl).resolve_left nonzero
    exact Nat.not_lt.mpr large (serial.keys last found)

end

section
variable {Name Key : Type} [DecidableEq Key] (key : Name → Key) (requests : Requests Name)

/-- A thread is in the procedure of the event that its worker fires. -/
structure Driven (s : System Name) : Prop where
  serial : Serial requests.data s.pool.waitingList s.pool
  tidy : Tidy key s.server
  calls : ∀ (worker : Nat) (eventId : UInt32), s.server.threads[worker]?.bind Thread.eventId = some eventId →
    ∃ event, s.pool.workers[worker]? = some (.firing event) ∧ (requests.data event).eventId = eventId

omit [DecidableEq Key] in
theorem init_driven (connCount : Nat) : Driven key requests (init connCount) := by
  refine ⟨new_serial connCount,init_tidy key connCount,?_⟩
  intro worker eventId inside
  obtain ⟨state,here,holds⟩ := Option.bind_eq_some_iff.mp inside
  rw [List.eq_of_mem_replicate (List.mem_of_getElem? here)] at holds
  cases holds

variable {key requests} {s : System Name} (driven : Driven key requests s)
include driven

omit [DecidableEq Key] in
theorem driven_single : Single s.server := by
  intro first second eventId one two
  have held (worker : Nat) (inside : s.server.threads[worker]?.bind Thread.eventId = some eventId) :
      (lane requests.data s.pool).pending worker = some eventId.toUInt64 := by
    obtain ⟨event,here,same⟩ := driven.calls worker eventId inside
    change s.pool.workers[worker]?.bind _ = _
    rw [here,← same]
    rfl
  exact driven.serial.lane.alone first second _ (held first one) (held second two)

omit [DecidableEq Key] in
theorem answer_tidy (worker : Nat) (state next : Thread Name) (here : s.server.threads[worker]? = some state)
    (account : pendingAccount key next = none) (avatar : pendingAvatar key next = none)
    (accountId : accountIdOf next = none) : Tidy key (answer worker next s.server) := by
  apply quiet_tidy key s.server worker state next here driven.tidy account avatar
  rw [accountId]
  exact fun _ held => by cases held

omit [DecidableEq Key] in
theorem push_driven (session : Session) (returnable : Bool) :
    Driven key requests (push requests session returnable s) := by
  refine ⟨push_serial driven.serial session returnable,driven.tidy,?_⟩
  intro worker eventId inside
  obtain ⟨event,here,same⟩ := driven.calls worker eventId inside
  refine ⟨event,?_,same⟩
  change (pushSequenceEvent _ _ _ s.pool).workers[worker]? = _
  rw [pushSequenceEvent]
  split
  · exact here
  · exact here

omit [DecidableEq Key] in
theorem workerStep_driven (worker : Nat) (thread : Thread Name) (here : s.server.threads[worker]? = some thread)
    (free : thread.eventId = none) (server : Server Name)
    (begins : server = s.server ∨ ∃ event call, s.pool.workers[worker]? = some (.popped event) ∧
      requests.call event = some call ∧ server = answer worker (.called call) s.server) :
    Driven key requests ⟨workerStep worker s.pool,server⟩ := by
  obtain ⟨new,workers⟩ := workerStep_workers worker s.pool
  refine ⟨workerStep_kept keeps_serial s.pool worker driven.serial (serial_flushes driven.serial worker),?_,?_⟩
  · rcases begins with rfl | ⟨event,call,-,-,rfl⟩
    · exact driven.tidy
    · exact answer_tidy driven worker thread (.called call) here rfl rfl rfl
  · intro other eventId inside
    change server.threads[other]?.bind _ = _ at inside
    change ∃ event, (workerStep worker s.pool).workers[other]? = some (.firing event) ∧ _
    by_cases mine : other = worker
    · rcases begins with rfl | ⟨event,call,popped,reads,rfl⟩
      · rw [mine,here] at inside
        change thread.eventId = some eventId at inside
        rw [free] at inside
        cases inside
      · rw [answer,holds_set _ _ worker thread _ here,if_pos mine] at inside
        refine ⟨event,?_,(requests.own event call reads).symm.trans (Option.some.inj inside)⟩
        rw [workerStep,popped,mine]
        exact List.getElem?_set_self (List.getElem?_eq_some_iff.mp popped).1
    · have before : s.server.threads[other]?.bind Thread.eventId = some eventId := by
        rcases begins with rfl | ⟨event,call,-,-,rfl⟩
        · exact inside
        · rw [answer,holds_set _ _ worker thread _ here,if_neg mine] at inside
          exact inside
      obtain ⟨event,firing,own⟩ := driven.calls other eventId before
      refine ⟨event,?_,own⟩
      rw [workers,List.getElem?_set_ne (Ne.symm mine)]
      exact firing

omit [DecidableEq Key] in
theorem server_driven (worker : Nat) (thread next : Thread Name) (server : Server Name)
    (here : s.server.threads[worker]? = some thread) (threads : server.threads = s.server.threads.set worker next)
    (inside : ∀ eventId, next.eventId = some eventId → thread.eventId = some eventId) (tidy : Tidy key server) :
    Driven key requests {s with server := server} := by
  refine ⟨driven.serial,tidy,?_⟩
  intro other eventId holds
  apply driven.calls other eventId
  change server.threads[other]?.bind _ = _ at holds
  rw [threads,holds_set _ _ worker thread _ here] at holds
  split at holds
  next mine =>
    rw [mine,here]
    exact inside eventId holds
  · exact holds

theorem work_driven (worker : Nat) : Driven key requests (work key requests worker s) := by
  rw [work]
  cases here : s.server.threads[worker]? with
  | none => exact driven
  | some thread =>
    dsimp only
    split
    next free =>
      have none : thread.eventId = none := by
        cases thread with
        | idle | returned => rfl
        | called | listing | creating | checked => cases free
      have steps := workerStep_driven driven worker thread here none
      split
      next event popped =>
        split
        next call reads => exact steps _ (.inr ⟨event,call,popped,reads,rfl⟩)
        · exact steps _ (.inl rfl)
      · exact steps _ (.inl rfl)
    · apply server_driven driven worker thread (statement key s.server.db thread).2 _ here
      · rw [execute,here]
      · exact statement_eventId key s.server.db thread
      · exact execute_tidy key s.server worker driven.tidy (driven_single driven)

omit [DecidableEq Key] in
theorem fail_driven (worker : Nat) : Driven key requests (fail worker s) := by
  rw [fail]
  cases here : s.server.threads[worker]? with
  | none => exact driven
  | some thread =>
    dsimp only
    split
    · exact driven
    · exact server_driven driven worker thread (.returned .error) _ here rfl (fun _ holds => by cases holds)
        (answer_tidy driven worker thread _ here rfl rfl rfl)

theorem step_driven (action : Action) : Driven key requests (step key requests s action) := by
  cases action with
  | push session returnable => exact push_driven driven session returnable
  | takeReturned =>
    have known := popFromDBEventReturnList_known s.pool driven.serial.known
    exact ⟨{driven.serial with known := known},driven.tidy,driven.calls⟩
  | work worker => exact work_driven driven worker
  | fail worker => exact fail_driven driven worker

end

/-- Two lists of the avatars of one account and a new avatar for it. -/
def listsAndCreate : Requests Nat where
  data
    | 2 => .avatarCreate [7] ⟨0,[8]⟩
    | _ => .getAvatarList [7] []
  call
    | 2 => some (.createAvatar 7 8)
    | _ => some (.getAvatarList 7)
  own := by
    rintro (_ | _ | _ | event) found reads <;> cases reads <;> rfl

/-- Two sessions and two workers at once; the second list is linked behind the first. -/
def twoSessions : List Action :=
  [.push ⟨0x01000000,.inr (by decide)⟩ true,.push ⟨0x01000100,.inr (by decide)⟩ true,
    .push ⟨0x01000100,.inr (by decide)⟩ true,.work 0,.work 1,.work 0,.work 1,.work 0,.work 0,.work 1,.work 0,.work 1,
    .work 1]

example : (run (step id listsAndCreate) (init 2) twoSessions).server.db = ⟨[⟨1,7⟩],[⟨2,1,8,0⟩],2,3⟩ := by
  decide +kernel

end Fantuan.CacheServer.ProcedureCalls
