import Fantuan.Lib.Run
import Fantuan.Lib.Threads
import Fantuan.StarNet.Connections

/-! One connection with its reference count, under any interleaving of the threads that use it.
An instruction is one interlocked operation, one call of the operating system or one of the handler;
what these answer is given with the step.
-/
namespace Fantuan.StarNet.IoRefs
open DataStream Connections Lib.Run Lib.Threads

/-- The instructions of AsyncSend, AsyncRecv, AsyncDisconnect and of the worker's branches. -/
inductive Instr where
  | testMax | increment | wsaSend | wsaRecv | decrement
  | compareExchange | disconnectEx
  | onConnection | testRefs | onDisconnect
  | printTotal
  deriving DecidableEq

/-- recvs, sends and disconnects are what the system has accepted and not yet completed; started,
reachedZero and finished are of the last episode, which connected_ being set to 1 begins. -/
structure Connection where
  acceptor : Bool
  iorefmax : Int
  connected : Bool
  iorefs : Int
  recvs : Nat
  sends : Nat
  disconnects : Nat
  episodes : Nat
  started : Nat
  reachedZero : Nat
  finished : Nat
  undefined : Bool
  deriving DecidableEq

abbrev State := Pool Connection Instr

def create (acceptor : Bool) : State :=
  ⟨⟨acceptor,65536,false,0,0,0,0,0,0,0,0,false⟩,[]⟩

def asyncSend : List Instr := [.testMax]

def asyncRecv : List Instr := [.increment,.wsaRecv]

def asyncDisconnect : List Instr := [.compareExchange]

def exec : Instr → Bool → Connection → Connection × List Instr
  | .testMax, _, s =>
    if s.iorefmax < s.iorefs then (s,asyncDisconnect) else (s,[.increment,.wsaSend])
  | .increment, _, s => ({s with iorefs := s.iorefs + 1},[])
  | .wsaSend, accepted, s =>
    if accepted then ({s with sends := s.sends + 1},[]) else (s,asyncDisconnect ++ [.decrement])
  | .wsaRecv, accepted, s =>
    if accepted then ({s with recvs := s.recvs + 1},[]) else (s,asyncDisconnect ++ [.decrement])
  | .decrement, _, s => ({s with iorefs := s.iorefs - 1},[])
  | .compareExchange, _, s =>
    if s.connected then ({s with connected := false},[.disconnectEx]) else (s,[])
  | .disconnectEx, accepted, s =>
    ({s with
      started := s.started + 1
      disconnects := if accepted then s.disconnects + 1 else s.disconnects},[])
  -- OnConnection and PopInputContext
  | .onConnection, answer, s => (s,if answer then asyncRecv else asyncDisconnect)
  -- the answer is that of PostQueuedCompletionStatus
  | .testRefs, posted, s =>
    if s.iorefs ≠ 0 then ({s with disconnects := if posted then s.disconnects + 1 else s.disconnects},[])
    else ({s with reachedZero := s.reachedZero + 1},[.onDisconnect])
  | .onDisconnect, _, s => ({s with finished := s.finished + 1},[])
  -- acceptor_->total_connection_, also where the connection was made by Connect
  | .printTotal, _, s => ({s with undefined := s.undefined || !s.acceptor},[])

def begin (s : State) : State :=
  {s with
    shared := {s.shared with
      connected := true
      episodes := s.shared.episodes + 1
      started := 0
      reachedZero := 0
      finished := 0}}

/-- A call of a user, a completion that the worker takes from the queue, or the next instruction
of a thread. -/
inductive Action where
  | asyncSend (operationType : OperationType) (len : Nat)
  | asyncDisconnect
  | setRefMax (max : UInt16)
  | accepted (setsockopt : Bool)
  | connected (setsockopt : Bool)
  | received (dwNumRead : Nat)
  | sent
  | disconnected
  | thread (thread : Nat) (answer : Bool)
  deriving DecidableEq

-- a pooled connection is accepted again after its OnDisconnect, one made by Connect is deleted
def step (s : State) : Action → State
  | .asyncSend operationType len =>
    if operationType ≠ .send then s
    else if maxOutputBuffer < len then s
    else s.spawn IoRefs.asyncSend
  | .asyncDisconnect => s.spawn IoRefs.asyncDisconnect
  | .setRefMax max => {s with shared := {s.shared with iorefmax := max.toNat}}
  | .accepted setsockopt =>
    if s.shared.acceptor ∧ (s.shared.episodes = 0 ∨ s.shared.finished ≠ 0) ∧ setsockopt then
      (begin s).spawn [.onConnection]
    else s
  | .connected setsockopt =>
    if s.shared.acceptor = false ∧ s.shared.episodes = 0 then
      if setsockopt then (begin s).spawn [.onConnection] else begin s
    else s
  | .received dwNumRead =>
    if s.shared.recvs = 0 then s
    else
      let taken := {s with shared := {s.shared with recvs := s.shared.recvs - 1}}
      if dwNumRead = 0 then taken.spawn (IoRefs.asyncDisconnect ++ [.printTotal,.decrement])
      else taken.spawn (asyncRecv ++ [.decrement])
  | .sent =>
    if s.shared.sends = 0 then s
    else Pool.spawn [.decrement] {s with shared := {s.shared with sends := s.shared.sends - 1}}
  | .disconnected =>
    if s.shared.disconnects = 0 then s
    else Pool.spawn [.testRefs] {s with shared := {s.shared with disconnects := s.shared.disconnects - 1}}
  | .thread thread answer => s.resume exec thread answer

/-- Operations that a thread is about to post, their reference being counted, or whose completion
it still has to count. -/
def held : Instr → Int
  | .increment => -1
  | .wsaSend | .wsaRecv | .decrement => 1
  | _ => 0

def outstanding (s : State) : Int := s.shared.recvs + s.shared.sends + s.pending held

def starting : Instr → Nat
  | .disconnectEx => 1
  | _ => 0

def closing : Instr → Nat
  | .testRefs => 1
  | _ => 0

def calling : Instr → Nat
  | .onDisconnect => 1
  | _ => 0

/-- What leads an open connection to its next receive or to its disconnect. -/
def carrying : Instr → Nat
  | .onConnection | .wsaRecv | .compareExchange => 1
  | _ => 0

def printing : Instr → Nat
  | .printTotal => 1
  | _ => 0

def Counted (s : Connection) (held : Int) : Prop := s.iorefs = s.recvs + s.sends + held

def Started (s : Connection) (starting : Nat) : Prop :=
  s.started + starting + s.connected.toNat = min s.episodes 1

def Closing (s : Connection) (closing : Nat) : Prop :=
  s.disconnects + s.reachedZero + closing = s.started

def Called (s : Connection) (calling : Nat) : Prop := s.finished + calling = s.reachedZero

def Carried (s : Connection) (carrying : Nat) : Prop := s.connected = true → 0 < s.recvs + carrying

def Printed (s : Connection) (printing : Nat) : Prop :=
  s.undefined = false ∧ (s.acceptor = true ∨ printing = 0)

structure Sound (s : State) : Prop where
  counted : Counted s.shared (s.pending held)
  started : Started s.shared (s.pending starting)
  closing : Closing s.shared (s.pending closing)
  called : Called s.shared (s.pending calling)
  carried : Carried s.shared (s.pending carrying)
  printed : Printed s.shared (s.pending printing)

/-- The calls that the code relies on are not refused, and no connection made by Connect receives
nothing. -/
def Relied (instr : Instr) (answer : Bool) (s : Connection) : Prop :=
  match instr with
  | .disconnectEx => answer = true
  | .testRefs => s.iorefs = 0 ∨ answer = true
  | _ => True

def Proper (s : State) : Action → Prop
  | .thread thread answer => ∀ instr, s.next thread = some instr → Relied instr answer s.shared
  | .connected setsockopt => setsockopt = true
  | .received dwNumRead => dwNumRead = 0 → s.shared.acceptor = true
  | _ => True

instance (answer : Bool) (s : Connection) : (instr : Instr) → Decidable (Relied instr answer s)
  | .disconnectEx => inferInstanceAs (Decidable (_ = _))
  | .testRefs => inferInstanceAs (Decidable (_ ∨ _))
  | .testMax | .increment | .wsaSend | .wsaRecv | .decrement | .compareExchange | .onConnection | .onDisconnect
  | .printTotal => inferInstanceAs (Decidable True)

instance (s : State) : DecidablePred (Proper s)
  | .thread thread answer => inferInstanceAs (Decidable (∀ instr ∈ s.next thread, Relied instr answer s.shared))
  | .connected _ => inferInstanceAs (Decidable (_ = _))
  | .received _ => inferInstanceAs (Decidable (_ → _))
  | .asyncSend _ _ | .asyncDisconnect | .setRefMax _ | .accepted _ | .sent | .disconnected =>
    inferInstanceAs (Decidable True)

private theorem exec_counted (instr : Instr) (answer : Bool) (s : Connection) (others : Int)
    (counted : Counted s (others + held instr)) :
    Counted (exec instr answer s).1 (others + weigh held (exec instr answer s).2) := by
  unfold Counted at *
  cases instr <;> simp only [exec,asyncDisconnect,asyncRecv] <;> (try split) <;>
    simp [weigh,held] at * <;> omega

private theorem exec_started (instr : Instr) (answer : Bool) (s : Connection) (others : Nat)
    (started : Started s (others + starting instr)) :
    Started (exec instr answer s).1 (others + weigh starting (exec instr answer s).2) := by
  rw [Started] at started ⊢
  cases instr with
  | compareExchange =>
    cases opened : s.connected <;> simp [exec,opened,weigh,starting] at started ⊢ <;> omega
  | disconnectEx =>
    simp only [starting] at started
    simp only [exec,weigh,List.map_nil,List.sum_nil]
    omega
  | _ =>
    simp only [starting] at started
    simp only [exec,asyncDisconnect,asyncRecv]
    try split
    all_goals simpa [weigh,starting] using started

private theorem exec_closing (instr : Instr) (answer : Bool) (s : Connection) (others : Nat)
    (relied : Relied instr answer s) (closed : Closing s (others + closing instr)) :
    Closing (exec instr answer s).1 (others + weigh closing (exec instr answer s).2) := by
  unfold Closing Relied at *
  cases instr <;> simp only [exec,asyncDisconnect,asyncRecv] <;> (try split) <;>
    simp_all [weigh,closing] <;> omega

private theorem exec_called (instr : Instr) (answer : Bool) (s : Connection) (others : Nat)
    (called : Called s (others + calling instr)) :
    Called (exec instr answer s).1 (others + weigh calling (exec instr answer s).2) := by
  unfold Called at *
  cases instr <;> simp only [exec,asyncDisconnect,asyncRecv] <;> (try split) <;>
    simp_all [weigh,calling] <;> omega

private theorem exec_carried (instr : Instr) (answer : Bool) (s : Connection) (others : Nat)
    (carried : Carried s (others + carrying instr)) :
    Carried (exec instr answer s).1 (others + weigh carrying (exec instr answer s).2) := by
  unfold Carried at *
  cases instr <;> simp only [exec,asyncDisconnect,asyncRecv] <;> (try split) <;>
    simp_all [weigh,carrying]

private theorem exec_printed (instr : Instr) (answer : Bool) (s : Connection) (others : Nat)
    (printed : Printed s (others + printing instr)) :
    Printed (exec instr answer s).1 (others + weigh printing (exec instr answer s).2) := by
  unfold Printed at *
  cases instr <;> simp only [exec,asyncDisconnect,asyncRecv] <;> (try split) <;>
    simp_all [weigh,printing]

private theorem create_sound (acceptor : Bool) : Sound (create acceptor) :=
  ⟨rfl,rfl,rfl,rfl,fun connected => (Bool.false_ne_true connected).elim,rfl,.inr rfl⟩

private theorem spawn_sound (program : List Instr) (s : State) (after : Connection) (sound : Sound s)
    (counted : ∀ n, Counted s.shared n → Counted after (weigh held program + n))
    (started : ∀ n, Started s.shared n → Started after (weigh starting program + n))
    (closed : ∀ n, Closing s.shared n → Closing after (weigh closing program + n))
    (called : ∀ n, Called s.shared n → Called after (weigh calling program + n))
    (carried : ∀ n, Carried s.shared n → Carried after (weigh carrying program + n))
    (printed : ∀ n, Printed s.shared n → Printed after (weigh printing program + n)) :
    Sound (Pool.spawn program {s with shared := after}) := by
  refine ⟨?_,?_,?_,?_,?_,?_⟩ <;> rw [spawn_pending]
  · exact counted _ sound.counted
  · exact started _ sound.started
  · exact closed _ sound.closing
  · exact called _ sound.called
  · exact carried _ sound.carried
  · exact printed _ sound.printed

private theorem call_sound (program : List Instr) (s : State) (sound : Sound s)
    (call : program = asyncSend ∨ program = asyncDisconnect) : Sound (s.spawn program) := by
  apply spawn_sound program s s.shared sound <;> obtain rfl | rfl := call <;> intro n before
  all_goals first
    | simpa [weigh,asyncSend,asyncDisconnect,held,starting,closing,calling,carrying,printing] using before
    | intro _
      exact Nat.lt_of_lt_of_le Nat.one_pos (by simp [weigh,asyncDisconnect,carrying]; omega)

private theorem sent_sound (s : State) (sound : Sound s) (posted : s.shared.sends ≠ 0) :
    Sound (Pool.spawn [.decrement] {s with shared := {s.shared with sends := s.shared.sends - 1}}) := by
  apply spawn_sound [.decrement] s _ sound <;> intro n before
  case counted =>
    unfold Counted at *
    change s.shared.iorefs = s.shared.recvs + (s.shared.sends - 1 : Nat) + (1 + 0 + n)
    omega
  case started => simpa [Started,weigh,starting] using before
  case closed => simpa [Closing,weigh,closing] using before
  case called => simpa [Called,weigh,calling] using before
  case carried => simpa [Carried,weigh,carrying] using before
  case printed => simpa [Printed,weigh,printing] using before

private theorem disconnected_sound (s : State) (sound : Sound s) (posted : s.shared.disconnects ≠ 0) :
    Sound (Pool.spawn [.testRefs]
      {s with shared := {s.shared with disconnects := s.shared.disconnects - 1}}) := by
  apply spawn_sound [.testRefs] s _ sound <;> intro n before
  case closed =>
    unfold Closing at *
    change s.shared.disconnects - 1 + s.shared.reachedZero + (1 + 0 + n) = s.shared.started
    omega
  case counted => simpa [Counted,weigh,held] using before
  case started => simpa [Started,weigh,starting] using before
  case called => simpa [Called,weigh,calling] using before
  case carried => simpa [Carried,weigh,carrying] using before
  case printed => simpa [Printed,weigh,printing] using before

private theorem received_sound (program : List Instr) (s : State) (sound : Sound s)
    (posted : s.shared.recvs ≠ 0)
    (more : program = asyncRecv ++ [Instr.decrement] ∨
      s.shared.acceptor = true ∧ program = asyncDisconnect ++ [Instr.printTotal,Instr.decrement]) :
    Sound (Pool.spawn program {s with shared := {s.shared with recvs := s.shared.recvs - 1}}) := by
  have carries : weigh carrying program = 1 := by
    obtain rfl | ⟨_,rfl⟩ := more <;> rfl
  have holds : weigh held program = 1 := by
    obtain rfl | ⟨_,rfl⟩ := more <;> rfl
  have none : weigh starting program = 0 ∧ weigh closing program = 0 ∧ weigh calling program = 0 := by
    obtain rfl | ⟨_,rfl⟩ := more <;> exact ⟨rfl,rfl,rfl⟩
  apply spawn_sound program s _ sound <;> intro n before
  case counted =>
    rw [holds]
    unfold Counted at *
    change s.shared.iorefs = (s.shared.recvs - 1 : Nat) + s.shared.sends + (1 + n)
    omega
  case started =>
    rw [none.1,zero_add]
    exact before
  case closed =>
    rw [none.2.1,zero_add]
    exact before
  case called =>
    rw [none.2.2,zero_add]
    exact before
  case carried =>
    intro _
    rw [carries]
    omega
  case printed =>
    refine ⟨before.1,?_⟩
    obtain rfl | ⟨acceptor,_⟩ := more
    · exact before.2.imp_right fun zero => by rw [zero]; rfl
    · exact .inl acceptor

private theorem begin_sound (s : State) (sound : Sound s)
    (fresh : s.shared.episodes = 0 ∨ s.shared.finished ≠ 0) :
    Sound ((begin s).spawn [.onConnection]) := by
  obtain ⟨counted,started,closed,called,_,printed⟩ := sound
  unfold Started at started
  unfold Closing at closed
  unfold Called at called
  refine ⟨?_,?_,?_,?_,?_,?_⟩ <;> rw [spawn_pending] <;> simp only [weigh,List.map_cons,List.map_nil,
    List.sum_cons,List.sum_nil,held,starting,closing,calling,carrying,printing,zero_add]
  · exact counted
  · change 0 + s.pending starting + 1 = min (s.shared.episodes + 1) 1
    omega
  · change s.shared.disconnects + 0 + s.pending closing = 0
    omega
  · change 0 + s.pending calling = 0
    omega
  · intro _
    omega
  · exact printed

private theorem thread_sound (thread : Nat) (answer : Bool) (s : State) (sound : Sound s)
    (relied : ∀ instr, s.next thread = some instr → Relied instr answer s.shared) :
    Sound (s.resume exec thread answer) where
  counted := resume_kept exec held Counted thread answer s
    (fun instr others _ => exec_counted instr answer s.shared others) sound.counted
  started := resume_kept exec starting Started thread answer s
    (fun instr others _ => exec_started instr answer s.shared others) sound.started
  closing := resume_kept exec closing Closing thread answer s
    (fun instr others next => exec_closing instr answer s.shared others (relied instr next)) sound.closing
  called := resume_kept exec calling Called thread answer s
    (fun instr others _ => exec_called instr answer s.shared others) sound.called
  carried := resume_kept exec carrying Carried thread answer s
    (fun instr others _ => exec_carried instr answer s.shared others) sound.carried
  printed := resume_kept exec printing Printed thread answer s
    (fun instr others _ => exec_printed instr answer s.shared others) sound.printed

theorem step_sound (s : State) (action : Action) (sound : Sound s) (proper : Proper s action) :
    Sound (step s action) := by
  cases action with
  | asyncSend operationType len =>
    rw [step]
    split
    · exact sound
    · split
      · exact sound
      · exact call_sound _ s sound (.inl rfl)
  | asyncDisconnect => exact call_sound _ s sound (.inr rfl)
  | setRefMax max => exact ⟨sound.1,sound.2,sound.3,sound.4,sound.5,sound.6⟩
  | accepted setsockopt =>
    rw [step]
    split
    case isTrue again => exact begin_sound s sound again.2.1
    case isFalse => exact sound
  | connected setsockopt =>
    obtain rfl : setsockopt = true := proper
    rw [step]
    split
    case isTrue first => exact begin_sound s sound (.inl first.2)
    case isFalse => exact sound
  | received dwNumRead =>
    rw [step]
    split
    · exact sound
    case isFalse posted =>
      split
      case isTrue nothing => exact received_sound _ s sound posted (.inr ⟨proper nothing,rfl⟩)
      case isFalse => exact received_sound _ s sound posted (.inl rfl)
  | sent =>
    rw [step]
    split
    · exact sound
    case isFalse posted => exact sent_sound s sound posted
  | disconnected =>
    rw [step]
    split
    · exact sound
    case isFalse posted => exact disconnected_sound s sound posted
  | thread thread answer => exact thread_sound thread answer s sound proper

/-- No thread is in the middle of a call, and the system has completed everything. -/
def Settled (s : State) : Prop :=
  s.Idle ∧ s.shared.recvs = 0 ∧ s.shared.sends = 0 ∧ s.shared.disconnects = 0

structure Accounted (s : State) : Prop where
  defined : s.shared.undefined = false
  counted : s.shared.iorefs = outstanding s
  idle : s.Idle → s.shared.iorefs = s.shared.recvs + s.shared.sends
  startedOnce : s.shared.started ≤ 1
  finishedOnce : s.shared.finished ≤ 1
  reachedZero : s.shared.finished ≤ s.shared.reachedZero
  finishes : Settled s → s.shared.episodes ≠ 0 → s.shared.finished = 1

theorem sound_accounted (s : State) (sound : Sound s) : Accounted s := by
  obtain ⟨counted,started,closed,called,carried,printed⟩ := sound
  unfold Counted at counted
  unfold Started at started
  unfold Closing at closed
  unfold Called at called
  refine ⟨printed.1,counted,?_,by omega,by omega,by omega,?_⟩
  · intro idle
    rw [idle_pending held s idle] at counted
    omega
  · intro ⟨idle,recvs,_,disconnects⟩ episodes
    rw [idle_pending starting s idle] at started
    rw [idle_pending closing s idle] at closed
    rw [idle_pending calling s idle] at called
    have closedNow : s.shared.connected = false := by
      cases connected : s.shared.connected with
      | false => rfl
      | true =>
        have some := carried connected
        rw [idle_pending carrying s idle] at some
        omega
    rw [closedNow,Bool.toNat_false] at started
    omega

def Action.completes : Action → Bool
  | .received _ | .sent | .disconnected | .thread _ _ => true
  | _ => false

/-- More than what an instruction answers weighs where a post is refused. -/
def work : Instr → Nat
  | .testMax | .onConnection => 6
  | .wsaSend | .wsaRecv => 4
  | .compareExchange | .testRefs => 2
  | .increment | .decrement | .disconnectEx | .onDisconnect | .printTotal => 1

def effort (s : State) : Nat := 7 * s.shared.recvs + 2 * s.shared.sends + s.pending work

def drained : Instr → Bool
  | .wsaSend | .wsaRecv | .onConnection => false
  | _ => true

private theorem exec_work (instr : Instr) (s : Connection) :
    weigh work (exec instr (drained instr) s).2 < work instr ∧
      (exec instr (drained instr) s).1.recvs = s.recvs ∧
      (exec instr (drained instr) s).1.sends = s.sends := by
  cases instr <;> simp only [exec,drained,asyncDisconnect,asyncRecv] <;> (try split) <;>
    simp [weigh,work]

private theorem thread_effort (s : State) (thread : Nat) (instr : Instr)
    (next : s.next thread = some instr) :
    effort (step s (.thread thread (drained instr))) < effort s := by
  obtain ⟨others,before,after,shared⟩ := resume_pending exec work thread (drained instr) s instr next
  obtain ⟨less,recvs,sends⟩ := exec_work instr s.shared
  rw [step,effort,effort,after,before,shared,recvs,sends]
  omega

private theorem answered_relied (instr : Instr) (s : Connection) : Relied instr true s := by
  cases instr <;> simp [Relied]

private theorem drained_proper (s : State) (thread : Nat) (instr : Instr)
    (next : s.next thread = some instr) : Proper s (.thread thread (drained instr)) := by
  intro found same
  obtain rfl : instr = found := Option.some.inj (next.symm.trans same)
  cases instr <;> simp [Relied,drained]

private theorem busy_effort (s : State) (busy : ¬ (s.Idle ∧ s.shared.recvs = 0 ∧ s.shared.sends = 0)) :
    ∃ action : Action, action.completes = true ∧ Proper s action ∧ effort (step s action) < effort s := by
  by_cases idle : s.Idle
  · by_cases recvs : s.shared.recvs = 0
    · have sends : s.shared.sends ≠ 0 := fun zero => busy ⟨idle,recvs,zero⟩
      refine ⟨.sent,rfl,trivial,?_⟩
      rw [step,if_neg sends,effort,effort,spawn_pending]
      change 7 * s.shared.recvs + 2 * (s.shared.sends - 1) + (1 + s.pending work) < _
      omega
    · refine ⟨.received 1,rfl,fun nothing => absurd nothing Nat.one_ne_zero,?_⟩
      rw [step,if_neg recvs,effort,effort]
      change 7 * (s.shared.recvs - 1) + 2 * s.shared.sends + (6 + s.pending work) < _
      omega
  · obtain ⟨thread,instr,next⟩ := busy_next s idle
    exact ⟨.thread thread (drained instr),rfl,drained_proper s thread instr next,
      thread_effort s thread instr next⟩

private theorem drains (n : Nat) (s : State) (bound : effort s ≤ n) :
    ∃ later : List Action, (∀ action ∈ later, action.completes = true) ∧ Guarded step Proper s later ∧
      (run step s later).Idle ∧ (run step s later).shared.recvs = 0 ∧
      (run step s later).shared.sends = 0 := by
  induction n generalizing s with
  | zero =>
    by_cases done : s.Idle ∧ s.shared.recvs = 0 ∧ s.shared.sends = 0
    · exact ⟨[],by simp,trivial,done⟩
    · obtain ⟨_,_,_,less⟩ := busy_effort s done
      omega
  | succ n ih =>
    by_cases done : s.Idle ∧ s.shared.recvs = 0 ∧ s.shared.sends = 0
    · exact ⟨[],by simp,trivial,done⟩
    · obtain ⟨action,completes,proper,less⟩ := busy_effort s done
      obtain ⟨later,all,guarded,rest⟩ := ih (step s action) (by omega)
      exact ⟨action :: later,List.forall_mem_cons.mpr ⟨completes,all⟩,⟨proper,guarded⟩,rest⟩

/-- The last completion is that of the disconnect, which finds no reference left. -/
private theorem disconnect_settles (s : State) (sound : Sound s) (idle : s.Idle)
    (recvs : s.shared.recvs = 0) (sends : s.shared.sends = 0) :
    ∃ later : List Action, (∀ action ∈ later, action.completes = true) ∧ Guarded step Proper s later ∧
      Settled (run step s later) := by
  have accounted := sound_accounted s sound
  have zero : s.shared.iorefs = 0 := by
    rw [accounted.idle idle,recvs,sends]
    rfl
  have one : s.shared.disconnects ≤ 1 := by
    have closed := sound.closing
    have started := accounted.startedOnce
    unfold Closing at closed
    omega
  by_cases disconnects : s.shared.disconnects = 0
  · exact ⟨[],by simp,trivial,idle,recvs,sends,disconnects⟩
  · have first : step s .disconnected = Pool.spawn [.testRefs]
        {s with shared := {s.shared with disconnects := s.shared.disconnects - 1}} := if_neg disconnects
    have called (thread : Nat) (s : State) : Proper s (.thread thread true) :=
      fun instr _ => answered_relied instr s.shared
    refine ⟨[.disconnected,.thread 0 true,.thread 0 true],by simp [Action.completes],
      ⟨trivial,called _ _,called _ _,trivial⟩,?_⟩
    simp only [run]
    rw [first]
    simp only [step,Pool.spawn,Pool.resume,List.getElem?_cons_zero,exec,zero]
    refine ⟨?_,recvs,sends,Nat.sub_eq_zero_of_le one⟩
    intro thread member
    rcases List.mem_cons.mp member with new | old
    · exact new
    · exact idle thread old

instance (s : State) : Decidable (Settled s) := inferInstanceAs (Decidable (_ ∧ _))

private theorem run_sound (acceptor : Bool) (actions : List Action)
    (guarded : Guarded step Proper (create acceptor) actions) :
    Sound (run step (create acceptor) actions) :=
  run_invariant step Proper Sound step_sound _ actions guarded (create_sound acceptor)

/-- Where the calls that the code relies on succeed, the references are accounted for in every state,
and the completions lead to one in which OnDisconnect has been called. -/
theorem guarded_accounted (acceptor : Bool) (actions : List Action)
    (guarded : Guarded step Proper (create acceptor) actions) :
    Accounted (run step (create acceptor) actions) ∧
      ∃ later : List Action, (∀ action ∈ later, action.completes = true) ∧
        Guarded step Proper (create acceptor) (actions ++ later) ∧
        Settled (run step (create acceptor) (actions ++ later)) := by
  have sound := run_sound acceptor actions guarded
  refine ⟨sound_accounted _ sound,?_⟩
  obtain ⟨drain,drains,proper,idle,recvs,sends⟩ :=
    drains _ (run step (create acceptor) actions) (Nat.le_refl _)
  have drainedSound := run_invariant step Proper Sound step_sound _ drain proper sound
  obtain ⟨last,completes,closing,settled⟩ := disconnect_settles _ drainedSound idle recvs sends
  refine ⟨drain ++ last,?_,?_,?_⟩
  · intro action member
    rcases List.mem_append.mp member with early | late
    · exact drains action early
    · exact completes action late
  · exact guarded_join step Proper _ actions _ guarded (guarded_join step Proper _ drain last proper closing)
  · rw [run_append,run_append]
    exact settled

/-- OnConnection returns, and the receive after it is posted. -/
def opened : List Action :=
  [.accepted true,.thread 0 true,.thread 0 true,.thread 0 true]

/-- A message is sent while another one comes in, both are completed, and the user disconnects: the receive that is
left ends behind the first completion of DisconnectEx, which is posted again. -/
def served : List Action :=
  opened ++ ([.asyncSend .send 5,.thread 0 true,.received 4,.thread 1 true,.thread 0 true,.thread 1 true,
    .thread 0 true,.thread 0 true,.sent,.thread 0 true,.asyncDisconnect,.thread 0 true,.thread 0 true,.received 0,
    .disconnected,.thread 0 true,.thread 1 true,.thread 1 true,.thread 1 true,.disconnected,.thread 0 true,
    .thread 0 true] : List Action)

theorem guarded_accounted_served :
    Guarded step Proper (create true) served ∧ Accounted (run step (create true) served) ∧
      Settled (run step (create true) served) ∧ (run step (create true) served).shared.finished = 1 := by
  have guarded : Guarded step Proper (create true) served := by decide
  have settled : Settled (run step (create true) served) := by decide
  obtain ⟨accounted,-⟩ := guarded_accounted true served guarded
  exact ⟨guarded,accounted,settled,accounted.finishes settled (by decide)⟩

/-- A user's disconnect of which DisconnectEx is refused, and the receive that ends after it. -/
def refused : List Action :=
  opened ++ ([.asyncDisconnect,.thread 0 true,.thread 0 false,.received 0,
    .thread 0 true,.thread 0 true,.thread 0 true] : List Action)

/-- The other side closes a connection that was made by Connect. -/
def closedByOther : List Action :=
  [.connected true,.thread 0 true,.thread 0 true,.thread 0 true,.received 0,
    .thread 0 true,.thread 0 true,.thread 0 true]

theorem unrelied_unaccounted :
    (Settled (run step (create true) refused) ∧ (run step (create true) refused).shared.episodes = 1 ∧
      (run step (create true) refused).shared.started = 1 ∧
      (run step (create true) refused).shared.finished = 0) ∧
      (run step (create false) closedByOther).shared.undefined = true ∧
      ¬ Accounted (run step (create true) refused) ∧
      ¬ Accounted (run step (create false) closedByOther) := by
  have lost : Settled (run step (create true) refused) ∧
      (run step (create true) refused).shared.episodes = 1 ∧
      (run step (create true) refused).shared.started = 1 ∧
      (run step (create true) refused).shared.finished = 0 := by decide
  have undefined : (run step (create false) closedByOther).shared.undefined = true := by decide
  refine ⟨lost,undefined,?_,?_⟩
  · intro accounted
    have finished := accounted.finishes lost.1 (by rw [lost.2.1]; exact Nat.one_ne_zero)
    rw [lost.2.2.2] at finished
    cases finished
  · intro accounted
    have defined := accounted.defined
    rw [undefined] at defined
    cases defined

end Fantuan.StarNet.IoRefs
