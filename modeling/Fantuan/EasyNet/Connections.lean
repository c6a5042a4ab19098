import Fantuan.Lib.Run
import Fantuan.Lib.Threads

/-! A connection of EasyNet from its acceptance to CloseConnection, under any interleaving of the worker's
threads and the loop. Nothing counts the operations or notes that a disconnect has been started; what the
calls of the system and of the handler answer is given with the step.
-/
namespace Fantuan.EasyNet.Connections
open Lib.Run Lib.Threads

/-- The instructions of the worker's branches. A failing WSARecv goes on to AsyncDisconnect. -/
inductive Instr where
  | onConnection | onData | wsaRecv | disconnectEx | onDisconnect
  deriving DecidableEq

inductive Command where
  | onConnect | onData | onDisconnect
  deriving DecidableEq

/-- recvs, sends and disconnects are what the system has accepted and not yet completed; started, ended and
closed count DisconnectEx, the handler's OnDisconnect and CloseConnection. client is client_, session the
session's m_pConnection, and failing the way of AsyncSend in the loop from its failure to AsyncDisconnect.
late is set by a use of the connection after CloseConnection. -/
structure Connection where
  connected : Bool
  client : Bool
  session : Bool
  failing : Bool
  commands : List Command
  recvs : Nat
  sends : Nat
  disconnects : Nat
  started : Nat
  ended : Nat
  closed : Nat
  late : Bool
  deriving DecidableEq

abbrev State := Pool Connection Instr

def create : State := ⟨⟨false,false,false,false,[],0,0,0,0,0,0,false⟩,[]⟩

def touch (c : Connection) : Connection := {c with late := c.late || c.closed ≠ 0}

def push (answer : Bool) (command : Command) (c : Connection) : Connection :=
  if answer then {c with commands := c.commands ++ [command]} else c

def asyncDisconnect (accepted : Bool) (c : Connection) : Connection :=
  {touch c with
    started := c.started + 1
    disconnects := if accepted then c.disconnects + 1 else c.disconnects}

-- the handler answers whether there is a main loop, and OnData also whether the data could be copied
def exec : Instr → Bool → Connection → Connection × List Instr
  | .onConnection, answer, c => (push answer .onConnect c,if answer then [.wsaRecv] else [.disconnectEx])
  | .onData, answer, c => (push answer .onData c,[.wsaRecv])
  | .wsaRecv, accepted, c =>
    if accepted then ({touch c with recvs := c.recvs + 1},[]) else (touch c,[.disconnectEx])
  | .disconnectEx, accepted, c => (asyncDisconnect accepted c,[])
  | .onDisconnect, answer, c => ({push answer .onDisconnect c with ended := c.ended + 1},[])

def onCommand (accepted : Bool) (c : Connection) : Connection :=
  match c.commands with
  | [] => c
  | .onConnect :: rest => {c with client := true, session := true, commands := rest}
  | .onData :: rest =>
    let read := {touch c with commands := rest}
    if c.client then read else asyncDisconnect accepted read
  | .onDisconnect :: rest =>
    let read := {touch c with commands := rest}
    if c.client ∧ c.session then {read with closed := c.closed + 1, session := false} else read

def sendData (accepted : Bool) (c : Connection) : Connection :=
  if c.session then
    if accepted then {touch c with sends := c.sends + 1} else {touch c with failing := true}
  else c

def disconnect (accepted : Bool) (c : Connection) : Connection :=
  if c.session then asyncDisconnect accepted c else c

/-- A completion that the worker takes from the queue, the next instruction of a thread, or what the loop
does: a command, a session's SendData or Disconnect, a shutdown, and the rest of a failing AsyncSend. -/
inductive Action where
  | connected (setsockopt : Bool)
  | received (dwNumRead : Nat)
  | sent
  | disconnected
  | thread (thread : Nat) (answer : Bool)
  | command (accepted : Bool)
  | sendData (accepted : Bool)
  | disconnect (accepted : Bool)
  | shutdown (accepted : Bool)
  | giveUp (accepted : Bool)
  deriving DecidableEq

def loop (change : Connection → Connection) (s : State) : State :=
  if s.shared.failing then s else {s with shared := change s.shared}

-- a receive that fails completes with no bytes, and a session without a connection is left out
def step (s : State) : Action → State
  | .connected setsockopt =>
    if s.shared.connected ∨ setsockopt = false then s
    else Pool.spawn [.onConnection] {s with shared := {s.shared with connected := true}}
  | .received dwNumRead =>
    if s.shared.recvs = 0 then s
    else
      let taken := {s with shared := {touch s.shared with recvs := s.shared.recvs - 1}}
      taken.spawn (if dwNumRead = 0 then [.disconnectEx] else [.onData])
  | .sent =>
    if s.shared.sends = 0 then s
    else {s with shared := {touch s.shared with sends := s.shared.sends - 1}}
  | .disconnected =>
    if s.shared.disconnects = 0 then s
    else Pool.spawn [.onDisconnect] {s with
      shared := {touch s.shared with disconnects := s.shared.disconnects - 1}}
  | .thread thread answer => s.resume exec thread answer
  | .command accepted => loop (onCommand accepted) s
  | .sendData accepted => loop (Connections.sendData accepted) s
  | .disconnect accepted | .shutdown accepted => loop (Connections.disconnect accepted) s
  | .giveUp accepted =>
    if s.shared.failing then {s with shared := {asyncDisconnect accepted s.shared with failing := false}}
    else s

def Quiet (s : State) : Prop :=
  s.Idle ∧ s.shared.commands = [] ∧ s.shared.recvs = 0 ∧ s.shared.sends = 0 ∧ s.shared.disconnects = 0 ∧
    s.shared.failing = false

/-- No disconnect and no close is one too many, none comes after the close, and in the end there was one
of each. -/
structure Once (s : State) : Prop where
  started : s.shared.started ≤ 1
  ended : s.shared.ended ≤ 1
  closed : s.shared.closed ≤ 1
  late : s.shared.late = false
  settled : s.shared.connected = true → Quiet s →
    s.shared.started = 1 ∧ s.shared.ended = 1 ∧ s.shared.closed = 1

def Untriggered (s : State) : Prop :=
  s.shared.started = 0 ∧ s.shared.failing = false ∧ ∀ program ∈ s.threads, .disconnectEx ∉ program

/-- The worker is done with the connection, and no receive or send is outstanding. -/
def Settled (s : State) : Prop := s.shared.recvs = 0 ∧ s.shared.sends = 0 ∧ s.Idle

/-- The system accepts every disconnect, the main loop is there, only the first thing that leads to
AsyncDisconnect happens, and when the loop hears of the disconnect nothing is outstanding. -/
def Careful (s : State) : Action → Prop
  | .connected _ | .sent | .disconnected => True
  | .received dwNumRead => dwNumRead = 0 → Untriggered s
  | .thread thread answer => ∀ instr ∈ s.next thread,
    answer = true ∨ instr = .onData ∨ instr = .wsaRecv ∧ Untriggered s
  | .command _ => s.shared.commands.head? = some .onDisconnect → Settled s
  | .sendData accepted => accepted = true ∨ Untriggered s
  | .disconnect accepted | .shutdown accepted => s.shared.session = true → accepted = true ∧ Untriggered s
  | .giveUp accepted => accepted = true

def one (instr : Instr) : Instr → Nat := fun other => if other = instr then 1 else 0

/-- The receive that is outstanding or about to be posted. -/
def reading (c : Connection) (pending : Instr → Nat) : Nat :=
  c.recvs + pending .onConnection + pending .onData + pending .wsaRecv

/-- The disconnects that have been started or are about to be. -/
def starts (c : Connection) (pending : Instr → Nat) : Nat :=
  c.started + pending .disconnectEx + c.failing.toNat

/-- One receive is on its way until something leads to AsyncDisconnect, and from there on each thing that
happens has one predecessor. -/
structure Counted (c : Connection) (pending : Instr → Nat) : Prop where
  single : reading c pending ≤ c.connected.toNat
  triggered : pending .onConnection + starts c pending ≤ c.connected.toNat
  ending : c.connected.toNat ≤ reading c pending + starts c pending
  known : c.commands.count .onConnect + pending .onConnection + c.client.toNat = c.connected.toNat
  flow : c.started = c.disconnects + pending .onDisconnect + c.ended
  closing : c.ended = c.commands.count .onDisconnect + c.closed

/-- The loop hears of the connection first and, once nothing is read any more, of its disconnect last. -/
structure Queued (c : Connection) (reading : Nat) : Prop where
  first : c.client = false → c.commands = [] ∨ c.commands.head? = some .onConnect
  last : reading = 0 → .onDisconnect ∉ c.commands.dropLast
  session : c.session = true ↔ c.client = true ∧ c.closed = 0
  freed : c.closed ≠ 0 → reading = 0 ∧ c.sends = 0 ∧ c.commands = []
  late : c.late = false

structure Sound (c : Connection) (pending : Instr → Nat) : Prop where
  counted : Counted c pending
  queued : Queued c (reading c pending)

theorem create_sound : Sound create.shared (create.pending one) := by
  have none : create.pending one = 0 := rfl
  rw [none]
  constructor <;> constructor <;> simp [create,reading,starts]

theorem touch_open (c : Connection) (opened : c.closed = 0) : touch c = c := by
  have same : (c.late || decide (c.closed ≠ 0)) = c.late := by simp [opened]
  rw [touch,same]

theorem sound_spent (c : Connection) (pending : Instr → Nat) (sound : Sound c pending) (freed : c.closed ≠ 0) :
    (c.recvs = 0 ∧ c.sends = 0 ∧ c.disconnects = 0) ∧ (c.failing = false ∧ c.session = false ∧ c.commands = []) ∧
      pending .wsaRecv = 0 ∧ pending .disconnectEx = 0 := by
  obtain ⟨⟨single,triggered,ending,known,flow,closing⟩,queued⟩ := sound
  obtain ⟨unread,unsent,empty⟩ := queued.freed freed
  have bound := c.connected.toNat_le
  rw [reading] at unread
  rw [starts] at triggered
  have failing : c.failing.toNat = 0 := by omega
  have session : c.session = false := by
    cases connected : c.session with
    | false => rfl
    | true => exact absurd (queued.session.mp connected).2 freed
  refine ⟨⟨by omega,unsent,by omega⟩,⟨?_,session,empty⟩,by omega,by omega⟩
  cases fails : c.failing with
  | false => rfl
  | true =>
    rw [fails] at failing
    cases failing

section
variable (c : Connection) (others : Instr → Nat)

/-- The instruction is answered as the condition of the run says. -/
def Answered (instr : Instr) (answer : Bool) (c : Connection) (pending : Instr → Nat) : Prop :=
  answer = true ∨ instr = .onData ∨ instr = .wsaRecv ∧ starts c pending = 0

theorem exec_counted (instr : Instr) (answer : Bool) (answered : Answered instr answer c (others + one instr))
    (counted : Counted c (others + one instr)) :
    Counted (exec instr answer c).1 (others + weigh one (exec instr answer c).2) := by
  obtain ⟨single,triggered,ending,known,flow,closing⟩ := counted
  rw [Answered] at answered
  cases instr with
  | onConnection =>
    obtain rfl : answer = true := by simpa using answered
    simp [reading,starts,one] at single triggered ending known flow closing
    constructor <;> simp [exec,push,weigh,reading,starts,one] <;> omega
  | onData =>
    simp [reading,starts,one] at single triggered ending known flow closing
    cases answer <;> constructor <;> simp [exec,push,weigh,reading,starts,one] <;> omega
  | wsaRecv =>
    cases answer with
    | true =>
      simp [reading,starts,one] at single triggered ending known flow closing
      constructor <;> simp [exec,touch,weigh,reading,starts] <;> omega
    | false =>
      have unstarted : starts c (others + one .wsaRecv) = 0 := by simpa using answered
      rw [unstarted] at ending
      simp only [starts,Pi.add_apply,one,reduceCtorEq,if_false,Nat.add_zero] at unstarted
      simp [reading,starts,one] at single triggered ending known flow closing
      constructor <;> simp [exec,touch,weigh,reading,starts,one] <;> omega
  | disconnectEx =>
    obtain rfl : answer = true := by simpa using answered
    simp [reading,starts,one] at single triggered ending known flow closing
    constructor <;> simp [exec,asyncDisconnect,touch,weigh,reading,starts] <;> omega
  | onDisconnect =>
    obtain rfl : answer = true := by simpa using answered
    simp [reading,starts,one] at single triggered ending known flow closing
    constructor <;> simp [exec,push,weigh,reading,starts] <;> omega

theorem push_queued (command : Command) (reading : Nat) (queued : Queued c reading) (opened : c.closed = 0)
    (heard : c.client = false → c.commands = [] → command = .onConnect)
    (last : reading = 0 → .onDisconnect ∉ c.commands) : Queued (push true command c) reading := by
  refine ⟨fun unknown => .inr ?_,fun read => ?_,queued.session,fun freed => absurd opened freed,queued.late⟩
  · change (c.commands ++ [command]).head? = _
    rcases queued.first unknown with empty | head
    · rw [empty,heard unknown empty]
      rfl
    · rw [List.head?_append,head]
      rfl
  · change .onDisconnect ∉ (c.commands ++ [command]).dropLast
    rw [List.dropLast_concat]
    exact last read

theorem change_queued (changed : Connection) (before after : Nat) (queued : Queued c before)
    (opened : c.closed = 0) (last : after = 0 → before ≠ 0 → .onDisconnect ∉ c.commands)
    (client : changed.client = c.client) (commands : changed.commands = c.commands)
    (session : changed.session = c.session) (closed : changed.closed = c.closed)
    (late : changed.late = c.late) : Queued changed after := by
  refine ⟨?_,fun read => ?_,?_,fun freed => ?_,?_⟩
  · rw [client,commands]
    exact queued.first
  · rw [commands]
    by_cases unread : before = 0
    · exact queued.last unread
    · exact fun member => last read unread (List.dropLast_subset _ member)
  · rw [session,client,closed]
    exact queued.session
  · rw [closed] at freed
    exact absurd opened freed
  · rw [late]
    exact queued.late

theorem unheard (pending : Instr → Nat) (counted : Counted c pending) (early : c.ended = 0) :
    .onDisconnect ∉ c.commands := by
  have closing := counted.closing
  apply List.count_eq_zero.mp
  omega

theorem unknown_waits (pending : Instr → Nat) (counted : Counted c pending) (unknown : c.client = false)
    (empty : c.commands = []) : reading c pending = pending .onConnection ∧ c.started = 0 := by
  obtain ⟨single,triggered,ending,known,flow,closing⟩ := counted
  rw [unknown,empty] at known
  simp only [List.count_nil,Bool.toNat_false] at known
  rw [reading] at *
  rw [starts] at *
  omega

theorem pending_open (pending : Instr → Nat) (sound : Sound c pending) (instr : Instr)
    (waits : pending instr ≠ 0) : c.closed = 0 := by
  by_contra freed
  obtain ⟨unread,-,-⟩ := sound.queued.freed freed
  obtain ⟨single,triggered,ending,known,flow,closing⟩ := sound.counted
  have bound := c.connected.toNat_le
  rw [reading] at unread
  rw [starts] at triggered
  cases instr <;> omega

theorem exec_queued (instr : Instr) (answer : Bool) (answered : Answered instr answer c (others + one instr))
    (sound : Sound c (others + one instr)) :
    Queued (exec instr answer c).1 (reading (exec instr answer c).1 (others + weigh one (exec instr answer c).2)) := by
  have opened : c.closed = 0 := pending_open c _ sound instr (by simp [one])
  have traceless := touch_open c opened
  have waits := unknown_waits c _ sound.counted
  have flow := sound.counted.flow
  have triggered := sound.counted.triggered
  have bound := c.connected.toNat_le
  have queued := sound.queued
  rw [Answered] at answered
  cases instr with
  | onConnection =>
    obtain rfl : answer = true := by simpa using answered
    refine push_queued c .onConnect _ ?_ opened (fun _ _ => rfl) fun unread => ?_
    · refine change_queued c c _ _ queued opened (fun unread => ?_) rfl rfl rfl rfl rfl
      simp [exec,push,reading,weigh,one] at unread
    · simp [exec,push,reading,weigh,one] at unread
  | onData =>
    have reads : reading (exec .onData answer c).1 (others + weigh one (exec .onData answer c).2) ≠ 0 := by
      simp [exec,reading,weigh,one]
    have same : Queued c (reading (exec .onData answer c).1 (others + weigh one (exec .onData answer c).2)) :=
      change_queued c c _ _ queued opened (fun unread => absurd unread reads) rfl rfl rfl rfl rfl
    cases answer with
    | false => exact same
    | true =>
      refine push_queued c .onData _ same opened (fun unknown empty => ?_) fun unread => absurd unread reads
      have waiting := (waits unknown empty).1
      simp [reading,one] at waiting
      omega
  | wsaRecv =>
    cases answer with
    | true =>
      have same : (exec .wsaRecv true c).1 = {c with recvs := c.recvs + 1} := by
        rw [exec,traceless]
        rfl
      rw [same]
      refine change_queued c _ _ _ queued opened (fun unread => ?_) rfl rfl rfl rfl rfl
      simp [exec,reading] at unread
    | false =>
      have unstarted : starts c (others + one .wsaRecv) = 0 := by simpa using answered
      rw [starts] at unstarted
      have same : (exec .wsaRecv false c).1 = c := traceless
      rw [same]
      refine change_queued c c _ _ queued opened (fun _ _ => ?_) rfl rfl rfl rfl rfl
      exact unheard c _ sound.counted (by omega)
  | disconnectEx =>
    have same : (exec .disconnectEx answer c).1 = {c with
        started := c.started + 1
        disconnects := if answer then c.disconnects + 1 else c.disconnects} := by
      rw [exec,asyncDisconnect,traceless]
    rw [same]
    refine change_queued c _ _ _ queued opened (fun unread read => ?_) rfl rfl rfl rfl rfl
    simp [exec,reading,weigh,one] at unread read
    omega
  | onDisconnect =>
    obtain rfl : answer = true := by simpa using answered
    rw [starts] at triggered
    have ending : (others + one .onDisconnect) .onDisconnect ≠ 0 := by simp [one]
    have silent : .onDisconnect ∉ c.commands := unheard c _ sound.counted (by omega)
    have pushed : Queued (push true .onDisconnect c) (reading (exec .onDisconnect true c).1
        (others + weigh one (exec .onDisconnect true c).2)) := by
      refine push_queued c .onDisconnect _ ?_ opened (fun unknown empty => ?_) fun _ => silent
      · exact change_queued c c _ _ queued opened (fun _ _ => silent) rfl rfl rfl rfl rfl
      · have unstarted := (waits unknown empty).2
        omega
    exact ⟨pushed.first,pushed.last,pushed.session,pushed.freed,pushed.late⟩

end

section
variable (c : Connection) (pending : Instr → Nat) (sound : Sound c pending)
include sound

theorem connected_sound (fresh : c.connected = false) :
    Sound {c with connected := true} (weigh one [.onConnection] + pending) := by
  obtain ⟨single,triggered,ending,known,flow,closing⟩ := sound.counted
  rw [fresh,reading] at single
  rw [fresh,starts] at triggered
  rw [fresh] at known
  simp only [Bool.toNat_false] at single triggered known
  constructor
  · constructor <;> simp [reading,starts,weigh,one] <;> omega
  · refine change_queued c _ _ _ sound.queued (by omega) (fun unread => ?_) rfl rfl rfl rfl rfl
    simp [reading,weigh,one] at unread

theorem received_sound (dwNumRead : Nat) (posted : c.recvs ≠ 0)
    (careful : dwNumRead = 0 → starts c pending = 0) :
    Sound {touch c with recvs := c.recvs - 1}
      (weigh one (if dwNumRead = 0 then [.disconnectEx] else [.onData]) + pending) := by
  have opened : c.closed = 0 := by
    by_contra freed
    exact posted (sound_spent c pending sound freed).1.1
  obtain ⟨single,triggered,ending,known,flow,closing⟩ := sound.counted
  rw [touch_open c opened]
  rw [reading] at single ending
  split
  next nothing =>
    have unstarted := careful nothing
    rw [unstarted] at triggered ending
    rw [starts] at unstarted
    constructor
    · constructor <;> simp [reading,starts,weigh,one] <;> omega
    · refine change_queued c _ _ _ sound.queued opened (fun _ _ => ?_) rfl rfl rfl rfl rfl
      exact unheard c pending sound.counted (by omega)
  next =>
    rw [starts] at triggered ending
    constructor
    · constructor <;> simp [reading,starts,weigh,one] <;> omega
    · refine change_queued c _ _ _ sound.queued opened (fun unread => ?_) rfl rfl rfl rfl rfl
      simp [reading,weigh,one] at unread

theorem sent_sound (posted : c.sends ≠ 0) : Sound {touch c with sends := c.sends - 1} pending := by
  have opened : c.closed = 0 := by
    by_contra freed
    exact posted (sound_spent c pending sound freed).1.2.1
  obtain ⟨single,triggered,ending,known,flow,closing⟩ := sound.counted
  rw [touch_open c opened]
  refine ⟨⟨single,triggered,ending,known,flow,closing⟩,?_⟩
  exact change_queued c _ _ _ sound.queued opened (fun unread read => absurd unread read) rfl rfl rfl rfl rfl

theorem disconnected_sound (posted : c.disconnects ≠ 0) :
    Sound {touch c with disconnects := c.disconnects - 1} (weigh one [.onDisconnect] + pending) := by
  have opened : c.closed = 0 := by
    by_contra freed
    exact posted (sound_spent c pending sound freed).1.2.2
  obtain ⟨single,triggered,ending,known,flow,closing⟩ := sound.counted
  rw [reading,starts] at ending
  rw [reading] at single
  rw [starts] at triggered
  rw [touch_open c opened]
  constructor
  · constructor <;> simp [reading,starts,weigh,one] <;> omega
  · refine change_queued c _ _ _ sound.queued opened (fun unread read => ?_) rfl rfl rfl rfl rfl
    simp [reading,weigh,one] at unread read
    omega

theorem disconnect_sound (accepted : Bool)
    (careful : c.session = true → accepted = true ∧ starts c pending = 0) :
    Sound (disconnect accepted c) pending := by
  rw [disconnect]
  split
  next connected =>
    obtain ⟨rfl,unstarted⟩ := careful connected
    obtain ⟨heard,opened⟩ := sound.queued.session.mp connected
    obtain ⟨single,triggered,ending,known,flow,closing⟩ := sound.counted
    rw [unstarted] at triggered ending
    rw [starts] at unstarted
    rw [asyncDisconnect,touch_open c opened]
    have client : c.client.toNat = 1 := by rw [heard]; rfl
    have bound := c.connected.toNat_le
    constructor
    · rw [reading] at single ending
      constructor <;> simp [reading,starts] <;> omega
    · refine change_queued c _ _ _ sound.queued opened (fun unread read => ?_) rfl rfl rfl rfl rfl
      exact absurd unread read
  next => exact sound

theorem sendData_sound (accepted : Bool) (careful : accepted = true ∨ starts c pending = 0) :
    Sound (sendData accepted c) pending := by
  rw [sendData]
  split
  next connected =>
    obtain ⟨heard,opened⟩ := sound.queued.session.mp connected
    have queued := sound.queued
    obtain ⟨single,triggered,ending,known,flow,closing⟩ := sound.counted
    rw [touch_open c opened]
    cases accepted with
    | true =>
      refine ⟨⟨single,triggered,ending,known,flow,closing⟩,?_⟩
      exact change_queued c _ _ _ queued opened (fun unread read => absurd unread read) rfl rfl rfl rfl rfl
    | false =>
      have unstarted := careful.resolve_left (by simp)
      rw [unstarted] at triggered ending
      rw [starts] at unstarted
      have client : c.client.toNat = 1 := by rw [heard]; rfl
      have bound := c.connected.toNat_le
      constructor
      · rw [reading] at single ending
        constructor <;> simp [reading,starts] <;> omega
      · exact change_queued c _ _ _ queued opened (fun unread read => absurd unread read) rfl rfl rfl rfl rfl
  next => exact sound

theorem giveUp_sound (failing : c.failing = true) :
    Sound {asyncDisconnect true c with failing := false} pending := by
  have opened : c.closed = 0 := by
    by_contra freed
    exact absurd (failing.symm.trans (sound_spent c pending sound freed).2.1.1) (by simp)
  obtain ⟨single,triggered,ending,known,flow,closing⟩ := sound.counted
  rw [starts,failing] at triggered ending
  rw [reading] at single ending
  simp only [Bool.toNat_true] at triggered ending
  rw [asyncDisconnect,touch_open c opened]
  constructor
  · constructor <;> simp [reading,starts] <;> omega
  · exact change_queued c _ _ _ sound.queued opened (fun unread read => absurd unread read) rfl rfl rfl rfl rfl

theorem onCommand_sound (accepted : Bool) (careful : c.commands.head? = some .onDisconnect →
    c.recvs = 0 ∧ c.sends = 0 ∧ pending = 0) : Sound (onCommand accepted c) pending := by
  have queued := sound.queued
  have bound := c.connected.toNat_le
  have rest_last (command : Command) (rest : List Command) (queue : c.commands = command :: rest)
      (unread : reading c pending = 0) : .onDisconnect ∉ rest.dropLast := by
    have last := queued.last unread
    rw [queue] at last
    cases rest with
    | nil => simp
    | cons next rest => exact fun member => last (List.mem_cons_of_mem command member)
  have opened (command : Command) (rest : List Command) (queue : c.commands = command :: rest) :
      c.closed = 0 := by
    by_contra freed
    rw [(sound_spent c pending sound freed).2.1.2.2] at queue
    cases queue
  have heard (command : Command) (rest : List Command) (queue : c.commands = command :: rest)
      (other : command ≠ .onConnect) : c.client = true := by
    cases known : c.client with
    | true => rfl
    | false =>
      rcases queued.first known with empty | head
      · rw [empty] at queue
        cases queue
      · rw [queue] at head
        exact absurd (Option.some.inj head) other
  obtain ⟨single,triggered,ending,known,flow,closing⟩ := sound.counted
  rw [onCommand]
  split
  next => exact sound
  next rest queue =>
    rw [queue] at known closing
    have fresh : c.client.toNat = 0 := by
      rw [List.count_cons_self] at known
      omega
    constructor
    · refine ⟨single,triggered,ending,?_,flow,?_⟩
      · simp at known ⊢
        omega
      · simpa using closing
    · have open' := opened _ rest queue
      exact ⟨fun unknown => absurd unknown (by simp),rest_last _ rest queue,⟨fun _ => ⟨rfl,open'⟩,fun _ => rfl⟩,
        fun freed => absurd open' freed,queued.late⟩
  next rest queue =>
    rw [queue] at known closing
    have open' := opened _ rest queue
    have client := heard _ rest queue (by simp)
    rw [touch_open c open']
    dsimp only
    rw [if_pos client]
    constructor
    · exact ⟨single,triggered,ending,by simpa using known,flow,by simpa using closing⟩
    · exact ⟨fun unknown => absurd (client.symm.trans unknown) (by simp),rest_last _ rest queue,queued.session,
        fun freed => absurd open' freed,queued.late⟩
  next rest queue =>
    have open' := opened _ rest queue
    have client := heard _ rest queue (by simp)
    have session := queued.session.mpr ⟨client,open'⟩
    obtain ⟨unread,unsent,rfl⟩ := careful (by rw [queue]; rfl)
    have settled : reading c 0 = 0 := by rw [reading,unread]; rfl
    have empty : rest = [] := by
      have last := queued.last settled
      rw [queue] at last
      cases rest with
      | nil => rfl
      | cons next rest => exact absurd List.mem_cons_self last
    rw [queue,empty] at known closing
    rw [touch_open c open']
    dsimp only
    rw [if_pos ⟨client,session⟩,empty]
    constructor
    · refine ⟨single,triggered,ending,by simpa using known,flow,?_⟩
      simp at closing ⊢
      omega
    · exact ⟨fun _ => .inl rfl,fun _ => by simp,by simp,fun _ => ⟨settled,unsent,rfl⟩,queued.late⟩

end

theorem weigh_absent (instr : Instr) (program : List Instr) (absent : instr ∉ program) :
    weigh one program instr = 0 := by
  induction program with
  | nil => rfl
  | cons first rest ih =>
    obtain ⟨other,later⟩ := not_or.mp (mt List.mem_cons.mpr absent)
    have here : one first instr = 0 := if_neg other
    change (one first + weigh one rest) instr = 0
    rw [Pi.add_apply,here,ih later]

theorem pending_absent (instr : Instr) (s : State) (absent : ∀ program ∈ s.threads, instr ∉ program) :
    s.pending one instr = 0 := by
  rw [Pool.pending]
  generalize s.threads = programs at absent
  induction programs with
  | nil => rfl
  | cons program programs ih =>
    obtain ⟨here,others⟩ := List.forall_mem_cons.mp absent
    rw [List.map_cons,List.sum_cons,Pi.add_apply,weigh_absent instr program here,ih others]

theorem untriggered_starts (s : State) (untriggered : Untriggered s) :
    starts s.shared (s.pending one) = 0 := by
  obtain ⟨unstarted,working,absent⟩ := untriggered
  rw [starts,unstarted,working,pending_absent .disconnectEx s absent]
  rfl

theorem thread_sound (thread : Nat) (answer : Bool) (s : State) (sound : Sound s.shared (s.pending one))
    (careful : Careful s (.thread thread answer)) :
    Sound (s.resume exec thread answer).shared ((s.resume exec thread answer).pending one) := by
  cases next : s.next thread with
  | none =>
    obtain ⟨-,same⟩ | ⟨before,instr,rest,after,busy,-⟩ := resume_cases exec thread answer s
    · rw [same]
      exact sound
    · rw [next] at busy
      cases busy
  | some instr =>
    obtain ⟨others,before,after,shared⟩ := resume_pending exec one thread answer s instr next
    have answered : Answered instr answer s.shared (s.pending one) := by
      rcases careful instr next with agreed | data | ⟨reads,untriggered⟩
      · exact .inl agreed
      · exact .inr (.inl data)
      · exact .inr (.inr ⟨reads,untriggered_starts s untriggered⟩)
    rw [before] at sound answered
    rw [shared,after]
    exact ⟨exec_counted s.shared others instr answer answered sound.counted,
      exec_queued s.shared others instr answer answered sound⟩

theorem loop_sound (change : Connection → Connection) (s : State) (sound : Sound s.shared (s.pending one))
    (changed : Sound (change s.shared) (s.pending one)) :
    Sound (loop change s).shared ((loop change s).pending one) := by
  rw [loop]
  split
  · exact sound
  · exact changed

theorem step_sound (s : State) (action : Action) (sound : Sound s.shared (s.pending one))
    (careful : Careful s action) : Sound (step s action).shared ((step s action).pending one) := by
  cases action with
  | connected setsockopt =>
    rw [step]
    split
    · exact sound
    next fresh =>
      rw [spawn_pending]
      have unconnected : s.shared.connected = false := by
        cases connected : s.shared.connected with
        | false => rfl
        | true => exact absurd (.inl connected) fresh
      exact connected_sound s.shared _ sound unconnected
  | received dwNumRead =>
    rw [step]
    split
    · exact sound
    next posted =>
      dsimp only
      rw [spawn_pending]
      exact received_sound s.shared _ sound dwNumRead posted fun nothing => untriggered_starts s (careful nothing)
  | sent =>
    rw [step]
    split
    · exact sound
    next posted => exact sent_sound s.shared _ sound posted
  | disconnected =>
    rw [step]
    split
    · exact sound
    next posted =>
      rw [spawn_pending]
      exact disconnected_sound s.shared _ sound posted
  | thread thread answer => exact thread_sound thread answer s sound careful
  | command accepted =>
    refine loop_sound _ s sound (onCommand_sound s.shared _ sound accepted fun head => ?_)
    obtain ⟨unread,unsent,idle⟩ := careful head
    exact ⟨unread,unsent,idle_pending one s idle⟩
  | sendData accepted =>
    exact loop_sound _ s sound (sendData_sound s.shared _ sound accepted
      (careful.imp_right (untriggered_starts s)))
  | disconnect accepted | shutdown accepted =>
    exact loop_sound _ s sound (disconnect_sound s.shared _ sound accepted fun connected =>
      (careful connected).imp_right (untriggered_starts s))
  | giveUp accepted =>
    obtain rfl : accepted = true := careful
    rw [step]
    split
    next failing => exact giveUp_sound s.shared _ sound failing
    · exact sound

theorem sound_once (s : State) (sound : Sound s.shared (s.pending one)) : Once s := by
  obtain ⟨single,triggered,ending,known,flow,closing⟩ := sound.counted
  have bound := s.shared.connected.toNat_le
  rw [starts] at triggered ending
  refine ⟨by omega,by omega,by omega,sound.queued.late,fun connected quiet => ?_⟩
  obtain ⟨idle,empty,unread,-,undisconnected,working⟩ := quiet
  have none := idle_pending one s idle
  rw [connected,working,reading,unread,none] at ending
  rw [connected] at triggered
  rw [undisconnected,none] at flow
  rw [empty] at closing
  simp at ending triggered flow closing
  omega

/-- In a run that keeps to the condition each disconnect and each close comes once, whatever the order of
the steps. -/
theorem run_once (actions : List Action) (careful : Guarded step Careful create actions) :
    Once (run step create actions) :=
  sound_once _ (run_invariant step Careful (fun s => Sound s.shared (s.pending one)) step_sound create actions
    careful create_sound)

instance (s : State) : Decidable (Untriggered s) :=
  inferInstanceAs (Decidable (s.shared.started = 0 ∧ s.shared.failing = false ∧
    ∀ program ∈ s.threads, .disconnectEx ∉ program))

instance (s : State) : Decidable (Settled s) :=
  inferInstanceAs (Decidable (s.shared.recvs = 0 ∧ s.shared.sends = 0 ∧ s.Idle))

instance (s : State) : DecidablePred (Careful s)
  | .connected _ | .sent | .disconnected => inferInstanceAs (Decidable True)
  | .received _ => inferInstanceAs (Decidable (_ → _))
  | .thread thread _ => inferInstanceAs (Decidable (∀ instr ∈ s.next thread, _ ∨ _ ∨ _))
  | .command _ => inferInstanceAs (Decidable (_ → _))
  | .sendData _ => inferInstanceAs (Decidable (_ ∨ _))
  | .disconnect _ | .shutdown _ => inferInstanceAs (Decidable (_ → _ ∧ _))
  | .giveUp accepted => inferInstanceAs (Decidable (accepted = true))

/-- The connection is accepted, the loop hears of it and the first receive is posted. -/
def accept : List Action := [.connected true,.thread 0 true,.thread 0 true,.command true]

/-- The client sends a request, gets an answer and leaves. -/
theorem run_once_left :
    let s := run step create (accept ++ [.received 4,.thread 0 true,.thread 0 true,.command true,
      .sendData true,.sent,.received 0,.thread 0 true,.disconnected,.thread 0 true,.command true])
    Quiet s ∧ s.shared.closed = 1 ∧ Once s :=
  ⟨by unfold Quiet; decide,by decide,run_once _ (by decide)⟩

/-- After a Disconnect of the session the receive that is outstanding completes with no bytes and starts a
second disconnect. -/
theorem run_once_twice :
    ¬ Once (run step create (accept ++ [.disconnect true,.received 0,.thread 0 true])) := by
  intro once
  have started := once.started
  revert started
  decide

end Fantuan.EasyNet.Connections
