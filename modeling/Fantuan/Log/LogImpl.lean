import Fantuan.Lib.Run
import Fantuan.Lib.Threads
import Fantuan.Log.Lines
import Fantuan.Tool.SingleBuffer

/-! The log under any interleaving of the threads that push lines and of those that tick. The lines go
through m_pBuffer; beside it stands the journal, which says what is to become of them.
-/
namespace Fantuan.Log.LogImpl
open Lib.Run Lib.Threads ServerBase.ServerCommon Lines Tool.SingleBuffer

/-- The width of size_t. -/
inductive Platform where
  | win32 | x64
  deriving DecidableEq

def Platform.bits : Platform → Nat
  | .win32 => 32
  | .x64 => 64

/-- A formatted text, whose length is an int. -/
abbrev Text := {text : WString // text.length + 1 < 2147483648}

structure Output where
  running : Bool
  lines : List WString
  deriving DecidableEq

/-- The lines for which Push returned true, those of them that are still to be handed out, and those
that each device was handed. -/
structure Journal where
  accepted : List WString
  pending : List WString
  outputs : List Output
  deriving DecidableEq

def Journal.accept (journal : Journal) (line : WString) : Journal :=
  {journal with
    accepted := journal.accepted ++ [line]
    pending := journal.pending ++ [line]}

def Output.hand (lines : List WString) (output : Output) : Output :=
  if output.running then {output with lines := output.lines ++ lines} else output

def Journal.hand (journal : Journal) : Journal :=
  {journal with
    pending := []
    outputs := journal.outputs.map (Output.hand journal.pending)}

/-- What a device was given: the bytes that the file is told to write, and the text that the console and
the debugger find up to the NUL. -/
structure Device where
  running : Bool
  written : List UInt8
  printed : WString
  deriving DecidableEq

/-- ended: the handler of invalid parameters has ended the process, or memory was overrun. -/
structure LogState where
  buffer : Buffer
  outputEvent : Bool
  devices : List Device
  ended : Bool

/-- A Push before and after its line is formatted, and the output thread. -/
inductive Instr where
  | format (iLogLevel : Int) (text : Text)
  | push (line : Line)
  | wait
  | drain
  deriving DecidableEq

structure Answer where
  now : SystemTime
  object0 : Bool
  deriving DecidableEq

/-- The journal and the log after the same steps. -/
abbrev Shared := Journal × LogState

def logOutput (strBuffer : List UInt8) (iCount : Nat) (device : Device) : Device :=
  if device.running then
    {device with
      written := device.written ++ strBuffer.take iCount
      printed := device.printed ++ wideText strBuffer}
  else device

/-- m_strBuffer, of BUFFER_MAX_SIZE TCHARs, after the memset. -/
def strBuffer : List UInt8 := List.replicate (bufferMaxSize * 2) 0

def push (platform : Platform) (line : Line) (s : Shared) : Shared :=
  match s.2.buffer.push platform.bits (wideBytes (wcs line.real)) with
  | some (true,buffer) => (s.1.accept line.whole,{s.2 with buffer := buffer, outputEvent := true})
  | some (false,buffer) => (s.1,{s.2 with buffer := buffer, outputEvent := true})
  | none => (s.1,{s.2 with ended := true})

def drain (s : Shared) : Shared :=
  let iCurrSize := s.2.buffer.currSize % 65536
  match s.2.buffer.pop (strBuffer.take iCurrSize) with
  | some (count,left,buffer) =>
    let iLength := count % 65536
    if iLength ≠ 0 then
      (s.1.hand,{s.2 with
        buffer := buffer
        outputEvent := false
        devices := s.2.devices.map (logOutput (left ++ strBuffer.drop iCurrSize) iLength)})
    else (s.1.hand,{s.2 with buffer := buffer})
  | none => (s.1,{s.2 with ended := true})

-- SetEvent and Push are under m_cs, and so is all of _Tick behind its wait
def exec (platform : Platform) : Instr → Answer → Shared → Shared × List Instr
  | .format iLogLevel text, answer, s =>
    if text.val.length + 1 ≤ bufferMaxSize then
      if fits : (realBuffer answer.now iLogLevel text).length < bufferMaxSize then
        (s,[.push ⟨answer.now,iLogLevel,text,fits⟩])
      else ((s.1,{s.2 with ended := true}),[])
    else (s,[])
  | .push line, _, s => (push platform line s,[])
  | .wait, answer, s => (s,if answer.object0 && s.2.outputEvent then [.drain] else [.wait])
  | .drain, _, s => (drain s,[.wait])

abbrev State := Pool Shared Instr

/-- The devices are started one by one, then the thread; each can be stopped and started again. -/
inductive Action where
  | beginThread
  | run (device : Nat) (running : Bool)
  | push (iLogLevel : Int) (text : Text)
  | thread (thread : Nat) (answer : Answer)
  deriving DecidableEq

def create (devices : List Bool) : State :=
  ⟨(⟨[],[],devices.map fun running => ⟨running,[]⟩⟩,
    ⟨.new bufferMaxSize,false,devices.map fun running => ⟨running,[],[]⟩,false⟩),[]⟩

def Journal.run (journal : Journal) (device : Nat) (running : Bool) : Journal :=
  {journal with outputs := journal.outputs.modify device fun output => {output with running := running}}

def setRunning (device : Nat) (running : Bool) (s : Shared) : Shared :=
  (s.1.run device running,
    {s.2 with devices := s.2.devices.modify device fun device => {device with running := running}})

def step (platform : Platform) (s : State) (action : Action) : State :=
  if s.shared.2.ended then s
  else
    match action with
    | .beginThread => s.spawn [.wait]
    | .run device running => {s with shared := setRunning device running s.shared}
    | .push iLogLevel text => s.spawn [.format iLogLevel text]
    | .thread thread answer => s.resume (exec platform) thread answer

/-- What a device has been given of the lines that it was handed. -/
def Output.given (output : Output) : Device :=
  ⟨output.running,wideBytes output.lines.flatten,output.lines.flatten⟩

/-- Every line is either in m_pBuffer, with the event set, or was given as it is to every device that was
running. -/
structure Represents (platform : Platform) (s : Shared) : Prop where
  going : s.2.ended = false
  pending : ∃ stack, stack.capacity = bufferMaxSize ∧ stack.items = wideBytes s.1.pending.flatten ∧
    Holds platform.bits stack s.2.buffer
  signalled : s.1.pending ≠ [] → s.2.outputEvent = true
  given : s.2.devices = s.1.outputs.map Output.given

/-- The text is too long for the check or its line fits into RealBuffer, and a line that goes into
m_pBuffer has no NUL in its text. -/
def Instr.Fits (answer : Answer) (s : Shared) : Instr → Prop
  | .format iLogLevel text =>
    bufferMaxSize < text.val.length + 1 ∨ (realBuffer answer.now iLogLevel text).length < bufferMaxSize
  | .push line => 0 ∉ line.text ∨ bufferMaxSize ≤ s.2.buffer.currSize + 2 * line.real.length
  | _ => True

def Fits (s : State) : Action → Prop
  | .thread thread answer => ∀ instr, s.next thread = some instr → instr.Fits answer s.shared
  | _ => True

/-- Lines that are pending are read back from the buffer up to its first NUL. -/
structure Sound (platform : Platform) (s : Shared) : Prop extends Represents platform s where
  free : 0 ∉ s.1.pending.flatten

theorem strBuffer_length : strBuffer.length = 131070 := List.length_replicate

theorem size_unturned (platform : Platform) (size more : Nat) (first : size ≤ bufferMaxSize)
    (second : more < 2 * bufferMaxSize) : size + more < 2^platform.bits := by
  rw [bufferMaxSize] at first second
  cases platform with
  | win32 =>
    change size + more < 2^32
    omega
  | x64 =>
    change size + more < 2^64
    omega

theorem push_cases (platform : Platform) (line : Line) (s : Shared) (represents : Represents platform s) :
    s.2.buffer.currSize + 2 * line.real.length < bufferMaxSize ∧
      (∃ stack buffer, push platform line s =
          (s.1.accept line.whole,{s.2 with buffer := buffer, outputEvent := true}) ∧
        stack.capacity = bufferMaxSize ∧
        stack.items = wideBytes s.1.pending.flatten ++ wideBytes line.real ∧
        Holds platform.bits stack buffer) ∨
    bufferMaxSize ≤ s.2.buffer.currSize + 2 * line.real.length ∧
      push platform line s = (s.1,{s.2 with outputEvent := true}) := by
  obtain ⟨stack,capacity,items,holds⟩ := represents.pending
  have read : wcs line.real = line.real := wcs_eq_self _ (real_free line)
  have length := wideBytes_length line.real
  have size : s.2.buffer.size = bufferMaxSize := holds.size.trans capacity
  have bounded := holds_bounded platform.bits stack s.2.buffer holds
  have unturned : s.2.buffer.currSize + (wideBytes line.real).length < 2^platform.bits := by
    have fits : line.real.length < bufferMaxSize := line.fits
    apply size_unturned platform <;> omega
  by_cases room : s.2.buffer.currSize + 2 * line.real.length < bufferMaxSize
  · refine .inl ⟨room,?_⟩
    obtain ⟨buffer,pushed,after⟩ := push_fits platform.bits stack s.2.buffer (wideBytes line.real) holds unturned
      (by omega)
    have free : (stack.items ++ wideBytes line.real).length ≤ stack.capacity := by
      rw [List.length_append,capacity,← holds.currSize]
      omega
    rw [Stack.push,dif_pos free] at after
    refine ⟨⟨stack.capacity,stack.items ++ wideBytes line.real,free⟩,buffer,?_,capacity,?_,after⟩
    · rw [push,read,pushed]
    · exact congrArg (· ++ wideBytes line.real) items
  · have refused := push_refuses platform.bits s.2.buffer (wideBytes line.real) unturned (by omega)
    refine .inr ⟨Nat.le_of_not_lt room,?_⟩
    rw [push,read,refused]

theorem push_sound (platform : Platform) (line : Line) (s : Shared) (sound : Sound platform s)
    (fits : 0 ∉ line.text ∨ bufferMaxSize ≤ s.2.buffer.currSize + 2 * line.real.length) :
    Sound platform (push platform line s) := by
  obtain ⟨room,stack,buffer,pushed,capacity,items,holds⟩ | ⟨_,refused⟩ :=
    push_cases platform line s sound.toRepresents
  · have whole : line.real = line.whole := real_whole line (fits.resolve_right (Nat.not_le_of_lt room))
    have pending : (s.1.accept line.whole).pending.flatten = s.1.pending.flatten ++ line.real := by
      rw [Journal.accept,List.flatten_append,List.flatten_singleton,whole]
    rw [pushed]
    refine ⟨⟨sound.going,⟨stack,capacity,?_,holds⟩,fun _ => rfl,sound.given⟩,?_⟩
    · rw [items,pending,wideBytes_append]
    · rw [pending,List.mem_append,not_or]
      exact ⟨sound.free,real_free line⟩
  · rw [refused]
    exact ⟨⟨sound.going,sound.pending,fun _ => rfl,sound.given⟩,sound.free⟩

theorem push_cut (platform : Platform) (line : Line) (s : Shared) (sound : Sound platform s) (cut : 0 ∈ line.text)
    (room : s.2.buffer.currSize + 2 * line.real.length < bufferMaxSize) :
    ¬ Represents platform (push platform line s) := by
  obtain ⟨_,stack,buffer,pushed,_,items,holds⟩ | ⟨full,_⟩ := push_cases platform line s sound.toRepresents
  · rw [pushed]
    rintro ⟨_,⟨other,_,whole,held⟩,_,_⟩
    have shorter := real_shorter line cut
    have same : stack.items.length = other.items.length := holds.currSize.symm.trans held.currSize
    rw [items,whole] at same
    change _ = (wideBytes (s.1.pending ++ [line.whole]).flatten).length at same
    rw [List.flatten_append,List.flatten_singleton,List.length_append,wideBytes_length,wideBytes_length,
      wideBytes_length,List.length_append] at same
    omega
  · omega

private theorem pop_left (buffer next : Buffer) (item left : List UInt8) (count : Nat)
    (popped : buffer.pop item = some (count,left,next)) : left.length = item.length := by
  let length := if buffer.currSize < item.length then buffer.currSize else item.length
  have shorter : length ≤ item.length := by
    dsimp only [length]
    split <;> omega
  rw [Buffer.pop] at popped
  change (if length ≤ buffer.tail then some (length,_,_) else none) = _ at popped
  by_cases below : length ≤ buffer.tail
  · rw [if_pos below,Option.some.injEq,Prod.mk.injEq,Prod.mk.injEq] at popped
    rw [← popped.2.1]
    apply Tool.RingBuffer.memcpy_length
    rw [List.length_take]
    omega
  · rw [if_neg below] at popped
    cases popped

private theorem pop_whole (platform : Platform) (s : Shared) (represents : Represents platform s) :
    ∃ buffer left rest, (wideBytes s.1.pending.flatten).length = s.2.buffer.currSize % 65536 ∧
      s.2.buffer.pop (strBuffer.take (s.2.buffer.currSize % 65536)) =
        some (s.2.buffer.currSize % 65536,left,buffer) ∧
      left ++ strBuffer.drop (s.2.buffer.currSize % 65536) =
        wideBytes s.1.pending.flatten ++ 0 :: 0 :: rest ∧
      ∃ stack, stack.capacity = bufferMaxSize ∧ stack.items = [] ∧ Holds platform.bits stack buffer := by
  obtain ⟨stack,capacity,items,holds⟩ := represents.pending
  have bounded : s.2.buffer.currSize < 65536 := by
    have most := stack.bounded
    rw [capacity,bufferMaxSize] at most
    rw [holds.currSize]
    omega
  rw [Nat.mod_eq_of_lt bounded]
  let size := s.2.buffer.currSize
  have full : stack.items.length = size := holds.currSize.symm
  have taken : (strBuffer.take size).length = size := by
    rw [List.length_take,strBuffer_length]
    omega
  obtain ⟨left,buffer,popped,bytes,after⟩ :=
    pop_top platform.bits stack s.2.buffer (strBuffer.take size) holds
  have top : stack.top (strBuffer.take size).length = stack.items := by
    rw [taken,Stack.top,full,Nat.sub_self,List.drop_zero]
  have length := pop_left _ _ _ _ _ popped
  rw [top,full] at popped bytes
  rw [taken] at length
  rw [List.take_of_length_le (Nat.le_of_eq length)] at bytes
  have zeros : strBuffer.drop size = List.replicate (131068 - size + 2) 0 := by
    rw [strBuffer,List.drop_replicate,bufferMaxSize]
    congr 1
    omega
  refine ⟨buffer,left,List.replicate (131068 - size) 0,?_,popped,?_,
    stack.pop (strBuffer.take size).length,capacity,?_,after⟩
  · rw [← items]
    exact full
  · change left ++ strBuffer.drop size = _
    rw [zeros,bytes,items,List.replicate_succ,List.replicate_succ]
  · change stack.items.take (stack.items.length - (strBuffer.take size).length) = []
    rw [taken,full,Nat.sub_self,List.take_zero]

private theorem given_hand (lines : List WString) (output : Output) (bytes : List UInt8) (count : Nat)
    (written : bytes.take count = wideBytes lines.flatten) (printed : wideText bytes = lines.flatten) :
    (output.hand lines).given = logOutput bytes count output.given := by
  cases running : output.running with
  | false => simp [Output.hand,Output.given,logOutput,running]
  | true => simp [Output.hand,Output.given,logOutput,running,written,printed,wideBytes_append]

theorem drain_sound (platform : Platform) (s : Shared) (sound : Sound platform s) :
    Sound platform (drain s) := by
  obtain ⟨buffer,left,rest,length,popped,bytes,stack,capacity,empty,holds⟩ :=
    pop_whole platform s sound.toRepresents
  have hand : s.1.hand.pending = [] := rfl
  have pending : ∃ stack, stack.capacity = bufferMaxSize ∧ stack.items = wideBytes s.1.hand.pending.flatten ∧
      Holds platform.bits stack buffer := ⟨stack,capacity,empty,holds⟩
  have text := wideText_bytes s.1.pending.flatten sound.free rest
  have small : s.2.buffer.currSize % 65536 % 65536 = s.2.buffer.currSize % 65536 := Nat.mod_mod _ _
  rw [drain,popped]
  dsimp only
  rw [small]
  split
  next some =>
    refine ⟨⟨sound.going,pending,fun left => absurd hand left,?_⟩,List.not_mem_nil⟩
    rw [sound.given,bytes]
    change _ = (s.1.outputs.map (Output.hand s.1.pending)).map Output.given
    rw [List.map_map,List.map_map]
    apply List.map_congr_left
    intro output _
    refine (given_hand s.1.pending output _ _ ?_ text).symm
    rw [← length,List.take_left]
  next none =>
    have nothing : s.1.pending.flatten = [] := by
      rw [wideBytes_length] at length
      exact List.length_eq_zero_iff.mp (by omega)
    refine ⟨⟨sound.going,pending,fun left => absurd hand left,?_⟩,List.not_mem_nil⟩
    rw [sound.given]
    change _ = (s.1.outputs.map (Output.hand s.1.pending)).map Output.given
    rw [List.map_map]
    apply List.map_congr_left
    intro output _
    cases running : output.running with
    | false => simp [Output.hand,Output.given,running]
    | true => simp [Output.hand,Output.given,running,nothing]

private theorem exec_sound (platform : Platform) (instr : Instr) (answer : Answer) (s : Shared)
    (sound : Sound platform s) (fits : instr.Fits answer s) : Sound platform (exec platform instr answer s).1 := by
  cases instr with
  | format iLogLevel text =>
    rw [exec]
    split_ifs with short written
    · exact sound
    · exact absurd (fits.resolve_left (Nat.not_lt_of_le short)) written
    · exact sound
  | push line => exact push_sound platform line s sound fits
  | wait => exact sound
  | drain => exact drain_sound platform s sound

private theorem exec_fits (platform : Platform) (instr : Instr) (answer : Answer) (s : Shared)
    (sound : Sound platform s) (represents : Represents platform (exec platform instr answer s).1) :
    instr.Fits answer s := by
  cases instr with
  | format iLogLevel text =>
    by_contra long
    obtain ⟨short,written⟩ := not_or.mp long
    rw [exec,if_pos (Nat.le_of_not_lt short),dif_neg written] at represents
    exact Bool.false_ne_true represents.going.symm
  | push line =>
    by_contra long
    obtain ⟨cut,room⟩ := not_or.mp long
    exact push_cut platform line s sound (not_not.mp cut) (Nat.lt_of_not_le room) represents
  | wait => trivial
  | drain => trivial

private theorem setRunning_sound (platform : Platform) (device : Nat) (running : Bool) (s : Shared)
    (sound : Sound platform s) : Sound platform (setRunning device running s) := by
  refine ⟨⟨sound.going,sound.pending,sound.signalled,?_⟩,sound.free⟩
  change s.2.devices.modify device _ = (s.1.outputs.modify device _).map Output.given
  rw [sound.given]
  apply List.ext_getElem?
  intro index
  rw [List.getElem?_modify,List.getElem?_map,List.getElem?_map,List.getElem?_modify]
  cases s.1.outputs[index]? with
  | none => rfl
  | some output =>
    change some (if device = index then _ else _) = some (Output.given (if device = index then _ else _))
    split <;> rfl

section
variable (platform : Platform) (s : State) (action : Action) (sound : Sound platform s.shared)
include sound

theorem step_sound (fits : Fits s action) : Sound platform (step platform s action).shared := by
  have going : ¬ s.shared.2.ended = true := Bool.eq_false_iff.mp sound.going
  unfold step
  rw [if_neg going]
  cases action with
  | beginThread => exact sound
  | run device running => exact setRunning_sound platform device running s.shared sound
  | push iLogLevel text => exact sound
  | thread thread answer =>
    obtain ⟨_,same⟩ | ⟨_,instr,_,_,next,_,resumed⟩ := resume_cases (exec platform) thread answer s
    · dsimp only
      rw [same]
      exact sound
    · dsimp only
      rw [resumed]
      exact exec_sound platform instr answer s.shared sound (fits instr next)

theorem step_represents_iff : Represents platform (step platform s action).shared ↔ Fits s action := by
  constructor
  · have going : ¬ s.shared.2.ended = true := Bool.eq_false_iff.mp sound.going
    unfold step
    rw [if_neg going]
    intro represents
    cases action with
    | thread thread answer =>
      intro instr next
      obtain ⟨others,_,_,shared⟩ :=
        resume_pending (exec platform) (fun _ => (0 : Nat)) thread answer s instr next
      dsimp only at represents
      rw [shared] at represents
      exact exec_fits platform instr answer s.shared sound represents
    | beginThread => trivial
    | run device running => trivial
    | push iLogLevel text => trivial
  · intro fits
    exact (step_sound platform s action sound fits).toRepresents

end

/-- The lines that a device was handed and those that are still to be handed out. -/
def Journal.due (journal : Journal) (output : Output) : List WString := output.lines ++ journal.pending

/-- Between two states a running device is due just the lines that were accepted, in that order. -/
def Follows (device : Nat) (before after : Journal) : Prop :=
  ∀ output, before.outputs[device]? = some output → output.running = true →
    ∃ next more, after.outputs[device]? = some next ∧ next.running = true ∧
      after.accepted = before.accepted ++ more ∧ after.due next = before.due output ++ more

private theorem follows_same (device : Nat) (journal : Journal) : Follows device journal journal := by
  intro output found running
  exact ⟨output,[],found,running,(List.append_nil _).symm,(List.append_nil _).symm⟩

private theorem follows_accept (device : Nat) (journal : Journal) (line : WString) :
    Follows device journal (journal.accept line) := by
  intro output found running
  exact ⟨output,[line],found,running,rfl,(List.append_assoc ..).symm⟩

private theorem follows_hand (device : Nat) (journal : Journal) : Follows device journal journal.hand := by
  intro output found running
  have handed : journal.hand.outputs[device]? = some (output.hand journal.pending) := by
    rw [Journal.hand,List.getElem?_map,found]
    rfl
  refine ⟨_,[],handed,?_,(List.append_nil _).symm,?_⟩
  · rw [Output.hand,if_pos running]
    exact running
  · rw [Output.hand,if_pos running,List.append_nil]
    exact List.append_nil _

private theorem follows_run (device other : Nat) (running : Bool) (journal : Journal)
    (kept : other = device → running = true) : Follows device journal (journal.run other running) := by
  intro output found before
  have changed : (journal.run other running).outputs[device]? =
      some (if other = device then {output with running := running} else output) := by
    rw [Journal.run,List.getElem?_modify,found]
    rfl
  refine ⟨_,[],changed,?_,(List.append_nil _).symm,?_⟩
  · split
    next same => exact kept same
    next => exact before
  · rw [List.append_nil]
    split <;> rfl

private theorem follows_trans (device : Nat) (first second third : Journal) (before : Follows device first second)
    (after : Follows device second third) : Follows device first third := by
  intro output found running
  obtain ⟨middle,more,there,still,accepted,due⟩ := before output found running
  obtain ⟨last,others,here,runs,taken,owed⟩ := after middle there still
  refine ⟨last,more ++ others,here,runs,?_,?_⟩
  · rw [taken,accepted,List.append_assoc]
  · rw [owed,due,List.append_assoc]

private theorem push_follows (platform : Platform) (device : Nat) (line : Line) (s : Shared) :
    Follows device s.1 (push platform line s).1 := by
  rw [push]
  split
  · exact follows_accept device s.1 line.whole
  · exact follows_same device s.1
  · exact follows_same device s.1

private theorem drain_follows (device : Nat) (s : Shared) : Follows device s.1 (drain s).1 := by
  rw [drain]
  dsimp only
  split
  · split
    · exact follows_hand device s.1
    · exact follows_hand device s.1
  · exact follows_same device s.1

private theorem exec_follows (platform : Platform) (device : Nat) (instr : Instr) (answer : Answer) (s : Shared) :
    Follows device s.1 (exec platform instr answer s).1.1 := by
  cases instr with
  | format iLogLevel text =>
    rw [exec]
    split_ifs <;> exact follows_same device s.1
  | push line => exact push_follows platform device line s
  | wait => exact follows_same device s.1
  | drain => exact drain_follows device s

private theorem step_follows (platform : Platform) (device : Nat) (s : State) (action : Action)
    (kept : action ≠ .run device false) : Follows device s.shared.1 (step platform s action).shared.1 := by
  unfold step
  split
  · exact follows_same device s.shared.1
  · cases action with
    | beginThread => exact follows_same device s.shared.1
    | run other running =>
      apply follows_run device other running s.shared.1
      intro same
      cases running with
      | true => rfl
      | false => exact absurd (congrArg (fun device => Action.run device false) same) kept
    | push iLogLevel text => exact follows_same device s.shared.1
    | thread thread answer =>
      obtain ⟨_,same⟩ | ⟨_,instr,_,_,_,_,resumed⟩ := resume_cases (exec platform) thread answer s
      · dsimp only
        rw [same]
        exact follows_same device s.shared.1
      · dsimp only
        rw [resumed]
        exact exec_follows platform device instr answer s.shared

theorem run_follows (platform : Platform) (device : Nat) (s : State) (actions : List Action)
    (kept : .run device false ∉ actions) :
    Follows device s.shared.1 (run (step platform) s actions).shared.1 := by
  apply run_invariant (step platform) (fun _ action => action ≠ .run device false)
    (fun t => Follows device s.shared.1 t.shared.1) _ s actions
  · rw [guarded_forall (step platform) (fun action => action ≠ .run device false)]
    intro action member same
    exact kept (same ▸ member)
  · exact follows_same device s.shared.1
  · intro t action before unstopped
    exact follows_trans device _ _ _ before (step_follows platform device t action unstopped)

theorem create_sound (platform : Platform) (devices : List Bool) : Sound platform (create devices).shared := by
  have small : bufferMaxSize < 2^platform.bits := by
    cases platform <;> decide
  have holds := holds_new platform.bits ⟨bufferMaxSize,small⟩
  refine ⟨⟨rfl,⟨_,rfl,rfl,holds⟩,fun left => absurd rfl left,?_⟩,List.not_mem_nil⟩
  change devices.map _ = (devices.map _).map Output.given
  rw [List.map_map]
  rfl

/-- The log does with the lines what the journal says exactly in the runs in which each line that passes the
check fits into RealBuffer and no text with a NUL goes into m_pBuffer. The journal says that a device that
is not stopped is handed the lines accepted, each once and in order. -/
theorem log_hands_iff (platform : Platform) (devices : List Bool) (actions : List Action) :
    (Guarded (step platform) (fun s action => Represents platform (step platform s action).shared)
        (create devices) actions ↔
      Guarded (step platform) Fits (create devices) actions) ∧
    ∀ earlier later device, actions = earlier ++ later → .run device false ∉ later →
      Follows device (run (step platform) (create devices) earlier).shared.1
        (run (step platform) (create devices) actions).shared.1 := by
  constructor
  · exact guarded_congr (step platform) Fits _ (fun s => Sound platform s.shared) (step_sound platform)
      (step_represents_iff platform) (create devices) actions (create_sound platform devices)
  · intro earlier later device split kept
    rw [split,run_append]
    exact run_follows platform device _ later kept

private theorem longest_length : (List.replicate 65534 (97 : UInt16)).length + 1 < 2147483648 := by
  rw [List.length_replicate]
  decide

def longest : Text := ⟨List.replicate 65534 97,longest_length⟩

private theorem longest_unfit (now : SystemTime) (iLogLevel : Int) :
    longest.val.length + 1 ≤ bufferMaxSize ∧ ¬ (realBuffer now iLogLevel longest).length < bufferMaxSize := by
  have length : longest.val.length = 65534 := List.length_replicate
  have free : 0 ∉ longest.val := by
    intro member
    exact absurd (List.eq_of_mem_replicate member) (by decide)
  have newline : (wide "\n").length = 1 := by decide
  have least : longest.val.length + 1 ≤ (realBuffer now iLogLevel longest).length := by
    rw [realBuffer,wcs_eq_self _ free,List.length_append,List.length_append,newline]
    omega
  rw [length] at least ⊢
  rw [bufferMaxSize]
  omega

private theorem format_ends (platform : Platform) (now : SystemTime) (iLogLevel : Int) (text : Text)
    (short : text.val.length + 1 ≤ bufferMaxSize)
    (unfit : ¬ (realBuffer now iLogLevel text).length < bufferMaxSize) :
    let actions : List Action := [.push iLogLevel text,.thread 0 ⟨now,true⟩]
    (run (step platform) (create [true]) actions).shared.2.ended = true ∧
      ¬ Guarded (step platform) (fun s action => Represents platform (step platform s action).shared)
        (create [true]) actions := by
  intro actions
  have ended : (run (step platform) (create [true]) actions).shared.2.ended = true := by
    change ((exec platform (.format iLogLevel text) ⟨now,true⟩ (create [true]).shared).1).2.ended = true
    rw [exec,if_pos short,dif_neg unfit]
  refine ⟨ended,?_⟩
  rintro ⟨_,represents,_⟩
  exact Bool.false_ne_true (represents.going.symm.trans ended)

/-- A text of 65534 characters passes the check and its line does not fit into RealBuffer: Push does not
return. -/
theorem log_hands_overflow :
    let actions : List Action := [.push 0 longest,.thread 0 ⟨⟨2012,9,27,10,20,30⟩,true⟩]
    (run (step .x64) (create [true]) actions).shared.2.ended = true ∧
      ¬ Guarded (step .x64) (fun s action => Represents .x64 (step .x64 s action).shared) (create [true])
        actions := by
  obtain ⟨short,unfit⟩ := longest_unfit ⟨2012,9,27,10,20,30⟩ 0
  exact format_ends .x64 ⟨2012,9,27,10,20,30⟩ 0 longest short unfit

end Fantuan.Log.LogImpl
