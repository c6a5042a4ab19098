import Fantuan.Tool.RingBuffer
import Mathlib.Algebra.Group.Nat.Defs

/-! The buffer with one end, beside the bounded stack of bytes that it is meant to be. size_t has `bits`
bits. There is no result where memcpy leaves the memory that is allocated.
-/
namespace Fantuan.Tool.SingleBuffer
open Lib.Run RingBuffer

section Stack

variable {Item : Type}

/-- A stack of at most `capacity` items, the last one on top. -/
structure Stack (Item : Type) where
  capacity : Nat
  items : List Item
  bounded : items.length ≤ capacity

def Stack.empty (capacity : Nat) : Stack Item := ⟨capacity,[],Nat.zero_le capacity⟩

def Stack.remain (stack : Stack Item) : Nat := stack.capacity - stack.items.length

def Stack.push (stack : Stack Item) (more : List Item) : Stack Item :=
  if room : (stack.items ++ more).length ≤ stack.capacity then ⟨stack.capacity,stack.items ++ more,room⟩
  else stack

/-- The last `count` items, or all, in the order in which they were pushed. -/
def Stack.top (stack : Stack Item) (count : Nat) : List Item :=
  stack.items.drop (stack.items.length - count)

def Stack.pop (stack : Stack Item) (count : Nat) : Stack Item where
  capacity := stack.capacity
  items := stack.items.take (stack.items.length - count)
  bounded := Nat.le_trans (List.length_take_le ..) (Nat.le_trans (Nat.sub_le ..) stack.bounded)

end Stack

/-- tail is the offset of m_pTail from m_pData. -/
structure Buffer where
  size : Nat
  currSize : Nat
  data : List UInt8
  tail : Nat
  sized : data.length = size
  inside : tail ≤ size

theorem zeros_length (maxSize : Nat) : (List.replicate maxSize (0 : UInt8)).length = maxSize :=
  List.length_replicate

def Buffer.new (maxSize : Nat) : Buffer :=
  ⟨maxSize,0,List.replicate maxSize 0,0,zeros_length maxSize,Nat.zero_le maxSize⟩

def Buffer.getRemainSize (buffer : Buffer) : Nat := buffer.size - buffer.currSize

def Buffer.push (bits : Nat) (buffer : Buffer) (item : List UInt8) : Option (Bool × Buffer) :=
  if buffer.size ≤ (buffer.currSize + item.length) % 2^bits then some (false,buffer)
  else if room : buffer.tail + item.length ≤ buffer.size then
    some (true,{
      size := buffer.size
      currSize := (buffer.currSize + item.length) % 2^bits
      data := memcpy buffer.data buffer.tail item
      tail := buffer.tail + item.length
      sized := (memcpy_length _ _ _ (buffer.sized ▸ room)).trans buffer.sized
      inside := room})
  else none

/-- What Pop returns, the caller's buffer of iLength bytes after it, and the buffer after it. -/
def Buffer.pop (buffer : Buffer) (item : List UInt8) : Option (Nat × List UInt8 × Buffer) :=
  let length := if buffer.currSize < item.length then buffer.currSize else item.length
  if length ≤ buffer.tail then
    some (length,memcpy item 0 ((buffer.data.drop (buffer.tail - length)).take length),
      {buffer with
        tail := buffer.tail - length
        currSize := buffer.currSize - length
        inside := Nat.le_trans (Nat.sub_le ..) buffer.inside})
  else none

/-- What is in the memory of a process has a length that size_t can hold. -/
abbrev Bytes (bits : Nat) := {bytes : List UInt8 // bytes.length < 2^bits}

/-- A Pop without a buffer returns 0 at once. -/
inductive Call (bits : Nat)
  | push (item : Bytes bits)
  | pop (item : Bytes bits)
  | popNull (length : Nat)

def step (bits : Nat) : Stack UInt8 × Buffer → Call bits → Stack UInt8 × Buffer
  | (stack,buffer), .push item => (stack.push item.val,((buffer.push bits item.val).map Prod.snd).getD buffer)
  | (stack,buffer), .pop item =>
    (stack.pop item.val.length,((buffer.pop item.val).map fun result => result.2.2).getD buffer)
  | (stack,buffer), .popNull _ => (stack,buffer)

/-- What the caller sees of the buffer is what the stack says. -/
def Agrees (bits : Nat) : Stack UInt8 × Buffer → Call bits → Prop
  | (stack,buffer), .push item => buffer.getRemainSize = stack.remain ∧ ∃ answer next,
      buffer.push bits item.val = some (answer,next) ∧
        (answer = true ↔ item.val.length ≤ stack.remain) ∧ (answer = false → next = buffer)
  | (stack,buffer), .pop item => ∃ left next,
      buffer.pop item.val = some ((stack.top item.val.length).length,left,next) ∧
        left.take (stack.top item.val.length).length = stack.top item.val.length
  | _, .popNull _ => True

/-- A Push does not fill the buffer to the last byte, nor turn the sum of the sizes over. -/
def Loose (bits : Nat) : Stack UInt8 × Buffer → Call bits → Prop
  | (_,buffer), .push item =>
    item.val.length ≠ buffer.getRemainSize ∧ buffer.currSize + item.val.length < 2^bits
  | _, _ => True

/-- The bytes below the tail are those of the stack. -/
structure Holds (bits : Nat) (stack : Stack UInt8) (buffer : Buffer) : Prop where
  size : buffer.size = stack.capacity
  small : buffer.size < 2^bits
  currSize : buffer.currSize = stack.items.length
  tail : buffer.tail = stack.items.length
  data : buffer.data.take buffer.tail = stack.items

theorem holds_new (bits : Nat) (capacity : Fin (2^bits)) : Holds bits (.empty capacity) (.new capacity) :=
  ⟨rfl,capacity.isLt,rfl,rfl,rfl⟩

theorem take_memcpy (memory : List UInt8) (offset : Nat) (bytes : List UInt8) (inside : offset ≤ memory.length) :
    (memcpy memory offset bytes).take (offset + bytes.length) = memory.take offset ++ bytes := by
  have front : (memory.take offset ++ bytes).length = offset + bytes.length := by
    rw [List.length_append,List.length_take_of_le inside]
  rw [memcpy,← front,List.take_left]

theorem push_refuses (bits : Nat) (buffer : Buffer) (item : List UInt8)
    (unturned : buffer.currSize + item.length < 2^bits) (full : buffer.size ≤ buffer.currSize + item.length) :
    buffer.push bits item = some (false,buffer) := by
  rw [Buffer.push,Nat.mod_eq_of_lt unturned,if_pos full]

section
variable (bits : Nat) (stack : Stack UInt8) (buffer : Buffer) (item : List UInt8) (holds : Holds bits stack buffer)
include holds

theorem holds_remain : buffer.getRemainSize = stack.remain := by
  rw [Buffer.getRemainSize,Stack.remain,holds.size,holds.currSize]

theorem holds_bounded : buffer.currSize ≤ buffer.size := by
  rw [holds.currSize,holds.size]
  exact stack.bounded

theorem push_fits (unturned : buffer.currSize + item.length < 2^bits)
    (room : buffer.currSize + item.length < buffer.size) :
    ∃ next, buffer.push bits item = some (true,next) ∧ Holds bits (stack.push item) next := by
  have fits : buffer.tail + item.length ≤ buffer.size := by
    rw [holds.tail,← holds.currSize]
    exact Nat.le_of_lt room
  have free : (stack.items ++ item).length ≤ stack.capacity := by
    rw [List.length_append,← holds.size,← holds.currSize]
    exact Nat.le_of_lt room
  rw [Buffer.push,Nat.mod_eq_of_lt unturned,if_neg (Nat.not_le_of_lt room),dif_pos fits,Stack.push,dif_pos free]
  refine ⟨_,rfl,holds.size,holds.small,?_,?_,?_⟩
  · exact (congrArg (· + item.length) holds.currSize).trans List.length_append.symm
  · exact (congrArg (· + item.length) holds.tail).trans List.length_append.symm
  · change (memcpy buffer.data buffer.tail item).take (buffer.tail + item.length) = stack.items ++ item
    rw [take_memcpy _ _ _ (buffer.sized ▸ buffer.inside),holds.data]

/-- A sum that turns over passes the test, and memcpy leaves the memory. -/
theorem push_turned (short : item.length < 2^bits) (turned : 2^bits ≤ buffer.currSize + item.length) :
    buffer.push bits item = none := by
  have bounded := holds_bounded bits stack buffer holds
  have small := holds.small
  have outside : ¬ buffer.tail + item.length ≤ buffer.size := by
    rw [holds.tail,← holds.currSize]
    omega
  have left : (buffer.currSize + item.length) % 2^bits = buffer.currSize + item.length - 2^bits := by
    rw [Nat.mod_eq_sub_mod turned,Nat.mod_eq_of_lt (by omega)]
  rw [Buffer.push,left,if_neg (by omega),dif_neg outside]

theorem push_agrees_iff (short : item.length < 2^bits) :
    Agrees bits (stack,buffer) (.push ⟨item,short⟩) ↔ Loose bits (stack,buffer) (.push ⟨item,short⟩) := by
  have remain := holds_remain bits stack buffer holds
  have bounded := holds_bounded bits stack buffer holds
  have rest : stack.remain = buffer.size - buffer.currSize := remain.symm
  constructor
  · rintro ⟨-,answer,next,pushed,right,-⟩
    dsimp only at pushed right
    have unturned : buffer.currSize + item.length < 2^bits := by
      by_contra turned
      rw [push_turned bits stack buffer item holds short (Nat.le_of_not_lt turned)] at pushed
      cases pushed
    refine ⟨fun exactly => ?_,unturned⟩
    dsimp only at exactly
    rw [remain,rest] at exactly
    rw [push_refuses bits buffer item unturned (by omega)] at pushed
    cases pushed
    exact absurd (right.mpr (by omega)) Bool.false_ne_true
  · rintro ⟨differs,unturned⟩
    dsimp only at differs unturned
    rw [remain,rest] at differs
    refine ⟨remain,?_⟩
    by_cases room : buffer.currSize + item.length < buffer.size
    · obtain ⟨next,pushed,-⟩ := push_fits bits stack buffer item holds unturned room
      refine ⟨true,next,pushed,iff_of_true rfl ?_,fun refused => absurd refused.symm Bool.false_ne_true⟩
      dsimp only
      omega
    · refine ⟨false,buffer,push_refuses bits buffer item unturned (Nat.le_of_not_lt room),
        iff_of_false Bool.false_ne_true ?_,fun _ => rfl⟩
      dsimp only
      omega

theorem push_holds (short : item.length < 2^bits) (loose : Loose bits (stack,buffer) (.push ⟨item,short⟩)) :
    Holds bits (step bits (stack,buffer) (.push ⟨item,short⟩)).1 (step bits (stack,buffer) (.push ⟨item,short⟩)).2 := by
  change Holds bits (stack.push item) (((buffer.push bits item).map Prod.snd).getD buffer)
  by_cases room : buffer.currSize + item.length < buffer.size
  · obtain ⟨next,pushed,after⟩ := push_fits bits stack buffer item holds loose.2 room
    rw [pushed]
    exact after
  · have differs := loose.1
    have bounded := holds_bounded bits stack buffer holds
    dsimp only at differs
    rw [Buffer.getRemainSize] at differs
    rw [push_refuses bits buffer item loose.2 (Nat.le_of_not_lt room)]
    have full : ¬ (stack.items ++ item).length ≤ stack.capacity := by
      rw [List.length_append,← holds.size,← holds.currSize]
      omega
    rw [Stack.push,dif_neg full]
    exact holds

theorem pop_top : ∃ left next, buffer.pop item = some ((stack.top item.length).length,left,next) ∧
    left.take (stack.top item.length).length = stack.top item.length ∧ Holds bits (stack.pop item.length) next := by
  let length := if buffer.currSize < item.length then buffer.currSize else item.length
  have count : length = min stack.items.length item.length := by
    dsimp only [length]
    rw [holds.currSize]
    split <;> omega
  have below : length ≤ buffer.tail := by
    rw [count,holds.tail]
    exact Nat.min_le_left ..
  have start : buffer.tail - length = stack.items.length - item.length := by
    rw [count,holds.tail]
    omega
  have top : (stack.top item.length).length = length := by
    rw [Stack.top,List.length_drop,count]
    omega
  have copied : (buffer.data.drop (buffer.tail - length)).take length = stack.top item.length := by
    rw [Stack.top,← start,← holds.data,List.drop_take,Nat.sub_sub_self below]
  rw [Buffer.pop]
  change ∃ left next, (if length ≤ buffer.tail then some (length,_,_) else none) = _ ∧ _
  rw [if_pos below,top,copied]
  refine ⟨_,_,rfl,?_,holds.size,holds.small,?_,?_,?_⟩
  · rw [memcpy,List.take_zero,List.nil_append,← top]
    exact List.take_left
  · change buffer.currSize - length = (stack.items.take (stack.items.length - item.length)).length
    rw [List.length_take,holds.currSize,count]
    omega
  · change buffer.tail - length = (stack.items.take (stack.items.length - item.length)).length
    rw [List.length_take,start]
    omega
  · change buffer.data.take (buffer.tail - length) = stack.items.take (stack.items.length - item.length)
    rw [← start,← holds.data,List.take_take,Nat.min_eq_left (Nat.sub_le ..)]

end

theorem step_agrees_iff (bits : Nat) (s : Stack UInt8 × Buffer) (call : Call bits) (holds : Holds bits s.1 s.2) :
    Agrees bits s call ↔ Loose bits s call := by
  obtain ⟨stack,buffer⟩ := s
  cases call with
  | push item => exact push_agrees_iff bits stack buffer item.val holds item.property
  | pop item =>
    obtain ⟨left,next,popped,bytes,-⟩ := pop_top bits stack buffer item.val holds
    exact iff_of_true ⟨left,next,popped,bytes⟩ trivial
  | popNull length => exact Iff.rfl

theorem step_holds (bits : Nat) (s : Stack UInt8 × Buffer) (call : Call bits) (holds : Holds bits s.1 s.2)
    (loose : Loose bits s call) : Holds bits (step bits s call).1 (step bits s call).2 := by
  obtain ⟨stack,buffer⟩ := s
  cases call with
  | push item => exact push_holds bits stack buffer item.val holds item.property loose
  | pop item =>
    obtain ⟨left,next,popped,-,after⟩ := pop_top bits stack buffer item.val holds
    change Holds bits (stack.pop item.val.length) (((buffer.pop item.val).map fun result => result.2.2).getD buffer)
    rw [popped]
    exact after
  | popNull length => exact holds

/-- The buffer is the bounded stack exactly in the runs in which no Push asks for all of the rest, or for so
much that the sum of the sizes turns over. -/
theorem single_refines_iff (bits : Nat) (capacity : Fin (2^bits)) (calls : List (Call bits)) :
    Guarded (step bits) (Agrees bits) (.empty capacity,.new capacity) calls ↔
      Guarded (step bits) (Loose bits) (.empty capacity,.new capacity) calls :=
  guarded_congr (step bits) (Loose bits) (Agrees bits) (fun s => Holds bits s.1 s.2) (step_holds bits)
    (step_agrees_iff bits) _ calls (holds_new bits capacity)

/-- An empty buffer of four bytes refuses four bytes. -/
theorem single_refines_exactly :
    let four : Bytes 64 := ⟨[1,2,3,4],by decide⟩
    (Buffer.new 4).push 64 four.val = some (false,.new 4) ∧
      ¬ Guarded (step 64) (Agrees 64) (.empty 4,.new 4) [.push four] := by
  refine ⟨rfl,?_⟩
  rintro ⟨⟨-,answer,next,pushed,right,-⟩,-⟩
  have refused : answer = false := by
    cases pushed
    rfl
  exact absurd (refused.symm.trans (right.mpr (Nat.le_refl 4))) Bool.false_ne_true

end Fantuan.Tool.SingleBuffer
