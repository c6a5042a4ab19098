import Fantuan.Lib.Run
import Mathlib.Data.List.Basic

/-! The circular buffer of bytes, beside the bounded queue it is meant to be. Equal pointers
are a full buffer to Push and to Pop, also where Init has just made them equal.
-/
namespace Fantuan.Tool.RingBuffer
open Lib.Run

section Queue

variable {Item : Type}

/-- A first-in first-out queue of at most `capacity` items. -/
structure Queue (Item : Type) where
  capacity : Nat
  items : List Item
  bounded : items.length ≤ capacity

def Queue.empty (capacity : Nat) : Queue Item := ⟨capacity,[],Nat.zero_le capacity⟩

def Queue.Room (queue : Queue Item) (count : Nat) : Prop :=
  queue.items.length + count ≤ queue.capacity

instance (queue : Queue Item) (count : Nat) : Decidable (queue.Room count) :=
  inferInstanceAs (Decidable (_ ≤ _))

def Queue.push (queue : Queue Item) (more : List Item) : Queue Item :=
  if room : (queue.items ++ more).length ≤ queue.capacity then
    ⟨queue.capacity,queue.items ++ more,room⟩
  else queue

def Queue.oldest (queue : Queue Item) (count : Nat) : List Item := queue.items.take count

def Queue.pop (queue : Queue Item) (count : Nat) : Queue Item where
  capacity := queue.capacity
  items := queue.items.drop count
  bounded := by
    have bounded := queue.bounded
    rw [List.length_drop]
    omega

theorem empty_room (capacity count : Nat) :
    (Queue.empty capacity : Queue Item).Room count ↔ count ≤ capacity := by
  simp [Queue.Room,Queue.empty]

theorem empty_pop (capacity count : Nat) :
    (Queue.empty capacity : Queue Item).pop count = .empty capacity := by
  simp [Queue.pop,Queue.empty]

theorem empty_push (capacity : Nat) (more : List Item) (idle : more = [] ∨ capacity < more.length) :
    (Queue.empty capacity).push more = .empty capacity := by
  rcases idle with rfl | long
  · simp [Queue.push,Queue.empty]
  · have full : ¬ more.length ≤ capacity := by omega
    simp [Queue.push,Queue.empty,full]

end Queue

def memcpy (memory : List UInt8) (offset : Nat) (bytes : List UInt8) : List UInt8 :=
  memory.take offset ++ bytes ++ memory.drop (offset + bytes.length)

theorem memcpy_length (memory : List UInt8) (offset : Nat) (bytes : List UInt8)
    (inside : offset + bytes.length ≤ memory.length) :
    (memcpy memory offset bytes).length = memory.length := by
  simp only [memcpy,List.length_append,List.length_take,List.length_drop]
  omega

theorem memcpy_nil (memory : List UInt8) (offset : Nat) : memcpy memory offset [] = memory := by
  simp [memcpy]

/-- The pointers are offsets from m_pData, and m_pDataEnd is `size`. -/
structure Buffer where
  size : Nat
  data : List UInt8
  head : Nat
  tail : Nat
  sized : data.length = size
  inside : head ≤ size ∧ tail ≤ size

def Buffer.new (maxSize : Nat) : Buffer :=
  ⟨maxSize,List.replicate maxSize 0,0,0,by simp,by simp⟩

/-- The bytes of `item` copied in at `offset`, with the tail behind them. -/
def Buffer.write (ring : Buffer) (offset : Nat) (item : List UInt8)
    (room : offset + item.length ≤ ring.size) : Buffer where
  size := ring.size
  data := memcpy ring.data offset item
  head := ring.head
  tail := offset + item.length
  sized := by
    rw [memcpy_length ring.data offset item (by rw [ring.sized]; exact room),ring.sized]
  inside := ⟨ring.inside.1,room⟩

def Buffer.push (ring : Buffer) (item : List UInt8) : Bool × Buffer :=
  if used : ring.head < ring.tail then
    if full : ring.size - (ring.tail - ring.head) < item.length then (false,ring)
    else if whole : item.length ≤ ring.size - ring.tail then
      (true,ring.write ring.tail item (by have := ring.inside; omega))
    else
      let remain := ring.size - ring.tail
      let first := ring.write ring.tail (item.take remain)
        (by have := ring.inside; rw [List.length_take]; omega)
      (true,first.write 0 (item.drop remain)
        (by have := ring.inside; change _ ≤ ring.size; rw [List.length_drop]; omega))
  else if full : ring.head - ring.tail < item.length then (false,ring)
  else (true,ring.write ring.tail item (by have := ring.inside; omega))

/-- What Pop returns, the caller's buffer of iLength bytes after it, and the ring after it. -/
def Buffer.pop (ring : Buffer) (item : List UInt8) : Nat × List UInt8 × Buffer :=
  if used : ring.head < ring.tail then
    let length := min item.length (ring.tail - ring.head)
    (length,memcpy item 0 ((ring.data.drop ring.head).take length),
      {ring with head := ring.head + length, inside := by have := ring.inside; omega})
  else if whole : item.length ≤ ring.size - ring.head then
    (item.length,memcpy item 0 ((ring.data.drop ring.head).take item.length),
      {ring with head := ring.head + item.length, inside := by have := ring.inside; omega})
  else
    let currSize := ring.size - ring.head
    let remain := min ring.tail (item.length - currSize)
    -- the second copy starts at pItem again and lies on the first one
    (currSize + remain,
      memcpy (memcpy item 0 ((ring.data.drop ring.head).take currSize)) 0 (ring.data.take remain),
      {ring with head := remain, inside := by have := ring.inside; omega})

inductive Call
  | push (item : List UInt8)
  | pop (item : List UInt8)

def step : Queue UInt8 × Buffer → Call → Queue UInt8 × Buffer
  | (queue,ring), .push item => (queue.push item,(ring.push item).2)
  | (queue,ring), .pop item => (queue.pop item.length,(ring.pop item).2.2)

/-- What the caller sees of the ring is what the queue says. -/
def Agrees : Queue UInt8 × Buffer → Call → Prop
  | (queue,ring), .push item =>
    ((ring.push item).1 = true ↔ queue.Room item.length) ∧
      ((ring.push item).1 = false → (ring.push item).2 = ring)
  | (queue,ring), .pop item =>
    (ring.pop item).1 = (queue.oldest item.length).length ∧
      (ring.pop item).2.1.take (ring.pop item).1 = queue.oldest item.length

def Refines (capacity : Nat) (calls : List Call) : Prop :=
  Guarded step Agrees (.empty capacity,.new capacity) calls

/-- A call that asks nothing of a ring of this capacity. -/
def Call.Idle (capacity : Nat) : Call → Prop
  | .push item => item = [] ∨ capacity < item.length
  | .pop item => item = []

private theorem new_push_nil (capacity : Nat) :
    (Buffer.new capacity).push [] = (true,.new capacity) := by
  simp [Buffer.push,Buffer.new,Buffer.write,memcpy_nil]

private theorem new_push (capacity : Nat) (item : List UInt8) (some : item ≠ []) :
    (Buffer.new capacity).push item = (false,.new capacity) := by
  have asked : 0 < item.length := List.length_pos_iff.mpr some
  simp [Buffer.push,Buffer.new,asked]

private theorem new_pop_nil (capacity : Nat) :
    (Buffer.new capacity).pop [] = (0,[],.new capacity) := by
  simp [Buffer.pop,Buffer.new,memcpy]

private theorem new_pop_zero (item : List UInt8) :
    (Buffer.new 0).pop item = (0,item,.new 0) := by
  cases item with
  | nil => exact new_pop_nil 0
  | cons byte rest => simp [Buffer.pop,Buffer.new,memcpy]

private theorem new_pop (capacity : Nat) (item : List UInt8) :
    ((Buffer.new capacity).pop item).1 = min item.length capacity := by
  by_cases whole : item.length ≤ capacity
  · simp [Buffer.pop,Buffer.new,whole]
  · simp only [Buffer.pop,Buffer.new,Nat.lt_irrefl,↓reduceDIte,Nat.sub_zero,whole]
    omega

theorem agrees_new (capacity : Nat) (call : Call) :
    Agrees (.empty capacity,.new capacity) call ↔ capacity = 0 ∨ call.Idle capacity := by
  cases call with
  | push item =>
    simp only [Agrees,empty_room,Call.Idle]
    by_cases nothing : item = []
    · subst item
      simp [new_push_nil]
    · have asked : 0 < item.length := List.length_pos_iff.mpr nothing
      rw [new_push capacity item nothing]
      simp only [Bool.false_eq_true,false_iff,forall_const,and_true,nothing,false_or]
      omega
  | pop item =>
    have oldest : (Queue.empty capacity : Queue UInt8).oldest item.length = [] := by
      simp [Queue.oldest,Queue.empty]
    simp only [Agrees,Call.Idle,oldest]
    constructor
    · rintro ⟨count,-⟩
      rw [new_pop,List.length_nil] at count
      rw [← List.length_eq_zero_iff]
      omega
    · rintro (rfl | rfl)
      · simp [new_pop_zero]
      · simp [new_pop_nil]

theorem step_new (capacity : Nat) (call : Call) (quiet : capacity = 0 ∨ call.Idle capacity) :
    step (.empty capacity,.new capacity) call = (.empty capacity,.new capacity) := by
  cases call with
  | push item =>
    have idle : item = [] ∨ capacity < item.length := by
      rcases quiet with rfl | idle
      · cases item with
        | nil => exact .inl rfl
        | cons byte rest => exact .inr (by simp)
      · exact idle
    rw [step,empty_push capacity item idle]
    by_cases nothing : item = []
    · rw [nothing,new_push_nil]
    · rw [new_push capacity item nothing]
  | pop item =>
    rw [step,empty_pop]
    rcases quiet with rfl | rfl
    · rw [new_pop_zero]
    · rw [new_pop_nil]

/-- The ring is the bounded queue exactly in the runs that ask nothing of it. -/
theorem ring_refines (capacity : Nat) (calls : List Call) :
    Refines capacity calls ↔ capacity = 0 ∨ ∀ call ∈ calls, call.Idle capacity := by
  have fixed : ∀ call, Agrees (.empty capacity,.new capacity) call →
      step (.empty capacity,.new capacity) call = (.empty capacity,.new capacity) := by
    intro call agrees
    exact step_new capacity call ((agrees_new capacity call).mp agrees)
  rw [Refines,guarded_fixed step Agrees _ fixed]
  simp only [agrees_new]
  by_cases zero : capacity = 0
  · simp [zero]
  · simp [zero]

/-- A ring of four bytes refuses its first byte, although the queue has room. -/
theorem ring_refines_first : ¬ Refines 4 [.push [1]] := by
  rintro ⟨⟨answer,-⟩,-⟩
  have room : (Queue.empty 4 : Queue UInt8).Room 1 := by decide
  have refused : ((Buffer.new 4).push [1]).1 = false := by decide
  rw [answer.mpr room] at refused
  cases refused

end Fantuan.Tool.RingBuffer
