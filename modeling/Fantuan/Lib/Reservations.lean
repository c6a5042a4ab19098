import Mathlib.Data.List.Nodup
import Mathlib.Logic.Function.Basic

/-! Keys that wait in rows or are held by threads, each at one place. A thread takes the first row over, holds its
key while it goes on, and gives it up.
-/
namespace Fantuan.Lib.Reservations

variable {Key Thread : Type}

structure Table (Key : Type) where
  rows : List Key
  pending : Nat → Option Key

structure Table.Reserved (t : Table Key) : Prop where
  rows : t.rows.Nodup
  absent : ∀ thread key, t.pending thread = some key → key ∉ t.rows
  alone : ∀ first second key, t.pending first = some key → t.pending second = some key → first = second

/-- The table of the threads, each of which holds what its state says. -/
def tableOf (rows : List Key) (threads : List Thread) (holds : Thread → Option Key) : Table Key :=
  ⟨rows,fun thread => threads[thread]?.bind holds⟩

section
variable (rows : List Key) (threads : List Thread) (holds : Thread → Option Key) (thread : Nat) (state next : Thread)
  (here : threads[thread]? = some state)
include here

theorem holds_set (other : Nat) :
    (threads.set thread next)[other]?.bind holds =
      if other = thread then holds next else threads[other]?.bind holds := by
  obtain ⟨inside,_⟩ := List.getElem?_eq_some_iff.mp here
  by_cases same : other = thread
  · rw [same,if_pos rfl,List.getElem?_set_self inside]
    rfl
  · rw [if_neg same,List.getElem?_set_ne (Ne.symm same)]

theorem fewer_reserved (fewer : ∀ key, holds next = some key → holds state = some key)
    (reserved : (tableOf rows threads holds).Reserved) : (tableOf rows (threads.set thread next) holds).Reserved := by
  have before (other : Nat) (key : Key) (held : (threads.set thread next)[other]?.bind holds = some key) :
      threads[other]?.bind holds = some key := by
    rw [holds_set threads holds thread state next here] at held
    split at held
    next same =>
      rw [same,here]
      exact fewer key held
    · exact held
  refine ⟨reserved.rows,fun other key held => reserved.absent other key (before other key held),?_⟩
  intro first second key left right
  exact reserved.alone first second key (before first key left) (before second key right)

theorem take_reserved (key : Key) (takes : holds next = some key)
    (reserved : (tableOf (key :: rows) threads holds).Reserved) :
    (tableOf rows (threads.set thread next) holds).Reserved := by
  obtain ⟨apart,distinct⟩ := List.nodup_cons.mp reserved.rows
  have before (other : Nat) (found : Key) (held : (threads.set thread next)[other]?.bind holds = some found) :
      other = thread ∧ found = key ∨ other ≠ thread ∧ found ≠ key ∧ threads[other]?.bind holds = some found := by
    rw [holds_set threads holds thread state next here] at held
    split at held
    next same => exact .inl ⟨same,Option.some.inj (held.symm.trans takes)⟩
    next different =>
      refine .inr ⟨different,?_,held⟩
      rintro rfl
      exact reserved.absent other found held List.mem_cons_self
  refine ⟨distinct,?_,?_⟩
  · intro other found held
    obtain ⟨-,rfl⟩ | ⟨-,-,still⟩ := before other found held
    · exact apart
    · exact fun member => reserved.absent other found still (List.mem_cons_of_mem key member)
  · intro first second found left right
    obtain ⟨one,same⟩ | ⟨-,different,left⟩ := before first found left
    · obtain ⟨two,-⟩ | ⟨-,different,-⟩ := before second found right
      · rw [one,two]
      · exact absurd same different
    · obtain ⟨-,same⟩ | ⟨-,-,right⟩ := before second found right
      · exact absurd same different
      · exact reserved.alone first second found left right

end

theorem add_reserved (t : Table Key) (key : Key) (absent : key ∉ t.rows) (free : ∀ thread, t.pending thread ≠ some key)
    (reserved : t.Reserved) : (⟨t.rows ++ [key],t.pending⟩ : Table Key).Reserved := by
  refine ⟨?_,?_,reserved.alone⟩
  · refine List.nodup_append.mpr ⟨reserved.rows,List.nodup_singleton _,?_⟩
    intro row member new added same
    rw [List.mem_singleton.mp added] at same
    exact absent (same ▸ member)
  · intro thread found held member
    rcases List.mem_append.mp member with before | last
    · exact reserved.absent thread found held before
    · rw [List.mem_singleton.mp last] at held
      exact free thread held

end Fantuan.Lib.Reservations
