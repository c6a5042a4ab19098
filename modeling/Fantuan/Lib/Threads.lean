import Mathlib.Algebra.BigOperators.Group.List.Basic
import Mathlib.Tactic.Abel

/-! Threads over a shared state, interleaved instruction by instruction. A thread is the list of
instructions it has still to execute; what the first one answers is put before the others.
-/
namespace Fantuan.Lib.Threads

variable {Shared Instr Answer Weight : Type}

structure Pool (Shared Instr : Type) where
  shared : Shared
  threads : List (List Instr)
  deriving DecidableEq

def Pool.next (pool : Pool Shared Instr) (thread : Nat) : Option Instr :=
  pool.threads[thread]?.bind List.head?

def Pool.resume (exec : Instr → Answer → Shared → Shared × List Instr) (thread : Nat)
    (answer : Answer) (pool : Pool Shared Instr) : Pool Shared Instr :=
  match pool.threads[thread]? with
  | some (instr :: rest) =>
    let (shared,more) := exec instr answer pool.shared
    ⟨shared,pool.threads.set thread (more ++ rest)⟩
  | _ => pool

def Pool.spawn (program : List Instr) (pool : Pool Shared Instr) : Pool Shared Instr :=
  {pool with threads := program :: pool.threads}

def Pool.Idle (pool : Pool Shared Instr) : Prop := ∀ thread ∈ pool.threads, thread = []

instance [DecidableEq Instr] (pool : Pool Shared Instr) : Decidable pool.Idle :=
  inferInstanceAs (Decidable (∀ thread ∈ pool.threads, thread = []))

theorem resume_cases (exec : Instr → Answer → Shared → Shared × List Instr) (thread : Nat)
    (answer : Answer) (pool : Pool Shared Instr) :
    pool.next thread = none ∧ pool.resume exec thread answer = pool ∨
      ∃ before instr rest after, pool.next thread = some instr ∧
        pool.threads = before ++ (instr :: rest) :: after ∧
        pool.resume exec thread answer =
          ⟨(exec instr answer pool.shared).1,
            before ++ ((exec instr answer pool.shared).2 ++ rest) :: after⟩ := by
  rw [Pool.next,Pool.resume]
  cases found : pool.threads[thread]? with
  | none => exact .inl ⟨rfl,rfl⟩
  | some program =>
    cases program with
    | nil => exact .inl ⟨rfl,rfl⟩
    | cons instr rest =>
      obtain ⟨inside,entry⟩ := List.getElem?_eq_some_iff.mp found
      refine .inr ⟨pool.threads.take thread,instr,rest,pool.threads.drop (thread + 1),rfl,?_,?_⟩
      · rw [← entry,List.getElem_cons_drop inside,List.take_append_drop]
      · change Pool.mk _ (pool.threads.set thread _) = _
        rw [List.set_eq_take_append_cons_drop,if_pos inside]

theorem busy_next (pool : Pool Shared Instr) (busy : ¬ pool.Idle) :
    ∃ thread instr, pool.next thread = some instr := by
  simp only [Pool.Idle,not_forall] at busy
  obtain ⟨program,member,left⟩ := busy
  obtain ⟨thread,inside,entry⟩ := List.mem_iff_getElem.mp member
  cases program with
  | nil => exact absurd rfl left
  | cons instr rest =>
    refine ⟨thread,instr,?_⟩
    rw [Pool.next,List.getElem?_eq_getElem inside,entry]
    rfl

section
variable [AddCommMonoid Weight]

def weigh (weight : Instr → Weight) (program : List Instr) : Weight := (program.map weight).sum

/-- The weight of everything that the threads have still to execute. -/
def Pool.pending (weight : Instr → Weight) (pool : Pool Shared Instr) : Weight :=
  (pool.threads.map (weigh weight)).sum

theorem spawn_pending (weight : Instr → Weight) (program : List Instr) (pool : Pool Shared Instr) :
    (pool.spawn program).pending weight = weigh weight program + pool.pending weight :=
  List.sum_cons

theorem idle_pending (weight : Instr → Weight) (pool : Pool Shared Instr) (idle : pool.Idle) :
    pool.pending weight = 0 := by
  apply List.sum_eq_zero
  intro value member
  obtain ⟨thread,inside,weighed⟩ := List.mem_map.mp member
  rw [← weighed,idle thread inside]
  rfl

theorem resume_pending (exec : Instr → Answer → Shared → Shared × List Instr)
    (weight : Instr → Weight) (thread : Nat) (answer : Answer) (pool : Pool Shared Instr)
    (instr : Instr) (next : pool.next thread = some instr) :
    ∃ others, pool.pending weight = others + weight instr ∧
      (pool.resume exec thread answer).pending weight =
        others + weigh weight (exec instr answer pool.shared).2 ∧
      (pool.resume exec thread answer).shared = (exec instr answer pool.shared).1 := by
  obtain ⟨none,_⟩ | ⟨before,found,rest,after,first,threads,resumed⟩ :=
    resume_cases exec thread answer pool
  · rw [none] at next
    cases next
  · obtain rfl : found = instr := Option.some.inj (first.symm.trans next)
    refine ⟨(before.map (weigh weight)).sum + weigh weight rest + (after.map (weigh weight)).sum,?_,?_,?_⟩
    · rw [Pool.pending,threads,List.map_append,List.map_cons,List.sum_append,List.sum_cons]
      simp only [weigh,List.map_cons,List.sum_cons]
      abel
    · rw [Pool.pending,resumed]
      simp only [weigh,List.map_append,List.map_cons,List.sum_append,List.sum_cons]
      abel
    · rw [resumed]

theorem resume_kept (exec : Instr → Answer → Shared → Shared × List Instr)
    (weight : Instr → Weight) (property : Shared → Weight → Prop) (thread : Nat) (answer : Answer)
    (pool : Pool Shared Instr)
    (kept : ∀ instr others, pool.next thread = some instr →
      property pool.shared (others + weight instr) →
      property (exec instr answer pool.shared).1 (others + weigh weight (exec instr answer pool.shared).2))
    (holds : property pool.shared (pool.pending weight)) :
    property (pool.resume exec thread answer).shared ((pool.resume exec thread answer).pending weight) := by
  cases next : pool.next thread with
  | none =>
    obtain ⟨_,same⟩ | ⟨_,_,_,_,some,_⟩ := resume_cases exec thread answer pool
    · rw [same]
      exact holds
    · rw [some] at next
      cases next
  | some instr =>
    obtain ⟨others,before,after,shared⟩ := resume_pending exec weight thread answer pool instr next
    rw [shared,after]
    rw [before] at holds
    exact kept instr others next holds

end

end Fantuan.Lib.Threads
