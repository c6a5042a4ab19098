import Mathlib.Data.List.Basic

/-! A queue that is drained by handling its last entry and popping its first one,
as in `while (!q.empty()) { handle(q.back()); q.pop(); }`.
-/
namespace Fantuan.Lib.Drain

variable {Entry State : Type}

def drainBack (handle : Entry → State → State) : List Entry → State → State
  | [], state => state
  | first :: rest, state =>
    drainBack handle rest (handle ((first :: rest).getLast (List.cons_ne_nil first rest)) state)

def repeated (step : State → State) : Nat → State → State
  | 0, state => state
  | n + 1, state => repeated step n (step state)

/-- Every round handles the same entry: the last one. -/
theorem drainBack_last (handle : Entry → State → State) (queue : List Entry) (some : queue ≠ [])
    (state : State) :
    drainBack handle queue state = repeated (handle (queue.getLast some)) queue.length state := by
  induction queue generalizing state with
  | nil => exact absurd rfl some
  | cons first rest ih =>
    rw [drainBack,List.length_cons,repeated]
    cases rest with
    | nil => rfl
    | cons next others =>
      rw [ih (List.cons_ne_nil next others)]
      rfl

theorem drainBack_singleton (handle : Entry → State → State) (entry : Entry) (state : State) :
    drainBack handle [entry] state = handle entry state := rfl

theorem repeated_invariant (step : State → State) (invariant : State → Prop)
    (kept : ∀ state, invariant state → invariant (step state)) (n : Nat) (state : State)
    (start : invariant state) : invariant (repeated step n state) := by
  induction n generalizing state with
  | zero => exact start
  | succ n ih => exact ih _ (kept state start)

theorem drainBack_invariant (handle : Entry → State → State) (invariant : State → Prop)
    (queue : List Entry)
    (kept : ∀ entry ∈ queue, ∀ state, invariant state → invariant (handle entry state))
    (state : State) (start : invariant state) : invariant (drainBack handle queue state) := by
  cases queue with
  | nil => exact start
  | cons first rest =>
    rw [drainBack_last handle _ (List.cons_ne_nil first rest)]
    exact repeated_invariant _ invariant (kept _ (List.getLast_mem _)) _ state start

section
variable [DecidableEq Entry] (free : State → List Entry) (blank fine : Entry → State → Prop)

/-- Every entry of the queue has joined the free ones once, is blank and is left fine. -/
structure Disposed (queue : List Entry) (state after : State) : Prop where
  once : ∀ entry, (free after).count entry =
    (free state).count entry + if entry ∈ queue then 1 else 0
  blank : ∀ entry ∈ queue, blank entry after
  fine : ∀ entry ∈ queue, fine entry after

theorem disposed_congr (queue : List Entry) (state after later : State) (frees : free later = free after)
    (blanks : ∀ entry, blank entry later ↔ blank entry after)
    (fines : ∀ entry, fine entry later ↔ fine entry after) :
    Disposed free blank fine queue state later ↔ Disposed free blank fine queue state after := by
  constructor
  · rintro ⟨once,blank,fine⟩
    refine ⟨by rwa [frees] at once,?_,?_⟩
    · exact fun entry member => (blanks entry).mp (blank entry member)
    · exact fun entry member => (fines entry).mp (fine entry member)
  · rintro ⟨once,blank,fine⟩
    refine ⟨by rwa [frees],?_,?_⟩
    · exact fun entry member => (blanks entry).mpr (blank entry member)
    · exact fun entry member => (fines entry).mpr (fine entry member)

theorem repeated_count (handle : Entry → State → State)
    (frees : ∀ entry state, free (handle entry state) = free state ++ [entry]) (entry : Entry) (n : Nat)
    (state : State) :
    (free (repeated (handle entry) n state)).count entry = (free state).count entry + n := by
  induction n generalizing state with
  | zero => rfl
  | succ n ih =>
    rw [repeated,ih,frees,List.count_append,List.count_singleton_self]
    omega

/-- Only a queue of at most one entry is disposed of by a drain from the back. -/
theorem drainBack_disposed (handle : Entry → State → State)
    (frees : ∀ entry state, free (handle entry state) = free state ++ [entry])
    (blanks : ∀ entry state, blank entry (handle entry state)) (queue : List Entry) (state : State) :
    Disposed free blank fine queue state (drainBack handle queue state) ↔
      queue.length ≤ 1 ∧ ∀ entry ∈ queue, fine entry (handle entry state) := by
  constructor
  · intro disposed
    cases queue with
    | nil => simp
    | cons first rest =>
      have some : first :: rest ≠ [] := List.cons_ne_nil first rest
      have once := disposed.once ((first :: rest).getLast some)
      rw [if_pos (List.getLast_mem some),drainBack_last handle _ some,repeated_count free handle frees] at once
      have short : (first :: rest).length = 1 := by omega
      obtain rfl := List.length_eq_zero_iff.mp (Nat.succ.inj short)
      refine ⟨by simp,fun entry member => ?_⟩
      obtain rfl := List.mem_singleton.mp member
      exact disposed.fine entry member
  · rintro ⟨short,fines⟩
    match queue with
    | [] => exact ⟨by simp [drainBack],by simp,by simp⟩
    | [entry] =>
      rw [drainBack_singleton]
      refine ⟨fun other => ?_,?_,fun other member => ?_⟩
      · rw [frees,List.count_append,List.count_singleton]
        by_cases same : entry = other
        · simp [same]
        · simp [same,Ne.symm same]
      · simpa using blanks entry state
      · obtain rfl := List.mem_singleton.mp member
        exact fines other member

end

end Fantuan.Lib.Drain
