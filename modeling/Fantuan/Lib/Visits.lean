import Mathlib.Data.List.Basic

/-! The indexes that a loop over an array visits: it goes on as long as the entries are fine,
and the first one that is not ends it.
-/
namespace Fantuan.Lib.Visits

def visits (fine : Nat → Bool) : Nat → Nat → List Nat
  | _, 0 => []
  | start, left + 1 => start :: if fine start then visits fine (start + 1) left else []

structure Access where
  index : Nat
  size : Nat
  deriving DecidableEq

def Access.Inside (access : Access) : Prop := access.index < access.size

instance (access : Access) : Decidable access.Inside := inferInstanceAs (Decidable (_ < _))

theorem nil_inside : ∀ access ∈ ([] : List Access), access.Inside := by
  intro access accessed
  cases accessed

variable (fine : Nat → Bool)

theorem visits_least (start left i : Nat) (visited : i ∈ visits fine start left) :
    start ≤ i ∧ i < start + left := by
  induction left generalizing start with
  | zero => cases visited
  | succ left ih =>
    rw [visits] at visited
    rcases List.mem_cons.mp visited with rfl | later
    · omega
    · split at later
      · obtain ⟨least,most⟩ := ih (start + 1) later
        omega
      · cases later

/-- Beyond an entry that is not fine nothing is visited. -/
theorem visits_stop (start left i stop : Nat) (visited : i ∈ visits fine start left)
    (inside : start ≤ stop) (stops : fine stop = false) : i ≤ stop := by
  induction left generalizing start with
  | zero => cases visited
  | succ left ih =>
    rw [visits] at visited
    rcases List.mem_cons.mp visited with rfl | later
    · exact inside
    · split at later
      next goes =>
        apply ih (start + 1) later
        have different : start ≠ stop := by
          rintro rfl
          rw [stops] at goes
          cases goes
        omega
      · cases later

theorem visits_before (start left i j : Nat) (visited : i ∈ visits fine start left) (least : start ≤ j)
    (before : j ≤ i) : j ∈ visits fine start left := by
  induction left generalizing start with
  | zero => cases visited
  | succ left ih =>
    rw [visits] at visited ⊢
    by_cases here : j = start
    · exact List.mem_cons.mpr (.inl here)
    · have later := (List.mem_cons.mp visited).resolve_left (by omega)
      refine List.mem_cons_of_mem _ ?_
      split at later
      next goes =>
        rw [if_pos goes]
        exact ih (start + 1) later (by omega)
      · cases later

theorem visits_all (start left i : Nat) (inside : start ≤ i ∧ i < start + left)
    (goes : ∀ j, start ≤ j → j < i → fine j = true) : i ∈ visits fine start left := by
  induction left generalizing start with
  | zero => omega
  | succ left ih =>
    rw [visits,List.mem_cons]
    by_cases here : i = start
    · exact .inl here
    · refine .inr ?_
      rw [goes start (Nat.le_refl _) (by omega),if_pos rfl]
      exact ih (start + 1) (by omega) fun j least => goes j (by omega)

/-- The loop stays inside exactly if it ends in time, or an entry inside ends it. -/
theorem visits_inside (start left bound : Nat) :
    (∀ i ∈ visits fine start left, i < bound) ↔
      left = 0 ∨ start + left ≤ bound ∨ ∃ stop, start ≤ stop ∧ stop < bound ∧ fine stop = false := by
  constructor
  · intro inside
    by_contra outside
    obtain ⟨some,outside⟩ := not_or.mp outside
    obtain ⟨long,goes⟩ := not_or.mp outside
    -- either the start is beyond the bound, or the loop reaches the bound
    have visited : max start bound ∈ visits fine start left := by
      refine visits_all fine start left _ ⟨by omega,by omega⟩ fun j least before => ?_
      by_contra stops
      exact goes ⟨j,least,by omega,by simpa using stops⟩
    have within := inside _ visited
    omega
  · rintro (none | short | ⟨stop,least,within,stops⟩) i visited
    · rw [none] at visited
      cases visited
    · have most := (visits_least fine start left i visited).2
      omega
    · exact Nat.lt_of_le_of_lt (visits_stop fine start left i stop visited least stops) within

end Fantuan.Lib.Visits
